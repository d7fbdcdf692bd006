import CapsuleKit.Yaml.Cursor

/-!
# Block texts

Texts that an indicator `|` or `>` introduces: all following lines that are indented deeply enough.
`>` joins lines, and a sign behind the indicator says what happens to line ends at the end.
-/

namespace CapsuleKit.Yaml.Cursor

/-- What happens to the line ends behind a block text: all but one go, all go, or all stay. -/
inductive Chomping where
  | clip
  | strip
  | keep

def chompingOf? : Char → Option Chomping
  | '+' => some .keep
  | '-' => some .strip
  | _ => none

/-- A depth of indentation from one to nine, if a digit stands here. -/
def increment? (c : Cursor) : Result (Option Nat × Cursor) :=
  if c.peek.isDigit then
    if c.peek = '0' then .error .malformed else .ok (some (c.peek.toNat - 48), c.next)
  else .ok (none, c)

/-- The sign and the depth behind the indicator, in either order. -/
def blockHeader (c : Cursor) : Result (Chomping × Option Nat × Cursor) := do
  let (chomping, depth, c) ←
    match chompingOf? c.peek with
    | some ch => do
      let (depth, c) ← c.next.increment?
      pure (ch, depth, c)
    | none => do
      let (depth, c) ← c.increment?
      match depth, chompingOf? c.peek with
      | some _, some ch => pure (ch, depth, c.next)
      | _, _ => pure (Chomping.clip, depth, c)
  if isSpaceBreakOrEnd c.peek then return (chomping, depth, ← c.skipIgnoredLine)
  else .error .malformed

/-- Empty lines in front of a block text, and the greatest depth of the spaces in them and in front
of the first line. -/
def blockIndentation : Nat → Nat → Cursor → List Char × Nat × Cursor
  | 0, depth, c => ([], depth, c)
  | fuel + 1, depth, c =>
    let c := c.skipSpaces
    let depth := max depth c.column
    match c.lineBreak? with
    | none => ([], depth, c)
    | some (b, c) =>
      let (bs, depth, c) := blockIndentation fuel depth c
      (b :: bs, depth, c)

/-- Steps over spaces up to a column. -/
def skipIndent (indent : Nat) (c : Cursor) : Cursor :=
  c.skip ((c.rest.take (indent - c.column)).takeWhile (· == ' ')).length

/-- Empty lines, and the indentation of the line behind them. -/
def blockBreaks (indent : Nat) : Nat → Cursor → List Char × Cursor
  | 0, c => ([], c)
  | fuel + 1, c =>
    let c := c.skipIndent indent
    match c.lineBreak? with
    | none => ([], c)
    | some (b, c) =>
      let (bs, c) := blockBreaks indent fuel c
      (b :: bs, c)

/-- Whether a line of the text starts here. -/
def atBlockLine (indent : Nat) (c : Cursor) : Bool :=
  c.column == indent && c.peek != endMark

/-- The end of a line of a block text when another line follows. -/
def blockJoin (joining : Bool) (lineEnd : List Char) (breaks : List Char) : List Char :=
  if joining && lineEnd == ['\n'] then (if breaks.isEmpty then [' '] else []) else lineEnd

/-- The lines of a block text: the text so far, the last character first; the end of its last line;
and the empty lines behind that. -/
def blockLines (joining : Bool) (indent : Nat) : Nat → List Char → List Char → Cursor →
    List Char × List Char × List Char × Cursor
  | 0, done, breaks, c => (done, [], breaks, c)
  | fuel + 1, done, breaks, c =>
    let flush := !isSpaceOrTab c.peek
    let (line, c) := c.takeWhile (!isBreakOrEnd ·)
    let done := line.reverse ++ (breaks.reverse ++ done)
    let (lineEnd, c) :=
      match c.lineBreak? with
      | some (b, c) => ([b], c)
      | none => ([], c)
    let (breaks, c) := c.blockBreaks indent (c.rest.length + 1)
    if c.atBlockLine indent then
      let joined := blockJoin (joining && flush && !isSpaceOrTab c.peek) lineEnd breaks
      blockLines joining indent fuel (joined.reverse ++ done) breaks c
    else (done, lineEnd, breaks, c)

/-- A block text from its indicator on, inside a block of the given indentation. -/
def block (parent : Int) (c : Cursor) : Result (String × Cursor) := do
  let (chomping, depth, d) ← c.next.blockHeader
  let least := (max (parent + 1) 1).toNat
  let (breaks, indent, d) :=
    match depth with
    | none =>
      let (breaks, deepest, d) := d.blockIndentation (d.rest.length + 1) 0
      (breaks, max least deepest, d)
    | some n =>
      let (breaks, d) := d.blockBreaks (least + n - 1) (d.rest.length + 1)
      (breaks, least + n - 1, d)
  let (done, lineEnd, breaks, d) :=
    if d.atBlockLine indent then blockLines (c.peek = '>') indent (d.rest.length + 1) [] breaks d
    else ([], [], breaks, d)
  let tail :=
    match chomping with
    | .strip => []
    | .clip => lineEnd
    | .keep => lineEnd ++ breaks
  return (String.ofList (done.reverse ++ tail), d)

end CapsuleKit.Yaml.Cursor
