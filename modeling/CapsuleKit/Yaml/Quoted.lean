import CapsuleKit.Yaml.Cursor

/-!
# Quoted texts

Texts between single or double quotes. A line end inside is folded: a single one becomes a space,
of several the first one is dropped. Double quotes know escapes, single quotes only themselves
doubled.
-/

namespace CapsuleKit.Yaml.Cursor

/-- The character of an escape other than that of a code point. -/
def escaped? : Char → Option Char
  | '0' => some '\x00'
  | 'a' => some '\x07'
  | 'b' => some '\x08'
  | 't' => some '\t'
  | '\t' => some '\t'
  | 'n' => some '\n'
  | 'v' => some '\x0b'
  | 'f' => some '\x0c'
  | 'r' => some '\r'
  | 'e' => some '\x1b'
  | ' ' => some ' '
  | '"' => some '"'
  | '\\' => some '\\'
  | '/' => some '/'
  | 'N' => some '\x85'
  | '_' => some '\xa0'
  | 'L' => some '\u2028'
  | 'P' => some '\u2029'
  | _ => none

/-- How many digits an escape of a code point has. -/
def escapeWidth? : Char → Option Nat
  | 'x' => some 2
  | 'u' => some 4
  | 'U' => some 8
  | _ => none

/-- Line ends behind the first one, with the blanks between them. A document may not start or end
inside. -/
def quotedBreaks : Nat → Cursor → Result (List Char × Cursor)
  | 0, c => .ok ([], c)
  | fuel + 1, c =>
    if c.isSeparator then .error .malformed
    else
      let c := c.skipWhile isSpaceOrTab
      match c.lineBreak? with
      | none => .ok ([], c)
      | some (b, c) => do
        let (bs, c) ← quotedBreaks fuel c
        return (b :: bs, c)

/-- What a line end and those behind it stand for in a folded text. -/
def folded (first : Char) (more : List Char) : List Char :=
  if first ≠ '\n' then first :: more else if more.isEmpty then [' '] else more

/-- An escape behind its backslash. -/
def quotedEscape (c : Cursor) : Result (List Char × Cursor) :=
  match escaped? c.peek, escapeWidth? c.peek with
  | some d, _ => .ok ([d], c.next)
  | none, some width => do
    let digits := c.next.rest.take width
    if digits.length < width then .error .malformed
    else return ([← codePoint digits], c.next.skip width)
  | none, none =>
    match c.lineBreak? with
    | some (_, c) => c.quotedBreaks c.rest.length
    | none => .error .malformed

/-- Blanks in a quoted text, folded where a line ends. -/
def quotedSpaces (c : Cursor) : Result (List Char × Cursor) :=
  let (blanks, c) := c.takeWhile isSpaceOrTab
  if c.peek = endMark then .error .malformed
  else
    match c.lineBreak? with
    | none => .ok (blanks, c)
    | some (b, c) => do
      let (more, c) ← c.quotedBreaks c.rest.length
      return (folded b more, c)

/-- The rest of a quoted text; `done` is what is read so far, the last character first. -/
def quotedBody (double : Bool) : Nat → List Char → Cursor → Result (List Char × Cursor)
  | 0, _, _ => .error .malformed
  | fuel + 1, done, c =>
    let ch := c.peek
    if double && ch == '"' then .ok (done.reverse, c.next)
    else if !double && ch == '\'' then
      if c.peekAt 1 = '\'' then quotedBody double fuel ('\'' :: done) (c.skip 2)
      else .ok (done.reverse, c.next)
    else if double && ch == '\\' then do
      let (ds, c) ← c.next.quotedEscape
      quotedBody double fuel (ds.reverse ++ done) c
    else if isBlankOrEnd ch then do
      let (ds, c) ← c.quotedSpaces
      quotedBody double fuel (ds.reverse ++ done) c
    else quotedBody double fuel (ch :: done) c.next

/-- A quoted text from its opening quote on. -/
def quoted (c : Cursor) : Result (String × Cursor) := do
  let (ds, d) ← quotedBody (c.peek = '"') (c.rest.length + 1) [] c.next
  return (String.ofList ds, d)

end CapsuleKit.Yaml.Cursor
