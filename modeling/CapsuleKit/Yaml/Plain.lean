import CapsuleKit.Yaml.Quoted

/-!
# Plain texts

Texts without quotes. They end at a comment, at a colon that ends a key and, inside brackets, at the
characters that divide items; they go on over lines that are indented deeply enough.
-/

namespace CapsuleKit.Yaml.Cursor

/-- The characters that divide items inside brackets. -/
def isFlowMark (ch : Char) : Bool :=
  ch == ',' || ch == '[' || ch == ']' || ch == '\x7b' || ch == '\x7d'

/-- Whether a plain text ends in front of the characters `cs`. -/
def endsPlain (inFlow : Bool) (cs : List Char) : Bool :=
  let ch := cs.headD endMark
  let follower := (cs.drop 1).headD endMark
  isBlankOrEnd ch || (ch == ':' && (isBlankOrEnd follower || (inFlow && isFlowMark follower))) ||
    (inFlow && (isFlowMark ch || ch == '?'))

/-- How many characters of a plain text come before its next blank or its end. -/
def plainLength (inFlow : Bool) : List Char → Nat
  | [] => 0
  | c :: cs => if endsPlain inFlow (c :: cs) then 0 else plainLength inFlow cs + 1

/-- Line ends behind the first one with the spaces between them; `none` when a document starts or
ends there. -/
def plainBreaks : Nat → Cursor → Option (List Char) × Cursor
  | 0, c => (some [], c)
  | fuel + 1, c =>
    if c.isSeparator then (none, c)
    else
      let c := c.skipSpaces
      match c.lineBreak? with
      | none => (some [], c)
      | some (b, c) =>
        let (bs, c) := plainBreaks fuel c
        (bs.map (b :: ·), c)

/-- The blanks behind a piece of a plain text: what they stand for, whether a line ended, and the
place behind them. Nothing stands there when the text ends. -/
def plainSpaces (c : Cursor) : List Char × Bool × Cursor :=
  let (blanks, c) := c.takeWhile (· == ' ')
  match c.lineBreak? with
  | none => (blanks, false, c)
  | some (b, c) =>
    let (more, c) := c.plainBreaks (c.rest.length + 1)
    ((more.map (folded b)).getD [], true, c)

/-- The pieces of a plain text from the next one on; `done` is what is read so far, the last
character first, and `blanks` stands between. The flag says whether a line ended behind the last
piece. -/
def plainPieces (inFlow : Bool) (indent : Int) : Nat → List Char → List Char → Bool → Cursor →
    List Char × Bool × Cursor
  | 0, done, _, fresh, c => (done.reverse, fresh, c)
  | fuel + 1, done, blanks, fresh, c =>
    let length := if c.peek = '#' then 0 else plainLength inFlow c.rest
    if length = 0 then (done.reverse, fresh, c)
    else
      let done := (c.rest.take length).reverse ++ (blanks.reverse ++ done)
      let (blanks, fresh, c) := (c.skip length).plainSpaces
      if blanks.isEmpty || c.peek == '#' || (!inFlow && decide ((c.column : Int) ≤ indent)) then
        (done.reverse, fresh, c)
      else plainPieces inFlow indent fuel done blanks fresh c

/-- A plain text, whether a line ended behind it, and the place behind it. -/
def plain (inFlow : Bool) (indent : Int) (c : Cursor) : String × Bool × Cursor :=
  let (ds, fresh, d) := plainPieces inFlow indent (c.rest.length + 1) [] [] false c
  (String.ofList ds, fresh, d)

end CapsuleKit.Yaml.Cursor
