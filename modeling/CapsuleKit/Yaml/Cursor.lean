import CapsuleKit.Text.Digit

/-!
# A place in a YAML text

A cursor is what is left of a text, with the line and column it stands at. Past the end it shows the
null character, which no readable text contains.
-/

namespace CapsuleKit.Yaml

/-- Why a document cannot be read: it is not YAML, or one of its values cannot be converted. -/
inductive Fault where
  | malformed
  | badValue (message : String)
  | missingKey
  | missingMatch
  | emptyNumber
  | overflow
  | notText
  | endless
  deriving DecidableEq

/-- A result, or why there is none. -/
abbrev Result := Except Fault

/-- The character that is shown past the end. -/
def endMark : Char := '\x00'

/-- The characters that end a line. -/
def isBreak (c : Char) : Bool :=
  c == '\n' || c == '\r' || c == '\x85' || c == '\u2028' || c == '\u2029'

def isBreakOrEnd (c : Char) : Bool :=
  c == endMark || isBreak c

/-- The characters that may follow a complete word. -/
def isSpaceBreakOrEnd (c : Char) : Bool :=
  c == ' ' || isBreakOrEnd c

/-- The characters that end an indicator. -/
def isBlankOrEnd (c : Char) : Bool :=
  c == '\t' || isSpaceBreakOrEnd c

def isSpaceOrTab (c : Char) : Bool :=
  c == ' ' || c == '\t'

/-- The characters of anchors, directives and tag handles. -/
def isWordChar (c : Char) : Bool :=
  c.isAlphanum || c == '-' || c == '_'

structure Cursor where
  rest : List Char
  index : Nat := 0
  line : Nat := 0
  column : Nat := 0

namespace Cursor

/-- The character at a distance. -/
def peekAt (c : Cursor) (n : Nat) : Char :=
  (c.rest.drop n).headD endMark

def peek (c : Cursor) : Char :=
  c.rest.headD endMark

/-- Steps over one character; a byte order mark takes no column. -/
def next (c : Cursor) : Cursor :=
  match c.rest with
  | [] => c
  | ch :: cs =>
    if isBreak ch then { rest := cs, index := c.index + 1, line := c.line + 1, column := 0 }
    else
      { rest := cs, index := c.index + 1, line := c.line
        column := if ch = '\ufeff' then c.column else c.column + 1 }

/-- Steps over several characters. -/
def skip : Nat → Cursor → Cursor
  | 0, c => c
  | n + 1, c => c.next.skip n

/-- The characters of a class that come next, and the place behind them. -/
def takeWhile (p : Char → Bool) (c : Cursor) : List Char × Cursor :=
  let word := c.rest.takeWhile p
  (word, c.skip word.length)

def skipWhile (p : Char → Bool) (c : Cursor) : Cursor :=
  (c.takeWhile p).2

def skipSpaces (c : Cursor) : Cursor :=
  c.skipWhile (· == ' ')

/-- Whether three characters of a kind stand here as a word. -/
def isMarker (mark : Char) (c : Cursor) : Bool :=
  c.peek == mark && c.peekAt 1 == mark && c.peekAt 2 == mark && isBlankOrEnd (c.peekAt 3)

/-- Whether a document starts or ends here, apart from the column. -/
def isSeparator (c : Cursor) : Bool :=
  c.isMarker '-' || c.isMarker '.'

/-- A line end as it counts in a text, and the place behind it. -/
def lineBreak? (c : Cursor) : Option (Char × Cursor) :=
  let ch := c.peek
  if ch == '\u2028' || ch == '\u2029' then some (ch, c.next)
  else if isBreak ch then some ('\n', c.next)
  else none

/-- The place behind a line end, if there is one here. -/
def skipBreak (c : Cursor) : Cursor :=
  match c.lineBreak? with
  | some (_, d) => d
  | none => c

def skipComment (c : Cursor) : Cursor :=
  if c.peek = '#' then c.skipWhile (!isBreakOrEnd ·) else c

/-- The rest of a line that may only hold spaces and a comment. -/
def skipIgnoredLine (c : Cursor) : Result Cursor :=
  let c := c.skipSpaces.skipComment
  if isBreakOrEnd c.peek then .ok c.skipBreak else .error .malformed

end Cursor

/-- A code point that an escape gives by its digits. -/
def codePoint (digits : List Char) : Result Char :=
  match Text.readHex? digits with
  | none => .error .malformed
  | some n =>
    if Nat.pow 2 31 ≤ n then .error .overflow
    else if 0x110000 ≤ n then .error (.badValue "chr() arg not in range(0x110000)")
    else .ok (Char.ofNat n)

end CapsuleKit.Yaml
