import CapsuleKit.Yaml.Block
import CapsuleKit.Yaml.Plain
import CapsuleKit.Yaml.Token

/-!
# Cutting a text into tokens

`Token.scan` cuts a whole text. A word may turn out to be a key only at the colon behind it: until
then its place among the tokens is remembered, one place for each level of brackets, and the mark of
the key is put in there later.
-/

namespace CapsuleKit.Yaml

/-- The place of a token that may be a key. -/
structure KeyPlace where
  token : Nat
  required : Bool
  index : Nat
  line : Nat
  column : Nat

/-- A text that is cut up to a place. `tokens` has the last token first, `count` is their number;
`places` has one entry for each open bracket and one for the text around them, the innermost first.
-/
structure Lexer where
  cursor : Cursor
  tokens : List Token := []
  count : Nat := 0
  indent : Int := -1
  outer : List Int := []
  keyAllowed : Bool := true
  places : List (Option KeyPlace) := [none]

namespace Lexer

def inFlow (l : Lexer) : Bool :=
  1 < l.places.length

def push (t : Token) (l : Lexer) : Lexer :=
  { l with tokens := t :: l.tokens, count := l.count + 1 }

/-- Puts a token in front of the one with a number. -/
def pushAt (number : Nat) (t : Token) (l : Lexer) : Lexer :=
  let behind := l.count - number
  { l with tokens := l.tokens.take behind ++ t :: l.tokens.drop behind, count := l.count + 1 }

def move (c : Cursor) (l : Lexer) : Lexer :=
  { l with cursor := c }

/-- A mark of some characters. -/
def mark (t : Token) (length : Nat) (l : Lexer) : Lexer :=
  (l.push t).move (l.cursor.skip length)

def allowKey (allowed : Bool) (l : Lexer) : Lexer :=
  { l with keyAllowed := allowed }

/-- Whether a place can no longer be that of a key. -/
def isStale (c : Cursor) (p : KeyPlace) : Bool :=
  p.line != c.line || decide (1024 < c.index - p.index)

/-- Forgets the places that are too far back; one that has to be a key may not be. -/
def dropStale (l : Lexer) : Result Lexer :=
  let stale := fun (p : Option KeyPlace) => p.any (isStale l.cursor)
  if l.places.any fun p => stale p && p.any (·.required) then .error .malformed
  else .ok { l with places := l.places.map fun p => if stale p then none else p }

/-- Forgets the innermost place; one that has to be a key may not be. -/
def dropPlace (l : Lexer) : Result Lexer :=
  match l.places with
  | some p :: rest => if p.required then .error .malformed else .ok { l with places := none :: rest }
  | _ => .ok l

/-- Remembers that the next token may be a key. -/
def savePlace (l : Lexer) : Result Lexer :=
  if l.keyAllowed then do
    let l ← l.dropPlace
    let c := l.cursor
    let place : KeyPlace :=
      { token := l.count, required := !l.inFlow && l.indent == (c.column : Int)
        index := c.index, line := c.line, column := c.column }
    return { l with places := some place :: l.places.drop 1 }
  else .ok l

/-- The ends of the blocks that are indented more deeply than a column. -/
def closeBlocks (column : Int) (indent : Int) : List Int → Int × List Int × Nat
  | [] => (indent, [], 0)
  | o :: os =>
    if column < indent then
      let (i, rest, n) := closeBlocks column o os
      (i, rest, n + 1)
    else (indent, o :: os, 0)

/-- Ends the blocks that are indented more deeply than a column; brackets know no indentation. -/
def unwind (column : Int) (l : Lexer) : Lexer :=
  if l.inFlow then l
  else
    let (indent, outer, n) := closeBlocks column l.indent l.outer
    { l with
      indent := indent, outer := outer
      tokens := List.replicate n .blockEnd ++ l.tokens, count := l.count + n }

/-- Starts a block at a column, unless one is open there. -/
def startBlock (column : Nat) (place : Nat) (t : Token) (l : Lexer) : Lexer :=
  if l.indent < column then
    { l with indent := column, outer := l.indent :: l.outer }.pushAt place t
  else l

/-- The next token: spaces, comments and line ends are stepped over. A line end allows a key, except
inside brackets. -/
def skipToToken : Nat → Lexer → Lexer
  | 0, l => l
  | fuel + 1, l =>
    let c := l.cursor.skipSpaces.skipComment
    match c.lineBreak? with
    | none => l.move c
    | some (_, d) => skipToToken fuel ((l.move d).allowKey (!l.inFlow || l.keyAllowed))

/-- A mark that ends all blocks. -/
def topLevel (l : Lexer) : Result Lexer := do
  let l ← (l.unwind (-1)).dropPlace
  return l.allowKey false

def openFlow (t : Token) (l : Lexer) : Result Lexer := do
  let l ← l.savePlace
  return ({ l with places := none :: l.places }.allowKey true).mark t 1

def closeFlow (t : Token) (l : Lexer) : Result Lexer := do
  if !l.inFlow then .error .malformed
  else
    let l ← l.dropPlace
    return ({ l with places := l.places.drop 1 }.allowKey false).mark t 1

/-- A mark that starts an item or a key; outside brackets it may start a block. -/
def entry (start t : Token) (keyAllowed : Bool) (l : Lexer) : Result Lexer := do
  if !l.inFlow && !l.keyAllowed then .error .malformed
  else
    let l := if l.inFlow then l else l.startBlock l.cursor.column l.count start
    let l ← l.dropPlace
    return (l.allowKey keyAllowed).mark t 1

/-- The colon behind a key: the remembered place becomes that of a key. -/
def colon (l : Lexer) : Result Lexer :=
  match l.places with
  | some p :: rest =>
    let l := { l with places := none :: rest }.pushAt p.token .key
    let l := if l.inFlow then l else l.startBlock p.column p.token .blockMappingStart
    .ok ((l.allowKey false).mark .value 1)
  | _ => l.entry .blockMappingStart .value (!l.inFlow)

/-- A token that may be a key, and the place behind it. -/
def word (l : Lexer) (read : Cursor → Result (Token × Cursor)) : Result Lexer := do
  let l ← l.savePlace
  let (t, c) ← read l.cursor
  return ((l.push t).move c).allowKey false

/-- Whether a plain text may start here. -/
def startsPlain (l : Lexer) : Bool :=
  let ch := l.cursor.peek
  !(isBlankOrEnd ch || "-?:,[]\x7b\x7d#&*!|>'\"%@`".toList.contains ch) ||
    (!isBlankOrEnd (l.cursor.peekAt 1) && (ch == '-' || (!l.inFlow && (ch == '?' || ch == ':'))))

/-- A plain text; a line that ended behind it allows a key. -/
def plain (l : Lexer) : Result Lexer := do
  if !l.startsPlain then .error .malformed
  else
    let l ← l.savePlace
    let (text, fresh, c) := l.cursor.plain l.inFlow l.indent
    return ((l.push (.scalar text true)).move c).allowKey fresh

/-- A block text. -/
def block (l : Lexer) : Result Lexer := do
  let l ← l.dropPlace
  let (text, c) ← l.cursor.block l.indent
  return ((l.push (.scalar text false)).move c).allowKey true

/-- One more token, by the character that it starts with. -/
def token (l : Lexer) : Result Lexer :=
  let c := l.cursor
  let follows := l.inFlow || isBlankOrEnd (c.peekAt 1)
  match c.peek with
  | '[' => l.openFlow .flowSequenceStart
  | '\x7b' => l.openFlow .flowMappingStart
  | ']' => l.closeFlow .flowSequenceEnd
  | '\x7d' => l.closeFlow .flowMappingEnd
  | ',' => do
    let l ← l.dropPlace
    return (l.allowKey true).mark .flowEntry 1
  | '-' =>
    if isBlankOrEnd (c.peekAt 1) then l.entry .blockSequenceStart .blockEntry true else l.plain
  | '?' => if follows then l.entry .blockMappingStart .key (!l.inFlow) else l.plain
  | ':' => if follows then l.colon else l.plain
  | '*' => l.word fun c => do
    let (name, c) ← c.next.anchorName
    return (.alias name, c)
  | '&' => l.word fun c => do
    let (name, c) ← c.next.anchorName
    return (.anchor name, c)
  | '!' => l.word fun c => do
    let (t, c) ← c.tagText
    return (.tag t, c)
  | '\'' | '"' => l.word fun c => do
    let (text, c) ← c.quoted
    return (.scalar text false, c)
  | ch => if (ch == '|' || ch == '>') && !l.inFlow then l.block else l.plain

/-- One more token: a mark of a document at the start of a line, or another. -/
def step (l : Lexer) : Result Lexer := do
  let l := l.skipToToken (l.cursor.rest.length + 1)
  let l ← l.dropStale
  let l := l.unwind l.cursor.column
  let c := l.cursor
  if c.peek = '%' ∧ c.column = 0 then
    let l ← l.topLevel
    let (d, c) ← l.cursor.directive
    return (l.push (.directive d)).move c
  else if c.isMarker '-' && c.column == 0 then return (← l.topLevel).mark .documentStart 3
  else if c.isMarker '.' && c.column == 0 then return (← l.topLevel).mark .documentEnd 3
  else l.token

/-- The tokens in front of the first one that may still turn out to be a key, the last one first. -/
def settled (l : Lexer) : List Token :=
  let undecided := (l.places.filterMap id).filter (!isStale l.cursor ·)
  l.tokens.drop (l.count - undecided.foldl (fun n p => min n p.token) l.count)

/-- All further tokens. Where the text cannot be cut further, tokens whose role is not settled are
left out. -/
def finish : Nat → Lexer → List Token
  | 0, l => (Token.stop .malformed :: l.tokens).reverse
  | fuel + 1, l =>
    let ahead := l.skipToToken (l.cursor.rest.length + 1)
    if ahead.cursor.rest.isEmpty then
      match ahead.dropStale >>= topLevel with
      | .ok l => (Token.textEnd :: l.tokens).reverse
      | .error e => (Token.stop e :: l.settled).reverse
    else
      match l.step with
      | .ok l => finish fuel l
      | .error e => (Token.stop e :: l.settled).reverse

end Lexer

/-- Whether a character may stand in a document. -/
def isReadable (c : Char) : Bool :=
  let n := c.toNat
  n == 9 || n == 10 || n == 13 || (32 ≤ n && n ≤ 126) || n == 0x85 ||
    (0xA0 ≤ n && n ≤ 0xFFFD) || 0x10000 ≤ n

/-- The tokens of a text; a byte order mark in front is ignored. -/
def Token.scan (s : String) : List Token :=
  let cs := s.toList
  if !cs.all isReadable then [.stop .malformed]
  else
    let start : Cursor := { rest := cs }
    let start := if start.peek = '\ufeff' then start.next else start
    Lexer.finish (cs.length + 1) { cursor := start }

end CapsuleKit.Yaml
