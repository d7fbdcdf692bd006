import CapsuleKit.Text.Digit

/-!
# Texts in TOML

Comments, and the four kinds of quoted text: basic ones with escapes and literal ones without, each
on one line or over several. Control characters other than the tab have to be escaped.
-/

namespace CapsuleKit.Toml

/-- Why a document cannot be read. -/
inductive Fault where
  | malformed
  | tooManyDigits (count : Nat)
  deriving DecidableEq

/-- A result, or why there is none. -/
abbrev Result := Except Fault

/-- A control character that may not stand in a text of one line or in a comment. -/
def isIllegal (c : Char) : Bool :=
  (c.toNat < 32 && c != '\t') || c.toNat == 127

/-- A control character that may not stand in a text of several lines. -/
def isIllegalInLines (c : Char) : Bool :=
  isIllegal c && c != '\n'

def isSpace (c : Char) : Bool :=
  c == ' ' || c == '\t'

def isSpaceOrNewline (c : Char) : Bool :=
  isSpace c || c == '\n'

def skipSpace (cs : List Char) : List Char :=
  cs.dropWhile isSpace

/-- The rest behind a comment, if one starts here. -/
def skipComment : List Char → Result (List Char)
  | '#' :: cs =>
    if (cs.takeWhile (· != '\n')).any isIllegal then .error .malformed
    else .ok (cs.dropWhile (· != '\n'))
  | cs => .ok cs

/-- A literal text after its opening quote. -/
def literalText (cs : List Char) : Result (String × List Char) :=
  let body := cs.takeWhile (· != '\'')
  match cs.dropWhile (· != '\'') with
  | [] => .error .malformed
  | _ :: rest => if body.any isIllegal then .error .malformed else .ok (String.ofList body, rest)

/-- What stands before the first three quotes, and the rest behind them. -/
def cutAtTriple (quote : Char) : List Char → Option (List Char × List Char)
  | a :: b :: c :: cs =>
    if a = quote ∧ b = quote ∧ c = quote then some ([], cs)
    else (cutAtTriple quote (b :: c :: cs)).map fun p => (a :: p.1, p.2)
  | _ => none

/-- A character by the number of its code point. -/
def scalar? (digits : List Char) : Option Char :=
  match Text.readHex? digits with
  | none => none
  | some n => if h : n.isValidChar then some (Char.ofNatAux n h) else none

/-- The character of an escape other than that of a code point. -/
def escaped? : Char → Option Char
  | 'b' => some '\x08'
  | 't' => some '\t'
  | 'n' => some '\n'
  | 'f' => some '\x0c'
  | 'r' => some '\r'
  | '"' => some '"'
  | '\\' => some '\\'
  | _ => none

/-- The rest behind a line that ends in a backslash: the following blanks are left out. -/
def joinedLine (cs : List Char) : Result (List Char) :=
  match skipSpace cs with
  | [] => .ok []
  | '\n' :: rest => .ok (rest.dropWhile isSpaceOrNewline)
  | _ => .error .malformed

/-- One escape after its backslash: the characters it stands for, and the rest. -/
def escape (lines : Bool) : List Char → Result (List Char × List Char)
  | [] => .error .malformed
  | c :: cs =>
    if lines && isSpaceOrNewline c then do return ([], ← joinedLine (c :: cs))
    else if c = 'u' || c = 'U' then
      let width := if c = 'u' then 4 else 8
      if cs.length < width then .error .malformed
      else
        match scalar? (cs.take width) with
        | some d => .ok ([d], cs.drop width)
        | none => .error .malformed
    else
      match escaped? c with
      | some d => .ok ([d], cs)
      | none => .error .malformed

/-- A basic text after its opening quotes; `done` is what is read so far, the last character
first. -/
def basicBody (lines : Bool) : Nat → List Char → List Char → Result (List Char × List Char)
  | 0, _, _ => .error .malformed
  | _, _, [] => .error .malformed
  | fuel + 1, done, '"' :: cs =>
    if !lines then .ok (done.reverse, cs)
    else
      match cs with
      | '"' :: '"' :: rest => .ok (done.reverse, rest)
      | _ => basicBody lines fuel ('"' :: done) cs
  | fuel + 1, done, '\\' :: cs => do
    let (ds, rest) ← escape lines cs
    basicBody lines fuel (ds.reverse ++ done) rest
  | fuel + 1, done, c :: cs =>
    if (if lines then isIllegalInLines c else isIllegal c) then .error .malformed
    else basicBody lines fuel (c :: done) cs

/-- A basic text of one line after its opening quote. -/
def basicText (cs : List Char) : Result (String × List Char) := do
  let (ds, rest) ← basicBody false (cs.length + 1) [] cs
  return (String.ofList ds, rest)

/-- Up to two quotes that stand right before the closing ones belong to the text. -/
def closingQuotes (quote : Char) (body rest : List Char) : String × List Char :=
  match rest with
  | a :: b :: more =>
    if a = quote ∧ b = quote then (String.ofList (body ++ [a, b]), more)
    else if a = quote then (String.ofList (body ++ [a]), b :: more)
    else (String.ofList body, rest)
  | [a] => if a = quote then (String.ofList (body ++ [a]), []) else (String.ofList body, rest)
  | [] => (String.ofList body, [])

/-- A line feed right behind the opening quotes is left out. -/
def skipFirstNewline : List Char → List Char
  | '\n' :: cs => cs
  | cs => cs

/-- A text of several lines after its opening quotes. -/
def linesText (quote : Char) (cs : List Char) : Result (String × List Char) :=
  let cs := skipFirstNewline cs
  if quote = '"' then do
    let (body, rest) ← basicBody true (cs.length + 1) [] cs
    return closingQuotes quote body rest
  else
    match cutAtTriple quote cs with
    | none => .error .malformed
    | some (body, rest) =>
      if body.any isIllegalInLines then .error .malformed else .ok (closingQuotes quote body rest)

end CapsuleKit.Toml
