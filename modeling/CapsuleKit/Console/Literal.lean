import CapsuleKit.Number.Reading
import CapsuleKit.Text.Digit
import CapsuleKit.Text.WordChar

/-!
# Literal parameters

The parameters of an action in markup have to be a literal: numbers, texts in quotes, the names of
constants, and tuples, sets and maps of literals. `isLiteral` says whether a text is one. A reader
takes what is left of a text and gives the kind of the literal that it read and the rest.
-/

namespace CapsuleKit.Console.Literal

/-- What a literal is, as far as it matters for the literals around it: a number, one with a sign, a
value that may be a member of a set, or one that may not. -/
inductive Kind where
  | real
  | imaginary
  | signed (imaginary : Bool)
  | plain
  | collection
  deriving DecidableEq

/-- Whether a literal may be a member of a set or a key of a map. -/
def Kind.isPlain : Kind → Bool
  | .collection => false
  | _ => true

/-- Blanks and comments in front; inside brackets line ends are blanks. -/
def skipBlanks (inside : Bool) : Nat → List Char → List Char
  | 0, cs => cs
  | fuel + 1, c :: cs =>
    if c = ' ' ∨ c = '\t' ∨ c = '\x0c' ∨ (inside ∧ c = '\n') then skipBlanks inside fuel cs
    else if c = '\\' ∧ cs.head? = some '\n' then skipBlanks inside fuel (cs.drop 1)
    else if c = '#' then skipBlanks inside fuel (cs.dropWhile (· != '\n'))
    else c :: cs
  | _ + 1, [] => []

/-! ### Numbers -/

/-- Digits of a class with single underscores between them, and the rest. -/
def digitRun (p : Char → Bool) : List Char → List Char × List Char
  | c :: '_' :: d :: cs =>
    if p c && p d then
      let (ds, rest) := digitRun p (d :: cs)
      (c :: ds, rest)
    else if p c then ([c], '_' :: d :: cs)
    else ([], c :: '_' :: d :: cs)
  | c :: cs =>
    if p c then
      let (ds, rest) := digitRun p cs
      (c :: ds, rest)
    else ([], c :: cs)
  | [] => ([], [])

/-- Nothing that could belong to a word may follow a number. -/
def endNumber (k : Kind) (rest : List Char) : Option (Kind × List Char) :=
  if rest.head?.any (fun c => Text.isWordChar c || 128 ≤ c.toNat) then none else some (k, rest)

/-- A number with the mark of an imaginary one behind it, if there is one. -/
def endReal (rest : List Char) : Option (Kind × List Char) :=
  match rest with
  | 'j' :: more => endNumber .imaginary more
  | 'J' :: more => endNumber .imaginary more
  | _ => endNumber .real rest

/-- Digits in a base behind its mark; an underscore may stand in front of them. -/
def basedNumber (p : Char → Bool) (cs : List Char) : Option (Kind × List Char) :=
  let cs := match cs with
    | '_' :: more => more
    | _ => cs
  match digitRun p cs with
  | ([], _) => none
  | (_, rest) => endNumber .real rest

/-- The exponent of a number: whether there is one, and the rest. -/
def exponentPart (cs : List Char) : Bool × List Char :=
  match cs with
  | e :: more =>
    if e = 'e' ∨ e = 'E' then
      let digits := match more with
        | '+' :: ds => ds
        | '-' :: ds => ds
        | ds => ds
      match digitRun Char.isDigit digits with
      | ([], _) => (false, cs)
      | (_, rest) => (true, rest)
    else (false, cs)
  | [] => (false, [])

/-- A decimal number. A whole number does not start with zero, unless it is zero. -/
def decimalNumber (cs : List Char) : Option (Kind × List Char) :=
  let (whole, rest) := digitRun Char.isDigit cs
  let (point, frac, rest) :=
    match rest with
    | '.' :: more =>
      let (ds, rest) := digitRun Char.isDigit more
      (true, ds, rest)
    | _ => (false, [], rest)
  if whole.isEmpty && frac.isEmpty then none
  else
    let (scaled, rest) := exponentPart rest
    let fraction := point || scaled || rest.head? == some 'j' || rest.head? == some 'J'
    if fraction then endReal rest
    else if whole.head? == some '0' && whole.any (· != '0') then none
    else if Number.digitLimit < whole.length then none
    else endReal rest

def number (cs : List Char) : Option (Kind × List Char) :=
  match cs with
  | '0' :: m :: more =>
    if m = 'x' ∨ m = 'X' then basedNumber (fun c => (Text.hexValue? c).isSome) more
    else if m = 'o' ∨ m = 'O' then basedNumber (fun c => '0' ≤ c && c ≤ '7') more
    else if m = 'b' ∨ m = 'B' then basedNumber (fun c => c == '0' || c == '1') more
    else decimalNumber cs
  | _ => decimalNumber cs

/-! ### Texts -/

/-- The inside of a text up to its closing quotes, and the rest. Only between three quotes on each
side may a line end stand by itself. -/
def quotedBody (quote : Char) (triple : Bool) : List Char → Option (List Char × List Char)
  | [] => none
  | '\\' :: c :: cs => (quotedBody quote triple cs).map fun p => ('\\' :: c :: p.1, p.2)
  | c :: cs =>
    if c = quote && (!triple || [quote, quote].isPrefixOf cs) then
      some ([], if triple then cs.drop 2 else cs)
    else if c = '\n' && !triple then none
    else (quotedBody quote triple cs).map fun p => (c :: p.1, p.2)

/-- Whether so many digits of an escape stand here. -/
def hasHex (count : Nat) (cs : List Char) : Bool :=
  let ds := cs.take count
  ds.length == count && ds.all fun c => (Text.hexValue? c).isSome

/-- Whether the escapes of a text are complete; bytes know fewer of them. -/
def escapesFit (bytes : Bool) : List Char → Bool
  | [] => true
  | '\\' :: c :: cs =>
    (if c = 'x' then hasHex 2 cs
      else if c = 'u' && !bytes then hasHex 4 cs
      else if c = 'U' && !bytes then
        hasHex 8 cs && ((Text.readHex? (cs.take 8)).any (· < 0x110000))
      else if c = 'N' && !bytes then cs.head? == some '\x7b' && cs.contains '\x7d'
      else true) && escapesFit bytes cs
  | _ :: cs => escapesFit bytes cs

/-- The marks in front of a text: whether it is bytes, and whether it has no escapes. -/
def textMarks : List (String × Bool × Bool) :=
  [("", false, false), ("u", false, false), ("r", false, true), ("b", true, false),
    ("br", true, true), ("rb", true, true)]

/-- A text in quotes: whether it is bytes, and the rest. -/
def quoted (cs : List Char) : Option (Bool × List Char) := do
  let mark := (cs.takeWhile Char.isAlpha).map Char.toLower
  let (bytes, raw) ← textMarks.lookup (String.ofList mark)
  match cs.drop mark.length with
  | q :: rest =>
    if q = '"' ∨ q = '\'' then
      let triple := [q, q].isPrefixOf rest
      let (body, rest) ← quotedBody q triple (if triple then rest.drop 2 else rest)
      if bytes && body.any (128 ≤ ·.toNat) then none
      else if !raw && !escapesFit bytes body then none
      else some (bytes, rest)
    else none
  | [] => none

/-- Texts one behind the other are one text, if they are of one sort. -/
def quotedMore (inside : Bool) (bytes : Bool) : Nat → List Char → Option (Kind × List Char)
  | 0, _ => none
  | fuel + 1, cs =>
    let next := skipBlanks inside cs.length cs
    match quoted next with
    | some (b, rest) => if b = bytes then quotedMore inside bytes fuel rest else none
    | none => some (.plain, cs)

/-! ### Names -/

/-- The name of a constant, or an empty set; three points are a constant too. -/
def constant (inside : Bool) (cs : List Char) : Option (Kind × List Char) :=
  match cs with
  | '.' :: '.' :: '.' :: rest => some (.plain, rest)
  | _ =>
    let word := String.ofList (cs.takeWhile Text.isWordChar)
    let rest := cs.dropWhile Text.isWordChar
    if ["None", "True", "False"].contains word then some (.plain, rest)
    else if word = "set" then
      match skipBlanks inside rest.length rest with
      | '(' :: more =>
        match skipBlanks true more.length more with
        | ')' :: rest => some (.collection, rest)
        | _ => none
      | _ => none
    else none

/-! ### Literals -/

/-- A number that stands behind another one in a sum has to be imaginary, the first one real. -/
def sum? (left right : Kind) : Option Kind :=
  match left, right with
  | .real, .imaginary => some .plain
  | .signed false, .imaginary => some .plain
  | _, _ => none

/-- A number with a sign in front of it. -/
def signed? : Kind → Option Kind
  | .real => some (.signed false)
  | .imaginary => some (.signed true)
  | _ => none

mutual

/-- A literal without a sign. -/
def atom (inside : Bool) : Nat → List Char → Option (Kind × List Char)
  | 0, _ => none
  | fuel + 1, cs =>
    match skipBlanks inside cs.length cs with
    | '(' :: rest =>
      match skipBlanks true rest.length rest with
      | ')' :: rest => some (.plain, rest)
      | rest => parenthesised fuel rest
    | '\x7b' :: rest =>
      match skipBlanks true rest.length rest with
      | '\x7d' :: rest => some (.collection, rest)
      | rest => braced fuel rest
    | cs =>
      match quoted cs with
      | some (bytes, rest) => quotedMore inside bytes rest.length.succ rest
      | none => (constant inside cs).or (number cs)

/-- A literal with a sign or none, or the sum of a real and an imaginary number. -/
def expression (inside : Bool) : Nat → List Char → Option (Kind × List Char)
  | 0, _ => none
  | fuel + 1, cs => do
    let (left, rest) ← operand inside fuel cs
    match skipBlanks inside rest.length rest with
    | s :: more =>
      if s = '+' ∨ s = '-' then
        let (right, rest) ← atom inside fuel more
        return (← sum? left right, rest)
      else return (left, rest)
    | [] => return (left, rest)

/-- A literal with a sign or none. -/
def operand (inside : Bool) : Nat → List Char → Option (Kind × List Char)
  | 0, _ => none
  | fuel + 1, cs =>
    match skipBlanks inside cs.length cs with
    | s :: rest =>
      if s = '+' ∨ s = '-' then do
        let (k, rest) ← atom inside fuel rest
        return (← signed? k, rest)
      else atom inside fuel (s :: rest)
    | [] => none

/-- What follows an opening parenthesis: a literal in parentheses, or a tuple. -/
def parenthesised : Nat → List Char → Option (Kind × List Char)
  | 0, _ => none
  | fuel + 1, cs => do
    let (k, rest) ← expression true fuel cs
    match skipBlanks true rest.length rest with
    | ')' :: rest => return (k, rest)
    | ',' :: rest => do
      let (ks, rest) ← members ')' fuel rest
      return (if (k :: ks).all Kind.isPlain then .plain else .collection, rest)
    | _ => none

/-- What follows an opening brace: a set or a map. -/
def braced : Nat → List Char → Option (Kind × List Char)
  | 0, _ => none
  | fuel + 1, cs => do
    let (k, rest) ← expression true fuel cs
    if !k.isPlain then none
    else
      match skipBlanks true rest.length rest with
      | '\x7d' :: rest => return (.collection, rest)
      | ',' :: rest => do
        let (ks, rest) ← members '\x7d' fuel rest
        if ks.all Kind.isPlain then return (.collection, rest) else none
      | ':' :: rest => do
        let (_, rest) ← expression true fuel rest
        entries fuel rest
      | _ => none

/-- Further members up to a closing bracket; a comma may stand in front of it. -/
def members (closing : Char) : Nat → List Char → Option (List Kind × List Char)
  | 0, _ => none
  | fuel + 1, cs =>
    match skipBlanks true cs.length cs with
    | [] => none
    | c :: rest =>
      if c = closing then some ([], rest)
      else do
        let (k, rest) ← expression true fuel (c :: rest)
        match skipBlanks true rest.length rest with
        | ',' :: rest => do
          let (ks, rest) ← members closing fuel rest
          return (k :: ks, rest)
        | c :: rest => if c = closing then return ([k], rest) else none
        | [] => none

/-- Further entries of a map up to its closing brace. -/
def entries : Nat → List Char → Option (Kind × List Char)
  | 0, _ => none
  | fuel + 1, cs =>
    match skipBlanks true cs.length cs with
    | '\x7d' :: rest => some (.collection, rest)
    | ',' :: rest =>
      match skipBlanks true rest.length rest with
      | '\x7d' :: rest => some (.collection, rest)
      | rest => do
        let (k, rest) ← expression true fuel rest
        if !k.isPlain then none
        else
          match skipBlanks true rest.length rest with
          | ':' :: rest => do
            let (_, rest) ← expression true fuel rest
            entries fuel rest
          | _ => none
    | _ => none

end

/-- Whether a text is over, up to blanks, comments and empty lines. -/
def isEnd (cs : List Char) : Bool :=
  match skipBlanks false cs.length cs with
  | [] => true
  | c :: more => c == '\n' && (skipBlanks true more.length more).isEmpty

/-- Whether only further literals behind commas stand up to the end of a text. -/
def isListEnd : Nat → List Char → Bool
  | 0, _ => false
  | fuel + 1, cs =>
    isEnd cs ||
      (match skipBlanks false cs.length cs with
        | ',' :: more =>
          isEnd more ||
            (match expression false (4 * more.length + 4) more with
              | some (_, after) => isListEnd fuel after
              | none => false)
        | _ => false)

/-- A text in which every line ends with a line feed alone. -/
def withLineFeeds : List Char → List Char
  | [] => []
  | '\r' :: '\n' :: cs => '\n' :: withLineFeeds cs
  | '\r' :: cs => '\n' :: withLineFeeds cs
  | c :: cs => c :: withLineFeeds cs

/-- A text from its first literal on, behind empty lines and comments. A line with blanks in front of
the literal is refused. -/
def firstLine (indented comment : Bool) : List Char → List Char
  | [] => []
  | '\n' :: cs => firstLine false false cs
  | '\\' :: '\n' :: cs => if comment then firstLine false false cs else firstLine indented false cs
  | c :: cs =>
    if comment then firstLine indented true cs
    else if c = ' ' ∨ c = '\t' then firstLine true false cs
    else if c = '\x0c' then firstLine false false cs
    else if c = '#' then firstLine indented true cs
    else if indented then []
    else c :: cs

end Literal

open Literal in
/-- Whether a text is a literal, or several with commas between them. The null character is refused
everywhere. -/
def isLiteral (cs : List Char) : Bool :=
  let start := firstLine false false (withLineFeeds (cs.dropWhile fun c => c == ' ' || c == '\t'))
  !cs.contains '\x00' &&
    (match expression false (4 * start.length + 4) start with
      | some (_, after) => isListEnd (start.length + 1) after
      | none => false)

/-- Whether the parameters of an action fit: nothing, a name alone, a name with a literal in
parentheses, or a literal. -/
def isActionCall (parameters : List Char) : Bool :=
  let cs := Text.trimBoth Text.isBlank parameters
  let behind := cs.dropWhile fun c => Text.isWordChar c || c == '.'
  if behind.isEmpty then true
  else if behind.head? == some '(' && behind.getLast? == some ')' && !behind.contains '\n' then
    isLiteral behind
  else isLiteral cs

end CapsuleKit.Console
