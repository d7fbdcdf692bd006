import CapsuleKit.Number.Reading
import CapsuleKit.Yaml.Cursor

/-!
# Kinds of nodes

A node has a tag, which says what its content is read as. A plain text without one gets its tag from
its form: `Tag.ofPlain` knows the forms of truth values, numbers, dates and the empty value.
-/

namespace CapsuleKit.Yaml

inductive Tag where
  | null
  | bool
  | int
  | float
  | timestamp
  | text
  | merge
  | default
  | sequence
  | mapping
  | set
  | pairs
  | binary
  | unknown
  deriving DecidableEq

namespace Tag

/-- The tags that have a meaning here, by the end of their address. -/
def names : List (String × Tag) :=
  [("null", .null), ("bool", .bool), ("int", .int), ("float", .float), ("timestamp", .timestamp),
    ("str", .text), ("merge", .merge), ("value", .default), ("seq", .sequence), ("map", .mapping),
    ("set", .set), ("omap", .pairs), ("pairs", .pairs), ("binary", .binary)]

/-- The start of the addresses of the common tags. -/
def commonStart : String := "tag:yaml.org,2002:"

def ofUri (uri : String) : Tag :=
  ((names.find? fun n => commonStart ++ n.1 == uri).map (·.2)).getD .unknown

/-- A word in small letters, with a capital, and in capitals. -/
def spellings (word : String) : List String :=
  [word, String.ofList ((word.toList.take 1).map Char.toUpper ++ word.toList.drop 1),
    String.ofList (word.toList.map Char.toUpper)]

def boolWords : List (String × Bool) :=
  [("yes", true), ("no", false), ("true", true), ("false", false), ("on", true), ("off", false)]

def isBoolForm (cs : List Char) : Bool :=
  boolWords.any fun w => (spellings w.1).contains (String.ofList cs)

def isNullForm (cs : List Char) : Bool :=
  cs.isEmpty || ["~", "null", "Null", "NULL"].contains (String.ofList cs)

def isDigitOrUnderscore (c : Char) : Bool :=
  c.isDigit || c == '_'

/-- A digit and further digits or underscores, and the rest. -/
def digitRun? : List Char → Option (List Char)
  | c :: cs => if c.isDigit then some (cs.dropWhile isDigitOrUnderscore) else none
  | [] => none

/-- Sixtieths behind colons: how many there are, and the rest. -/
def sixtieths : List Char → Nat × List Char
  | ':' :: a :: b :: cs =>
    if '0' ≤ a && a ≤ '5' && b.isDigit then
      let (n, rest) := sixtieths cs
      (n + 1, rest)
    else if a.isDigit then
      let (n, rest) := sixtieths (b :: cs)
      (n + 1, rest)
    else (0, ':' :: a :: b :: cs)
  | [':', a] => if a.isDigit then (1, []) else (0, [':', a])
  | cs => (0, cs)

/-- An exponent with a sign, or nothing. -/
def isExponentForm : List Char → Bool
  | [] => true
  | e :: s :: ds =>
    (e == 'e' || e == 'E') && (s == '-' || s == '+') && !ds.isEmpty && ds.all Char.isDigit
  | _ => false

/-- Digits, a point and perhaps digits and an exponent; or sixtieths and a point. -/
def isFractionForm (cs : List Char) : Bool :=
  match digitRun? cs with
  | some ('.' :: rest) => isExponentForm (rest.dropWhile isDigitOrUnderscore)
  | some rest =>
    match sixtieths rest with
    | (_ + 1, '.' :: more) => more.all isDigitOrUnderscore
    | _ => false
  | none => false

def isFloatForm (cs : List Char) : Bool :=
  let body := (Number.sign cs).2
  isFractionForm body ||
    (match cs with
      | '.' :: rest =>
        ((digitRun? rest).map isExponentForm).getD false ||
          ["nan", "NaN", "NAN"].contains (String.ofList rest)
      | _ => false) ||
    [".inf", ".Inf", ".INF"].contains (String.ofList body)

def isIntForm (cs : List Char) : Bool :=
  match (Number.sign cs).2 with
  | '0' :: 'b' :: ds => !ds.isEmpty && ds.all fun c => c == '0' || c == '1' || c == '_'
  | '0' :: 'x' :: ds => !ds.isEmpty && ds.all fun c => (Text.hexValue? c).isSome || c == '_'
  | '0' :: ds => ds.all fun c => ('0' ≤ c && c ≤ '7') || c == '_'
  | c :: ds =>
    c.isDigit && (sixtieths (ds.dropWhile isDigitOrUnderscore)).2.isEmpty
  | [] => false

/-- The parts of a date, as written. -/
structure Stamp where
  year : List Char
  month : List Char
  day : List Char
  hour : List Char := []
  minute : List Char := []
  second : List Char := []
  fraction : List Char := []
  zone : Option (Option (Bool × List Char × List Char)) := none

/-- One or two digits, and the rest. -/
def oneOrTwo? : List Char → Option (List Char × List Char)
  | a :: b :: cs =>
    if !a.isDigit then none else if b.isDigit then some ([a, b], cs) else some ([a], b :: cs)
  | [a] => if a.isDigit then some ([a], []) else none
  | [] => none

/-- Two digits behind a mark, and the rest. -/
def twoAfter? (mark : Char) : List Char → Option (List Char × List Char)
  | m :: a :: b :: cs =>
    if m == mark && a.isDigit && b.isDigit then some ([a, b], cs) else none
  | _ => none

/-- The distance from universal time: `Z`, or a sign with hours and perhaps minutes. -/
def zone? (cs : List Char) : Option (Option (Option (Bool × List Char × List Char))) :=
  match cs, cs.dropWhile isSpaceOrTab with
  | [], _ => some none
  | _, ['Z'] => some (some none)
  | _, s :: rest =>
    if s == '+' || s == '-' then
      match oneOrTwo? rest with
      | some (h, []) => some (some (some (s == '-', h, [])))
      | some (h, rest) =>
        match twoAfter? ':' rest with
        | some (m, []) => some (some (some (s == '-', h, m)))
        | _ => none
      | none => none
    else none
  | _, [] => none

/-- A time of day behind a date. -/
def stampTime? (stamp : Stamp) (cs : List Char) : Option Stamp := do
  let cs ←
    match cs with
    | 'T' :: rest => some rest
    | 't' :: rest => some rest
    | c :: rest => if isSpaceOrTab c then some (rest.dropWhile isSpaceOrTab) else none
    | [] => none
  let (hour, cs) ← oneOrTwo? cs
  let (minute, cs) ← twoAfter? ':' cs
  let (second, cs) ← twoAfter? ':' cs
  let (fraction, cs) :=
    match cs with
    | '.' :: rest => (rest.takeWhile Char.isDigit, rest.dropWhile Char.isDigit)
    | _ => ([], cs)
  let zone ← zone? cs
  return { stamp with
    hour := hour, minute := minute, second := second, fraction := fraction, zone := zone }

/-- A date, perhaps with a time of day. -/
def stamp? (cs : List Char) : Option Stamp :=
  let year := cs.take 4
  if year.length = 4 && year.all Char.isDigit then
    match cs.drop 4 with
    | '-' :: rest => do
      let (month, rest) ← oneOrTwo? rest
      match rest with
      | '-' :: rest =>
        let (day, rest) ← oneOrTwo? rest
        let stamp : Stamp := { year := year, month := month, day := day }
        if rest.isEmpty then some stamp else stampTime? stamp rest
      | _ => none
    | _ => none
  else none

/-- Without a time, month and day need two digits. -/
def isTimestampForm (cs : List Char) : Bool :=
  match stamp? cs with
  | some s => !s.hour.isEmpty || (s.month.length == 2 && s.day.length == 2)
  | none => false

/-- A final line end does not count for the form of a text, unless it is all of the text. -/
def withoutFinalBreak (cs : List Char) : List Char :=
  if 1 < cs.length && cs.getLast? == some '\n' then cs.dropLast else cs

/-- The tag of a plain text. -/
def ofPlain (s : String) : Tag :=
  let cs := withoutFinalBreak s.toList
  if isBoolForm cs then .bool
  else if isFloatForm cs then .float
  else if isIntForm cs then .int
  else if cs = "<<".toList then .merge
  else if isNullForm cs then .null
  else if isTimestampForm cs then .timestamp
  else if cs = ['='] then .default
  else .text

end Tag

end CapsuleKit.Yaml
