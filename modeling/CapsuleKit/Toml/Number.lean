import CapsuleKit.Document.Value
import CapsuleKit.Number.Reading
import CapsuleKit.Toml.Text

/-!
# Numbers, dates and times in TOML

Whole numbers in four bases, numbers with a fraction or an exponent, dates, times of day and both
together. Single underscores may stand between digits.
-/

namespace CapsuleKit.Toml

/-- Digits after the first one, with single underscores between them, and the rest. -/
def moreDigits (p : Char → Bool) : List Char → List Char × List Char
  | '_' :: c :: cs =>
    if p c then
      let (ds, rest) := moreDigits p cs
      (c :: ds, rest)
    else ([], '_' :: c :: cs)
  | c :: cs =>
    if p c then
      let (ds, rest) := moreDigits p cs
      (c :: ds, rest)
    else ([], c :: cs)
  | [] => ([], [])

/-- At least one digit, and the rest. -/
def digits? (p : Char → Bool) : List Char → Option (List Char × List Char)
  | [] => none
  | c :: cs =>
    if p c then
      let (ds, rest) := moreDigits p cs
      some (c :: ds, rest)
    else none

/-- The value of digits in a base of at most sixteen. -/
def inBase (base : Nat) (ds : List Char) : Nat :=
  ds.foldl (fun acc c => base * acc + (Text.hexValue? c).getD 0) 0

def isOctal (c : Char) : Bool := '0' ≤ c && c ≤ '7'

def isBinary (c : Char) : Bool := c == '0' || c == '1'

/-- A whole number with the mark of its base in front. -/
def based? : List Char → Option (Value × List Char)
  | '0' :: 'x' :: cs =>
    (digits? (fun c => (Text.hexValue? c).isSome) cs).map fun p => (.int (inBase 16 p.1), p.2)
  | '0' :: 'b' :: cs => (digits? isBinary cs).map fun p => (.int (inBase 2 p.1), p.2)
  | '0' :: 'o' :: cs => (digits? isOctal cs).map fun p => (.int (inBase 8 p.1), p.2)
  | _ => none

/-- The digits before a point or an exponent: a zero in front stands alone. -/
def wholePart? : List Char → Option (List Char × List Char)
  | '0' :: cs => some (['0'], cs)
  | cs => digits? Char.isDigit cs

/-- The digits behind a point, if there are any. -/
def fractionPart? : List Char → Option (List Char × List Char)
  | '.' :: cs => digits? Char.isDigit cs
  | _ => none

/-- An exponent, if there is one. -/
def exponentPart? : List Char → Option (Int × List Char)
  | c :: cs =>
    if c = 'e' ∨ c = 'E' then
      let (negative, body) := Number.sign cs
      (digits? Char.isDigit body).map fun p =>
        (if negative then -Int.ofNat (Number.ofDigits p.1) else Int.ofNat (Number.ofDigits p.1),
          p.2)
    else none
  | [] => none

/-- A whole number with at most as many digits as are converted. -/
def wholeNumber (negative : Bool) (ds : List Char) (rest : List Char) : Result (Value × List Char) :=
  if Number.digitLimit < ds.length then .error (.tooManyDigits ds.length)
  else
    let n := Int.ofNat (Number.ofDigits ds)
    .ok (.int (if negative then -n else n), rest)

/-- A number in decimal notation. -/
def decimal? (cs : List Char) : Option (Result (Value × List Char)) :=
  let (negative, body) := Number.sign cs
  match wholePart? body with
  | none => none
  | some (whole, rest) =>
    let fraction := fractionPart? rest
    let rest := (fraction.map (·.2)).getD rest
    let exponent := exponentPart? rest
    let rest := (exponent.map (·.2)).getD rest
    if fraction.isNone && exponent.isNone then some (wholeNumber negative whole rest)
    else
      let places := (fraction.map (·.1)).getD []
      let power := (exponent.map (·.1)).getD 0 - Int.ofNat places.length
      some (.ok
        (.float (Binary64.ofDecimal negative (Number.ofDigits (whole ++ places)) power), rest))

/-- The numbers that are written as words. -/
def specialFloats : List (String × Binary64) :=
  [("inf", .infinity false), ("nan", .nan), ("+inf", .infinity false), ("+nan", .nan),
   ("-inf", .infinity true), ("-nan", .nan)]

def special? (cs : List Char) : Option (Value × List Char) :=
  (specialFloats.find? fun e => e.1.toList.isPrefixOf cs).map fun e =>
    (.float e.2, cs.drop e.1.toList.length)

/-! ### Dates and times -/

/-- A number of exactly two digits within bounds, and the rest. -/
def twoDigits? (low high : Nat) : List Char → Option (Nat × List Char)
  | a :: b :: cs =>
    let n := Number.ofDigits [a, b]
    if a.isDigit && b.isDigit && low ≤ n && n ≤ high then some (n, cs) else none
  | _ => none

/-- The rest behind a certain character. -/
def after? (mark : Char) : List Char → Option (List Char)
  | c :: cs => if c = mark then some cs else none
  | [] => none

/-- Six places of a second, filled up with zeros. -/
def microseconds (ds : List Char) : Nat :=
  Number.ofDigits ((ds ++ List.replicate 6 '0').take 6)

/-- A fraction of a second; places beyond the sixth are dropped. -/
def secondFraction (cs : List Char) : Nat × List Char :=
  match cs with
  | '.' :: more =>
    let ds := more.takeWhile Char.isDigit
    if ds.isEmpty then (0, cs) else (microseconds ds, more.dropWhile Char.isDigit)
  | _ => (0, cs)

def time? (cs : List Char) : Option (TimeOfDay × List Char) := do
  let (hour, cs) ← twoDigits? 0 23 cs
  let (minute, cs) ← twoDigits? 0 59 (← after? ':' cs)
  let (second, cs) ← twoDigits? 0 59 (← after? ':' cs)
  let (microsecond, cs) := secondFraction cs
  return (⟨hour, minute, second, microsecond⟩, cs)

def date? (cs : List Char) : Option (Date × List Char) := do
  let year := cs.take 4
  guard (year.length = 4 ∧ year.all Char.isDigit)
  let (month, cs) ← twoDigits? 1 12 (← after? '-' (cs.drop 4))
  let (day, cs) ← twoDigits? 1 31 (← after? '-' cs)
  return (⟨Number.ofDigits year, month, day⟩, cs)

/-- The distance from universal time in seconds. -/
def offset? : List Char → Option (Int × List Char)
  | [] => none
  | c :: cs =>
    if c = 'Z' ∨ c = 'z' then some (0, cs)
    else if c = '+' ∨ c = '-' then do
      let (hours, cs) ← twoDigits? 0 23 cs
      let (minutes, cs) ← twoDigits? 0 59 (← after? ':' cs)
      let n := Int.ofNat (hours * 3600 + minutes * 60)
      return (if c = '-' then -n else n, cs)
    else none

/-- The time behind a date. -/
def timeAfterDate? : List Char → Option (TimeOfDay × List Char)
  | [] => none
  | c :: cs => if c = 'T' ∨ c = 't' ∨ c = ' ' then time? cs else none

/-- A date, with a time where one follows. -/
def moment? (cs : List Char) : Option (Result (Value × List Char)) :=
  match date? cs with
  | none => none
  | some (d, rest) =>
    if d.fault?.isSome then some (.error .malformed)
    else
      match timeAfterDate? rest with
      | none => some (.ok (.moment (.date d), rest))
      | some (t, rest) =>
        match offset? rest with
        | none => some (.ok (.moment (.stamp d t none), rest))
        | some (o, rest) => some (.ok (.moment (.stamp d t (some o)), rest))

/-- A date, a time or a number. -/
def unquoted (cs : List Char) : Result (Value × List Char) :=
  match moment? cs with
  | some r => r
  | none =>
    match time? cs with
    | some (t, rest) => .ok (.moment (.time t), rest)
    | none =>
      match based? cs with
      | some r => .ok r
      | none =>
        match decimal? cs with
        | some r => r
        | none =>
          match special? cs with
          | some r => .ok r
          | none => .error .malformed

end CapsuleKit.Toml
