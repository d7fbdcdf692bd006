import CapsuleKit.Document.Value
import CapsuleKit.Text.Base64
import CapsuleKit.Text.Digit
import CapsuleKit.Text.Display
import CapsuleKit.Text.Lower
import CapsuleKit.Yaml.Tag

/-!
# What scalars are read as

`Tag.scalar` converts a text to the kind of value that a tag names. A text whose tag was found by
its form nearly always converts; one that has its tag written in front of it may not.
-/

namespace CapsuleKit.Yaml.Tag

/-- Decimal digits of any script as ASCII digits, without the blanks around. -/
def normalized (cs : List Char) : List Char :=
  Text.asciiDigits (Text.trimBoth Number.isWhiteSpace cs)

/-- The mark of a base in front of its digits. -/
def baseMark : Nat → Char
  | 2 => 'b'
  | 8 => 'o'
  | _ => 'x'

/-- Digits of a base, behind its mark if they have one. -/
def withoutBaseMark (base : Nat) : List Char → List Char
  | '0' :: m :: ds => if base ≠ 10 ∧ m.toLower = baseMark base then ds else '0' :: m :: ds
  | ds => ds

/-- A whole number in a base, with a sign. -/
def wholeNumber (base : Nat) (cs : List Char) : Result Int :=
  let (negative, body) := Number.sign (normalized cs)
  let ds := withoutBaseMark base body
  let number : Option Nat := ds.foldlM (fun acc c =>
    match Text.hexValue? c with
    | some d => if d < base then some (base * acc + d) else none
    | none => none) 0
  let count := (ds.takeWhile Char.isDigit).length
  if base = 10 ∧ Number.digitLimit < count then .error (.badValue (Number.tooManyDigits count))
  else
    match ds, number with
    | _ :: _, some n => .ok (if negative then -(n : Int) else n)
    | _, _ => .error (.badValue (Number.notWhole base (String.ofList cs)))

/-- The parts between colons. -/
def colonParts (cs : List Char) : List (List Char) :=
  cs.foldr (fun c parts =>
    if c = ':' then [] :: parts
    else
      match parts with
      | part :: rest => (c :: part) :: rest
      | [] => [[c]]) [[]]

/-- Whole numbers: binary, octal and hexadecimal ones, and ones in sixtieths. -/
def readInt (s : String) : Result Int :=
  match s.toList.filter (· != '_') with
  | [] => .error .emptyNumber
  | cs => do
    let (negative, body) := Number.sign cs
    let n ←
      match body with
      | [] => .error .emptyNumber
      | ['0'] => .ok 0
      | '0' :: 'b' :: ds => wholeNumber 2 ds
      | '0' :: 'x' :: ds => wholeNumber 16 ds
      | '0' :: _ => wholeNumber 8 body
      | _ =>
        if body.contains ':' then do
          let parts ← (colonParts body).mapM (wholeNumber 10)
          pure (parts.foldl (fun acc p => 60 * acc + p) 0)
        else wholeNumber 10 body
    return if negative then -n else n

def decimal (cs : List Char) : Result Binary64 :=
  match Number.signedFloat? (normalized cs) with
  | some x => .ok x
  | none =>
    .error (.badValue ("could not convert string to float: " ++ Text.display (String.ofList cs)))

/-- The sum of numbers that count ever higher powers of sixty, the first one the units. -/
def sumSixtieths (total : Binary64) (power : Nat) : List Binary64 → Result Binary64
  | [] => .ok total
  | x :: xs =>
    let factor := Binary64.ofInt power
    if factor.isInfinite then .error .overflow
    else sumSixtieths (total.add (x.mul factor)) (60 * power) xs

/-- The text of a floating-point number as it is read: without underscores and in lower case. -/
def floatText (s : String) : List Char :=
  (Text.toLower (String.ofList (s.toList.filter (· != '_')))).toList

/-- Whether a text is the usual name of the value that is no number. -/
def isNanName (s : String) : Bool :=
  (Number.sign (floatText s)).2 == ".nan".toList

/-- Decimal numbers, also in sixtieths, infinities and "not a number". -/
def readFloat (s : String) : Result Binary64 :=
  match floatText s with
  | [] => .error .emptyNumber
  | cs => do
    let (negative, body) := Number.sign cs
    let x ←
      if body = ".inf".toList then .ok (Binary64.infinity false)
      else if body = ".nan".toList then .ok Binary64.nan
      else if body.contains ':' then do
        let parts ← (colonParts body).mapM decimal
        sumSixtieths Binary64.zero 1 parts.reverse
      else decimal body
    return if negative && x.parts != .nan then x.neg else x

/-- The first six digits of a fraction as millionths. -/
def millionths (ds : List Char) : Nat :=
  Number.ofDigits ((ds ++ List.replicate 6 '0').take 6)

/-- The distance from universal time in seconds. -/
def zoneOffset : Option (Bool × List Char × List Char) → Result Int
  | none => .ok 0
  | some (negative, h, m) =>
    let seconds : Int := 3600 * Number.ofDigits h + 60 * Number.ofDigits m
    let offset := if negative then -seconds else seconds
    if 86400 ≤ seconds then
      .error (.badValue ("offset must be a timedelta strictly between -timedelta(hours=24) and " ++
        "timedelta(hours=24), not " ++ Moment.duration offset ++ "."))
    else .ok offset

/-- A date, or a date with a time; its distance from universal time is checked first. -/
def readMoment (s : String) : Result Moment :=
  match stamp? (withoutFinalBreak s.toList) with
  | none => .error .missingMatch
  | some p => do
    let d : Date := ⟨Number.ofDigits p.year, Number.ofDigits p.month, Number.ofDigits p.day⟩
    if p.hour.isEmpty then
      match d.fault? with
      | some message => .error (.badValue message)
      | none => return .date d
    else
      let t : TimeOfDay := ⟨Number.ofDigits p.hour, Number.ofDigits p.minute,
        Number.ofDigits p.second, millionths p.fraction⟩
      let offset ← p.zone.mapM zoneOffset
      match d.fault?.or t.fault? with
      | some message => .error (.badValue message)
      | none => return .stamp d t offset

/-- The bytes that a text writes. -/
def readBytes (s : String) : Result (List UInt8) :=
  let cs := s.toList
  if cs.all (·.toNat < 128) then
    match Text.base64Decode? cs with
    | some data => .ok data
    | none => .error .malformed
  else .error .malformed

/-- What a text is read as under a tag. -/
def scalar (tag : Tag) (s : String) : Result Scalar :=
  match tag with
  | .null => .ok .null
  | .bool =>
    match boolWords.lookup (String.ofList (Number.lowerAscii s.toList)) with
    | some b => .ok (.bool b)
    | none => .error .missingKey
  | .int => return .int (← readInt s)
  | .float => return .float (← readFloat s)
  | .timestamp => return .moment (← readMoment s)
  | .text => .ok (.text s)
  | .binary => return .bytes (← readBytes s)
  | _ => .error .malformed

end CapsuleKit.Yaml.Tag
