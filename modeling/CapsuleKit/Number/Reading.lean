import CapsuleKit.Number.Shortest
import CapsuleKit.Text.Basic
import CapsuleKit.Text.Display

/-!
# Numbers written as text

Lenient readers for numbers that stand in a text: `readWhole` for whole numbers, which may carry a
sign, leading zeros, single underscores between digits and a fraction of zeros, and `readFloat?` for
decimal notation with an optional exponent, infinities and "not a number".
-/

namespace CapsuleKit.Number

/-- White space in the sense of the Unicode property, without the information separators. -/
def isWhiteSpace (c : Char) : Bool :=
  Text.isBlank c && !decide (28 ≤ c.toNat ∧ c.toNat ≤ 31)

/-- Whole numbers with more decimal digits than this are not converted to or from text. -/
def digitLimit : Nat := 4300

/-- The message for a text with too many digits. -/
def tooManyDigits (count : Nat) : String :=
  "Exceeds the limit (" ++ decimalText digitLimit ++
    " digits) for integer string conversion: value has " ++ decimalText count ++
    " digits; use sys.set_int_max_str_digits() to increase the limit"

/-- The message for a number that would take too many digits to write. -/
def tooLongToWrite : String :=
  "Exceeds the limit (" ++ decimalText digitLimit ++
    " digits) for integer string conversion; use sys.set_int_max_str_digits() to increase the limit"

/-- The message for a text that is no whole number in a base; a long text is cut. -/
def notWhole (base : Nat) (s : String) : String :=
  "invalid literal for int() with base " ++ decimalText base ++ ": " ++
    String.ofList ((Text.display s).toList.take 200)

/-- The number that ASCII digits write. -/
def ofDigits (ds : List Char) : Nat :=
  ds.foldl (fun acc c => 10 * acc + (c.toNat - 48)) 0

/-- A sign in front, and the rest. -/
def sign : List Char → Bool × List Char
  | '-' :: cs => (true, cs)
  | '+' :: cs => (false, cs)
  | cs => (false, cs)

/-- Whether underscores, if there are any, stand singly and not at the ends. -/
def underscoresFit (cs : List Char) : Bool :=
  cs.contains '_' && cs.head? != some '_' && cs.getLast? != some '_' &&
    !(cs.zip (cs.drop 1)).contains ('_', '_')

/-! ### Whole numbers -/

/-- Why a text is no whole number. -/
inductive Misfit where
  | malformed
  | tooLong
  deriving DecidableEq

/-- Whether a number can begin here: a digit other than zero, or a minus sign. -/
def beginsWhole (c : Char) : Bool :=
  (c.isDigit && c != '0') || c == '-'

/-- What follows leading zeros, in which underscores count as zeros. The last of them is kept when
nothing follows or a point does. -/
def afterZeros (last : Char) : List Char → Option (List Char)
  | [] => some [last]
  | c :: cs =>
    if c = '0' ∨ c = '_' then afterZeros c cs
    else if c = '.' then some (last :: c :: cs)
    else if beginsWhole c then some (c :: cs)
    else none

/-- A number without its leading zeros. -/
def withoutZeros : List Char → Option (List Char)
  | [] => none
  | c :: cs =>
    if c = '0' then afterZeros c cs else if beginsWhole c then some (c :: cs) else none

/-- A number without a fraction that consists of zeros. -/
def withoutFraction (cs : List Char) : List Char :=
  match cs.dropWhile (· != '.') with
  | _ :: z :: zeros =>
    if (z :: zeros).all (· == '0') then cs.takeWhile (· != '.') else cs
  | _ => cs

/-- A number without a plus sign in front. -/
def withoutPlus : List Char → Option (List Char)
  | '+' :: '-' :: _ => none
  | '+' :: cs => some cs
  | cs => some cs

/-- A lenient spelling of a whole number in its plain form: no blanks around it, no plus sign, no
leading zeros, no fraction of zeros, no underscores. -/
def plainWhole (cs : List Char) : Option (List Char) := do
  let cs ← withoutPlus (Text.trimBoth isWhiteSpace cs)
  let cs ← withoutZeros cs
  let cs := withoutFraction cs
  return if underscoresFit cs then cs.filter (· != '_') else cs

/-- A whole number in plain form: an optional minus sign, then zero alone or digits that do not
start with one. It may have `digitLimit` characters; a longer run of digits is too long whatever
follows. -/
def readPlainWhole (cs : List Char) : Except Misfit Int :=
  let negative := cs.head? == some '-'
  let body := if negative then cs.drop 1 else cs
  let digits := body.takeWhile Char.isDigit
  if digits.head? = some '0' then if body = ['0'] then .ok 0 else .error .malformed
  else if digits.isEmpty then .error .malformed
  else if digitLimit < (if negative then 1 else 0) + digits.length then .error .tooLong
  else if digits.length < body.length then .error .malformed
  else .ok (if negative then -Int.ofNat (ofDigits digits) else Int.ofNat (ofDigits digits))

/-- A whole number: as it stands if that is its plain form, else what its plain form says. -/
def readWhole (s : String) : Except Misfit Int :=
  match readPlainWhole s.toList with
  | .error .malformed =>
    match plainWhole s.toList with
    | some cs => readPlainWhole cs
    | none => .error .malformed
  | answer => answer

/-! ### Floating-point numbers -/

/-- ASCII characters in small letters. -/
def lowerAscii (cs : List Char) : List Char :=
  cs.map Char.toLower

/-- An exponent with its sign; all of the text has to be read. -/
def exponent? (cs : List Char) : Option Int :=
  let (negative, ds) := sign cs
  if !ds.isEmpty && ds.all Char.isDigit then
    some (if negative then -Int.ofNat (ofDigits ds) else Int.ofNat (ofDigits ds))
  else none

/-- Decimal notation after the sign: digits on at least one side of the point, and an exponent. -/
def unsignedFloat? (negative : Bool) (cs : List Char) : Option Binary64 :=
  let whole := cs.takeWhile Char.isDigit
  let rest := cs.dropWhile Char.isDigit
  let (frac, rest) :=
    match rest with
    | '.' :: more => (more.takeWhile Char.isDigit, more.dropWhile Char.isDigit)
    | _ => ([], rest)
  if whole.isEmpty && frac.isEmpty then none
  else
    let number := fun (e : Int) =>
      Binary64.ofDecimal negative (ofDigits (whole ++ frac)) (e - Int.ofNat frac.length)
    match rest with
    | [] => some (number 0)
    | c :: more => if c = 'e' ∨ c = 'E' then (exponent? more).map number else none

/-- Decimal notation, `inf`, `infinity` or `nan` in any case, with a sign. -/
def signedFloat? (cs : List Char) : Option Binary64 :=
  let (negative, body) := sign cs
  let lower := lowerAscii body
  if lower = "inf".toList ∨ lower = "infinity".toList then some (.infinity negative)
  else if lower = "nan".toList then some .nan
  else unsignedFloat? negative body

/-- A number in decimal notation, blanks around it ignored; underscores may stand between its
characters if no blanks are around it. -/
def readFloat? (s : String) : Option Binary64 :=
  let cs := s.toList
  match signedFloat? (Text.trimBoth isWhiteSpace cs) with
  | some x => some x
  | none => if underscoresFit cs then signedFloat? (cs.filter (· != '_')) else none

end CapsuleKit.Number
