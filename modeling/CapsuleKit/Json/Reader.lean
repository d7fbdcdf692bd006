import CapsuleKit.Document.Value
import CapsuleKit.Number.Reading
import CapsuleKit.Text.Digit

/-!
# Reading JSON

`Json.read` turns a text into a `Value`, or gives the first fault with the line where it was met.
Beside plain JSON it takes `NaN`, `Infinity` and `-Infinity`; a number without fraction and exponent
is a whole number of up to `Number.digitLimit` digits. A key given twice keeps its first place and
its last value.
-/

namespace CapsuleKit.Json

/-- What can be wrong with a JSON text. -/
inductive Fault where
  | byteOrderMark
  | value
  | propertyName
  | colon
  | comma
  | extraData
  | unterminated
  | controlCharacter
  | escape
  | unicodeEscape
  deriving DecidableEq

namespace Fault

def message : Fault → String
  | .byteOrderMark => "Unexpected UTF-8 BOM (decode using utf-8-sig)"
  | .value => "Expecting value"
  | .propertyName => "Expecting property name enclosed in double quotes"
  | .colon => "Expecting ':' delimiter"
  | .comma => "Expecting ',' delimiter"
  | .extraData => "Extra data"
  | .unterminated => "Unterminated string starting at"
  | .controlCharacter => "Invalid control character at"
  | .escape => "Invalid \\escape"
  | .unicodeEscape => "Invalid \\uXXXX escape"

end Fault

/-- Why a text is not read. -/
inductive ReadError where
  | malformed (fault : Fault) (line : Nat)
  | tooManyDigits (count : Nat)
  deriving DecidableEq

/-- What is left of the text, and the number of the line it starts on. -/
structure Rest where
  chars : List Char
  line : Nat

def blanks : List Char → Nat → Rest
  | c :: cs, line =>
    if c = '\n' then blanks cs (line + 1)
    else if c = ' ' ∨ c = '\t' ∨ c = '\r' then blanks cs line
    else ⟨c :: cs, line⟩
  | [], line => ⟨[], line⟩

def Rest.skip (r : Rest) : Rest :=
  blanks r.chars r.line

def Rest.fail {α : Type} (r : Rest) (f : Fault) : Except ReadError α :=
  .error (.malformed f r.line)

/-- The character of a pair of UTF-16 code units, or of one that stands alone. -/
def unitChar (n : Nat) : Char :=
  if 0xD800 ≤ n ∧ n ≤ 0xDFFF then Char.ofNat 0xFFFD else Char.ofNat n

/-- Four hexadecimal digits with at least one more character after them. -/
def unit? : List Char → Option (Nat × List Char)
  | a :: b :: c :: d :: e :: cs => (Text.readHex? [a, b, c, d]).map (·, e :: cs)
  | _ => none

def shortEscape? : Char → Option Char
  | '"' => some '"'
  | '\\' => some '\\'
  | '/' => some '/'
  | 'b' => some (Char.ofNat 8)
  | 'f' => some (Char.ofNat 12)
  | 'n' => some '\n'
  | 'r' => some '\r'
  | 't' => some '\t'
  | _ => none

/-- The inside of a string up to its closing quote, in reverse before `acc`. -/
def stringBody : Nat → List Char → List Char → Except Fault (List Char × List Char)
  | 0, _, _ => .error .unterminated
  | fuel + 1, acc, cs =>
    match cs with
    | [] => .error .unterminated
    | '"' :: rest => .ok (acc.reverse, rest)
    | '\\' :: [] => .error .unterminated
    | '\\' :: 'u' :: rest =>
      match unit? rest with
      | none => .error .unicodeEscape
      | some (high, rest) =>
        if 0xD800 ≤ high ∧ high ≤ 0xDBFF then
          match rest with
          | '\\' :: 'u' :: more =>
            if more.length ≤ 4 then stringBody fuel (unitChar high :: acc) rest
            else
              match unit? more with
              | none => .error .unicodeEscape
              | some (low, rest') =>
                if 0xDC00 ≤ low ∧ low ≤ 0xDFFF then
                  let n := 0x10000 + (high - 0xD800) * 0x400 + (low - 0xDC00)
                  stringBody fuel (Char.ofNat n :: acc) rest'
                else stringBody fuel (unitChar high :: acc) rest
          | _ => stringBody fuel (unitChar high :: acc) rest
        else stringBody fuel (unitChar high :: acc) rest
    | '\\' :: c :: rest =>
      match shortEscape? c with
      | some d => stringBody fuel (d :: acc) rest
      | none => .error .escape
    | c :: rest =>
      if c.toNat < 32 then .error .controlCharacter else stringBody fuel (c :: acc) rest

def readString (r : Rest) : Except ReadError (String × Rest) :=
  match stringBody (r.chars.length + 1) [] r.chars with
  | .ok (cs, rest) => .ok (String.ofList cs, ⟨rest, r.line⟩)
  | .error f => r.fail f

/-- The digits of a fraction, when a point and a digit are there. -/
def fraction : List Char → List Char × List Char
  | '.' :: c :: cs =>
    if c.isDigit then (c :: cs.takeWhile Char.isDigit, cs.dropWhile Char.isDigit)
    else ([], '.' :: c :: cs)
  | cs => ([], cs)

def signedExponent (cs : List Char) : Option (Int × List Char) :=
  let (negative, ds) :=
    match cs with
    | '-' :: rest => (true, rest)
    | '+' :: rest => (false, rest)
    | rest => (false, rest)
  let digits := ds.takeWhile Char.isDigit
  if digits.isEmpty then none
  else
    let n := Int.ofNat (Number.ofDigits digits)
    some (if negative then -n else n, ds.dropWhile Char.isDigit)

def exponent : List Char → Option (Int × List Char)
  | 'e' :: cs => signedExponent cs
  | 'E' :: cs => signedExponent cs
  | _ => none

/-- A number after its sign. -/
def readNumber (negative : Bool) (r : Rest) : Except ReadError (Value × Rest) :=
  let digits? : Option (List Char × List Char) :=
    match r.chars with
    | '0' :: cs => some (['0'], cs)
    | c :: cs =>
      if c.isDigit then some (c :: cs.takeWhile Char.isDigit, cs.dropWhile Char.isDigit) else none
    | [] => none
  match digits? with
  | none => r.fail .value
  | some (whole, rest) =>
    let (frac, rest) := fraction rest
    match exponent rest with
    | some (e, rest) =>
      let x :=
        Binary64.ofDecimal negative (Number.ofDigits (whole ++ frac)) (e - Int.ofNat frac.length)
      .ok (.float x, ⟨rest, r.line⟩)
    | none =>
      if frac.isEmpty then
        if Number.digitLimit < whole.length then .error (.tooManyDigits whole.length)
        else
          let n := Int.ofNat (Number.ofDigits whole)
          .ok (.int (if negative then -n else n), ⟨rest, r.line⟩)
      else
        let x := Binary64.ofDecimal negative (Number.ofDigits (whole ++ frac)) (-Int.ofNat frac.length)
        .ok (.float x, ⟨rest, r.line⟩)

/-- A word at the start of the rest. -/
def word? (w : String) (r : Rest) : Option Rest :=
  if w.toList.isPrefixOf r.chars then some ⟨r.chars.drop w.length, r.line⟩ else none

def literalWords : List (String × Value) :=
  [("null", .null), ("true", .bool true), ("false", .bool false), ("NaN", .float .nan),
   ("Infinity", .float (.infinity false)), ("-Infinity", .float (.infinity true))]

def wordOrNumber (r : Rest) : Except ReadError (Value × Rest) :=
  match literalWords.findSome? fun w => (word? w.1 r).map (w.2, ·) with
  | some hit => .ok hit
  | none =>
    match r.chars with
    | '-' :: cs => readNumber true ⟨cs, r.line⟩
    | _ => readNumber false r

mutual
def readValue : Nat → Rest → Except ReadError (Value × Rest)
  | 0, r => r.fail .value
  | fuel + 1, r =>
    match r.chars with
    | '"' :: cs => do
      let (s, r) ← readString ⟨cs, r.line⟩
      return (.text s, r)
    | '[' :: cs =>
      let r := Rest.skip ⟨cs, r.line⟩
      match r.chars with
      | ']' :: cs => .ok (.list [], ⟨cs, r.line⟩)
      | _ => do
        let (items, r) ← readItems fuel [] r
        return (.list items, r)
    | '\x7b' :: cs =>
      let r := Rest.skip ⟨cs, r.line⟩
      match r.chars with
      | '\x7d' :: cs => .ok (.map [], ⟨cs, r.line⟩)
      | _ => do
        let (entries, r) ← readEntries fuel [] r
        return (.map entries, r)
    | _ => wordOrNumber r

def readItems : Nat → List Value → Rest → Except ReadError (List Value × Rest)
  | 0, _, r => r.fail .value
  | fuel + 1, acc, r => do
    let (v, r) ← readValue fuel r
    let r := r.skip
    match r.chars with
    | ']' :: cs => return ((v :: acc).reverse, ⟨cs, r.line⟩)
    | ',' :: cs => readItems fuel (v :: acc) (Rest.skip ⟨cs, r.line⟩)
    | _ => r.fail .comma

def readEntries : Nat → List (Scalar × Value) → Rest →
    Except ReadError (List (Scalar × Value) × Rest)
  | 0, _, r => r.fail .propertyName
  | fuel + 1, acc, r =>
    match r.chars with
    | '"' :: cs => do
      let (k, r) ← readString ⟨cs, r.line⟩
      let r := r.skip
      match r.chars with
      | ':' :: cs =>
        let (v, r) ← readValue fuel (Rest.skip ⟨cs, r.line⟩)
        let acc := Value.insert acc (.text k) v
        let r := r.skip
        match r.chars with
        | '\x7d' :: cs => return (acc, ⟨cs, r.line⟩)
        | ',' :: cs => readEntries fuel acc (Rest.skip ⟨cs, r.line⟩)
        | _ => r.fail .comma
      | _ => r.fail .colon
    | _ => r.fail .propertyName
end

/-- The value of a JSON text. -/
def read (s : String) : Except ReadError Value :=
  match s.toList with
  | '\ufeff' :: _ => .error (.malformed .byteOrderMark 1)
  | cs => do
    let (v, r) ← readValue (cs.length + 1) (Rest.skip ⟨cs, 1⟩)
    let r := r.skip
    if r.chars.isEmpty then return v else r.fail .extraData

end CapsuleKit.Json
