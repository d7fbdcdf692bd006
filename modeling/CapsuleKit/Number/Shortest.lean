import CapsuleKit.Number.Binary64

/-!
# Shortest decimal text

`Binary64.digits` finds the fewest decimal digits that read back as the number, and among those the
ones nearest to it, a tie going to the even last digit. `Binary64.text` lays them out: positional
notation for decimal exponents from -4 to 15, otherwise one digit before the point and an exponent
of at least two digits. `Binary64.tenths` writes one place behind the point instead.
-/

namespace CapsuleKit

/-- The decimal digits of a natural number. -/
def decimalText (n : Nat) : String :=
  String.ofList (Nat.toDigits 10 n)

/-- The decimal text of a whole number. -/
def intText (n : Int) : String :=
  if n < 0 then "-" ++ decimalText n.natAbs else decimalText n.natAbs

namespace Binary64

/-- The real numbers that round to a significand and exponent, as `low / den` to `high / den`, with
the number itself as `value / den`; the ends belong to it when the significand is even. -/
structure Interval where
  low : Nat
  value : Nat
  high : Nat
  den : Nat
  closed : Bool

def interval (m : Nat) (e : Int) : Interval :=
  let lowStep := if m = Nat.pow 2 52 && decide (-1074 < e) then 1 else 2
  let up := if 0 ≤ e then Nat.pow 2 e.toNat else 1
  let den := if 0 ≤ e then 4 else 4 * Nat.pow 2 (-e).toNat
  ⟨(4 * m - lowStep) * up, 4 * m * up, (4 * m + 2) * up, den, m % 2 == 0⟩

/-- Whether `d · 10 ^ p` lies in the interval. -/
def Interval.holds (i : Interval) (d : Nat) (p : Int) : Bool :=
  let num := if 0 ≤ p then d * Nat.pow 10 p.toNat * i.den else d * i.den
  let scale := if 0 ≤ p then 1 else Nat.pow 10 (-p).toNat
  if i.closed then decide (i.low * scale ≤ num) && decide (num ≤ i.high * scale)
  else decide (i.low * scale < num) && decide (num < i.high * scale)

/-- The whole number below `value / 10 ^ p`, and the remainder against half a step. -/
def Interval.floorAt (i : Interval) (p : Int) : Nat × Ordering :=
  let num := if 0 ≤ p then i.value else i.value * Nat.pow 10 (-p).toNat
  let den := if 0 ≤ p then i.den * Nat.pow 10 p.toNat else i.den
  (num / den, compare (2 * (num % den)) den)

/-- The candidate with step `10 ^ p`, if one of the two neighbours reads back. -/
def Interval.pick (i : Interval) (p : Int) : Option Nat :=
  let (d, half) := i.floorAt p
  match i.holds d p, i.holds (d + 1) p with
  | true, true =>
    match half with
    | .lt => some d
    | .gt => some (d + 1)
    | .eq => some (d + d % 2)
  | true, false => some d
  | false, true => some (d + 1)
  | false, false => none

def Interval.search (i : Interval) (top : Int) : Nat → Nat → Nat × Int
  | 0, _ => (i.value / i.den, 0)
  | fuel + 1, n =>
    match i.pick (top - Int.ofNat n) with
    | some d => if d = 0 then i.search top fuel (n + 1) else (d, top - Int.ofNat n)
    | none => i.search top fuel (n + 1)

/-- An exponent `k` with `value / den < 10 ^ k`, and not larger than needed by more than one. -/
def Interval.top (i : Interval) : Int :=
  let size := Int.ofNat (bitLength i.value) - Int.ofNat (bitLength i.den)
  (size * 30103) / 100000 + 2

def trimZeros : Nat → Nat → Int → Nat × Int
  | 0, d, p => (d, p)
  | fuel + 1, d, p => if d % 10 = 0 && d != 0 then trimZeros fuel (d / 10) (p + 1) else (d, p)

/-- Digits and exponent of a finite number other than zero: it reads back from
`digits · 10 ^ exponent`. -/
def digits (m : Nat) (e : Int) : Nat × Int :=
  let i := interval m e
  let (d, p) := i.search i.top 20 1
  trimZeros 400 d p

def zeros (n : Nat) : List Char :=
  List.replicate n '0'

def exponentText (e : Int) : List Char :=
  let ds := Nat.toDigits 10 e.natAbs
  (if e < 0 then '-' else '+') :: (if ds.length < 2 then '0' :: ds else ds)

/-- The layout of digits `ds` whose first digit stands for `10 ^ e`. -/
def layout (ds : List Char) (e : Int) : List Char :=
  if e < -4 ∨ 15 < e then
    match ds with
    | [] => []
    | [d] => d :: 'e' :: exponentText e
    | d :: rest => d :: '.' :: rest ++ 'e' :: exponentText e
  else if e < 0 then '0' :: '.' :: zeros (-e - 1).toNat ++ ds
  else
    let whole := e.toNat + 1
    if ds.length ≤ whole then ds ++ zeros (whole - ds.length) ++ ['.', '0']
    else ds.take whole ++ '.' :: ds.drop whole

/-- The text of a number: the fewest digits that read back. -/
def text (x : Binary64) : String :=
  match x.parts with
  | .nan => "nan"
  | .infinite s => if s then "-inf" else "inf"
  | .finite s m e =>
    let body :=
      if m = 0 then ['0', '.', '0']
      else
        let (d, p) := digits m e
        let ds := Nat.toDigits 10 d
        layout ds (p + Int.ofNat ds.length - 1)
    String.ofList (if s then '-' :: body else body)

/-- A number with one place behind the point: the exact value is rounded, a tie to the even digit. -/
def tenths (x : Binary64) : String :=
  match x.toRatio? with
  | none => x.text
  | some (negative, num, den) =>
    let n := roundDiv (10 * num) den
    (if negative then "-" else "") ++ decimalText (n / 10) ++ "." ++ decimalText (n % 10)

end Binary64

end CapsuleKit
