/-!
# Double-precision numbers

`Binary64` is a binary floating-point number of 64 bits, held by its bits, so that equality is
decidable and every operation is integer arithmetic. `parts` reads the bits as sign, significand and
exponent, and `ofRatio` rounds an exact quotient to the nearest number, a tie to the even one.
-/

namespace CapsuleKit

/-- A 64-bit binary floating-point number. -/
structure Binary64 where
  bits : UInt64
  deriving DecidableEq

namespace Binary64

/-- What the bits stand for: no number, an infinity, or `± significand · 2 ^ exponent`. -/
inductive Parts where
  | nan
  | infinite (negative : Bool)
  | finite (negative : Bool) (significand : Nat) (exponent : Int)
  deriving DecidableEq

def negative (x : Binary64) : Bool :=
  decide (Nat.pow 2 63 ≤ x.bits.toNat)

def parts (x : Binary64) : Parts :=
  let n := x.bits.toNat
  let field := n / Nat.pow 2 52 % Nat.pow 2 11
  let fraction := n % Nat.pow 2 52
  if field = 2047 then
    if fraction = 0 then .infinite x.negative else .nan
  else if field = 0 then .finite x.negative fraction (-1074)
  else .finite x.negative (Nat.pow 2 52 + fraction) (Int.ofNat field - 1075)

def pack (negative : Bool) (magnitude : Nat) : Binary64 :=
  ⟨UInt64.ofNat ((if negative then Nat.pow 2 63 else 0) + magnitude)⟩

def zero : Binary64 := ⟨0⟩

def nan : Binary64 := ⟨UInt64.ofNat (2047 * Nat.pow 2 52 + Nat.pow 2 51)⟩

def infinity (negative : Bool) : Binary64 :=
  pack negative (2047 * Nat.pow 2 52)

/-- The number of binary digits of `n`. -/
def bitLength (n : Nat) : Nat :=
  if n = 0 then 0 else n.log2 + 1

/-- `num / den` to the nearest whole number, a tie to the even one. -/
def roundDiv (num den : Nat) : Nat :=
  let q := num / den
  let twice := 2 * (num % den)
  if twice < den then q else if den < twice then q + 1 else q + q % 2

/-- `num / den · 2 ^ -e` to the nearest whole number. -/
def scaled (num den : Nat) (e : Int) : Nat :=
  if 0 ≤ e then roundDiv num (den * Nat.pow 2 e.toNat)
  else roundDiv (num * Nat.pow 2 (-e).toNat) den

/-- The number nearest to `± num / den`, an infinity when that is out of range. -/
def ofRatio (negative : Bool) (num den : Nat) : Binary64 :=
  if num = 0 then pack negative 0
  else
    let guess := Int.ofNat (bitLength num) - Int.ofNat (bitLength den) - 53
    let atLeast : Int → Bool := fun e =>
      if 0 ≤ e then decide (Nat.pow 2 53 * (den * Nat.pow 2 e.toNat) ≤ num)
      else decide (Nat.pow 2 53 * den ≤ num * Nat.pow 2 (-e).toNat)
    let e := max (if atLeast guess then guess + 1 else guess) (-1074)
    let m := scaled num den e
    let e := if m = Nat.pow 2 53 then e + 1 else e
    let m := if m = Nat.pow 2 53 then Nat.pow 2 52 else m
    if 971 < e then infinity negative
    else if m < Nat.pow 2 52 then pack negative m
    else pack negative ((e + 1075).toNat * Nat.pow 2 52 + (m - Nat.pow 2 52))

/-- The number nearest to a whole number. -/
def ofInt (n : Int) : Binary64 :=
  ofRatio (decide (n < 0)) n.natAbs 1

/-- Whether a number is an infinity. -/
def isInfinite (x : Binary64) : Bool :=
  match x.parts with
  | .infinite _ => true
  | _ => false

/-- The number nearest to `± digits · 10 ^ exponent`; exponents far out of range are cut short. -/
def ofDecimal (negative : Bool) (digits : Nat) (exponent : Int) : Binary64 :=
  if digits = 0 then pack negative 0
  else
    let size := Int.ofNat (bitLength digits)
    if exponent > 400 then infinity negative
    else if exponent < -400 - size then pack negative 0
    else if 0 ≤ exponent then ofRatio negative (digits * Nat.pow 10 exponent.toNat) 1
    else ofRatio negative digits (Nat.pow 10 (-exponent).toNat)

/-- A finite number as `num / den` with a sign, `none` for the others. -/
def toRatio? (x : Binary64) : Option (Bool × Nat × Nat) :=
  match x.parts with
  | .finite s m e =>
    some (if 0 ≤ e then (s, m * Nat.pow 2 e.toNat, 1) else (s, m, Nat.pow 2 (-e).toNat))
  | _ => none

/-- The whole number that a number is equal to, if it is one. -/
def toInt? (x : Binary64) : Option Int :=
  match x.toRatio? with
  | some (s, num, den) =>
    if num % den = 0 then some (if s then -Int.ofNat (num / den) else Int.ofNat (num / den))
    else none
  | none => none

/-- Whether a number is at least some whole number. -/
def atLeast (x : Binary64) (n : Nat) : Bool :=
  match x.parts with
  | .nan => false
  | .infinite s => !s
  | .finite .. =>
    match x.toRatio? with
    | some (s, num, den) => !s && decide (n * den ≤ num)
    | none => false

/-- Whether a number is at most zero. -/
def isNonPositive (x : Binary64) : Bool :=
  match x.parts with
  | .nan => false
  | .infinite s => s
  | .finite s m _ => s || m == 0

/-- The sign bit turned. -/
def neg (x : Binary64) : Binary64 :=
  pack (!x.negative) (x.bits.toNat % Nat.pow 2 63)

/-- The finite number `num / den` with its sign, rounded. -/
def ofSigned (num : Int) (den : Nat) : Binary64 :=
  ofRatio (decide (num < 0)) num.natAbs den

def signed (s : Bool) (num : Nat) : Int :=
  if s then -Int.ofNat num else Int.ofNat num

/-- Sum, rounded; opposite infinities have none. -/
def add (x y : Binary64) : Binary64 :=
  match x.toRatio?, y.toRatio? with
  | some (s, a, b), some (t, c, d) =>
    if s && t && a == 0 && c == 0 then pack true 0
    else ofSigned (signed s a * Int.ofNat d + signed t c * Int.ofNat b) (b * d)
  | _, _ =>
    match x.parts, y.parts with
    | .nan, _ => nan
    | _, .nan => nan
    | .infinite s, .infinite t => if s = t then x else nan
    | .infinite _, _ => x
    | _, _ => y

/-- Product, rounded; an infinity and zero have none. -/
def mul (x y : Binary64) : Binary64 :=
  match x.parts, y.parts with
  | .nan, _ => nan
  | _, .nan => nan
  | .infinite s, .infinite t => infinity (s != t)
  | .infinite s, .finite t m _ => if m = 0 then nan else infinity (s != t)
  | .finite s m _, .infinite t => if m = 0 then nan else infinity (s != t)
  | .finite .., .finite .. =>
    match x.toRatio?, y.toRatio? with
    | some (s, a, b), some (t, c, d) => ofRatio (s != t) (a * c) (b * d)
    | _, _ => nan

end Binary64

end CapsuleKit
