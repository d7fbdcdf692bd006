/-!
# Bytes written as letters

`base64Decode?` reads bytes that are written with 64 characters, four of them for three bytes, as
mail and documents do. Characters that are not among them are ignored; the last group has to be
complete or filled up with `=`, behind which nothing is read.
-/

namespace CapsuleKit.Text

/-- The six bits that a character stands for. -/
def base64Value? (c : Char) : Option Nat :=
  if c.isUpper then some (c.toNat - 65)
  else if c.isLower then some (c.toNat - 71)
  else if c.isDigit then some (c.toNat + 4)
  else if c = '+' then some 62
  else if c = '/' then some 63
  else none

/-- What is left of a group: how many characters of it were read, and the bits that do not fill a
byte yet. -/
structure Base64Group where
  size : Nat := 0
  bits : Nat := 0

/-- One more character of a group, with the byte that it completes. -/
def Base64Group.push (g : Base64Group) (v : Nat) : Base64Group × List UInt8 :=
  match g.size with
  | 0 => (⟨1, v⟩, [])
  | 1 => (⟨2, v % 16⟩, [UInt8.ofNat (4 * g.bits + v / 16)])
  | 2 => (⟨3, v % 4⟩, [UInt8.ofNat (16 * g.bits + v / 4)])
  | _ => (⟨0, 0⟩, [UInt8.ofNat (64 * g.bits + v)])

/-- Reads on in a group; `fill` counts the signs that fill it up. -/
def base64From (g : Base64Group) (fill : Nat) : List Char → Option (List UInt8)
  | [] => if g.size = 0 then some [] else none
  | c :: cs =>
    if c = '=' then
      if 2 ≤ g.size ∧ 4 ≤ g.size + fill + 1 then some []
      else base64From g (if 2 ≤ g.size then fill + 1 else fill) cs
    else
      match base64Value? c with
      | none => base64From g fill cs
      | some v =>
        let (next, bytes) := g.push v
        (base64From next 0 cs).map (bytes ++ ·)

/-- The bytes that a text writes. -/
def base64Decode? (cs : List Char) : Option (List UInt8) :=
  base64From {} 0 cs

end CapsuleKit.Text
