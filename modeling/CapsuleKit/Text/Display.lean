import CapsuleKit.Text.Digit
import CapsuleKit.Text.Printable

/-!
# Texts shown in quotes

`display` writes a text the way messages show it: in single quotes, or in double quotes when that
saves escaping, with every character that is not printable written by its code.
-/

namespace CapsuleKit.Text

def displayChar (quote : Char) (c : Char) : List Char :=
  if c = quote ∨ c = '\\' then ['\\', c]
  else if c = '\t' then ['\\', 't']
  else if c = '\n' then ['\\', 'n']
  else if c = '\r' then ['\\', 'r']
  else if isPrintable c then [c]
  else if c.toNat < 0x100 then '\\' :: 'x' :: hexDigits 2 c.toNat
  else if c.toNat < 0x10000 then '\\' :: 'u' :: hexDigits 4 c.toNat
  else '\\' :: 'U' :: hexDigits 8 c.toNat

/-- The quotes around a text: single ones unless it holds a single quote and no double one. -/
def quoteFor (cs : List Char) : Char :=
  if cs.contains '\'' && !cs.contains '"' then '"' else '\''

/-- A text in quotes. -/
def display (s : String) : String :=
  let cs := s.toList
  let quote := quoteFor cs
  String.ofList (quote :: cs.flatMap (displayChar quote) ++ [quote])

def displayByte (quote : Char) (b : UInt8) : List Char :=
  if 127 ≤ b.toNat then '\\' :: 'x' :: hexDigits 2 b.toNat
  else displayChar quote (Char.ofNat b.toNat)

/-- Bytes in quotes, with a mark in front. -/
def displayBytes (data : List UInt8) : String :=
  let quote := quoteFor (data.map fun b => Char.ofNat b.toNat)
  String.ofList ('b' :: quote :: data.flatMap (displayByte quote) ++ [quote])

end CapsuleKit.Text
