import CapsuleKit.Text.Basic
import CapsuleKit.Text.Digit

/-!
# Colours

A colour is three channels. `Rgb.ofHex?` reads the form `#rrggbb`, `Rgb.hex` writes it, and the
literals of the target languages follow from the channels. A text that is no such colour counts as
a neutral grey, except that style sheets also take named colours and colour functions.
-/

namespace CapsuleKit

/-- Colour channels, each from 0 to 255. -/
structure Rgb where
  red : Nat
  green : Nat
  blue : Nat
  deriving DecidableEq

namespace Rgb

/-- The channel that two hexadecimal digits write. -/
def channel? (high low : Char) : Option Nat :=
  match Text.hexValue? high, Text.hexValue? low with
  | some a, some b => some (16 * a + b)
  | _, _ => none

/-- Reads exactly six hexadecimal digits. -/
def ofDigits? : List Char → Option Rgb
  | [a, b, c, d, e, f] =>
    match channel? a b, channel? c d, channel? e f with
    | some r, some g, some b => some ⟨r, g, b⟩
    | _, _, _ => none
  | _ => none

/-- Six hexadecimal digits, with `#` in front or without it. -/
def ofHex? (s : String) : Option Rgb :=
  match s.toList with
  | '#' :: cs => ofDigits? cs
  | cs => ofDigits? cs

/-- The six small hexadecimal digits of the channels. -/
def hexChars (c : Rgb) : List Char :=
  Text.hexDigits 2 c.red ++ Text.hexDigits 2 c.green ++ Text.hexDigits 2 c.blue

/-- The form `#rrggbb` in small letters. -/
def hex (c : Rgb) : String :=
  String.ofList ('#' :: c.hexChars)

/-- The colour that stands for a text that cannot be read. -/
def neutral : Rgb := ⟨128, 128, 128⟩

/-- Reads a colour; what is no colour is neutral grey. -/
def parse (s : String) : Rgb :=
  (ofHex? s).getD neutral

/-- `n / 255` with three decimals, rounded to the nearest. -/
def fraction (n : Nat) : String :=
  let thousandths := (2000 * n + 255) / 510
  decimal (thousandths / 1000) ++ "." ++ decimal (thousandths / 100 % 10) ++
    decimal (thousandths / 10 % 10) ++ decimal (thousandths % 10)
where
  decimal (d : Nat) : String := String.ofList [Char.ofNat (48 + d)]

/-- The colour as fractions of one, for Swift source. -/
def swift (c : Rgb) : String :=
  "Color(red: " ++ fraction c.red ++ ", green: " ++ fraction c.green ++ ", blue: " ++
    fraction c.blue ++ ")"

/-- The colour as a packed number with full opacity, for Kotlin source. -/
def kotlin (c : Rgb) : String :=
  "Color(0xFF" ++ String.ofList (c.hexChars.map Char.toUpper) ++ ")"

end Rgb

namespace Css

def isHexDigit (c : Char) : Bool :=
  (Text.hexValue? c).isSome

/-- The characters that may stand between the brackets of a colour function. -/
def isArgumentChar (c : Char) : Bool :=
  c.isAlphanum || c == '.' || c == ',' || c == '%' || c == '/' || c == '-' || Text.isBlank c

/-- `#` with three to eight digits, a name, or a name with arguments in brackets. -/
def isColor : List Char → Bool
  | '#' :: ds => decide (3 ≤ ds.length) && decide (ds.length ≤ 8) && ds.all isHexDigit
  | cs =>
    !(cs.takeWhile Char.isAlpha).isEmpty &&
      match cs.dropWhile Char.isAlpha with
      | [] => true
      | '(' :: rest => rest.getLast? == some ')' && rest.dropLast.all isArgumentChar
      | _ => false

/-- The text of a colour in a style sheet. -/
def color (s : String) : String :=
  match Rgb.ofHex? s with
  | some c => c.hex
  | none => if isColor (Text.strip s).toList then Text.strip s else Rgb.neutral.hex

/-- Unquoted font names: letters, digits, spaces and `,` `.` `_` `-`, a letter or digit first. -/
def isFont : List Char → Bool
  | [] => false
  | c :: cs =>
    c.isAlphanum &&
      cs.all fun d => d.isAlphanum || d == ' ' || d == ',' || d == '.' || d == '_' || d == '-'

/-- The text of a font list in a style sheet, or a default. -/
def font (value : Option String) (default : String) : String :=
  match value with
  | some s => if isFont (Text.strip s).toList then Text.strip s else default
  | none => default

end Css

end CapsuleKit
