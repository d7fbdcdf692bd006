import CapsuleKit.Number.Reading
import CapsuleKit.Text.Digit
import CapsuleKit.Text.Words

/-!
# Colours of the console

The words that name a colour in markup: basic colours in two brightnesses, shades with a number,
greys, `color(n)`, `rgb(r,g,b)` and `#rrggbb`.
-/

namespace CapsuleKit.Console

/-- What a word says about a colour. A word in the form of three numbers may lack one of them. -/
inductive ColorReading where
  | color
  | noColor
  | lacking
  deriving DecidableEq

/-- The basic colours. -/
def basicColors : List String :=
  ["black", "red", "green", "yellow", "blue", "magenta", "cyan", "white"]

/-- The other colours with the numbers of their shades; a dash stands for the bare name. -/
def shadedColors : List (String × String) :=
  [("aquamarine", "13"), ("blue", "13"), ("blue_violet", "-"), ("cadet_blue", "-"),
   ("chartreuse", "1234"), ("cornflower_blue", "-"), ("cornsilk", "1"), ("cyan", "123"),
   ("dark_blue", "-"), ("dark_cyan", "-"), ("dark_goldenrod", "-"), ("dark_green", "-"),
   ("dark_khaki", "-"), ("dark_magenta", "-"), ("dark_olive_green", "123"), ("dark_orange", "-3"),
   ("dark_red", "-"), ("dark_sea_green", "-1234"), ("dark_slate_gray", "123"),
   ("dark_turquoise", "-"), ("dark_violet", "-"), ("deep_pink", "1234"), ("deep_sky_blue", "1234"),
   ("dodger_blue", "123"), ("gold", "13"), ("green", "134"), ("green_yellow", "-"),
   ("honeydew", "2"), ("hot_pink", "-23"), ("indian_red", "-1"), ("khaki", "13"),
   ("light_coral", "-"), ("light_cyan", "13"), ("light_goldenrod", "123"), ("light_green", "-"),
   ("light_pink", "134"), ("light_salmon", "13"), ("light_sea_green", "-"),
   ("light_sky_blue", "13"), ("light_slate_blue", "-"), ("light_slate_gray", "-"),
   ("light_slate_grey", "-"), ("light_steel_blue", "-13"), ("light_yellow", "3"),
   ("magenta", "123"), ("medium_orchid", "-13"), ("medium_purple", "-1234"),
   ("medium_spring_green", "-"), ("medium_turquoise", "-"), ("medium_violet_red", "-"),
   ("misty_rose", "13"), ("navajo_white", "13"), ("navy_blue", "-"), ("orange", "134"),
   ("orange_red", "1"), ("orchid", "-12"), ("pale_green", "13"), ("pale_turquoise", "14"),
   ("pale_violet_red", "1"), ("pink", "13"), ("plum", "1234"), ("purple", "-34"), ("red", "13"),
   ("rosy_brown", "-"), ("royal_blue", "1"), ("salmon", "1"), ("sandy_brown", "-"),
   ("sea_green", "123"), ("sky_blue", "123"), ("slate_blue", "13"), ("spring_green", "1234"),
   ("steel_blue", "-13"), ("tan", "-"), ("thistle", "13"), ("turquoise", "24"), ("violet", "-"),
   ("wheat", "14"), ("yellow", "1234")]

/-- The greys that have a name, in hundredths of white. -/
def greyLevels : List Nat :=
  [0, 3, 7, 11, 15, 19, 23, 27, 30, 35, 37, 39, 42, 46, 50, 53, 54, 58, 62, 63, 66, 69, 70, 74, 78,
   82, 84, 85, 89, 93, 100]

/-- Whether a word is a name with a number out of some, or a bare name. -/
def isShade (word : String) (name shades : String) : Bool :=
  shades.toList.any fun d => word == (if d = '-' then name else name.push d)

/-- Whether a word is the name of a colour. -/
def isColorName (word : String) : Bool :=
  word == "default" || basicColors.contains word ||
    basicColors.any (fun c => word == "bright_" ++ c) ||
    greyLevels.any (fun k => word == "grey" ++ decimalText k || word == "gray" ++ decimalText k) ||
    shadedColors.any (fun c => isShade word c.1 c.2)

/-- What stands in parentheses behind a word. -/
def inParentheses? (word : String) (cs : List Char) : Option (List Char) :=
  let start := word.toList ++ ['(']
  if start.isPrefixOf cs && cs.getLast? == some ')' then
    some ((cs.drop start.length).dropLast)
  else none

/-- Three numbers up to 255 with commas between them. -/
def readRgb (cs : List Char) : ColorReading :=
  if cs.isEmpty || !cs.all fun c => c == ',' || (Text.decimalValue? c).isSome then .noColor
  else
    let parts := List.splitOnP (· == ',') cs
    if parts.length ≠ 3 then .noColor
    else if parts.any fun p => p.isEmpty || Number.digitLimit < p.length then .lacking
    else if parts.all fun p => Number.ofDigits (Text.asciiDigits p) ≤ 255 then .color
    else .noColor

/-- A number up to 255 of at most three digits. -/
def isPaletteNumber (cs : List Char) : Bool :=
  !cs.isEmpty && cs.length ≤ 3 && cs.all Char.isDigit && Number.ofDigits cs ≤ 255

/-- What a word in small letters says about a colour. -/
def ColorReading.ofWord (word : String) : ColorReading :=
  let cs := word.toList
  if isColorName word then .color
  else
    match inParentheses? "rgb" cs, inParentheses? "color" cs, cs with
    | some inner, _, _ => readRgb inner
    | none, some inner, _ => if isPaletteNumber inner then .color else .noColor
    | none, none, '#' :: ds =>
      if ds.length = 6 ∧ ds.all fun c => (Text.hexValue? c).isSome then .color else .noColor
    | _, _, _ => .noColor

end CapsuleKit.Console
