import CapsuleKit.Text.Basic
import CapsuleKit.Text.Upper

/-!
# Words and names

A text is cut into words at blanks, `_`, `-`, `.` and at the humps of mixed case; all other
punctuation is dropped. `words` does the cutting, and the case conversions join the words again:
`camelCase`, `pascalCase`, `snakeCase`, `kebabCase`. `identifier` keeps only letters and digits.
-/

namespace CapsuleKit.Text

/-- Blanks, `_`, `-` and `.` stand between words. -/
def isSeparator (c : Char) : Bool :=
  isBlank c || c == '_' || c == '-' || c == '.'

/-- How many characters of `cs` belong to the word that starts with `c`.

Digits stand together, and so do small letters. A run of capitals is a word of its own, but it
leaves its last letter to small letters that follow it, and a single capital takes them. -/
def wordTail (c : Char) (cs : List Char) : Nat :=
  if c.isDigit then (cs.takeWhile Char.isDigit).length
  else if c.isLower then (cs.takeWhile Char.isLower).length
  else
    let capitals := (cs.takeWhile Char.isUpper).length
    let small := ((cs.drop capitals).takeWhile Char.isLower).length
    if small = 0 then capitals else if capitals = 0 then small else capitals - 1

/-- The words of a piece that holds ASCII letters and digits only. -/
def humps : List Char → List (List Char)
  | [] => []
  | c :: cs => (c :: cs.take (wordTail c cs)) :: humps (cs.drop (wordTail c cs))
termination_by cs => cs.length
decreasing_by
  simp only [List.length_drop, List.length_cons]
  omega

/-- The words of a text, as lists of characters. -/
def charWords (cs : List Char) : List (List Char) :=
  (cs.splitOnP isSeparator).flatMap fun piece => humps (piece.filter Char.isAlphanum)

/-- The words of a text. -/
def words (s : String) : List String :=
  (charWords s.toList).map String.ofList

/-- Small letters for capitals; the other characters stay. -/
def lowerWord (s : String) : String :=
  String.ofList (s.toList.map Char.toLower)

/-- The words of a text in small letters. -/
def lowerWords (s : String) : List String :=
  (words s).map lowerWord

/-- `"Main Button"` becomes `"mainButton"`. -/
def camelCase (s : String) : String :=
  match lowerWords s with
  | [] => ""
  | w :: ws => w ++ String.join (ws.map capitalize)

/-- `"my cool app"` becomes `"MyCoolApp"`. -/
def pascalCase (s : String) : String :=
  String.join ((lowerWords s).map capitalize)

/-- `"HomePage"` becomes `"home_page"`. -/
def snakeCase (s : String) : String :=
  String.intercalate "_" (lowerWords s)

/-- `"My Cool App"` becomes `"my-cool-app"`. -/
def kebabCase (s : String) : String :=
  String.intercalate "-" (lowerWords s)

/-- The ASCII letters and digits of a text, with `_` in front of a leading digit. -/
def identifier (s : String) : String :=
  match s.toList.filter Char.isAlphanum with
  | [] => ""
  | c :: cs => String.ofList (if c.isDigit then '_' :: c :: cs else c :: cs)

def isNameStart (c : Char) : Bool :=
  c.isAlpha || c == '_'

def isNamePart (c : Char) : Bool :=
  c.isAlphanum || c == '_'

/-- A letter or `_`, then letters, digits and `_`, all of ASCII. -/
def isPlainName (s : String) : Bool :=
  match s.toList with
  | [] => false
  | c :: cs => isNameStart c && cs.all isNamePart

end CapsuleKit.Text
