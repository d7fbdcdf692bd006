import CapsuleKit.Console.Color
import CapsuleKit.Text.Lower

/-!
# Styles

A style in markup is a list of words: attributes, colours, `on` with the colour of the background,
`not` with an attribute that is taken away, and `link` with an address. Styles are not shown here,
but tags are compared by them: `styleName` gives every name of a style one written form.
-/

namespace CapsuleKit.Console

/-- The attributes of a style in the order in which they are written, with their short names. -/
def attributeNames : List (String × List String) :=
  [("bold", ["b"]), ("dim", ["d"]), ("italic", ["i"]), ("underline", ["u"]), ("blink", []),
    ("blink2", []), ("reverse", ["r"]), ("conceal", ["c"]), ("strike", ["s"]),
    ("underline2", ["uu"]), ("frame", []), ("encircle", []), ("overline", ["o"])]

def attributeOf? (word : String) : Option String :=
  (attributeNames.find? fun a => a.1 == word || a.2.contains word).map (·.1)

/-- What a style sets. -/
structure Style where
  attributes : List (String × Bool) := []
  color : Option String := none
  background : Option String := none
  link : Option String := none

/-- Why words are no style: one of them has no meaning, or it is a colour that lacks a number. -/
inductive StyleFault where
  | unknown
  | lacking
  deriving DecidableEq

/-- A word that has to be a colour. -/
def colorWord (word : String) : Except StyleFault String :=
  match ColorReading.ofWord word with
  | .color => .ok word
  | .noColor => .error .unknown
  | .lacking => .error .lacking

/-- The style that words describe. -/
def Style.ofWords : List String → Style → Except StyleFault Style
  | [], style => .ok style
  | first :: rest, style =>
    let word := Text.toLower first
    if word = "on" then
      match rest with
      | next :: rest => do
        let color ← colorWord (Text.toLower next)
        ofWords rest { style with background := some color }
      | [] => .error .unknown
    else if word = "not" then
      match rest with
      | next :: rest =>
        match attributeOf? next with
        | some a => ofWords rest { style with attributes := (a, false) :: style.attributes }
        | none => .error .unknown
      | [] => .error .unknown
    else if word = "link" then
      match rest with
      | next :: rest => ofWords rest { style with link := some next }
      | [] => .error .unknown
    else
      match attributeOf? word with
      | some a => ofWords rest { style with attributes := (a, true) :: style.attributes }
      | none => do
        let color ← colorWord word
        ofWords rest { style with color := some color }

/-- The one way in which a style is written. -/
def Style.text (style : Style) : String :=
  let attributes := attributeNames.filterMap fun a =>
    (style.attributes.lookup a.1).map fun on => if on then a.1 else "not " ++ a.1
  let words := attributes ++ style.color.toList ++
    (style.background.map ("on " ++ ·)).toList ++ (style.link.map ("link " ++ ·)).toList
  if words.isEmpty then "none" else String.intercalate " " words

/-- The words between blanks. -/
def blankWords (cs : List Char) : List String :=
  ((List.splitOnP Text.isBlank cs).filter (!·.isEmpty)).map String.ofList

/-- The name by which tags are compared: styles in their one written form, other names in small
letters. It is refused when it is a colour that lacks a number. -/
def styleName (name : List Char) : Except StyleFault String :=
  let words := blankWords name
  if words = ["none"] then .ok "none"
  else
    match Style.ofWords words {} with
    | .ok style => .ok style.text
    | .error .unknown => .ok (Text.toLower (String.ofList (Text.trimBoth Text.isBlank name)))
    | .error .lacking => .error .lacking

end CapsuleKit.Console
