import CapsuleKit.Compile.Names
import CapsuleKit.Composition.Walk
import CapsuleKit.Json.Writer
import CapsuleKit.Text.Escape

/-!
# Pages in JSX

`Jsx.render` writes an instance with all that is nested in it as JSX. A supported instance is an
element with its props as attributes, its slots as attributes that hold fragments, and its children
inside. An unsupported one leaves a comment, followed by its children and what stands in its slots.
-/

namespace CapsuleKit.Jsx

/-- Two spaces for each level of a depth, none for a negative one, and for each level below it. -/
def pad (depth : Int) (level : Nat) : String :=
  Text.spaces (2 * (depth.toNat + level))

/-- Whether a text may stand between the quotes of an attribute as it is. -/
def isPlainAttribute (s : String) : Bool :=
  s.toList.all fun c =>
    !(c == '"' || c == '\\' || c == '&' || c == '\n' || c == '\r' || c == '\t')

/-- An expression in braces. -/
def braced (s : String) : String :=
  "\x7b" ++ s ++ "\x7d"

/-- The right-hand side of an attribute; none for a true one, which is written bare. -/
def attributeValue? (type : Option String) (v : Value) : Option String :=
  if type = some "action" then some "\x7b() => \x7b\x7d\x7d"
  else
    match v with
    | .bool true => none
    | .bool false => some "\x7bfalse\x7d"
    | .int n => some (braced (intText n))
    | .float x => some (braced x.text)
    | .text s => some (if isPlainAttribute s then "\"" ++ s ++ "\"" else braced (Text.quoted s))
    | v => some (braced (Json.compact v))

def propAttribute (d : Definition) (p : String × Value) : String :=
  match attributeValue? (d.propType? p.1) p.2 with
  | none => p.1
  | some v => p.1 ++ "=" ++ v

/-- The attributes for the props of an instance. -/
def attributes (d : Definition) (props : List (String × Value)) : List String :=
  (Instance.usable props).map (propAttribute d)

/-- A text node: braces, angle brackets and ampersands need a literal. -/
def textNode (s : String) : String :=
  if s.toList.any fun c => c == '\x7b' || c == '\x7d' || c == '<' || c == '>' || c == '&' then
    braced (Text.quoted s)
  else s

/-- The line that stands for an instance whose capsule is not supported. -/
def placeholder (depth : Int) (id : String) : String :=
  pad depth 0 ++ "\x7b/* unsupported capsule: " ++ Text.commentText id ++ " */\x7d"

/-- An opening tag without its end. -/
def openTag (depth : Int) (component : String) (attributes : List String) : String :=
  pad depth 0 ++ "<" ++ String.intercalate " " (component :: attributes)

/-- A slot as an attribute with a fragment. -/
def slotAttribute (depth : Int) (slot : String) (inner : List String) : String :=
  slot ++ "=\x7b<>\n" ++ Text.joinLines inner ++ "\n" ++ pad depth 1 ++ "</>\x7d"

/-- An element with the lines of its children inside. -/
def element (depth : Int) (component : String) (attributes : List String) (isLeaf : Bool)
    (inner : List String) : List String :=
  if isLeaf then [openTag depth component attributes ++ " />"]
  else
    (openTag depth component attributes ++ ">") ::
      (inner ++ [pad depth 0 ++ "</" ++ component ++ ">"])

variable (r : Registry) (platform : String)

mutual

/-- The lines of an instance at a depth. -/
def render (depth : Int) : Instance → List String
  | ⟨id, capsuleId, _, props, children, slots⟩ =>
    match r.supported platform capsuleId with
    | none => placeholder depth id :: (renderList depth children ++ renderLoose depth slots)
    | some d =>
      element depth d.componentName (attributes d props ++ renderSlots depth slots)
        children.isEmpty (renderList (depth + 1) children)

def renderList (depth : Int) : List Instance → List String
  | [] => []
  | i :: is => render depth i ++ renderList depth is

/-- The slots of a supported instance, as attributes. -/
def renderSlots (depth : Int) : List (String × List Instance) → List String
  | [] => []
  | (slot, is) :: ss => slotAttribute depth slot (renderList (depth + 2) is) :: renderSlots depth ss

/-- The slots of an unsupported instance: only what stands in them. -/
def renderLoose (depth : Int) : List (String × List Instance) → List String
  | [] => []
  | (_, is) :: ss => renderList depth is ++ renderLoose depth ss

end

end CapsuleKit.Jsx
