import CapsuleKit.Compile.Names
import CapsuleKit.Composition.Walk
import CapsuleKit.Json.Writer
import CapsuleKit.Text.Escape

/-!
# Pages in SwiftUI

`SwiftView.render` writes an instance as a call: its props are labelled arguments, its slots are
closures as labelled arguments, one argument a line, and its children are the trailing closure. An
unsupported instance leaves a comment, followed by its children and what stands in its slots.
-/

namespace CapsuleKit.SwiftView

/-- Four spaces for each level of a depth, none for a negative one, and for each level below it. -/
def pad (depth : Int) (level : Nat) : String :=
  Text.spaces (4 * (depth.toNat + level))

/-- The argument for a prop. -/
def literal (type : Option String) (v : Value) : String :=
  if type = some "action" then "\x7b\x7d"
  else
    match v with
    | .bool b => if b then "true" else "false"
    | .int n => intText n
    | .float x => x.text
    | .text s => Text.quoted s
    | v => Text.quoted (Json.compact v)

/-- The labelled arguments for the props of an instance. -/
def arguments (d : Definition) (props : List (String × Value)) : List String :=
  (Instance.usable props).map fun p => p.1 ++ ": " ++ literal (d.propType? p.1) p.2

/-- The line that stands for an instance whose capsule is not supported. -/
def placeholder (depth : Int) (id : String) : String :=
  pad depth 0 ++ "// unsupported capsule: " ++ id

/-- A slot as a labelled closure; an empty one holds an empty view. -/
def slotArgument (depth : Int) (slot : String) (inner : List String) : List String :=
  (pad depth 1 ++ slot ++ ": \x7b") ::
    ((if inner.isEmpty then [pad depth 2 ++ "EmptyView()"] else inner) ++
      [pad depth 1 ++ "\x7d"])

/-- A comma behind the last line. -/
def withComma : List String → List String
  | [] => []
  | [l] => [l ++ ","]
  | l :: ls => l :: withComma ls

/-- Arguments of one or more lines each, with a comma behind all but the last. -/
def separated : List (List String) → List String
  | [] => []
  | [a] => a
  | a :: rest => withComma a ++ separated rest

/-- The lines of a call up to the children. -/
def callHead (depth : Int) (component : String) (args : List String)
    (slots : List (List String)) (tail : String) : List String :=
  if slots.isEmpty then
    [pad depth 0 ++ component ++ "(" ++ String.intercalate ", " args ++ ")" ++ tail]
  else
    (pad depth 0 ++ component ++ "(") ::
      (separated (args.map (fun a => [pad depth 1 ++ a]) ++ slots) ++ [pad depth 0 ++ ")" ++ tail])

/-- A call with the lines of its children as the trailing closure. -/
def call (depth : Int) (component : String) (args : List String) (slots : List (List String))
    (isLeaf : Bool) (inner : List String) : List String :=
  if isLeaf then callHead depth component args slots ""
  else callHead depth component args slots " \x7b" ++ inner ++ [pad depth 0 ++ "\x7d"]

variable (r : Registry) (platform : String)

mutual

/-- The lines of an instance at a depth. -/
def render (depth : Int) : Instance → List String
  | ⟨id, capsuleId, _, props, children, slots⟩ =>
    match r.supported platform capsuleId with
    | none => placeholder depth id :: (renderList depth children ++ renderLoose depth slots)
    | some d =>
      call depth d.componentName (arguments d props) (renderSlots depth slots) children.isEmpty
        (renderList (depth + 1) children)

def renderList (depth : Int) : List Instance → List String
  | [] => []
  | i :: is => render depth i ++ renderList depth is

/-- The slots of a supported instance, as arguments. -/
def renderSlots (depth : Int) : List (String × List Instance) → List (List String)
  | [] => []
  | (slot, is) :: ss => slotArgument depth slot (renderList (depth + 2) is) :: renderSlots depth ss

/-- The slots of an unsupported instance: only what stands in them. -/
def renderLoose (depth : Int) : List (String × List Instance) → List String
  | [] => []
  | (_, is) :: ss => renderList depth is ++ renderLoose depth ss

end

end CapsuleKit.SwiftView
