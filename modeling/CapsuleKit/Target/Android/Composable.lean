import CapsuleKit.Compile.Names
import CapsuleKit.Composition.Walk
import CapsuleKit.Json.Writer
import CapsuleKit.Text.Escape

/-!
# Pages in Compose

`Composable.render` writes an instance as a call: its props are named arguments, its slots are
lambdas as named arguments, one argument a line with a comma behind each, and its children are the
trailing lambda. An unsupported instance leaves a comment, followed by its children and what stands
in its slots.
-/

namespace CapsuleKit.Composable

/-- Four spaces for each level of a depth, none for a negative one, and for each level below it. -/
def pad (depth : Int) (level : Nat) : String :=
  Text.spaces (4 * (depth.toNat + level))

/-- The argument for a prop. -/
def literal (type : Option String) (v : Value) : String :=
  if type = some "action" then "\x7b\x7d"
  else
    match v with
    | .bool b => if b then "true" else "false"
    | .int n => intText n
    | .float x => x.text ++ "f"
    | .text s => Text.dollarQuoted s
    | v => Text.dollarQuoted (Json.compact v)

/-- The named arguments for the props of an instance. -/
def arguments (d : Definition) (props : List (String × Value)) : List String :=
  (Instance.usable props).map fun p => p.1 ++ " = " ++ literal (d.propType? p.1) p.2

/-- The line that stands for an instance whose capsule is not supported. -/
def placeholder (depth : Int) (id : String) : String :=
  pad depth 0 ++ "// unsupported capsule: " ++ id

/-- A slot as a named lambda. -/
def slotArgument (depth : Int) (slot : String) (inner : List String) : List String :=
  (pad depth 1 ++ slot ++ " = \x7b") :: (inner ++ [pad depth 1 ++ "\x7d,"])

/-- The lines of a call up to the children. -/
def callHead (depth : Int) (component : String) (args : List String)
    (slots : List (List String)) (tail : String) : List String :=
  if slots.isEmpty then
    [pad depth 0 ++ component ++ "(" ++ String.intercalate ", " args ++ ")" ++ tail]
  else
    (pad depth 0 ++ component ++ "(") ::
      (args.map (fun a => pad depth 1 ++ a ++ ",") ++ slots.flatten ++
        [pad depth 0 ++ ")" ++ tail])

/-- A call with the lines of its children as the trailing lambda. -/
def call (depth : Int) (component : String) (args : List String) (slots : List (List String))
    (isLeaf : Bool) (inner : List String) : List String :=
  if isLeaf then callHead depth component args slots ""
  else callHead depth component args slots " \x7b" ++ inner ++ [pad depth 0 ++ "\x7d"]

variable (r : Registry) (platform : String)

mutual

/-- The lines of an instance at a depth. -/
def render (depth : Int) : Instance → List String
  | ⟨id, capsuleId, _, props, children, slots⟩ =>
    match r.supported platform capsuleId with
    | none => placeholder depth id :: (renderList depth children ++ renderLoose depth slots)
    | some d =>
      call depth d.componentName (arguments d props) (renderSlots depth slots) children.isEmpty
        (renderList (depth + 1) children)

def renderList (depth : Int) : List Instance → List String
  | [] => []
  | i :: is => render depth i ++ renderList depth is

/-- The slots of a supported instance, as arguments. -/
def renderSlots (depth : Int) : List (String × List Instance) → List (List String)
  | [] => []
  | (slot, is) :: ss => slotArgument depth slot (renderList (depth + 2) is) :: renderSlots depth ss

/-- The slots of an unsupported instance: only what stands in them. -/
def renderLoose (depth : Int) : List (String × List Instance) → List String
  | [] => []
  | (_, is) :: ss => renderList depth is ++ renderLoose depth ss

end

end CapsuleKit.Composable
