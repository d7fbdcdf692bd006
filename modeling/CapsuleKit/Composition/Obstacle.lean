import CapsuleKit.Composition.Walk
import CapsuleKit.Json.Obstacle

/-!
# Props that cannot be written

The first prop value, in the order in which a page is rendered, that has no literal in generated
code: a supported instance gives its own props, then its slots, then its children; of an unsupported
one only children and slots are rendered. Actions are never written out.
-/

namespace CapsuleKit

/-- What keeps the value of a prop from being written. -/
def propObstacle? (type : Option String) (v : Value) : Option Json.Obstacle :=
  if type = some "action" then none else Json.obstacle? v

/-- What keeps the props of an instance from being written. -/
def propsObstacle? (d : Definition) (props : List (String × Value)) : Option Json.Obstacle :=
  (Instance.usable props).firstM fun p => propObstacle? (d.propType? p.1) p.2

namespace Instance

variable (r : Registry) (platform : String)

mutual

/-- The first obstacle on the way through a tree. -/
def obstacle? : Instance → Option Json.Obstacle
  | ⟨_, capsuleId, _, props, children, slots⟩ =>
    match r.supported platform capsuleId with
    | none => listObstacle? children <|> slotsObstacle? slots
    | some d => propsObstacle? d props <|> slotsObstacle? slots <|> listObstacle? children

def listObstacle? : List Instance → Option Json.Obstacle
  | [] => none
  | i :: is => obstacle? i <|> listObstacle? is

def slotsObstacle? : List (String × List Instance) → Option Json.Obstacle
  | [] => none
  | (_, is) :: ss => listObstacle? is <|> slotsObstacle? ss

end

end Instance

end CapsuleKit
