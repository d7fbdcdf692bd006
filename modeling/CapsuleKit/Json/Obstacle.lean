import CapsuleKit.Document.KeyOrder
import CapsuleKit.Number.Reading

/-!
# What JSON cannot hold

`Json.obstacle?` finds what keeps a value from being written as JSON with sorted keys: a value or a
key of a kind that JSON does not know, keys without a common order, a whole number with too many
digits, or a collection inside itself. Values that come from JSON have at most long numbers.
-/

namespace CapsuleKit.Json

/-- What keeps a value from being written. -/
inductive Obstacle where
  | kind (name : String)
  | keyKind (name : String)
  | keys (clash : KeyClash)
  | overlong
  | circle

def Obstacle.message : Obstacle → String
  | .kind name => "Object of type " ++ name ++ " is not JSON serializable"
  | .keyKind name => "keys must be str, int, float, bool or None, not " ++ name
  | .keys clash => clash.message
  | .overlong => Number.tooLongToWrite
  | .circle => "Circular reference detected"

/-- Whether a whole number has more digits than are written. -/
def isOverlong (n : Int) : Bool :=
  Nat.pow 10 Number.digitLimit ≤ n.natAbs

def scalarObstacle? : Scalar → Option Obstacle
  | .int n => if isOverlong n then some .overlong else none
  | .moment m => some (.kind (Value.kindName (.moment m)))
  | .bytes data => some (.kind (Value.kindName (.bytes data)))
  | _ => none

def keyObstacle? : Scalar → Option Obstacle
  | .int n => if isOverlong n then some .overlong else none
  | .moment m => some (.keyKind (Scalar.keyKind (.moment m)))
  | .bytes data => some (.keyKind (Scalar.keyKind (.bytes data)))
  | _ => none

/-- The first obstacle of entries in the order of their keys. -/
def sortedObstacle? (entries : List (Scalar × Option Obstacle)) : Option Obstacle :=
  match sortKeys entries with
  | .error clash => some (.keys clash)
  | .ok sorted => sorted.firstM fun e => keyObstacle? e.1 <|> e.2

mutual

/-- The first thing that keeps a value from being written. A collection inside itself is gone
through once more, for what stands in front of the place where it repeats itself. -/
def obstacle? : Value → Option Obstacle
  | .scalar s => scalarObstacle? s
  | .list items => itemsObstacle? items
  | .map entries => sortedObstacle? (entryObstacles entries)
  | .set members => some (.kind (Value.kindName (.set members)))
  | .again v => obstacle? v <|> some .circle

def itemsObstacle? : List Value → Option Obstacle
  | [] => none
  | v :: vs => obstacle? v <|> itemsObstacle? vs

def entryObstacles : List (Scalar × Value) → List (Scalar × Option Obstacle)
  | [] => []
  | (k, v) :: es => (k, obstacle? v) :: entryObstacles es

end

end CapsuleKit.Json
