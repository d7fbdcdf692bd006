import CapsuleKit.Capsule.Registry
import CapsuleKit.Composition.Basic

/-!
# Walks

`Instance.walk` lists an instance and all that is nested in it, parents first, children before
slots, slots in their order, each with its depth. What a composition uses is read off the walk:
capsules, definitions and dependencies, each once, in the order of their first occurrence.
-/

namespace CapsuleKit

namespace Instance

mutual

/-- The instances of a tree in pre-order, each with its depth. -/
def walk (depth : Nat) : Instance → List (Instance × Nat)
  | ⟨id, capsuleId, name, props, children, slots⟩ =>
    (⟨id, capsuleId, name, props, children, slots⟩, depth) ::
      (walkList (depth + 1) children ++ walkSlots (depth + 1) slots)

def walkList (depth : Nat) : List Instance → List (Instance × Nat)
  | [] => []
  | i :: is => walk depth i ++ walkList depth is

def walkSlots (depth : Nat) : List (String × List Instance) → List (Instance × Nat)
  | [] => []
  | (_, is) :: ss => walkList depth is ++ walkSlots depth ss

end

/-- The instances of several trees in pre-order. -/
def forest (is : List Instance) : List Instance :=
  (walkList 0 is).map (·.1)

end Instance

namespace Composition

/-- The walk of the root tree, then that of the flat list. -/
def walk (c : Composition) : List (Instance × Nat) :=
  Instance.walkList 0 c.root.toList ++ Instance.walkList 0 c.capsules

/-- The ids of the capsules that occur, each once. -/
def usedCapsules (c : Composition) : List String :=
  (c.walk.map fun v => v.1.capsuleId).eraseDups

/-- The definitions of the capsules that occur and support a platform. -/
def usedDefinitions (c : Composition) (r : Registry) (platform : String) : List Definition :=
  c.usedCapsules.filterMap (r.supported platform)

/-- The templates of the capsules that occur, for a platform. -/
def usedTemplates (c : Composition) (r : Registry) (platform : String) : List Template :=
  c.usedCapsules.filterMap (r.template · platform)

/-- The definitions in use together with their templates. -/
def components (c : Composition) (r : Registry) (platform : String) :
    List (Definition × Template) :=
  (c.usedDefinitions r platform).filterMap fun d => (d.template? platform).map fun t => (d, t)

/-- The dependencies of the templates in use, each once. -/
def dependencies (c : Composition) (r : Registry) (platform : String) : List String :=
  ((c.usedTemplates r platform).flatMap (·.dependencies)).eraseDups

end Composition

end CapsuleKit
