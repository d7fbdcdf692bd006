import CapsuleKit.Proofs.Walk
import CapsuleKit.Target.Android.Composable
import CapsuleKit.Target.Ios.View
import CapsuleKit.Target.Web.Jsx

/-!
# Pages as trees

What a renderer writes is decided in two steps. `Piece.ofList` turns instances into pieces: a call of
a component for a supported one, a placeholder, followed by what is nested in it, for any other. A
`Layout` then writes each piece as lines. The three renderers write the same pieces in three layouts
(`Layout.IsRenderer.list_eq`), so that they can be compared piece by piece.
-/

namespace CapsuleKit

/-- A part of a page: the call of a component with what stands in its slots and inside it, or the
note that a capsule is not supported. -/
inductive Piece where
  | call (definition : Definition) (props : List (String × Value))
      (slots : List (String × List Piece)) (children : List Piece)
  | placeholder (id : String)

namespace Piece

section OfInstances

variable (r : Registry) (platform : String)

mutual

def ofInstance : Instance → List Piece
  | ⟨id, capsuleId, _, props, children, slots⟩ =>
    match r.supported platform capsuleId with
    | none => .placeholder id :: (ofList children ++ ofLoose slots)
    | some d => [.call d props (ofSlots slots) (ofList children)]

def ofList : List Instance → List Piece
  | [] => []
  | i :: is => ofInstance i ++ ofList is

/-- The slots of a supported instance. -/
def ofSlots : List (String × List Instance) → List (String × List Piece)
  | [] => []
  | (slot, is) :: ss => (slot, ofList is) :: ofSlots ss

/-- The slots of an unsupported instance: only what stands in them. -/
def ofLoose : List (String × List Instance) → List Piece
  | [] => []
  | (_, is) :: ss => ofList is ++ ofLoose ss

end

end OfInstances

variable (r : Registry) (platform : String)

theorem ofInstance_ne_nil (i : Instance) : ofInstance r platform i ≠ [] := by
  obtain ⟨id, capsuleId, name, props, children, slots⟩ := i
  cases h : r.supported platform capsuleId <;> simp [ofInstance, h]

theorem isEmpty_ofList (is : List Instance) : (ofList r platform is).isEmpty = is.isEmpty := by
  cases is with
  | nil => rfl
  | cons i is => simp [ofList, ofInstance_ne_nil]

end Piece

/-! ### Layouts -/

/-- How a target writes pieces, at a depth; `σ` is the form of a written slot. -/
structure Layout (σ : Type) where
  placeholder : Int → String → String
  slot : Int → String → List String → σ
  call : Int → Definition → List (String × Value) → List σ → Bool → List String → List String

namespace Layout

variable {σ : Type} (L : Layout σ)

mutual

def write (depth : Int) : Piece → List String
  | .call d props slots children =>
    L.call depth d props (writeSlots depth slots) children.isEmpty (writeList (depth + 1) children)
  | .placeholder id => [L.placeholder depth id]

def writeList (depth : Int) : List Piece → List String
  | [] => []
  | p :: ps => write depth p ++ writeList depth ps

def writeSlots (depth : Int) : List (String × List Piece) → List σ
  | [] => []
  | (slot, ps) :: ss => L.slot depth slot (writeList (depth + 2) ps) :: writeSlots depth ss

end

theorem writeList_append (depth : Int) (ps qs : List Piece) :
    L.writeList depth (ps ++ qs) = L.writeList depth ps ++ L.writeList depth qs := by
  induction ps with
  | nil => rfl
  | cons p ps ih => simp only [List.cons_append, writeList, ih, List.append_assoc]

theorem writeList_singleton (depth : Int) (p : Piece) : L.writeList depth [p] = L.write depth p :=
  List.append_nil _

def jsx : Layout String where
  placeholder := Jsx.placeholder
  slot := Jsx.slotAttribute
  call depth d props slots isLeaf inner :=
    Jsx.element depth d.componentName (Jsx.attributes d props ++ slots) isLeaf inner

def swift : Layout (List String) where
  placeholder := SwiftView.placeholder
  slot := SwiftView.slotArgument
  call depth d props slots isLeaf inner :=
    SwiftView.call depth d.componentName (SwiftView.arguments d props) slots isLeaf inner

def compose : Layout (List String) where
  placeholder := Composable.placeholder
  slot := Composable.slotArgument
  call depth d props slots isLeaf inner :=
    Composable.call depth d.componentName (Composable.arguments d props) slots isLeaf inner

/-! ### Renderers -/

/-- The equations of a renderer for a layout: how it treats an instance, a list of instances, and
the slots of a supported and of an unsupported instance. -/
structure IsRenderer (r : Registry) (platform : String) (one : Int → Instance → List String)
    (list : Int → List Instance → List String)
    (slots : Int → List (String × List Instance) → List σ)
    (loose : Int → List (String × List Instance) → List String) : Prop where
  unsupported : ∀ depth i, r.supported platform i.capsuleId = none →
    one depth i = L.placeholder depth i.id :: (list depth i.children ++ loose depth i.slots)
  supported : ∀ depth i d, r.supported platform i.capsuleId = some d →
    one depth i = L.call depth d i.props (slots depth i.slots) i.children.isEmpty
      (list (depth + 1) i.children)
  list_nil : ∀ depth, list depth [] = []
  list_cons : ∀ depth i is, list depth (i :: is) = one depth i ++ list depth is
  slots_nil : ∀ depth, slots depth [] = []
  slots_cons : ∀ depth name is ss,
    slots depth ((name, is) :: ss) = L.slot depth name (list (depth + 2) is) :: slots depth ss
  loose_nil : ∀ depth, loose depth [] = []
  loose_cons : ∀ depth name is ss,
    loose depth ((name, is) :: ss) = list depth is ++ loose depth ss

namespace IsRenderer

variable {L} {r : Registry} {platform : String} {one : Int → Instance → List String}
  {list : Int → List Instance → List String}
  {slots : Int → List (String × List Instance) → List σ}
  {loose : Int → List (String × List Instance) → List String}
  (h : L.IsRenderer r platform one list slots loose)

include h

mutual

theorem one_eq : ∀ (depth : Int) (i : Instance),
    one depth i = L.writeList depth (Piece.ofInstance r platform i)
  | depth, ⟨id, capsuleId, name, props, children, ss⟩ => by
    cases hs : r.supported platform capsuleId with
    | none =>
      rw [h.unsupported depth _ hs, list_eq depth children, loose_eq depth ss]
      simp only [Piece.ofInstance, hs, writeList, write, writeList_append, List.singleton_append]
    | some d =>
      rw [h.supported depth _ d hs, list_eq (depth + 1) children, slots_eq depth ss]
      simp only [Piece.ofInstance, hs, writeList_singleton, write, Piece.isEmpty_ofList]

theorem list_eq : ∀ (depth : Int) (is : List Instance),
    list depth is = L.writeList depth (Piece.ofList r platform is)
  | depth, [] => h.list_nil depth
  | depth, i :: is => by
    rw [h.list_cons, one_eq depth i, list_eq depth is, Piece.ofList, writeList_append]

theorem slots_eq : ∀ (depth : Int) (ss : List (String × List Instance)),
    slots depth ss = L.writeSlots depth (Piece.ofSlots r platform ss)
  | depth, [] => h.slots_nil depth
  | depth, (name, is) :: ss => by
    rw [h.slots_cons, list_eq (depth + 2) is, slots_eq depth ss, Piece.ofSlots, writeSlots]

theorem loose_eq : ∀ (depth : Int) (ss : List (String × List Instance)),
    loose depth ss = L.writeList depth (Piece.ofLoose r platform ss)
  | depth, [] => h.loose_nil depth
  | depth, (name, is) :: ss => by
    rw [h.loose_cons, list_eq depth is, loose_eq depth ss, Piece.ofLoose, writeList_append]

end

end IsRenderer

variable (r : Registry) (platform : String)

theorem isRenderer_jsx : jsx.IsRenderer r platform (Jsx.render r platform)
    (Jsx.renderList r platform) (Jsx.renderSlots r platform) (Jsx.renderLoose r platform) where
  unsupported _ := fun ⟨_, _, _, _, _, _⟩ h => by simp only [Jsx.render, h]; rfl
  supported _ := fun ⟨_, _, _, _, _, _⟩ _ h => by simp only [Jsx.render, h]; rfl
  list_nil _ := rfl
  list_cons _ _ _ := rfl
  slots_nil _ := rfl
  slots_cons _ _ _ _ := rfl
  loose_nil _ := rfl
  loose_cons _ _ _ _ := rfl

theorem isRenderer_swift : swift.IsRenderer r platform (SwiftView.render r platform)
    (SwiftView.renderList r platform) (SwiftView.renderSlots r platform)
    (SwiftView.renderLoose r platform) where
  unsupported _ := fun ⟨_, _, _, _, _, _⟩ h => by simp only [SwiftView.render, h]; rfl
  supported _ := fun ⟨_, _, _, _, _, _⟩ _ h => by simp only [SwiftView.render, h]; rfl
  list_nil _ := rfl
  list_cons _ _ _ := rfl
  slots_nil _ := rfl
  slots_cons _ _ _ _ := rfl
  loose_nil _ := rfl
  loose_cons _ _ _ _ := rfl

theorem isRenderer_compose : compose.IsRenderer r platform (Composable.render r platform)
    (Composable.renderList r platform) (Composable.renderSlots r platform)
    (Composable.renderLoose r platform) where
  unsupported _ := fun ⟨_, _, _, _, _, _⟩ h => by simp only [Composable.render, h]; rfl
  supported _ := fun ⟨_, _, _, _, _, _⟩ _ h => by simp only [Composable.render, h]; rfl
  list_nil _ := rfl
  list_cons _ _ _ := rfl
  slots_nil _ := rfl
  slots_cons _ _ _ _ := rfl
  loose_nil _ := rfl
  loose_cons _ _ _ _ := rfl

end Layout

end CapsuleKit
