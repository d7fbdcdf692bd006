import CapsuleKit.Proofs.Jsx.Written
import CapsuleKit.Proofs.Walk

/-!
# Reading back a page

`Jsx.nodes` are the nodes that an instance stands for. The lines that `Jsx.render` writes for it are
read as these nodes (`readsLines_render`), by induction over the instance, its children and its slots.
-/

namespace CapsuleKit.Jsx

/-! ### Instances -/

section Instances

variable (r : Registry) (platform : String)

mutual

def nodes : Instance → List Node
  | ⟨id, capsuleId, _, props, children, slots⟩ =>
    match r.supported platform capsuleId with
    | none => .unsupported id :: (nodesOfList children ++ nodesOfLoose slots)
    | some d =>
      [.element d.componentName ((Instance.usable props).map (.ofProp d) ++ fragments slots)
        (nodesOfList children)]

def nodesOfList : List Instance → List Node
  | [] => []
  | i :: is => nodes i ++ nodesOfList is

/-- The slots of a supported instance are attributes. -/
def fragments : List (String × List Instance) → List Attribute
  | [] => []
  | (slot, is) :: ss => .fragment slot (nodesOfList is) :: fragments ss

/-- The slots of an unsupported instance: only what stands in them. -/
def nodesOfLoose : List (String × List Instance) → List Node
  | [] => []
  | (_, is) :: ss => nodesOfList is ++ nodesOfLoose ss

end

theorem readsAttributes (d : Definition) (props : List (String × Value)) :
    List.Forall₂ ReadsAttribute (attributes d props)
      ((Instance.usable props).map (Attribute.ofProp d)) := by
  rw [attributes, List.forall₂_map_left_iff, List.forall₂_map_right_iff, List.forall₂_same]
  intro p hp
  have husable := (List.mem_filter.1 hp).2
  exact readsAttribute_prop d (Bool.and_eq_true_iff.1 husable).2

mutual

theorem readsLines_render : ∀ (depth : Int) (i : Instance),
    (∀ j ∈ Instance.forest [i], j.HasPlainSlots r platform) →
      ReadsLines (render r platform depth i) (nodes r platform i)
  | depth, ⟨id, capsuleId, name, props, children, slots⟩, h => by
    rw [Instance.forest_cons, Instance.forest_nil, List.append_nil, List.forall_mem_cons,
      List.forall_mem_append] at h
    obtain ⟨hnames, hchildren, hslots⟩ := h
    cases hs : r.supported platform capsuleId with
    | none =>
      simp only [render, nodes, hs]
      exact (readsLines_placeholder depth id).append
        ((readsLines_renderList depth children hchildren).append
          (readsLines_renderLoose depth slots hslots))
    | some d =>
      simp only [render, nodes, hs]
      refine readsLines_element d.isPlainName_componentName ?_
        (readsLines_renderList (depth + 1) children hchildren) ?_
      · exact List.rel_append (readsAttributes d props)
          (readsAttributes_renderSlots depth slots (hnames (by rw [hs]; rfl)) hslots)
      · intro hempty
        rw [List.isEmpty_iff.1 hempty]
        rfl

theorem readsLines_renderList : ∀ (depth : Int) (is : List Instance),
    (∀ j ∈ Instance.forest is, j.HasPlainSlots r platform) →
      ReadsLines (renderList r platform depth is) (nodesOfList r platform is)
  | _, [], _ => .nil
  | depth, i :: is, h => by
    rw [← List.singleton_append, Instance.forest_append, List.forall_mem_append] at h
    exact (readsLines_render depth i h.1).append (readsLines_renderList depth is h.2)

theorem readsAttributes_renderSlots : ∀ (depth : Int) (ss : List (String × List Instance)),
    (∀ s ∈ ss, Text.isPlainName s.1 = true) →
    (∀ j ∈ Instance.slotForest ss, j.HasPlainSlots r platform) →
      List.Forall₂ ReadsAttribute (renderSlots r platform depth ss) (fragments r platform ss)
  | _, [], _, _ => .nil
  | depth, (slot, is) :: ss, hnames, h => by
    rw [Instance.slotForest_cons, List.forall_mem_append] at h
    obtain ⟨hslot, hrest⟩ := List.forall_mem_cons.1 hnames
    exact .cons (readsAttribute_slot hslot (readsLines_renderList (depth + 2) is h.1))
      (readsAttributes_renderSlots depth ss hrest h.2)

theorem readsLines_renderLoose : ∀ (depth : Int) (ss : List (String × List Instance)),
    (∀ j ∈ Instance.slotForest ss, j.HasPlainSlots r platform) →
      ReadsLines (renderLoose r platform depth ss) (nodesOfLoose r platform ss)
  | _, [], _ => .nil
  | depth, (_, is) :: ss, h => by
    rw [Instance.slotForest_cons, List.forall_mem_append] at h
    exact (readsLines_renderList depth is h.1).append (readsLines_renderLoose depth ss h.2)

end

end Instances

theorem ReadsLines.read_joinLines {ls : List String} {ns : List Node} (h : ReadsLines ls ns) :
    read (Text.joinLines ls) = some ns := by
  rw [read, h.run_joinLines]
  rfl

/-- A page can be read back. Whatever texts, values and ids an instance and all that is nested in it
have, what is written for it is read as its nodes, if the slots of supported instances have names. -/
theorem read_render (r : Registry) (platform : String) (depth : Int) (i : Instance)
    (h : ∀ j ∈ Instance.forest [i], j.HasPlainSlots r platform) :
    read (Text.joinLines (render r platform depth i)) = some (nodes r platform i) :=
  (readsLines_render r platform depth i h).read_joinLines

/-- Marks of all kinds in texts, a list and an id, in places where they could end something. -/
theorem read_render_marks :
    let d : Definition := { id := "box", name := "Box", platforms := [("web", { framework := "react" })] }
    let leaf : Instance := { id := "leaf", capsuleId := "box" }
    let gone : Instance := { id := "x*/\x7d<Box>", capsuleId := "gone" }
    let i : Instance :=
      { id := "top"
        capsuleId := "box"
        props := [("plain", .text "a > \x7d"), ("code", .text "\"\x7d/>"),
          ("list", .list [.text "\x7d", .bool true]), ("on", .bool true), ("a b", .int 1)]
        children := [leaf]
        slots := [("side", [gone])] }
    read (Text.joinLines (render ⟨[d]⟩ "web" 2 i)) =
      some [.element "Box"
        [.value "plain" "\"a > \x7d\"", .value "code" "\x7b\"\\\"\x7d/>\"\x7d",
          .value "list" "\x7b[\"\x7d\", true]\x7d", .bare "on",
          .fragment "side" [.comment " unsupported capsule: x* /\x7d<Box> "]]
        [.element "Box" [] []]] := by
  intro d leaf gone i
  have hslots : ∀ j ∈ Instance.forest [i], j.HasPlainSlots ⟨[d]⟩ "web" := by
    rw [show Instance.forest [i] = [i, leaf, gone] from rfl]
    simp only [Instance.HasPlainSlots, List.forall_mem_cons, List.not_mem_nil, false_implies,
      implies_true, and_true]
    decide
  have hname : d.componentName = "Box" := by decide +kernel
  rw [read_render ⟨[d]⟩ "web" 2 i hslots, ← hname]
  rfl

end CapsuleKit.Jsx
