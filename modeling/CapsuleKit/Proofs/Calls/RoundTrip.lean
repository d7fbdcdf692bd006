import CapsuleKit.Proofs.Calls.Layout

/-!
# Reading back a page of calls

`Calls.nodes` are the nodes that an instance stands for: a call for a supported one, a comment and
what is nested in it for any other. A renderer whose layout can be read writes an instance as lines
that are read as these nodes (`readsLines_one`), by induction over the instance, its children and
its slots. The main statement has this for SwiftUI and Compose, with commas and brackets.
-/

namespace CapsuleKit.Calls

/-! ### The nodes of an instance -/

section Nodes

variable (literal : Option String → Value → String) (emptySlot : List Node) (r : Registry)
  (platform : String)

mutual

/-- The nodes that an instance stands for. -/
def nodes : Instance → List Node
  | ⟨id, capsuleId, _, props, children, slots⟩ =>
    match r.supported platform capsuleId with
    | none => .unsupported id :: (nodesOfList children ++ nodesOfLoose slots)
    | some d =>
      [.call d.componentName (literals literal d props ++ closures slots)
        (if children.isEmpty then none else some (nodesOfList children))]

def nodesOfList : List Instance → List Node
  | [] => []
  | i :: is => nodes i ++ nodesOfList is

/-- The slots of a supported instance are arguments. -/
def closures : List (String × List Instance) → List Argument
  | [] => []
  | (slot, is) :: ss =>
    .closure slot (if is.isEmpty then emptySlot else nodesOfList is) :: closures ss

/-- The slots of an unsupported instance: only what stands in them. -/
def nodesOfLoose : List (String × List Instance) → List Node
  | [] => []
  | (_, is) :: ss => nodesOfList is ++ nodesOfLoose ss

end

theorem nodes_ne_nil (i : Instance) : nodes literal emptySlot r platform i ≠ [] := by
  obtain ⟨id, capsuleId, name, props, children, slots⟩ := i
  cases h : r.supported platform capsuleId <;> simp [nodes, h]

end Nodes

/-- The texts that an instance puts on a page beside its props: the slots of a supported one have
names, and without support its id, which goes into a comment, is on one line. -/
structure IsNameable (r : Registry) (platform : String) (i : Instance) : Prop where
  slots : i.HasPlainSlots r platform
  id : r.supported platform i.capsuleId = none → IsUnbroken i.id.toList

/-! ### Rendered instances -/

section Rendered

variable {D : Dialect} {literal : Option String → Value → String} {emptySlot : List Node}
  {L : Layout (List String)} {ReadsSlot : List String → Argument → Prop} {r : Registry}
  {platform : String} {one : Int → Instance → List String}
  {list : Int → List Instance → List String}
  {slots : Int → List (String × List Instance) → List (List String)}
  {loose : Int → List (String × List Instance) → List String}

theorem isEmpty_list (hR : L.IsRenderer r platform one list slots loose) (depth : Int)
    {is : List Instance}
    (h : ReadsLines D (list depth is) (nodesOfList literal emptySlot r platform is)) :
    (list depth is).isEmpty = is.isEmpty := by
  cases is with
  | nil => rw [hR.list_nil]; rfl
  | cons i is =>
    cases hlines : list depth (i :: is) with
    | cons => rfl
    | nil =>
      rw [hlines] at h
      have hnil := h.eq_nil
      rw [nodesOfList, List.append_eq_nil_iff] at hnil
      exact absurd hnil.1 (nodes_ne_nil _ _ _ _ i)

variable (hrender : IsReadable D literal emptySlot L ReadsSlot ∧
  L.IsRenderer r platform one list slots loose)

include hrender

mutual

theorem readsLines_one : ∀ (depth : Int) (i : Instance),
    (∀ j ∈ Instance.forest [i], IsNameable r platform j) →
      ReadsLines D (one depth i) (nodes literal emptySlot r platform i)
  | depth, ⟨id, capsuleId, name, props, children, ss⟩, h => by
    rw [Instance.forest_cons, Instance.forest_nil, List.append_nil, List.forall_mem_cons,
      List.forall_mem_append] at h
    obtain ⟨hself, hchildren, hslots⟩ := h
    cases hs : r.supported platform capsuleId with
    | none =>
      rw [hrender.2.unsupported depth _ hs]
      simp only [nodes, hs]
      exact (hrender.1.placeholder depth (hself.id hs)).append
        ((readsLines_list depth children hchildren).append (readsLines_loose depth ss hslots))
    | some d =>
      rw [hrender.2.supported depth _ d hs]
      simp only [nodes, hs]
      exact hrender.1.call depth d props _ (readsSlots depth ss (hself.slots (by rw [hs]; rfl)) hslots)
        (readsLines_list (depth + 1) children hchildren)

theorem readsLines_list : ∀ (depth : Int) (is : List Instance),
    (∀ j ∈ Instance.forest is, IsNameable r platform j) →
      ReadsLines D (list depth is) (nodesOfList literal emptySlot r platform is)
  | depth, [], _ => by
    rw [hrender.2.list_nil]
    exact .nil
  | depth, i :: is, h => by
    rw [← List.singleton_append, Instance.forest_append, List.forall_mem_append] at h
    rw [hrender.2.list_cons]
    exact (readsLines_one depth i h.1).append (readsLines_list depth is h.2)

theorem readsSlots : ∀ (depth : Int) (ss : List (String × List Instance)),
    (∀ s ∈ ss, Text.isPlainName s.1 = true) →
      (∀ j ∈ Instance.slotForest ss, IsNameable r platform j) →
        List.Forall₂ ReadsSlot (slots depth ss) (closures literal emptySlot r platform ss)
  | depth, [], _, _ => by
    rw [hrender.2.slots_nil]
    exact .nil
  | depth, (slot, is) :: ss, hnames, h => by
    rw [Instance.slotForest_cons, List.forall_mem_append] at h
    obtain ⟨hslot, hrest⟩ := List.forall_mem_cons.1 hnames
    have hinner := readsLines_list (depth + 2) is h.1
    rw [hrender.2.slots_cons, closures, ← isEmpty_list hrender.2 (depth + 2) hinner]
    exact .cons (hrender.1.slot depth hslot hinner) (readsSlots depth ss hrest h.2)

theorem readsLines_loose : ∀ (depth : Int) (ss : List (String × List Instance)),
    (∀ j ∈ Instance.slotForest ss, IsNameable r platform j) →
      ReadsLines D (loose depth ss) (nodesOfLoose literal emptySlot r platform ss)
  | depth, [], _ => by
    rw [hrender.2.loose_nil]
    exact .nil
  | depth, (slot, is) :: ss, h => by
    rw [Instance.slotForest_cons, List.forall_mem_append] at h
    rw [hrender.2.loose_cons]
    exact (readsLines_list depth is h.1).append (readsLines_loose depth ss h.2)

end

end Rendered

/-! ### Whole pages -/

/-- Lines that are the lines of their text and are read as nodes, with commas behind arguments and
balanced brackets. -/
structure IsFaithful (D : Dialect) (lines : List String) (ns : List Node) : Prop where
  unbroken : ∀ line ∈ lines, IsUnbroken line.toList
  reads : read D lines = some ns
  commas : ∀ before line next after, lines = before ++ line :: next :: after →
    ∀ l m, readLine D line = some l → readLine D next = some m → l.Fits D m
  balanced : IsBalanced lines

variable {D : Dialect} {lines : List String}

theorem mapM_readLine {ls : List Line} (h : List.Forall₂ (Written D) lines ls) :
    lines.mapM (readLine D) = some ls := by
  induction h with
  | nil => rfl
  | cons hline _ ih => rw [List.mapM_cons, hline.reads, ih]; rfl

theorem foldlM_scanLine {ls : List Line} (h : List.Forall₂ (Written D) lines ls)
    (stack : List Char) :
    lines.foldlM scanLine stack = ls.foldlM (fun stack l => l.effect stack) stack := by
  induction h generalizing stack with
  | nil => rfl
  | @cons line l lines ls hline _ ih =>
    rw [List.foldlM_cons, List.foldlM_cons, hline.scans]
    exact congrArg _ (funext ih)

theorem ReadsLines.isFaithful {ns : List Node} (h : ReadsLines D lines ns) :
    IsFaithful D lines ns := by
  obtain ⟨ls, hls, hrun⟩ := h [] []
  rw [List.nil_append] at hrun
  have hread : read D lines = some ns := by
    rw [read, mapM_readLine hls]
    show (State.run D ⟨.content, [], []⟩ ls).bind _ = _
    rw [hrun]
    rfl
  refine ⟨?_, hread, ?_, ?_⟩
  · exact ((List.forall₂_and_left lines ls).1 (hls.imp fun _ _ hw => ⟨hw.unbroken, hw⟩)).1
  · rintro before line next after rfl l m hl hm
    exact fits_of_read hread hl hm
  · rw [IsBalanced, foldlM_scanLine hls]
    exact State.effect_run hrun

/-- A page of calls can be read back. Whatever values the props of an instance and of all that is
nested in it have, at any depth, the lines in SwiftUI and those in Compose are read as its nodes, if
the slots have names and the ids that go into comments have no line breaks. In SwiftUI an empty slot
holds an empty view, and the last argument on a line of its own has no comma; in Compose it has one
like the others. -/
theorem isFaithful_render (r : Registry) (platform : String) (depth : Int) (i : Instance)
    (h : ∀ j ∈ Instance.forest [i], IsNameable r platform j) :
    IsFaithful swift (SwiftView.render r platform depth i)
        (nodes SwiftView.literal [emptyView] r platform i) ∧
      IsFaithful kotlin (Composable.render r platform depth i)
        (nodes Composable.literal [] r platform i) :=
  have hswift := readsLines_one ⟨isReadable_swift, Layout.isRenderer_swift r platform⟩ depth i h
  have hkotlin :=
    readsLines_one ⟨isReadable_compose, Layout.isRenderer_compose r platform⟩ depth i h
  ⟨hswift.isFaithful, hkotlin.isFaithful⟩

/-- Marks of all kinds in literals and in the id of an unsupported instance, which stands in a slot
beside an empty one, above children. -/
theorem isFaithful_render_marks :
    let d : Definition :=
      { id := "box", name := "Box", platforms := [("app", { framework := "any" })] }
    let leaf : Instance :=
      { id := "leaf", capsuleId := "box", props := [("n", .int (-3)), ("on", .bool true)] }
    let gone : Instance := { id := "x) \x7b \"", capsuleId := "gone", children := [leaf] }
    let i : Instance :=
      { id := "top"
        capsuleId := "box"
        props := [("text", .text "\"), \\ $a\n\x7d"), ("list", .list [.text ", ", .bool true])]
        children := [leaf]
        slots := [("side", [gone]), ("none", [])] }
    let call : Node := .call "Box" [.literal "n" "-3", .literal "on" "true"] none
    (∀ j ∈ Instance.forest [i], IsNameable ⟨[d]⟩ "app" j) ∧
      read swift (SwiftView.render ⟨[d]⟩ "app" 2 i) =
        some [.call "Box"
          [.literal "text" "\"\\\"), \\\\ $a\\n\x7d\"",
            .literal "list" "\"[\\\", \\\", true]\"",
            .closure "side" [.comment " unsupported capsule: x) \x7b \"", call],
            .closure "none" [emptyView]]
          (some [call])] ∧
      read kotlin (Composable.render ⟨[d]⟩ "app" 2 i) =
        some [.call "Box"
          [.literal "text" "\"\\\"), \\\\ \\$a\\n\x7d\"",
            .literal "list" "\"[\\\", \\\", true]\"",
            .closure "side" [.comment " unsupported capsule: x) \x7b \"", call],
            .closure "none" []]
          (some [call])] := by
  intro d leaf gone i call
  have hnames : ∀ j ∈ Instance.forest [i], IsNameable ⟨[d]⟩ "app" j := by
    rw [show Instance.forest [i] = [i, leaf, gone, leaf] from rfl]
    simp only [List.forall_mem_cons, List.not_mem_nil, false_implies, implies_true, and_true]
    refine ⟨⟨fun _ => ?_, nofun⟩, ⟨fun _ => by decide, nofun⟩, ⟨nofun, fun _ => ?_⟩,
      ⟨fun _ => by decide, nofun⟩⟩
    · decide
    · decide
  have hname : d.componentName = "Box" := by decide +kernel
  have hcall : call = .call d.componentName [.literal "n" "-3", .literal "on" "true"] none := by
    rw [hname]
  obtain ⟨hswift, hkotlin⟩ := isFaithful_render ⟨[d]⟩ "app" 2 i hnames
  rw [hswift.reads, hkotlin.reads, hcall, ← hname]
  exact ⟨hnames, rfl, rfl⟩

end CapsuleKit.Calls
