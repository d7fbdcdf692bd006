import CapsuleKit.Proofs.CallForms
import Mathlib.Data.List.Nodup

/-!
# Labels of calls

The labels of a call are the keys of props and the names of slots. The keys of props are checked before
they become labels and the names of slots are not, so the labels of a page are usable exactly if its
slots have usable names that are no labels of props (`labels_usable_iff`).
-/

namespace CapsuleKit

/-- Whether texts can be the labels of one call: names, and none of them twice. -/
structure AreLabels (labels : List String) : Prop where
  plain : ∀ label ∈ labels, Text.isPlainName label = true
  nodup : labels.Nodup

namespace Instance

/-- Whether no two props have the same key, and no two slots the same name. -/
structure HasKeys (i : Instance) : Prop where
  props : (i.props.map (·.1)).Nodup
  slots : i.slotLabels.Nodup

theorem propLabels_sublist (i : Instance) : i.propLabels.Sublist (i.props.map (·.1)) :=
  List.filter_sublist.map _

variable {i : Instance}

theorem isPlainName_of_mem_propLabels {key : String} (h : key ∈ i.propLabels) :
    Text.isPlainName key = true := by
  obtain ⟨p, hp, rfl⟩ := List.mem_map.1 h
  exact (Bool.and_eq_true_iff.1 (List.mem_filter.1 hp).2).2

theorem areLabels_propLabels (h : (i.props.map (·.1)).Nodup) : AreLabels i.propLabels :=
  ⟨fun _ hkey => isPlainName_of_mem_propLabels hkey, h.sublist i.propLabels_sublist⟩

theorem areLabels_labels_iff (h : i.HasKeys) :
    AreLabels i.labels ↔
      ∀ name ∈ i.slotLabels, Text.isPlainName name = true ∧ name ∉ i.propLabels := by
  have hprops := areLabels_propLabels h.props
  constructor
  · intro hall name hname
    refine ⟨hall.plain name (List.mem_append_right _ hname), fun hmem => ?_⟩
    exact (List.nodup_append.1 hall.nodup).2.2 name hmem name hname rfl
  · intro hslots
    refine ⟨fun label hlabel => ?_, List.nodup_append.2 ⟨hprops.nodup, h.slots, ?_⟩⟩
    · rcases List.mem_append.1 hlabel with hlabel | hlabel
      · exact hprops.plain label hlabel
      · exact (hslots label hlabel).1
    · rintro label hlabel _ hname rfl
      exact (hslots label hname).2 hlabel

end Instance

/-- The labels of a page. Each supported instance, however deep, has its call in the text, on every
target and at every depth, and the labels of the call are those of its props, which are always usable,
and then those of its slots. All labels of all calls are usable exactly if every slot of a supported
instance has a name that is plain and that no prop of the instance gives to the call. -/
theorem labels_usable_iff (r : Registry) (platform : String) (is : List Instance)
    (hkeys : ∀ i ∈ Instance.forest is, i.HasKeys) :
    (∀ i ∈ Instance.forest is, ∀ d, r.supported platform i.capsuleId = some d →
      AreLabels i.propLabels ∧
        ∀ (t : Target) (depth : Int), ∃ e,
          Text.IsIn (Text.joinLines (t.render r platform e i))
              (Text.joinLines (t.renderList r platform depth is)) ∧
            t.IsCall e d.componentName i.propLabels i.slotLabels (t.render r platform e i)) ∧
      ((∀ i ∈ Instance.forest is, (r.supported platform i.capsuleId).isSome → AreLabels i.labels) ↔
        ∀ i ∈ Instance.forest is, (r.supported platform i.capsuleId).isSome →
          ∀ name ∈ i.slotLabels, Text.isPlainName name = true ∧ name ∉ i.propLabels) := by
  refine ⟨fun i hi d hd => ⟨Instance.areLabels_propLabels (hkeys i hi).props,
    fun t depth => t.exists_isCall hi hd depth⟩, ?_⟩
  exact forall₂_congr fun i hi => imp_congr_right fun _ => Instance.areLabels_labels_iff (hkeys i hi)

/-- A call above another that stands in its slot: the names of the slots are usable, so all labels
are. -/
theorem labels_usable_iff_nested :
    let d : Definition :=
      { id := "card", name := "Card", platforms := [("web", { framework := "react" })] }
    let leaf : Instance :=
      { id := "leaf", capsuleId := "card", props := [("a b", .int 1), ("on", .bool true)]
        slots := [("a_b", [])] }
    let top : Instance :=
      { id := "top", capsuleId := "card", props := [("title", .text "x")]
        slots := [("side", [leaf])] }
    (∀ i ∈ Instance.forest [top], i.HasKeys) ∧
      AreLabels top.labels ∧ top.labels = ["title", "side"] ∧
      AreLabels leaf.labels ∧ leaf.labels = ["on", "a_b"] ∧
      ∀ t : Target, ∃ e, Text.IsIn (Text.joinLines (t.render ⟨[d]⟩ "web" e leaf))
          (Text.joinLines (t.renderList ⟨[d]⟩ "web" 0 [top])) ∧
        t.IsCall e d.componentName ["on"] ["a_b"] (t.render ⟨[d]⟩ "web" e leaf) := by
  intro d leaf top
  have hforest : Instance.forest [top] = [top, leaf] := rfl
  have hkeys : ∀ i ∈ Instance.forest [top], i.HasKeys := by
    simp only [hforest, List.forall_mem_cons, List.not_mem_nil, false_implies, implies_true, and_true]
    exact ⟨⟨by decide, by decide⟩, ⟨by decide, by decide⟩⟩
  obtain ⟨hcalls, hiff⟩ := labels_usable_iff ⟨[d]⟩ "web" [top] hkeys
  have hall := hiff.2 (by
    simp only [hforest, List.forall_mem_cons, List.not_mem_nil, false_implies, implies_true, and_true]
    exact ⟨fun _ => by decide, fun _ => by decide⟩)
  have hleaf : leaf ∈ Instance.forest [top] := .tail _ (.head _)
  exact ⟨hkeys, hall top (.head _) rfl, rfl, hall leaf hleaf rfl, rfl,
    fun t => (hcalls leaf hleaf d rfl).2 t 0⟩

/-- The name of a slot is written as it is, and beside a prop of the same name. -/
theorem not_areLabels_slots :
    let d : Definition :=
      { id := "card", name := "Card", platforms := [("web", { framework := "react" })] }
    let i : Instance := { id := "page", capsuleId := "card", slots := [("1st", [])] }
    let j : Instance :=
      { id := "page", capsuleId := "card", props := [("side", .bool true)], slots := [("side", [])] }
    i.HasKeys ∧ j.HasKeys ∧
      Jsx.render ⟨[d]⟩ "web" 0 i = ["<Card 1st=\x7b<>\n\n  </>\x7d />"] ∧
      SwiftView.render ⟨[d]⟩ "web" 0 i =
        ["Card(", "    1st: \x7b", "        EmptyView()", "    \x7d", ")"] ∧
      Composable.render ⟨[d]⟩ "web" 0 i = ["Card(", "    1st = \x7b", "    \x7d,", ")"] ∧
      Jsx.render ⟨[d]⟩ "web" 0 j = ["<Card side side=\x7b<>\n\n  </>\x7d />"] ∧
      ¬ AreLabels i.labels ∧ ¬ AreLabels j.labels := by
  intro d i j
  refine ⟨⟨by decide, by decide⟩, ⟨by decide, by decide⟩, by decide +kernel, by decide +kernel,
    by decide +kernel, by decide +kernel, fun h => ?_, fun h => ?_⟩
  · exact absurd (h.plain "1st" (.head _)) (by decide)
  · exact absurd h.nodup (by decide)

end CapsuleKit
