import CapsuleKit.Proofs.Check
import CapsuleKit.Proofs.Labels
import CapsuleKit.Proofs.Outline
import Mathlib.Tactic.SplitIfs

/-!
# Props are written or reported

A renderer leaves out a prop whose key is no name, and the check warns about it. The two are separate
walks over the instances: the check passes over instances of the flat list whose ids it knows from the
root tree, and a renderer does not. What is on a page is always one whole pass of the check
(`Composition.mem_rootPass_or_flatPass`), so a prop with a value is a label of the call or in a warning.
The label can stand in the call a second time, for a slot of that name, and only then
(`prop_written_once_iff`).
-/

namespace CapsuleKit

/-! ### Warnings about names -/

section Pass

variable {r : Registry} {platform : String} {pass : List Instance} {i : Instance} {w : Diagnostic}

theorem mem_passWarnings_of_mem (hi : i ∈ pass) (hw : w ∈ i.ownWarnings r platform) :
    w ∈ passWarnings r platform pass := by
  obtain ⟨n, hn⟩ := List.mem_iff_getElem?.1 hi
  exact List.mem_flatMap.2 ⟨(i, n), List.mk_mem_zipIdx_iff_getElem?.2 hn, List.mem_append_right _ hw⟩

theorem invalidPropName_mem_ownWarnings {d : Definition} {key : String}
    (hd : r.supported platform i.capsuleId = some d) (hkey : key ∈ i.props.map (·.1))
    (hname : Text.isPlainName key = false) :
    Report.invalidPropName i key ∈ i.ownWarnings r platform := by
  have hsupported : i.isSupported r platform = true := by
    rw [← Instance.isSome_supported, hd]
    rfl
  rw [Instance.ownWarnings, ← Instance.supported_eq_lookup hsupported, hd]
  simp only [hsupported, if_true]
  refine List.mem_append_right _ (List.mem_map_of_mem (List.mem_filter.2 ⟨hkey, ?_⟩))
  rw [hname]
  rfl

theorem eq_invalidPropName_of_mem (hw : w ∈ passWarnings r platform pass)
    (hcode : w.code = "INVALID_PROP_NAME") :
    ∃ j key, Text.isPlainName key = false ∧ w = Report.invalidPropName j key := by
  obtain ⟨v, -, hw⟩ := List.mem_flatMap.1 hw
  rcases List.mem_append.1 hw with hw | hw
  · split_ifs at hw
    · rw [List.mem_singleton.1 hw] at hcode
      exact absurd hcode (by simp [Report.duplicateId])
    · cases hw
  · unfold Instance.ownWarnings at hw
    split at hw
    · cases hw
    · split_ifs at hw
      · rcases List.mem_append.1 hw with hw | hw
        · obtain ⟨p, -, rfl⟩ := List.mem_map.1 hw
          exact absurd hcode (by simp [Report.missingProp])
        · obtain ⟨key, hkey, rfl⟩ := List.mem_map.1 hw
          exact ⟨v.1, key, by simpa using (List.mem_filter.1 hkey).2, rfl⟩
      · cases hw

end Pass

namespace Composition

variable {c : Composition} {r : Registry} {platform : String} {i : Instance}

theorem mem_rootPass_or_flatPass (hi : i ∈ Instance.forest c.topLevel) :
    i ∈ c.rootPass ∨ i ∈ c.flatPass := by
  cases h : c.root with
  | none => exact .inr (by simpa [flatPass, rootPass, outside, topLevel, h] using hi)
  | some t => exact .inl (by simpa [rootPass, topLevel, h] using hi)

theorem mem_warnings_of_mem_ownWarnings {w : Diagnostic} (hi : i ∈ Instance.forest c.topLevel)
    (hw : w ∈ i.ownWarnings r platform) : w ∈ (c.check r platform).warnings := by
  have hne : ¬ (c.root.isNone && c.capsules.isEmpty) = true := by
    intro hempty
    simp only [Bool.and_eq_true, Option.isNone_iff_eq_none, List.isEmpty_iff] at hempty
    rw [topLevel, hempty.1, hempty.2] at hi
    cases hi
  rw [check_of_not_isEmpty r platform hne]
  rcases mem_rootPass_or_flatPass hi with hi | hi
  · exact List.mem_append_left _ (mem_passWarnings_of_mem hi hw)
  · exact List.mem_append_right _ (mem_passWarnings_of_mem hi hw)

theorem eq_invalidPropName_of_mem_warnings {w : Diagnostic} (hw : w ∈ (c.check r platform).warnings)
    (hcode : w.code = "INVALID_PROP_NAME") :
    ∃ j key, Text.isPlainName key = false ∧ w = Report.invalidPropName j key := by
  rw [check_eq_reports] at hw
  split_ifs at hw
  · rw [List.mem_singleton.1 hw] at hcode
    exact absurd hcode (by simp [Report.emptyComposition])
  · rcases List.mem_append.1 hw with hw | hw
    · exact eq_invalidPropName_of_mem hw hcode
    · exact eq_invalidPropName_of_mem hw hcode

/-- Whether the check warns that a prop of the instance with an id is dropped for its name. -/
def ReportsProp (c : Composition) (r : Registry) (platform id key : String) : Prop :=
  ∃ w ∈ (c.check r platform).warnings, w.code = "INVALID_PROP_NAME" ∧ w.capsuleId = some id ∧
    w.message = "Prop '" ++ key ++ "' on '" ++ id ++ "' is not a valid name and was dropped"

theorem reportsProp_iff {d : Definition} {key : String} (hi : i ∈ Instance.forest c.topLevel)
    (hd : r.supported platform i.capsuleId = some d) (hkey : key ∈ i.props.map (·.1)) :
    c.ReportsProp r platform i.id key ↔ Text.isPlainName key = false := by
  constructor
  · rintro ⟨w, hw, hcode, hid, hmessage⟩
    obtain ⟨j, key', hname, rfl⟩ := eq_invalidPropName_of_mem_warnings hw hcode
    have hij : j.id = i.id := Option.some.inj hid
    simp only [Report.invalidPropName, hij, String.append_left_inj, String.append_right_inj] at hmessage
    rw [← hmessage]
    exact hname
  · intro hname
    have hw := invalidPropName_mem_ownWarnings hd hkey hname
    exact ⟨Report.invalidPropName i key, mem_warnings_of_mem_ownWarnings hi hw, rfl, rfl, rfl⟩

end Composition

/-! ### Props on a page -/

theorem Instance.mem_propLabels_iff {i : Instance} {key : String} {v : Value} (h : (key, v) ∈ i.props)
    (hv : v.isNull = false) : key ∈ i.propLabels ↔ Text.isPlainName key = true := by
  refine ⟨isPlainName_of_mem_propLabels, fun hname => ?_⟩
  refine List.mem_map.2 ⟨(key, v), List.mem_filter.2 ⟨h, ?_⟩, rfl⟩
  rw [hv, hname]
  rfl

theorem Instance.count_labels {i : Instance} (h : i.HasKeys) (key : String) :
    i.labels.count key = i.propLabels.count key + if key ∈ i.slotLabels then 1 else 0 := by
  rw [labels, List.count_append, h.slots.count]

/-- What becomes of a prop. The call of a supported instance on the page of a composition stands in the
text of the page, on every target, and the labels in its text are those of its props, keys in their
order, in front of those of its slots. Among the labels of props a key with a value other than null is
there once or it is reported by the check with the id of the instance, and never both. Among all labels
of the call that holds exactly if no slot of the instance has the key for its name. -/
theorem prop_written_once_iff (r : Registry) (platform : String) (c : Composition) (i : Instance)
    (d : Definition) (hi : i ∈ Instance.forest c.topLevel)
    (hd : r.supported platform i.capsuleId = some d) (hkeys : i.HasKeys) :
    (∀ (t : Target) (depth : Int), ∃ e,
        Text.IsIn (Text.joinLines (t.render r platform e i))
            (Text.joinLines (t.renderList r platform depth c.topLevel)) ∧
          t.IsCall e d.componentName i.propLabels i.slotLabels (t.render r platform e i) ∧
          ((∀ j ∈ Instance.forest [i], t.IsNameable r platform j) →
            ∃ ms, t.read (Text.joinLines (t.render r platform e i)) =
              some (.call d.componentName i.labels :: ms))) ∧
      i.propLabels.Sublist (i.props.map (·.1)) ∧
      ∀ key v, (key, v) ∈ i.props → v.isNull = false →
        ((i.propLabels.count key = 1 ∧ ¬ c.ReportsProp r platform i.id key) ∨
          (i.propLabels.count key = 0 ∧ c.ReportsProp r platform i.id key)) ∧
        (((i.labels.count key = 1 ∧ ¬ c.ReportsProp r platform i.id key) ∨
          (i.labels.count key = 0 ∧ c.ReportsProp r platform i.id key)) ↔ key ∉ i.slotLabels) := by
  refine ⟨fun t depth => ?_, i.propLabels_sublist, fun key v hprop hv => ?_⟩
  · obtain ⟨e, hin, hcall⟩ := t.exists_isCall hi hd depth
    refine ⟨e, hin, hcall, fun hnames => ?_⟩
    obtain ⟨ms, hms⟩ := t.exists_outline_eq hd
    exact ⟨ms, by rw [t.read_instance hnames, hms]⟩
  · have hreports := Composition.reportsProp_iff hi hd (List.mem_map_of_mem hprop)
    have hwritten := Instance.mem_propLabels_iff hprop hv
    have hcount := Instance.count_labels hkeys key
    cases hname : Text.isPlainName key with
    | true =>
      have hnot : ¬ c.ReportsProp r platform i.id key := by
        rw [hreports, hname]
        decide
      have hone : i.propLabels.count key = 1 := List.count_eq_one_of_mem
        (hkeys.props.sublist i.propLabels_sublist) (hwritten.2 hname)
      refine ⟨.inl ⟨hone, hnot⟩, ?_⟩
      rw [hcount, hone]
      simp [hnot]
    | false =>
      have hreported := hreports.2 hname
      have hzero : i.propLabels.count key = 0 := by
        rw [List.count_eq_zero, hwritten, hname]
        decide
      refine ⟨.inr ⟨hzero, hreported⟩, ?_⟩
      rw [hcount, hzero]
      simp [hreported]

/-- Two instances with one id, of which the inner one has a prop of each kind. -/
theorem prop_written_once_iff_duplicate :
    let d : Definition :=
      { id := "box", name := "Box", platforms := [("ios", { framework := "swiftui" })] }
    let leaf : Instance :=
      { id := "top", capsuleId := "box"
        props := [("a-b", .text "x"), ("on", .bool false), ("none", .null), ("off", .int 0)] }
    let c : Composition :=
      { name := "App", capsules := [leaf]
        root := some { id := "top", capsuleId := "box", slots := [("side", [leaf])] } }
    leaf ∈ Instance.forest c.topLevel ∧ leaf.HasKeys ∧
      SwiftView.renderList ⟨[d]⟩ "ios" 0 c.topLevel =
        ["Box(", "    side: \x7b", "        Box(on: false, off: 0)", "    \x7d", ")"] ∧
      (∃ e ms, Text.IsIn (Text.joinLines (SwiftView.render ⟨[d]⟩ "ios" e leaf))
          (Text.joinLines (SwiftView.renderList ⟨[d]⟩ "ios" 0 c.topLevel)) ∧
        Target.swift.read (Text.joinLines (SwiftView.render ⟨[d]⟩ "ios" e leaf)) =
          some (.call "Box" ["on", "off"] :: ms)) ∧
      ¬ c.ReportsProp ⟨[d]⟩ "ios" "top" "on" ∧ c.ReportsProp ⟨[d]⟩ "ios" "top" "a-b" := by
  intro d leaf c
  have hi : leaf ∈ Instance.forest c.topLevel := .tail _ (.head _)
  have hkeys : leaf.HasKeys := ⟨by decide, by decide⟩
  have hname : d.componentName = "Box" := by decide +kernel
  have hnames : ∀ j ∈ Instance.forest [leaf], Target.swift.IsNameable ⟨[d]⟩ "ios" j := by
    rw [show Instance.forest [leaf] = [leaf] from rfl, List.forall_mem_singleton]
    exact ⟨fun _ => by decide, fun h => absurd h (Option.some_ne_none d)⟩
  obtain ⟨hcalls, -, hprops⟩ := prop_written_once_iff ⟨[d]⟩ "ios" c leaf d hi rfl hkeys
  obtain ⟨e, hin, -, hread⟩ := hcalls .swift 0
  obtain ⟨ms, hms⟩ := hread hnames
  have hon := (hprops "on" (.bool false) (.tail _ (.head _)) rfl).2.2 (by decide)
  have hdash := (hprops "a-b" (.text "x") (.head _) rfl).2.2 (by decide)
  refine ⟨hi, hkeys, by decide +kernel, ⟨e, ms, hin, ?_⟩, ?_, ?_⟩
  · rw [← hname]
    exact hms
  · exact (hon.resolve_right fun h => absurd h.1 (by decide)).2
  · exact (hdash.resolve_left fun h => absurd h.1 (by decide)).2

/-- A slot with the name of a prop writes the label a second time, and nothing is reported. -/
theorem prop_written_beside_slot :
    let d : Definition :=
      { id := "card", name := "Card", platforms := [("web", { framework := "react" })] }
    let i : Instance :=
      { id := "page", capsuleId := "card", props := [("side", .bool true)], slots := [("side", [])] }
    let c : Composition := { name := "Demo", root := some i }
    let line := "<Card side side=\x7b<>\n\n  </>\x7d />"
    i.HasKeys ∧ Jsx.renderList ⟨[d]⟩ "web" 0 c.topLevel = [line] ∧
      Target.jsx.read line = some [.call "Card" ["side", "side"]] ∧
      (c.check ⟨[d]⟩ "web").warnings = [] := by
  intro d i c line
  exact ⟨⟨by decide, by decide⟩, by decide +kernel, by decide +kernel, by decide +kernel⟩

end CapsuleKit
