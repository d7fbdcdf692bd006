import CapsuleKit.Proofs.Emission
import CapsuleKit.Proofs.Fallible
import CapsuleKit.Target.Ios.Version
import Mathlib.Data.List.TakeWhile

/-!
# Versions that cannot be read

A version is unreadable (`Version.IsUnreadable`) if one of its parts is made of digits that write no
number. Comparing versions fails at those and only at those (`Version.fails_later`). The deployment
target of a job compares the configured version with every version that a template in use asks for
(`Job.mem_minVersions`), so it fails exactly if there is a comparison at all and one of the versions
in it is unreadable (`Job.fails_deploymentTarget`).
-/

namespace CapsuleKit

namespace Version

/-- Digits that write no number: one of them is not decimal, or there are too many. -/
def IsUnreadablePart (cs : List Char) : Prop :=
  cs ≠ [] ∧ (∀ c ∈ cs, Text.isDigit c = true) ∧
    ((∃ c ∈ cs, Text.decimalValue? c = none) ∨ Number.digitLimit < cs.length)

/-- One of the parts between the points is made of digits that write no number. -/
def IsUnreadable (s : String) : Prop :=
  ∃ p ∈ List.splitOnP (· == '.') s.toList, IsUnreadablePart p

theorem fails_part {cs : List Char} : Fails (part cs) ↔ IsUnreadablePart cs := by
  unfold part
  split
  · rename_i h
    refine iff_of_false (not_fails_ok 0) fun hpart => ?_
    rw [Bool.or_eq_true, List.isEmpty_iff, Bool.not_eq_true', List.all_eq_false] at h
    rcases h with h | ⟨c, hc, hdigit⟩
    · exact hpart.1 h
    · exact hdigit (hpart.2.1 c hc)
  · rename_i h
    simp only [Bool.or_eq_true, List.isEmpty_iff, Bool.not_eq_true', not_or, Bool.not_eq_false,
      List.all_eq_true] at h
    rw [IsUnreadablePart, and_iff_right h.1, and_iff_right h.2]
    have hfront := List.takeWhile_prefix (fun c => (Text.decimalValue? c).isSome) (l := cs)
    by_cases hdecimal : ∃ c ∈ cs, Text.decimalValue? c = none
    · have hlt : (cs.takeWhile fun c => (Text.decimalValue? c).isSome).length < cs.length := by
        refine Nat.lt_of_le_of_ne hfront.length_le fun hlength => ?_
        obtain ⟨c, hc, hnone⟩ := hdecimal
        have hsome := List.takeWhile_eq_self_iff.1 (hfront.eq_of_length hlength) c hc
        simp [hnone] at hsome
      refine iff_of_true ?_ (.inl hdecimal)
      dsimp only
      split <;> exact ⟨_, rfl⟩
    · have hall : cs.takeWhile (fun c => (Text.decimalValue? c).isSome) = cs := by
        refine List.takeWhile_eq_self_iff.2 fun c hc => Option.isSome_iff_ne_none.2 fun hnone => ?_
        exact hdecimal ⟨c, hc, hnone⟩
      rw [hall]
      dsimp only
      by_cases hlong : Number.digitLimit < cs.length
      · rw [if_pos hlong]
        exact iff_of_true ⟨_, rfl⟩ (.inr hlong)
      · rw [if_neg hlong, if_neg (Nat.lt_irrefl _)]
        exact iff_of_false (not_fails_ok _) (by simp [hdecimal, hlong])

theorem fails_parts {s : String} : Fails (parts s) ↔ IsUnreadable s := by
  simp only [parts, fails_mapM, fails_part, IsUnreadable]

theorem fails_later {target v : String} :
    Fails (later target v) ↔ IsUnreadable v ∨ IsUnreadable target := by
  rw [later, fails_bind, fails_parts]
  by_cases hv : IsUnreadable v
  · simp [hv]
  · obtain ⟨a, ha⟩ := exists_ok_of_not_fails (mt fails_parts.1 hv)
    simp [hv, ha, fails_bind, fails_parts, Pure.pure, Except.pure]

theorem eq_of_later {target v w : String} (h : later target v = .ok w) : w = v ∨ w = target := by
  have hreads : ¬ Fails (later target v) := h ▸ not_fails_ok w
  rw [fails_later, not_or] at hreads
  obtain ⟨a, ha⟩ := exists_ok_of_not_fails (mt fails_parts.1 hreads.1)
  obtain ⟨b, hb⟩ := exists_ok_of_not_fails (mt fails_parts.1 hreads.2)
  rw [later, ha, hb] at h
  obtain rfl := Except.ok.inj h
  by_cases hlt : b < a
  · exact .inl (if_pos hlt)
  · exact .inr (if_neg hlt)

theorem fails_foldlM_later {versions : List String} {target : String} :
    Fails (versions.foldlM later target) ↔
      versions ≠ [] ∧ (IsUnreadable target ∨ ∃ v ∈ versions, IsUnreadable v) := by
  induction versions generalizing target with
  | nil => simp [Pure.pure, Except.pure]
  | cons v versions ih =>
    rw [List.foldlM_cons, fails_bind, fails_later]
    by_cases hreads : IsUnreadable v ∨ IsUnreadable target
    · refine iff_of_true (.inl hreads) ⟨List.cons_ne_nil _ _, ?_⟩
      rcases hreads with hv | htarget
      · exact .inr ⟨v, List.mem_cons_self, hv⟩
      · exact .inl htarget
    · obtain ⟨w, hw⟩ := exists_ok_of_not_fails (mt fails_later.1 hreads)
      obtain ⟨hv, htarget⟩ := not_or.1 hreads
      have hreadable : ¬ IsUnreadable w := by
        rcases eq_of_later hw with rfl | rfl <;> assumption
      -- a readable target is no longer compared when no version is left, so that case is harmless
      have hrest : Fails (versions.foldlM later w) ↔ ∃ v ∈ versions, IsUnreadable v := by
        rw [ih, or_iff_right hreadable]
        exact ⟨fun h => h.2, fun h => ⟨List.ne_nil_of_mem h.choose_spec.1, h⟩⟩
      simp [hv, htarget, hw, hrest]

end Version

/-! ### Templates in use -/

namespace Registry

theorem supported_eq_some {r : Registry} {platform id : String} {d : Definition} :
    r.supported platform id = some d ↔ r.lookup id = some d ∧ (d.template? platform).isSome := by
  rw [supported, supports, template]
  cases hd : r.lookup id with
  | none => simp
  | some e =>
    rw [Option.bind_some]
    constructor
    · intro h
      split at h
      · rename_i hsome
        obtain rfl := Option.some.inj h
        exact ⟨rfl, hsome⟩
      · cases h
    · rintro ⟨h, hsome⟩
      obtain rfl := Option.some.inj h
      rw [if_pos hsome]

end Registry

namespace Job

variable {j : Job}

/-- A template of a capsule that occurs in the composition, for the platform of the job. -/
def Uses (j : Job) (t : Template) : Prop :=
  ∃ v ∈ j.composition.walk, j.registry.template v.1.capsuleId j.platform = some t

theorem exists_mem_components {t : Template} : (∃ d, (d, t) ∈ j.components) ↔ j.Uses t := by
  simp only [Uses, components, Composition.components, Composition.usedDefinitions,
    Composition.usedCapsules, List.mem_filterMap, List.mem_eraseDups, List.mem_map,
    Option.map_eq_some_iff, Prod.mk.injEq, Registry.supported_eq_some, Registry.template,
    Option.bind_eq_some_iff]
  constructor
  · rintro ⟨_, d, ⟨_, ⟨v, hv, rfl⟩, hd, -⟩, _, ht, rfl, rfl⟩
    exact ⟨v, hv, d, hd, ht⟩
  · rintro ⟨v, hv, d, hd, ht⟩
    exact ⟨d, d, ⟨_, ⟨v, hv, rfl⟩, hd, by rw [ht]; rfl⟩, t, ht, rfl, rfl⟩

/-- A version that a template in use asks for. -/
def AsksFor (j : Job) (version : String) : Prop :=
  version ≠ "" ∧ ∃ t, j.Uses t ∧ t.minVersion = some version

theorem mem_minVersions {version : String} : version ∈ j.minVersions ↔ j.AsksFor version := by
  simp only [minVersions, AsksFor, List.mem_filter, List.mem_filterMap, Prod.exists,
    ← exists_mem_components, Bool.not_eq_true', String.isEmpty_eq_false_iff]
  constructor
  · rintro ⟨⟨d, t, hmem, ht⟩, hne⟩
    exact ⟨hne, t, ⟨d, hmem⟩, ht⟩
  · rintro ⟨hne, t, ⟨d, hmem⟩, ht⟩
    exact ⟨⟨d, t, hmem, ht⟩, hne⟩

/-- The deployment target fails exactly if a template in use asks for a version at all, and the
configured version or one of those asked for is unreadable. -/
theorem fails_deploymentTarget {configured : String} :
    Fails (j.deploymentTarget configured) ↔
      (∃ v, j.AsksFor v) ∧
        (Version.IsUnreadable configured ∨ ∃ v, j.AsksFor v ∧ Version.IsUnreadable v) := by
  simp only [deploymentTarget, Version.fails_foldlM_later, ← mem_minVersions, ne_eq,
    List.eq_nil_iff_forall_not_mem, not_forall, not_not]

end Job

end CapsuleKit
