import CapsuleKit.Proofs.Failures
import Mathlib.Data.List.Lex
import Mathlib.Order.Bounds.Basic

/-!
# Minimum levels

The deployment target and the minimum level of a job are each chosen among a configured value and what
the templates in use ask for. Both are maxima: no version among the candidates is later than the target
(`Version.IsLatest`, by what one comparison keeps, `Version.exists_later`), and no level is above the
minimum. Maxima depend on the candidates alone, and these on the capsules that occur, so neither the
arrangement of the instances nor their number matters: `minimum_levels`.
-/

namespace CapsuleKit

/-! ### Versions -/

namespace Version

/-- One of several versions, such that none of the others that can be read is later. -/
structure IsLatest (candidates : Set String) (v : String) : Prop where
  mem : v ∈ candidates
  latest : ∀ w ∈ candidates, ∀ qs, parts w = .ok qs → ∃ ps, parts v = .ok ps ∧ qs ≤ ps

theorem isLatest_singleton (v : String) : IsLatest {v} v :=
  ⟨rfl, by rintro _ rfl qs hqs; exact ⟨qs, hqs, le_rfl⟩⟩

theorem IsLatest.parts_eq {candidates : Set String} {v w : String} (hv : IsLatest candidates v)
    (hw : IsLatest candidates w) {ps : List Nat} (hps : parts v = .ok ps) : parts w = parts v := by
  obtain ⟨qs, hqs, hle⟩ := hw.latest v hv.mem ps hps
  obtain ⟨ps', hps', hge⟩ := hv.latest w hw.mem qs hqs
  obtain rfl := Except.ok.inj (hps.symm.trans hps')
  rw [hps, hqs, le_antisymm hle hge]

/-- One comparison: the version that is kept is one of the two, and not earlier than either. -/
theorem exists_later {target v : String} {ts vs : List Nat} (ht : parts target = .ok ts)
    (hv : parts v = .ok vs) :
    ∃ u us, later target v = .ok u ∧ (u = target ∨ u = v) ∧ parts u = .ok us ∧ ts ≤ us ∧ vs ≤ us := by
  have hlater : later target v = .ok (if ts < vs then v else target) := by
    rw [later, ht, hv]
    rfl
  by_cases hlt : ts < vs
  · exact ⟨v, vs, by rw [hlater, if_pos hlt], .inr rfl, hv, hlt.le, le_rfl⟩
  · exact ⟨target, ts, by rw [hlater, if_neg hlt], .inl rfl, ht, le_rfl, not_lt.1 hlt⟩

/-- All comparisons: a version that was passed over is not later than the one that took its place. -/
theorem exists_foldlM_later {versions : List String} {target : String}
    (hreads : versions ≠ [] → ∀ v ∈ target :: versions, ∃ ps, parts v = .ok ps) :
    ∃ u, versions.foldlM later target = .ok u ∧ IsLatest {v | v ∈ target :: versions} u := by
  induction versions generalizing target with
  | nil => exact ⟨target, rfl, by simpa using isLatest_singleton target⟩
  | cons v versions ih =>
    have hall := hreads (List.cons_ne_nil v versions)
    obtain ⟨ts, ht⟩ := hall target List.mem_cons_self
    obtain ⟨vs, hv⟩ := hall v (List.mem_cons_of_mem target List.mem_cons_self)
    obtain ⟨u, us, hlater, hu, hus, hts, hvs⟩ := exists_later ht hv
    have hrest : ∀ w ∈ u :: versions, ∃ ps, parts w = .ok ps := by
      refine List.forall_mem_cons.2 ⟨⟨us, hus⟩, fun w hw => hall w ?_⟩
      exact List.mem_cons_of_mem target (List.mem_cons_of_mem v hw)
    obtain ⟨w, hw, hlatest⟩ := ih fun _ => hrest
    refine ⟨w, by rw [List.foldlM_cons, hlater]; exact hw, ?_, fun x hx qs hqs => ?_⟩
    · rcases List.mem_cons.1 hlatest.mem with rfl | hmem
      · rcases hu with rfl | rfl
        · exact List.mem_cons_self
        · exact List.mem_cons_of_mem _ List.mem_cons_self
      · exact List.mem_cons_of_mem target (List.mem_cons_of_mem v hmem)
    · obtain ⟨ws, hws, hle⟩ := hlatest.latest u List.mem_cons_self us hus
      simp only [Set.mem_ofPred_eq, List.mem_cons] at hx
      rcases hx with rfl | rfl | hx
      · obtain rfl := Except.ok.inj (ht.symm.trans hqs)
        exact ⟨ws, hws, hts.trans hle⟩
      · obtain rfl := Except.ok.inj (hv.symm.trans hqs)
        exact ⟨ws, hws, hvs.trans hle⟩
      · exact hlatest.latest x (List.mem_cons_of_mem u hx) qs hqs

end Version

/-! ### Levels -/

theorem isGreatest_foldl_max (levels : List Int) (a : Int) :
    IsGreatest {n | n ∈ a :: levels} (levels.foldl max a) := by
  have hupper : ∀ n ∈ a :: levels, n ≤ levels.foldl max a := by
    refine List.forall_mem_cons.2 ⟨le_foldl_max_iff.2 (.inl le_rfl), fun n hn => ?_⟩
    exact le_foldl_max_iff.2 (.inr ⟨n, hn, le_rfl⟩)
  refine ⟨?_, hupper⟩
  rcases le_foldl_max_iff.1 (le_refl (levels.foldl max a)) with hle | ⟨m, hm, hle⟩
  · rw [le_antisymm hle (hupper a List.mem_cons_self)]
    exact List.mem_cons_self
  · have hmem : m ∈ a :: levels := List.mem_cons_of_mem a hm
    rw [le_antisymm hle (hupper m hmem)]
    exact hmem

/-! ### What the candidates depend on -/

namespace Composition

/-- The same capsules occur in two compositions, wherever and however often. -/
def SameCapsules (c c' : Composition) : Prop :=
  ∀ id, (∃ v ∈ c.walk, v.1.capsuleId = id) ↔ ∃ v ∈ c'.walk, v.1.capsuleId = id

end Composition

namespace Job

/-- The versions among which the deployment target is chosen. -/
def candidates (j : Job) (configured : String) : Set String :=
  {v | v = configured ∨ j.AsksFor v}

/-- The versions that are compared: without one that a template asks for, none is. -/
def compared (j : Job) (configured : String) : Set String :=
  {v | v ∈ j.candidates configured ∧ ∃ w, j.AsksFor w}

/-- The levels among which the minimum is chosen. -/
def levels (j : Job) (configured : Int) : Set Int :=
  {n | n = configured ∨ n ≠ 0 ∧ ∃ t, j.Uses t ∧ t.minSdk = some n}

section SameCapsules

variable {r : Registry} {platform : String} {c c' : Composition} (h : c.SameCapsules c')

include h

theorem uses_congr (t : Template) : Uses ⟨r, platform, c⟩ t ↔ Uses ⟨r, platform, c'⟩ t := by
  have huses (c : Composition) : Uses ⟨r, platform, c⟩ t ↔
      ∃ id, (∃ v ∈ c.walk, v.1.capsuleId = id) ∧ r.template id platform = some t := by
    constructor
    · rintro ⟨v, hv, ht⟩
      exact ⟨_, ⟨v, hv, rfl⟩, ht⟩
    · rintro ⟨_, ⟨v, hv, rfl⟩, ht⟩
      exact ⟨v, hv, ht⟩
  rw [huses, huses]
  exact exists_congr fun id => and_congr_left fun _ => h id

theorem asksFor_congr (v : String) :
    AsksFor ⟨r, platform, c⟩ v ↔ AsksFor ⟨r, platform, c'⟩ v := by
  simp only [AsksFor, uses_congr h]

theorem candidates_congr (configured : String) :
    candidates ⟨r, platform, c⟩ configured = candidates ⟨r, platform, c'⟩ configured := by
  simp only [candidates, asksFor_congr h]

theorem compared_congr (configured : String) :
    compared ⟨r, platform, c⟩ configured = compared ⟨r, platform, c'⟩ configured := by
  simp only [compared, candidates_congr h, asksFor_congr h]

theorem levels_congr (configured : Int) :
    levels ⟨r, platform, c⟩ configured = levels ⟨r, platform, c'⟩ configured := by
  simp only [levels, uses_congr h]

end SameCapsules

/-! ### Targets and levels -/

variable {j : Job}

theorem exists_deploymentTarget {configured : String}
    (h : ∀ v ∈ j.compared configured, ∃ ps, Version.parts v = .ok ps) :
    ∃ target, j.deploymentTarget configured = .ok target ∧
      Version.IsLatest (j.candidates configured) target := by
  have hset : j.candidates configured = {v | v ∈ configured :: j.minVersions} := by
    ext v
    simp only [candidates, Set.mem_ofPred_eq, List.mem_cons, mem_minVersions]
  rw [hset]
  refine Version.exists_foldlM_later fun hne v hv => h v ⟨?_, ?_⟩
  · rw [hset]
    exact hv
  · obtain ⟨w, hw⟩ := List.exists_mem_of_ne_nil _ hne
    exact ⟨w, mem_minVersions.1 hw⟩

theorem isGreatest_minSdk (j : Job) (config : AndroidConfig) :
    IsGreatest (j.levels config.minSdk) (j.minSdk config) := by
  have hset : j.levels config.minSdk =
      {n | n ∈ config.minSdk :: (j.components.filterMap (·.2.minSdk)).filter (· != 0)} := by
    ext n
    simp only [levels, Set.mem_ofPred_eq, List.mem_cons, mem_levels]
  rw [hset]
  exact isGreatest_foldl_max _ _

end Job

/-- Minimum levels are maxima, whatever the arrangement. If every version that is compared can be read,
there is a deployment target; it is one of the configured version and those that templates in use ask
for, no other of these is later, and every composition in which the same capsules occur has a target
with the same numbers. The minimum level is the greatest of the configured one and those other than
zero that templates in use ask for, and is the same for every composition with the same capsules. -/
theorem minimum_levels (r : Registry) (platform : String) (c : Composition) (version : String)
    (config : AndroidConfig) :
    let j : Job := ⟨r, platform, c⟩
    ((∀ v ∈ j.compared version, ∃ ps, Version.parts v = .ok ps) →
      ∃ target, j.deploymentTarget version = .ok target ∧
        Version.IsLatest (j.candidates version) target ∧
        ∀ c', c.SameCapsules c' → ∃ target',
          Job.deploymentTarget ⟨r, platform, c'⟩ version = .ok target' ∧
            Version.parts target' = Version.parts target) ∧
      IsGreatest (j.levels config.minSdk) (j.minSdk config) ∧
      ∀ c', c.SameCapsules c' → Job.minSdk ⟨r, platform, c'⟩ config = j.minSdk config := by
  intro j
  refine ⟨fun hreads => ?_, j.isGreatest_minSdk config, fun c' hsame => ?_⟩
  · obtain ⟨target, htarget, hlatest⟩ := Job.exists_deploymentTarget hreads
    refine ⟨target, htarget, hlatest, fun c' hsame => ?_⟩
    obtain ⟨target', htarget', hlatest'⟩ :=
      Job.exists_deploymentTarget (Job.compared_congr hsame version ▸ hreads)
    refine ⟨target', htarget', ?_⟩
    rw [← Job.candidates_congr hsame] at hlatest'
    by_cases hasks : ∃ v, j.AsksFor v
    · obtain ⟨ps, hps⟩ := hreads target ⟨hlatest.mem, hasks⟩
      exact hlatest.parts_eq hlatest' hps
    · -- nothing is compared, and the configured version may even be one that cannot be read
      have honly : ∀ v ∈ j.candidates version, v = version := fun v hv =>
        hv.resolve_right fun hv => hasks ⟨v, hv⟩
      rw [honly target hlatest.mem, honly target' hlatest'.mem]
  · have hgreatest := Job.isGreatest_minSdk ⟨r, platform, c'⟩ config
    rw [← Job.levels_congr hsame] at hgreatest
    exact hgreatest.unique (j.isGreatest_minSdk config)

/-- Two capsules that ask for one version in two spellings. The one that comes first gives the target,
so the arrangement shows in the text of the target and not in its numbers. -/
theorem minimum_levels_spellings :
    let first : Definition :=
      { id := "first", name := "First"
        platforms := [("ios", { framework := "swiftui", minVersion := some "16.4" }),
          ("android", { framework := "compose", minSdk := some 26 })] }
    let second : Definition :=
      { id := "second", name := "Second"
        platforms := [("ios", { framework := "swiftui", minVersion := some "16.04" }),
          ("android", { framework := "compose", minSdk := some 0 })] }
    let r : Registry := ⟨[first, second]⟩
    let c : Composition :=
      { name := "App"
        root := some { id := "top", capsuleId := "first"
                       slots := [("side", [{ id := "in", capsuleId := "second" }])] } }
    let c' : Composition :=
      { name := "App"
        capsules :=
          [{ id := "top", capsuleId := "second" },
           { id := "more", capsuleId := "second"
             children := [{ id := "in", capsuleId := "first" }] }] }
    (∀ v ∈ Job.compared ⟨r, "ios", c⟩ "16", ∃ ps, Version.parts v = .ok ps) ∧
      c.SameCapsules c' ∧
      Job.deploymentTarget ⟨r, "ios", c⟩ "16" = .ok "16.4" ∧
      Job.deploymentTarget ⟨r, "ios", c'⟩ "16" = .ok "16.04" ∧
      Version.parts "16.04" = Version.parts "16.4" ∧
      Job.minSdk ⟨r, "android", c'⟩ {} = Job.minSdk ⟨r, "android", c⟩ {} ∧
      IsGreatest (Job.levels ⟨r, "android", c⟩ 24) 26 := by
  intro first second r c c'
  have hversions : Job.minVersions ⟨r, "ios", c⟩ = ["16.4", "16.04"] := by decide +kernel
  have hreads : ∀ v ∈ Job.compared ⟨r, "ios", c⟩ "16", ∃ ps, Version.parts v = .ok ps := by
    rintro v ⟨hv, -⟩
    have hmem : v ∈ "16" :: Job.minVersions ⟨r, "ios", c⟩ :=
      List.mem_cons.2 (hv.imp_right Job.mem_minVersions.2)
    rw [hversions] at hmem
    simp only [List.mem_cons, List.not_mem_nil, or_false] at hmem
    rcases hmem with rfl | rfl | rfl
    · exact ⟨_, rfl⟩
    · exact ⟨_, rfl⟩
    · exact ⟨_, rfl⟩
  have hsame : c.SameCapsules c' := by
    intro id
    have hids (c : Composition) : (∃ v ∈ c.walk, v.1.capsuleId = id) ↔
        id ∈ c.walk.map fun v => v.1.capsuleId := List.mem_map.symm
    rw [hids, hids]
    show id ∈ ["first", "second"] ↔ id ∈ ["second", "second", "first"]
    simp only [List.mem_cons, List.not_mem_nil, or_false]
    tauto
  obtain ⟨hios, -, -⟩ := minimum_levels r "ios" c "16" {}
  obtain ⟨-, hgreatest, hlevel⟩ := minimum_levels r "android" c "16" {}
  obtain ⟨target, htarget, -, harranged⟩ := hios hreads
  obtain ⟨target', htarget', hparts⟩ := harranged c' hsame
  have hfirst : Job.deploymentTarget ⟨r, "ios", c⟩ "16" = .ok "16.4" := by rfl
  have hsecond : Job.deploymentTarget ⟨r, "ios", c'⟩ "16" = .ok "16.04" := by rfl
  obtain rfl := Except.ok.inj (htarget.symm.trans hfirst)
  obtain rfl := Except.ok.inj (htarget'.symm.trans hsecond)
  exact ⟨hreads, hsame, hfirst, hsecond, hparts, hlevel c' hsame, hgreatest⟩

end CapsuleKit
