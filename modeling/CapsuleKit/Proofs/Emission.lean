import CapsuleKit.Compile.Emission
import CapsuleKit.Proofs.Walk

/-!
# Finished emissions

An emission without a failure holds the file of every one of its steps (`Emission.mem_files`), also
of those that something could have kept from being written (`Emission.mem_files_unless`). The
components of a job are the definitions of the supported capsules in use (`Job.mem_components`), and
every instance of the page is in use.
-/

namespace CapsuleKit

namespace Emission

variable {steps : List EmitStep}

theorem ofSteps_ok (f : GeneratedFile) (steps : List EmitStep) :
    ofSteps (.ok f :: steps) = { ofSteps steps with files := f :: (ofSteps steps).files } := rfl

theorem exists_file (h : (ofSteps steps).failure = none) :
    ∀ s ∈ steps, ∃ f ∈ (ofSteps steps).files, s = .ok f := by
  induction steps with
  | nil => exact fun s hs => absurd hs List.not_mem_nil
  | cons first steps ih =>
    cases first with
    | error m => cases h
    | ok f =>
      rw [ofSteps_ok] at h ⊢
      intro s hs
      rcases List.mem_cons.1 hs with rfl | hs
      · exact ⟨f, List.mem_cons_self, rfl⟩
      · obtain ⟨f', hf', rfl⟩ := ih h s hs
        exact ⟨f', List.mem_cons_of_mem _ hf', rfl⟩

theorem mem_files (h : (ofSteps steps).failure = none) {path content : String}
    {language : Option String} (hs : emitFile path content language ∈ steps) :
    ⟨path, content, language⟩ ∈ (ofSteps steps).files := by
  obtain ⟨f, hf, he⟩ := exists_file h _ hs
  rw [emitFile, Except.ok.injEq] at he
  rw [he]
  exact hf

theorem mem_files_unless (h : (ofSteps steps).failure = none) {o : Option Json.Obstacle}
    {path content : String} {language : Option String}
    (hs : emitUnless o (emitFile path content language) ∈ steps) :
    ⟨path, content, language⟩ ∈ (ofSteps steps).files := by
  cases o with
  | none => exact mem_files h hs
  | some o =>
    obtain ⟨f, -, he⟩ := exists_file h _ hs
    cases he

end Emission

namespace Registry

variable {r : Registry} {platform id : String} {d : Definition}

theorem exists_template (h : r.supported platform id = some d) :
    ∃ t, d.template? platform = some t := by
  by_cases hs : r.supports id platform = true
  · rw [supported, if_pos hs] at h
    rw [supports, template, h] at hs
    exact Option.isSome_iff_exists.1 hs
  · rw [supported, if_neg hs] at h
    cases h

end Registry

namespace Composition

theorem mem_walk_of_mem_topLevel {c : Composition} {i : Instance}
    (h : i ∈ Instance.forest c.topLevel) : ∃ v ∈ c.walk, v.1 = i := by
  obtain ⟨v, hv, rfl⟩ := List.mem_map.1 h
  refine ⟨v, ?_, rfl⟩
  cases hr : c.root with
  | none =>
    rw [topLevel, hr] at hv
    exact List.mem_append_right _ hv
  | some root =>
    rw [topLevel, hr] at hv
    rw [walk, hr]
    exact List.mem_append_left _ hv

end Composition

namespace Job

variable {j : Job} {i : Instance} {d : Definition}

theorem mem_usedDefinitions (hi : i ∈ Instance.forest j.composition.topLevel)
    (hd : j.registry.supported j.platform i.capsuleId = some d) :
    d ∈ j.composition.usedDefinitions j.registry j.platform := by
  obtain ⟨v, hv, rfl⟩ := Composition.mem_walk_of_mem_topLevel hi
  refine List.mem_filterMap.2 ⟨v.1.capsuleId, ?_, hd⟩
  exact List.mem_eraseDups.2 (List.mem_map.2 ⟨v, hv, rfl⟩)

theorem mem_components (hi : i ∈ Instance.forest j.composition.topLevel)
    (hd : j.registry.supported j.platform i.capsuleId = some d) :
    ∃ t, d.template? j.platform = some t ∧ (d, t) ∈ j.components := by
  obtain ⟨t, ht⟩ := Registry.exists_template hd
  exact ⟨t, ht, List.mem_filterMap.2 ⟨d, mem_usedDefinitions hi hd, by rw [ht]; rfl⟩⟩

theorem map_fst_components (j : Job) :
    j.components.map (·.1) = j.composition.usedDefinitions j.registry j.platform := by
  have h : ∀ ds : List Definition, (∀ d ∈ ds, ∃ t, d.template? j.platform = some t) →
      (ds.filterMap fun d => (d.template? j.platform).map fun t => (d, t)).map (·.1) = ds := by
    intro ds
    induction ds with
    | nil => exact fun _ => rfl
    | cons d ds ih =>
      intro hds
      obtain ⟨t, ht⟩ := hds d List.mem_cons_self
      simp [ht, ih fun d' hd' => hds d' (List.mem_cons_of_mem _ hd')]
  refine h _ fun d hd => ?_
  obtain ⟨id, -, hs⟩ := List.mem_filterMap.1 hd
  exact Registry.exists_template hs

end Job

end CapsuleKit
