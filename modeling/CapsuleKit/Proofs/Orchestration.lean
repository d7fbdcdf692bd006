import CapsuleKit.Orchestrator.Basic
import CapsuleKit.Orchestrator.Summary
import CapsuleKit.Proofs.FirstOccurrences
import Mathlib.Algebra.BigOperators.Ring.Finset
import Mathlib.Algebra.Order.BigOperators.Group.List
import Mathlib.Algebra.Order.Group.Nat

/-!
# Results of an orchestrator

However the result for a platform comes about, it is well formed (`CompileResult.IsWellFormed`): its
flag, its lists of diagnostics and its totals fit each other. There are four ways, and
`Orchestrator.compileOne_cases` lists them: no compiler, a limit that is exceeded, a compiler that
breaks off, and the result of a compiler itself. The totals and the flag of a summary are computed
from different members of the results; that they agree follows from the results being well formed.
-/

namespace CapsuleKit

namespace CompileResult

/-- What holds of the result for a platform. -/
structure IsWellFormed (r : CompileResult) (platform : String) : Prop where
  platform_eq : r.platform = platform
  success_iff : r.success = true ↔ r.errors = none
  errors_ne : r.errors ≠ some []
  warnings_ne : r.warnings ≠ some []
  fileCount_eq : r.stats.fileCount = r.files.length
  totalSize_eq : r.stats.totalSize = (r.files.map (·.content.length)).sum

/-- A result without output: no files and a single error. -/
def IsBareFailure (r : CompileResult) : Prop :=
  r.files = [] ∧ ∃ e, r.errors = some [e]

theorem present_ne {α : Type} (l : List α) : present l ≠ some [] := by
  cases l <;> simp [present]

theorem present_eq_none {α : Type} {l : List α} : present l = none ↔ l = [] := by
  cases l <;> simp [present]

theorem isWellFormed_ofDiagnostics (platform : String) (files : List GeneratedFile)
    (ds : Diagnostics) : (ofDiagnostics platform files ds).IsWellFormed platform where
  platform_eq := rfl
  success_iff := List.isEmpty_iff.trans present_eq_none.symm
  errors_ne := present_ne _
  warnings_ne := present_ne _
  fileCount_eq := rfl
  totalSize_eq := by
    rw [List.sum_eq_foldl]
    rfl

theorem isWellFormed_failure (platform code message : String) :
    (failure platform code message).IsWellFormed platform where
  platform_eq := rfl
  success_iff := ⟨nofun, nofun⟩
  errors_ne := nofun
  warnings_ne := nofun
  fileCount_eq := rfl
  totalSize_eq := rfl

theorem isBareFailure_failure (platform code message : String) :
    (failure platform code message).IsBareFailure :=
  ⟨rfl, _, rfl⟩

theorem IsWellFormed.success_iff_count {r : CompileResult} {platform : String}
    (h : r.IsWellFormed platform) : r.success = true ↔ Summary.count r.errors = 0 := by
  rw [h.success_iff]
  cases he : r.errors with
  | none => simp [Summary.count]
  | some es =>
    have hne : es ≠ [] := fun heq => h.errors_ne (by rw [he, heq])
    simpa [Summary.count] using hne

end CompileResult

/-- Whether an attempt takes longer than a limit allows. -/
def Attempt.Exceeds (a : Attempt) (limit : Option TimeLimit) : Prop :=
  ∃ l, limit = some l ∧ l.allows a.seconds = false

/-- What a compiler may do with a composition under a limit: finish what some generator writes,
break off, or exceed the limit, whatever it would have returned. -/
def Compiler.IsRegular (k : Compiler) (limit : Option TimeLimit) : Prop :=
  ∀ r c, (∃ g : Generator, (k.run r c).outcome = .ok (g.compile ⟨r, k.platform, c⟩)) ∨
    (∃ message, (k.run r c).outcome = .error message) ∨ (k.run r c).Exceeds limit

namespace Orchestrator

variable (o : Orchestrator) (r : Registry) (c : Composition)

/-- Whether there is no compiler for a platform, or it breaks off or exceeds the limit. -/
def Fails (platform : String) : Prop :=
  o.find? platform = none ∨ ∃ k, o.find? platform = some k ∧
    ((k.run r c).Exceeds o.limit ∨ ∃ message, (k.run r c).outcome = .error message)

/-- The ways in which the result for a platform comes about. -/
theorem compileOne_cases (platform : String) :
    (∃ code message, o.compileOne r c platform = .failure platform code message) ∨
      ∃ k, o.find? platform = some k ∧ ¬ (k.run r c).Exceeds o.limit ∧
        (k.run r c).outcome = .ok (o.compileOne r c platform) := by
  cases hk : o.find? platform with
  | none => exact .inl ⟨_, _, by rw [compileOne, hk]; rfl⟩
  | some k =>
    have hconclude :
        (∃ code message, conclude platform (k.run r c) = .failure platform code message) ∨
          (k.run r c).outcome = .ok (conclude platform (k.run r c)) := by
      unfold conclude
      split
      · exact .inr ‹_›
      · exact .inl ⟨_, _, rfl⟩
    simp only [compileOne, hk]
    cases hlimit : o.limit with
    | none => exact hconclude.imp_right fun hok => ⟨k, rfl, nofun, hok⟩
    | some limit =>
      by_cases hallows : limit.allows (k.run r c).seconds = true
      · simp only [hallows, if_true]
        refine hconclude.imp_right fun hok => ⟨k, rfl, ?_, hok⟩
        rintro ⟨l, hl, hexceeds⟩
        obtain rfl := Option.some.inj hl
        rw [hallows] at hexceeds
        cases hexceeds
      · simp only [hallows]
        exact .inl ⟨_, _, rfl⟩

variable {o r c} {platform : String}

theorem find?_eq_some {k : Compiler} (h : o.find? platform = some k) :
    k ∈ o.compilers ∧ k.platform = platform :=
  ⟨List.mem_of_find?_eq_some h, by simpa using List.find?_some h⟩

theorem isWellFormed_compileOne (h : ∀ k ∈ o.compilers, k.IsRegular o.limit) :
    (o.compileOne r c platform).IsWellFormed platform := by
  rcases o.compileOne_cases r c platform with ⟨code, message, heq⟩ | ⟨k, hk, hlimit, hok⟩
  · rw [heq]
    exact CompileResult.isWellFormed_failure platform code message
  · obtain ⟨hmem, rfl⟩ := find?_eq_some hk
    rcases h k hmem r c with ⟨g, hg⟩ | ⟨message, hm⟩ | hexceeds
    · obtain heq := Except.ok.inj (hok.symm.trans hg)
      rw [heq]
      exact CompileResult.isWellFormed_ofDiagnostics ..
    · cases hok.symm.trans hm
    · exact absurd hexceeds hlimit

theorem isBareFailure_compileOne (h : o.Fails r c platform) :
    (o.compileOne r c platform).IsBareFailure := by
  rcases o.compileOne_cases r c platform with ⟨code, message, heq⟩ | ⟨k, hk, hlimit, hok⟩
  · rw [heq]
    exact CompileResult.isBareFailure_failure platform code message
  · rcases h with hnone | ⟨k', hk', hfails⟩
    · cases hk.symm.trans hnone
    · obtain rfl := Option.some.inj (hk.symm.trans hk')
      rcases hfails with hexceeds | ⟨message, hm⟩
      · exact absurd hexceeds hlimit
      · cases hok.symm.trans hm

/-! ### Requests -/

theorem map_fst_compileAll (request : Option (List String)) :
    (o.compileAll r c request).map (·.1) = (request.getD c.targets).eraseDups := by
  rw [compileAll, List.map_map]
  exact List.map_id _

theorem mem_compileAll {request : Option (List String)} {e : String × CompileResult}
    (h : e ∈ o.compileAll r c request) : e.2 = o.compileOne r c e.1 := by
  obtain ⟨p, -, rfl⟩ := List.mem_map.1 h
  rfl

theorem lookup_compileAll {request : Option (List String)}
    (h : platform ∈ request.getD c.targets) :
    (o.compileAll r c request).lookup platform = some (o.compileOne r c platform) := by
  have hmem : platform ∈ requested c request := List.mem_eraseDups.2 h
  unfold compileAll
  generalize requested c request = ps at hmem ⊢
  induction ps with
  | nil => exact absurd hmem List.not_mem_nil
  | cons p ps ih =>
    rw [List.map_cons, List.lookup_cons]
    by_cases hp : platform = p
    · subst hp
      rw [beq_self_eq_true]
    · rw [beq_false_of_ne hp]
      exact ih ((List.mem_cons.1 hmem).resolve_left hp)

end Orchestrator

/-! ### Summaries -/

namespace Summary

variable (results : List (String × CompileResult))

theorem success_iff_failed :
    (ofResults results).success = true ↔ (ofResults results).failed = [] := by
  simp [ofResults]

theorem failed_sublist : (ofResults results).failed.Sublist (ofResults results).platforms :=
  List.filter_sublist.map _

theorem warningCount_eq :
    (ofResults results).warningCount = (results.map fun e => (e.2.warnings.getD []).length).sum :=
  List.sum_eq_foldl.symm

theorem errorCount_eq :
    (ofResults results).errorCount = (results.map fun e => (e.2.errors.getD []).length).sum :=
  List.sum_eq_foldl.symm

theorem foldl_eq_sum {f : String × CompileResult → Int} {g : String × CompileResult → Nat}
    (h : ∀ e ∈ results, f e = g e) :
    (results.map f).foldl (· + ·) (0 : Int) = ((results.map g).sum : Nat) := by
  rw [List.map_congr_left h, ← List.sum_eq_foldl, Nat.cast_list_sum, List.map_map]
  rfl

variable {results} (h : ∀ e ∈ results, e.2.IsWellFormed e.1)

include h

theorem success_iff_errorCount :
    (ofResults results).success = true ↔ (ofResults results).errorCount = 0 := by
  rw [errorCount_eq, List.sum_eq_zero_iff, List.forall_mem_map, ofResults, List.all_eq_true]
  exact forall₂_congr fun e he => (h e he).success_iff_count

theorem fileCount_eq :
    (ofResults results).fileCount = ((results.map fun e => e.2.files.length).sum : Nat) :=
  foldl_eq_sum results fun e he => (h e he).fileCount_eq

theorem totalSize_eq : (ofResults results).totalSize =
    ((results.map fun e => (e.2.files.map (·.content.length)).sum).sum : Nat) :=
  foldl_eq_sum results fun e he => (h e he).totalSize_eq

end Summary

/-- An orchestrator keeps its promises. Its compilers may finish what any generator writes, files
and a failure at any point, may break off, and may exceed any limit. Whatever is requested, there is
one result for each requested platform, in the order of first occurrences. The result for a platform
does not depend on the rest of the request and is well formed; without a compiler, after a breakdown
and beyond the limit it has no files and one error. The summary of the results is successful exactly
if no platform failed, and exactly if there are no errors, and its totals are those of the
results. -/
theorem compileAll_isWellFormed (o : Orchestrator) (r : Registry) (c : Composition)
    (h : ∀ k ∈ o.compilers, k.IsRegular o.limit) :
    (∀ request : Option (List String),
      let asked := request.getD c.targets
      let keys := (o.compileAll r c request).map (·.1)
      (∀ p, p ∈ keys ↔ p ∈ asked) ∧ keys.Pairwise fun p q => asked.idxOf p < asked.idxOf q) ∧
    (∀ platform, ∃ entry : CompileResult,
      (∀ request : Option (List String), platform ∈ request.getD c.targets →
        (o.compileAll r c request).lookup platform = some entry) ∧
      entry.IsWellFormed platform ∧ (o.Fails r c platform → entry.IsBareFailure)) ∧
    ∀ request : Option (List String),
      let results := o.compileAll r c request
      let summary := Summary.ofResults results
      summary.platforms = results.map (·.1) ∧
        (summary.success = true ↔ summary.failed = []) ∧
        (summary.success = true ↔ summary.errorCount = 0) ∧
        summary.failed.Sublist summary.platforms ∧
        (∀ e ∈ results, e.1 ∈ summary.failed ↔ e.2.success = false) ∧
        summary.fileCount = ((results.map fun e => e.2.files.length).sum : Nat) ∧
        summary.totalSize =
          ((results.map fun e => (e.2.files.map (·.content.length)).sum).sum : Nat) ∧
        summary.errorCount = (results.map fun e => (e.2.errors.getD []).length).sum ∧
        summary.warningCount = (results.map fun e => (e.2.warnings.getD []).length).sum := by
  have hwell : ∀ request, ∀ e ∈ o.compileAll r c request, e.2.IsWellFormed e.1 := by
    intro request e he
    rw [Orchestrator.mem_compileAll he]
    exact Orchestrator.isWellFormed_compileOne h
  refine ⟨fun request => ?_, fun platform => ?_, fun request => ?_⟩
  · simp only [Orchestrator.map_fst_compileAll]
    exact ⟨fun p => List.mem_eraseDups, pairwise_idxOf_eraseDups _⟩
  · exact ⟨o.compileOne r c platform, fun request => Orchestrator.lookup_compileAll,
      Orchestrator.isWellFormed_compileOne h, Orchestrator.isBareFailure_compileOne⟩
  · refine ⟨rfl, Summary.success_iff_failed _, Summary.success_iff_errorCount (hwell request),
      Summary.failed_sublist _, fun e he => ?_, Summary.fileCount_eq (hwell request),
      Summary.totalSize_eq (hwell request), Summary.errorCount_eq _, Summary.warningCount_eq _⟩
    simp only [Summary.ofResults, List.mem_map, List.mem_filter, Bool.not_eq_true']
    refine ⟨?_, fun hfail => ⟨e, ⟨he, hfail⟩, rfl⟩⟩
    rintro ⟨e', ⟨he', hfail⟩, heq⟩
    rw [Orchestrator.mem_compileAll he', heq] at hfail
    rw [Orchestrator.mem_compileAll he, hfail]

/-- A generator that stops after a file, a compiler that breaks off, one that takes too long and
would return a result that fits nothing, and a platform without a compiler, one of them requested
twice. -/
theorem compileAll_isWellFormed_mixed :
    let stops : Generator :=
      { kind := "Stops", name := "Stops", problems := fun _ => []
        steps := fun _ => [emitFile "a.txt" "text" none, .error "stopped"] }
    let breaks : Compiler :=
      { platform := "breaks", kind := "Breaks", name := "Breaks", identity := 1
        run := fun _ _ => { outcome := .error "broken" } }
    let stalls : Compiler :=
      { platform := "stalls", kind := "Stalls", name := "Stalls", identity := 2
        run := fun _ _ =>
          { seconds := 30
            outcome := .ok { success := true, platform := "web", errors := some [] } } }
    let o : Orchestrator :=
      { limit := some (.whole 5), compilers := [stops.toCompiler "stops" 0, breaks, stalls] }
    let request := some ["stalls", "stops", "none", "stalls", "breaks"]
    (∀ k ∈ o.compilers, k.IsRegular o.limit) ∧
      (∀ platform ∈ ["stalls", "none", "breaks"], o.Fails ⟨[]⟩ { name := "App" } platform) ∧
      (o.compileAll ⟨[]⟩ { name := "App" } request).map (·.1) =
        ["stalls", "stops", "none", "breaks"] ∧
      (Summary.ofResults (o.compileAll ⟨[]⟩ { name := "App" } request)).fileCount =
        (((o.compileAll ⟨[]⟩ { name := "App" } request).map
          fun e => e.2.files.length).sum : Nat) := by
  intro stops breaks stalls o request
  have hregular : ∀ k ∈ o.compilers, k.IsRegular o.limit :=
    List.forall_mem_cons.2 ⟨fun r c => .inl ⟨stops, rfl⟩,
      List.forall_mem_cons.2 ⟨fun r c => .inr (.inl ⟨_, rfl⟩),
        List.forall_mem_singleton.2 fun r c => .inr (.inr ⟨_, rfl, rfl⟩)⟩⟩
  refine ⟨hregular, ?_, by decide,
    ((compileAll_isWellFormed o ⟨[]⟩ { name := "App" } hregular).2.2 request).2.2.2.2.2.1⟩
  exact List.forall_mem_cons.2 ⟨.inr ⟨stalls, rfl, .inl ⟨_, rfl, rfl⟩⟩,
    List.forall_mem_cons.2 ⟨.inl rfl,
      List.forall_mem_singleton.2 (.inr ⟨breaks, rfl, .inr ⟨_, rfl⟩⟩)⟩⟩

end CapsuleKit
