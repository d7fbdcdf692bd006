import CapsuleKit.Target.Web.Packages
import Mathlib.Data.List.Nodup

/-!
# Packages, one version for a name

A list of packages in which no name occurs twice is a map from names to versions, read by `lookup`.
Adding and pinning keep it one (`nodup_addNew`, `nodup_pin`), pinning overrides what was there
(`lookup_pin`), and sorting only puts the names into strict order (`pairwise_sorted`,
`lookup_sorted`).
-/

namespace CapsuleKit

namespace Package

variable {ps qs : List Package} {p : Package} {name : String}

theorem lookup_cons (p : Package) (ps : List Package) (name : String) :
    List.lookup name (p :: ps) = if name = p.1 then some p.2 else ps.lookup name := by
  rw [List.lookup_cons]
  by_cases h : name = p.1
  · rw [if_pos h, beq_iff_eq.2 h]
  · rw [if_neg h, beq_false_of_ne h]

theorem lookup_eq_some_iff_mem (h : (ps.map (·.1)).Nodup) {version : String} :
    ps.lookup name = some version ↔ (name, version) ∈ ps := by
  induction ps with
  | nil => simp
  | cons q ps ih =>
    obtain ⟨n, v⟩ := q
    obtain ⟨hfresh, hnodup⟩ := List.nodup_cons.1 h
    rw [lookup_cons]
    split
    case isTrue hname =>
      subst hname
      have hnot : (name, version) ∉ ps := fun hmem => hfresh (List.mem_map.2 ⟨_, hmem, rfl⟩)
      simp [hnot, eq_comm]
    case isFalse hname => simp [ih hnodup, show ¬ name = n from hname]

theorem lookup_of_perm (hperm : ps.Perm qs) (h : (ps.map (·.1)).Nodup) (name : String) :
    ps.lookup name = qs.lookup name := by
  have h' : (qs.map (·.1)).Nodup := (hperm.map _).nodup_iff.1 h
  ext version
  rw [lookup_eq_some_iff_mem h, lookup_eq_some_iff_mem h', hperm.mem_iff]

/-! ### Adding -/

theorem nodup_addNew (h : (ps.map (·.1)).Nodup) (p : Package) :
    ((addNew ps p).map (·.1)).Nodup := by
  rw [addNew]
  split
  case isTrue => exact h
  case isFalse hany =>
    rw [List.map_append, List.nodup_append]
    refine ⟨h, List.nodup_singleton _, ?_⟩
    rintro n hn _ hp rfl
    obtain ⟨q, hq, rfl⟩ := List.mem_map.1 hn
    have heq : q.1 = p.1 := by simpa using hp
    exact hany (List.any_eq_true.2 ⟨q, hq, by simpa using heq⟩)

theorem nodup_foldl_addNew (new : List Package) (h : (ps.map (·.1)).Nodup) :
    ((new.foldl addNew ps).map (·.1)).Nodup := by
  induction new generalizing ps with
  | nil => exact h
  | cons p new ih => exact ih (nodup_addNew h p)

/-! ### Pinning -/

theorem mem_map_fst_pin {n : String} (h : n ∈ (pin ps p).map (·.1)) :
    n = p.1 ∨ n ∈ ps.map (·.1) := by
  induction ps with
  | nil => simpa [pin] using h
  | cons q qs ih =>
    rw [pin] at h
    split at h
    case isTrue hq => simpa [hq] using h
    case isFalse =>
      rcases List.mem_cons.1 h with rfl | h
      · exact .inr List.mem_cons_self
      · exact (ih h).imp_right (List.mem_cons_of_mem _)

theorem nodup_pin (h : (ps.map (·.1)).Nodup) (p : Package) : ((pin ps p).map (·.1)).Nodup := by
  induction ps with
  | nil => exact List.nodup_singleton _
  | cons q qs ih =>
    obtain ⟨hfresh, hnodup⟩ := List.nodup_cons.1 h
    rw [pin]
    split
    case isTrue hq =>
      rw [List.map_cons, ← hq]
      exact h
    case isFalse hq =>
      refine List.nodup_cons.2 ⟨fun hmem => ?_, ih hnodup⟩
      rcases mem_map_fst_pin hmem with heq | hmem
      · exact hq heq
      · exact hfresh hmem

theorem lookup_pin (ps : List Package) (p : Package) (name : String) :
    (pin ps p).lookup name = if name = p.1 then some p.2 else ps.lookup name := by
  induction ps with
  | nil => rw [pin, lookup_cons]
  | cons q qs ih =>
    rw [pin]
    split
    case isTrue hq =>
      rw [lookup_cons, lookup_cons, hq]
      split <;> rfl
    case isFalse hq =>
      rw [lookup_cons, lookup_cons, ih]
      by_cases h : name = q.1
      · rw [if_pos h, if_pos h, if_neg (h ▸ hq)]
      · rw [if_neg h, if_neg h]

theorem nodup_foldl_pin (pins : List Package) (h : (ps.map (·.1)).Nodup) :
    ((pins.foldl pin ps).map (·.1)).Nodup := by
  induction pins generalizing ps with
  | nil => exact h
  | cons p pins ih => exact ih (nodup_pin h p)

theorem lookup_foldl_pin {pins : List Package} (h : (pins.map (·.1)).Nodup) (ps : List Package)
    (name : String) :
    (pins.foldl pin ps).lookup name = (pins.lookup name).or (ps.lookup name) := by
  induction pins generalizing ps with
  | nil => rfl
  | cons p pins ih =>
    obtain ⟨hfresh, hnodup⟩ := List.nodup_cons.1 h
    rw [List.foldl_cons, ih hnodup, lookup_pin, lookup_cons]
    split
    case isTrue hname =>
      have hnone : pins.lookup name = none := by
        refine List.lookup_eq_none_iff.2 fun q hq => ?_
        rw [hname]
        simpa using fun heq => hfresh (List.mem_map.2 ⟨q, hq, heq.symm⟩)
      rw [hnone, Option.none_or, Option.some_or]
    case isFalse => rfl

/-! ### Sorting -/

theorem sorted_perm (ps : List Package) : (sorted ps).Perm ps :=
  List.mergeSort_perm _ _

theorem pairwise_sorted (h : (ps.map (·.1)).Nodup) : (sorted ps).Pairwise fun a b => a.1 < b.1 := by
  have hle : (sorted ps).Pairwise fun a b => decide (a.1 ≤ b.1) = true :=
    List.pairwise_mergeSort
      (fun a b c hab hbc => by
        simp only [decide_eq_true_eq] at hab hbc ⊢
        exact String.le_trans hab hbc)
      (fun a b => by simpa using String.le_total a.1 b.1) ps
  have hne : (sorted ps).Pairwise fun a b => a.1 ≠ b.1 :=
    List.pairwise_map.1 (((sorted_perm ps).map _).nodup_iff.2 h)
  refine List.Pairwise.imp₂ (fun a b hab hne => ?_) hle hne
  have hab : a.1 ≤ b.1 := of_decide_eq_true hab
  by_contra hlt
  exact hne (String.le_antisymm hab (String.not_lt.1 hlt))

theorem sorted_of_pairwise (h : ps.Pairwise fun a b => a.1 < b.1) : sorted ps = ps :=
  List.mergeSort_of_pairwise (h.imp fun hab => decide_eq_true (String.not_lt.1 (String.lt_asymm hab)))

theorem lookup_sorted (h : (ps.map (·.1)).Nodup) (name : String) :
    (sorted ps).lookup name = ps.lookup name :=
  (lookup_of_perm (sorted_perm ps).symm h name).symm

end Package

namespace Job

theorem nodup_packages (j : Job) : (j.packages.map (·.1)).Nodup := by
  have hframework : (frameworkPackages.map (·.1)).Nodup := by decide
  exact ((Package.sorted_perm _).map _).nodup_iff.2 (Package.nodup_foldl_addNew _ hframework)

theorem pairwise_packages (j : Job) : j.packages.Pairwise fun a b => a.1 < b.1 :=
  Package.pairwise_sorted (Package.nodup_foldl_addNew _ (by decide))

theorem sorted_packages (j : Job) : Package.sorted j.packages = j.packages :=
  Package.sorted_of_pairwise j.pairwise_packages

end Job

end CapsuleKit
