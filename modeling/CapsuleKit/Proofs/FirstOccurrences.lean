import Mathlib.Data.List.Basic

/-!
# First occurrences

What is collected in a list may occur in it several times. Without repetitions its items stand in the
order of their first occurrences (`keepsFirst_eraseDups`), and where several lists follow each other,
that order goes by the lists and then by the places in them (`exists_standsAt_of_idxOf_lt`).
-/

namespace CapsuleKit

theorem idxOf_lt_of_filter {l : List String} {f : String → Bool} {p q : String} (hp : f p = true)
    (hq : f q = true) (h : (l.filter f).idxOf p < (l.filter f).idxOf q) :
    l.idxOf p < l.idxOf q := by
  induction l with
  | nil => exact absurd h (Nat.lt_irrefl _)
  | cons a l ih =>
    by_cases ha : f a = true
    · rw [List.filter_cons_of_pos ha, List.idxOf_cons, List.idxOf_cons] at h
      rw [List.idxOf_cons, List.idxOf_cons]
      cases hap : a == p <;> cases haq : a == q <;> simp_all
    · have hap : (a == p) = false := by
        rw [beq_eq_false_iff_ne]
        rintro rfl
        exact ha hp
      have haq : (a == q) = false := by
        rw [beq_eq_false_iff_ne]
        rintro rfl
        exact ha hq
      rw [List.filter_cons_of_neg ha] at h
      rw [List.idxOf_cons, List.idxOf_cons, hap, haq]
      exact Nat.succ_lt_succ (ih h)

theorem pairwise_idxOf_eraseDups (l : List String) :
    l.eraseDups.Pairwise fun p q => l.idxOf p < l.idxOf q := by
  -- `eraseDups` goes on with the list without its first item, which is shorter
  induction hn : l.length using Nat.strongRecOn generalizing l with
  | _ n ih =>
    cases l with
    | nil => exact .nil
    | cons a l =>
      have hfilter : ∀ p ∈ (l.filter fun b => !b == a).eraseDups, (!p == a) = true := fun p hp =>
        (List.mem_filter.1 (List.mem_eraseDups.1 hp)).2
      have hafter : ∀ p, (!p == a) = true → (a :: l).idxOf p = l.idxOf p + 1 := by
        intro p hp
        have hne : (a == p) = false := by
          rw [beq_eq_false_iff_ne]
          rintro rfl
          simp at hp
        rw [List.idxOf_cons, hne]
        rfl
      rw [List.eraseDups_cons]
      refine .cons (fun p hp => ?_) ?_
      · rw [hafter p (hfilter p hp), List.idxOf_cons_self]
        exact Nat.succ_pos _
      · have hshort : (l.filter fun b => !b == a).length < n := by
          rw [← hn]
          exact Nat.lt_succ_of_le (List.length_filter_le _ _)
        refine (ih _ hshort _ rfl).imp_of_mem fun {p q} hp hq hlt => ?_
        rw [hafter p (hfilter p hp), hafter q (hfilter q hq)]
        exact Nat.succ_lt_succ (idxOf_lt_of_filter (hfilter p hp) (hfilter q hq) hlt)

/-- The items of a list, each once, in the order of their first occurrences. -/
structure KeepsFirst (all once : List String) : Prop where
  nodup : once.Nodup
  mem : ∀ a, a ∈ once ↔ a ∈ all
  order : once.Pairwise fun a b => all.idxOf a < all.idxOf b

theorem keepsFirst_eraseDups (l : List String) : KeepsFirst l l.eraseDups where
  nodup := (pairwise_idxOf_eraseDups l).imp fun hlt heq =>
    absurd (heq ▸ hlt) (Nat.lt_irrefl _)
  mem _ := List.mem_eraseDups
  order := pairwise_idxOf_eraseDups l

/-- An item stands in the list with an index, at an index there. -/
def StandsAt (lists : List (List String)) (a : String) (k m : Nat) : Prop :=
  ∃ l, lists[k]? = some l ∧ l[m]? = some a

theorem idxOf_le_of_getElem? {l : List String} {a : String} {m : Nat} (h : l[m]? = some a) :
    l.idxOf a ≤ m := by
  obtain ⟨hm, rfl⟩ := List.getElem?_eq_some_iff.1 h
  by_contra hlt
  have hne := List.not_of_lt_findIdx (Nat.lt_of_not_le hlt)
  simp at hne

/-- Where lists follow each other, what occurs first of two items stands in an earlier list than
the other one, or in front of it in the same list. -/
theorem exists_standsAt_of_idxOf_lt {lists : List (List String)} {a b : String}
    (ha : a ∈ lists.flatten) (h : lists.flatten.idxOf a < lists.flatten.idxOf b) :
    ∃ k m, StandsAt lists a k m ∧
      ∀ k' m', StandsAt lists b k' m' → k < k' ∨ k = k' ∧ m < m' := by
  induction lists with
  | nil => cases ha
  | cons l lists ih =>
    rw [List.flatten_cons] at ha h
    by_cases hl : a ∈ l
    · rw [List.idxOf_append_of_mem hl] at h
      refine ⟨0, l.idxOf a, ⟨l, rfl, List.getElem?_idxOf hl⟩, ?_⟩
      rintro (_ | k') m' ⟨l', hl', hb⟩
      · obtain rfl := Option.some.inj hl'
        rw [List.idxOf_append_of_mem (List.mem_of_getElem? hb)] at h
        exact .inr ⟨rfl, Nat.lt_of_lt_of_le h (idxOf_le_of_getElem? hb)⟩
      · exact .inl k'.succ_pos
    · have hb : b ∉ l := by
        intro hb
        rw [List.idxOf_append_of_mem hb, List.idxOf_append_of_notMem hl] at h
        have hlt : l.idxOf b < l.length := List.idxOf_lt_length_iff.2 hb
        omega
      rw [List.idxOf_append_of_notMem hl, List.idxOf_append_of_notMem hb] at h
      obtain ⟨k, m, hk, hfirst⟩ :=
        ih ((List.mem_append.1 ha).resolve_left hl) (Nat.lt_of_add_lt_add_left h)
      refine ⟨k + 1, m, hk, ?_⟩
      rintro (_ | k') m' ⟨l', hl', hb'⟩
      · obtain rfl := Option.some.inj hl'
        exact absurd (List.mem_of_getElem? hb') hb
      · rcases hfirst k' m' ⟨l', hl', hb'⟩ with hlt | ⟨rfl, hlt⟩
        · exact .inl (Nat.succ_lt_succ hlt)
        · exact .inr ⟨rfl, hlt⟩

end CapsuleKit
