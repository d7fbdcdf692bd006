import CapsuleKit.Proofs.FirstOccurrences
import CapsuleKit.Proofs.PackageVersions

/-!
# The order of a walk

Every instance of a tree stands at a place, given by the steps that lead there from the top. A walk
comes to every place once, in the order of the places: what is above something comes before it, and
where two places part the children come before the slots, slots and instances in their own order
(`Instance.Step.Before`, `List.Lex`). What a composition collects along the walk, capsules and then
the dependencies of their templates, is kept at its first occurrence.
-/

namespace CapsuleKit

namespace Instance

/-- A step down in a tree, to a child or to an instance in a slot; all are counted from zero. -/
inductive Step where
  | child (index : Nat)
  | slot (slot index : Nat)

/-- The order of the steps from an instance. -/
inductive Step.Before : Step → Step → Prop
  | children {m n : Nat} : m < n → Before (.child m) (.child n)
  | childSlot {m s n : Nat} : Before (.child m) (.slot s n)
  | slots {s t m n : Nat} : s < t → Before (.slot s m) (.slot t n)
  | inSlot {s m n : Nat} : m < n → Before (.slot s m) (.slot s n)

def next? (i : Instance) : Step → Option Instance
  | .child n => i.children[n]?
  | .slot s n => i.slots[s]?.bind fun slot => slot.2[n]?

def descend? (i : Instance) : List Step → Option Instance
  | [] => some i
  | s :: place => (i.next? s).bind fun c => c.descend? place

/-- A visit of the instance at a place, as deep below the start as the place is. -/
def Visits (i : Instance) (start : Nat) (place : List Step) (v : Instance × Nat) : Prop :=
  i.descend? place = some v.1 ∧ v.2 = start + place.length

theorem not_lex_self (place : List Step) : ¬ List.Lex Step.Before place place := by
  induction place with
  | nil => intro h; cases h
  | cons s place ih =>
    intro h
    cases h with
    | cons h => exact ih h
    | rel h => cases h <;> omega

/-! ### Places below an instance -/

section Below

variable (P : Instance → List Step → Prop)

/-- A place that begins with the step to one of several instances, the first one counted as `n`, and
goes on in that instance with a place that has a property. -/
def Below (step : Nat → Step) (n : Nat) (is : List Instance) (p : List Step) : Prop :=
  ∃ k q c, p = step (n + k) :: q ∧ is[k]? = some c ∧ P c q

/-- The same for the instances in several slots, the first slot counted as `n`. -/
def BelowSlots (n : Nat) (ss : List (String × List Instance)) (p : List Step) : Prop :=
  ∃ s k q c, p = .slot (n + s) k :: q ∧ (ss[s]?.bind fun slot => slot.2[k]?) = some c ∧ P c q

variable {P} {p : List Step}

theorem below_cons {step : Nat → Step} {n : Nat} {i : Instance} {is : List Instance} :
    Below P step n (i :: is) p ↔ (∃ q, P i q ∧ step n :: q = p) ∨ Below P step (n + 1) is p := by
  have hnext (k : Nat) : n + (k + 1) = n + 1 + k := by omega
  constructor
  · rintro ⟨_ | k, q, c, rfl, hk, hq⟩
    · obtain rfl := Option.some.inj hk
      exact .inl ⟨q, hq, rfl⟩
    · exact .inr ⟨k, q, c, by rw [hnext k], hk, hq⟩
  · rintro (⟨q, hq, rfl⟩ | ⟨k, q, c, rfl, hk, hq⟩)
    · exact ⟨0, q, i, rfl, rfl, hq⟩
    · exact ⟨k + 1, q, c, by rw [hnext k], hk, hq⟩

theorem belowSlots_cons {n : Nat} {slot : String × List Instance}
    {ss : List (String × List Instance)} :
    BelowSlots P n (slot :: ss) p ↔ Below P (.slot n) 0 slot.2 p ∨ BelowSlots P (n + 1) ss p := by
  have hnext (s : Nat) : n + (s + 1) = n + 1 + s := by omega
  constructor
  · rintro ⟨_ | s, k, q, c, rfl, hk, hq⟩
    · exact .inl ⟨k, q, c, by rw [Nat.zero_add, Nat.add_zero], hk, hq⟩
    · exact .inr ⟨s, k, q, c, by rw [hnext s], hk, hq⟩
  · rintro (⟨k, q, c, rfl, hk, hq⟩ | ⟨s, k, q, c, rfl, hk, hq⟩)
    · exact ⟨0, k, q, c, by rw [Nat.zero_add, Nat.add_zero], hk, hq⟩
    · exact ⟨s + 1, k, q, c, by rw [hnext s], hk, hq⟩

theorem below_or_belowSlots_iff (i : Instance) :
    Below P .child 0 i.children p ∨ BelowSlots P 0 i.slots p ↔
      ∃ s q c, p = s :: q ∧ i.next? s = some c ∧ P c q := by
  simp only [Below, BelowSlots, Nat.zero_add]
  constructor
  · rintro (⟨k, q, c, rfl, hk, hq⟩ | ⟨s, k, q, c, rfl, hk, hq⟩)
    · exact ⟨.child k, q, c, rfl, hk, hq⟩
    · exact ⟨.slot s k, q, c, rfl, hk, hq⟩
  · rintro ⟨s, q, c, rfl, hs, hq⟩
    cases s with
    | child k => exact .inl ⟨k, q, c, rfl, hs, hq⟩
    | slot s k => exact .inr ⟨s, k, q, c, rfl, hs, hq⟩

end Below

/-! ### All places of a tree -/

mutual

/-- The places of a tree, in the order in which a walk comes to them. -/
def places : Instance → List (List Step)
  | ⟨_, _, _, _, children, slots⟩ =>
    [] :: (placesOfList .child 0 children ++ placesOfSlots 0 slots)

def placesOfList (step : Nat → Step) (n : Nat) : List Instance → List (List Step)
  | [] => []
  | i :: is => (places i).map (step n :: ·) ++ placesOfList step (n + 1) is

def placesOfSlots (n : Nat) : List (String × List Instance) → List (List Step)
  | [] => []
  | (_, is) :: ss => placesOfList (.slot n) 0 is ++ placesOfSlots (n + 1) ss

end

theorem mem_placesOfList {step : Nat → Step} {n : Nat} {is : List Instance} {p : List Step} :
    p ∈ placesOfList step n is ↔ Below (fun c q => q ∈ places c) step n is p := by
  induction is generalizing n with
  | nil => simp [placesOfList, Below]
  | cons i is ih => rw [placesOfList, List.mem_append, List.mem_map, ih, below_cons]

theorem mem_placesOfSlots {n : Nat} {ss : List (String × List Instance)} {p : List Step} :
    p ∈ placesOfSlots n ss ↔ BelowSlots (fun c q => q ∈ places c) n ss p := by
  induction ss generalizing n with
  | nil => simp [placesOfSlots, BelowSlots]
  | cons slot ss ih => rw [placesOfSlots, List.mem_append, mem_placesOfList, ih, belowSlots_cons]

theorem cons_mem_places_iff {i : Instance} {s : Step} {q : List Step} :
    s :: q ∈ places i ↔ ∃ c, i.next? s = some c ∧ q ∈ places c := by
  have hbelow := below_or_belowSlots_iff (P := fun c q => q ∈ places c) (p := s :: q) i
  obtain ⟨id, capsuleId, name, props, children, slots⟩ := i
  rw [places, List.mem_cons, or_iff_right (List.cons_ne_nil s q), List.mem_append,
    mem_placesOfList, mem_placesOfSlots, hbelow]
  constructor
  · rintro ⟨s, q, c, heq, hc, hq⟩
    cases heq
    exact ⟨c, hc, hq⟩
  · rintro ⟨c, hc, hq⟩
    exact ⟨s, q, c, rfl, hc, hq⟩

theorem mem_places_iff {i : Instance} {p : List Step} :
    p ∈ places i ↔ (i.descend? p).isSome = true := by
  induction p generalizing i with
  | nil =>
    obtain ⟨id, capsuleId, name, props, children, slots⟩ := i
    exact iff_of_true (.head _) rfl
  | cons s q ih =>
    rw [cons_mem_places_iff, descend?]
    cases i.next? s with
    | none => simp
    | some c => simp [ih]

mutual

theorem pairwise_places : ∀ i : Instance, (places i).Pairwise (List.Lex Step.Before)
  | ⟨_, _, _, _, children, slots⟩ => by
    rw [places, List.pairwise_cons, List.pairwise_append]
    refine ⟨fun p hp => ?_, pairwise_placesOfList .children 0 children,
      pairwise_placesOfSlots 0 slots, fun p hp q hq => ?_⟩
    · rcases List.mem_append.1 hp with hp | hp
      · obtain ⟨k, q, c, rfl, -⟩ := mem_placesOfList.1 hp
        exact .nil
      · obtain ⟨s, k, q, c, rfl, -⟩ := mem_placesOfSlots.1 hp
        exact .nil
    · obtain ⟨k, p, c, rfl, -⟩ := mem_placesOfList.1 hp
      obtain ⟨s, l, q, d, rfl, -⟩ := mem_placesOfSlots.1 hq
      exact .rel .childSlot

theorem pairwise_placesOfList {step : Nat → Step}
    (hstep : ∀ {m n}, m < n → Step.Before (step m) (step n)) :
    ∀ (n : Nat) (is : List Instance), (placesOfList step n is).Pairwise (List.Lex Step.Before)
  | _, [] => .nil
  | n, i :: is => by
    rw [placesOfList, List.pairwise_append, List.pairwise_map]
    refine ⟨(pairwise_places i).imp .cons, pairwise_placesOfList hstep (n + 1) is,
      fun p hp q hq => ?_⟩
    obtain ⟨p, -, rfl⟩ := List.mem_map.1 hp
    obtain ⟨k, q, c, rfl, -⟩ := mem_placesOfList.1 hq
    exact .rel (hstep (by omega))

theorem pairwise_placesOfSlots : ∀ (n : Nat) (ss : List (String × List Instance)),
    (placesOfSlots n ss).Pairwise (List.Lex Step.Before)
  | _, [] => .nil
  | n, (_, is) :: ss => by
    rw [placesOfSlots, List.pairwise_append]
    refine ⟨pairwise_placesOfList .inSlot 0 is, pairwise_placesOfSlots (n + 1) ss,
      fun p hp q hq => ?_⟩
    obtain ⟨k, p, c, rfl, -⟩ := mem_placesOfList.1 hp
    obtain ⟨s, l, q, d, rfl, -⟩ := mem_placesOfSlots.1 hq
    exact .rel (.slots (by omega))

end

theorem nodup_places (i : Instance) : (places i).Nodup := by
  refine (pairwise_places i).imp ?_
  rintro p _ hlex rfl
  exact not_lex_self p hlex

/-! ### Visits -/

mutual

/-- A walk comes to the places of a tree in their order. -/
theorem visits_walk : ∀ (start : Nat) (i : Instance),
    List.Forall₂ (i.Visits start) (places i) (walk start i)
  | start, ⟨id, capsuleId, name, props, children, slots⟩ => by
    -- below the top a place is one step longer than in the instance that the step leads to
    have hvisits (p : List Step) (v : Instance × Nat)
        (h : Below (fun c q => c.Visits (start + 1) q v) .child 0 children p ∨
          BelowSlots (fun c q => c.Visits (start + 1) q v) 0 slots p) :
        Visits ⟨id, capsuleId, name, props, children, slots⟩ start p v := by
      obtain ⟨s, q, c, rfl, hc, hvisit, hdepth⟩ :=
        (below_or_belowSlots_iff ⟨id, capsuleId, name, props, children, slots⟩).1 h
      refine ⟨?_, by rw [hdepth, List.length_cons]; omega⟩
      rw [descend?, hc, Option.bind_some, hvisit]
    rw [places, walk]
    refine .cons ⟨rfl, rfl⟩ (List.rel_append ?_ ?_)
    · exact (visits_walkList .child 0 (start + 1) children).imp fun p v h => hvisits p v (.inl h)
    · exact (visits_walkSlots 0 (start + 1) slots).imp fun p v h => hvisits p v (.inr h)

theorem visits_walkList (step : Nat → Step) : ∀ (n start : Nat) (is : List Instance),
    List.Forall₂ (fun p v => Below (fun c q => c.Visits start q v) step n is p)
      (placesOfList step n is) (walkList start is)
  | _, _, [] => .nil
  | n, start, i :: is => by
    rw [placesOfList, walkList]
    refine List.rel_append ?_ ?_
    · rw [List.forall₂_map_left_iff]
      exact (visits_walk start i).imp fun q v h => below_cons.2 (.inl ⟨q, h, rfl⟩)
    · exact (visits_walkList step (n + 1) start is).imp fun p v h => below_cons.2 (.inr h)

theorem visits_walkSlots : ∀ (n start : Nat) (ss : List (String × List Instance)),
    List.Forall₂ (fun p v => BelowSlots (fun c q => c.Visits start q v) n ss p)
      (placesOfSlots n ss) (walkSlots start ss)
  | _, _, [] => .nil
  | n, start, (_, is) :: ss => by
    rw [placesOfSlots, walkSlots]
    refine List.rel_append ?_ ?_
    · exact (visits_walkList (.slot n) 0 start is).imp fun p v h => belowSlots_cons.2 (.inl h)
    · exact (visits_walkSlots (n + 1) start ss).imp fun p v h => belowSlots_cons.2 (.inr h)

end

theorem walkList_eq_flatMap (start : Nat) (is : List Instance) :
    walkList start is = is.flatMap (walk start) := by
  induction is with
  | nil => rfl
  | cons i is ih => rw [walkList, ih, List.flatMap_cons]

end Instance

/-! ### What a composition collects -/

namespace Composition

variable (c : Composition) (r : Registry) (platform : String)

/-- A dependency is listed by the capsule in use with an index, at an index in its template. -/
def ListsAt (dep : String) (k m : Nat) : Prop :=
  ∃ id t, c.usedCapsules[k]? = some id ∧ r.template id platform = some t ∧
    t.dependencies[m]? = some dep

def listedBy (id : String) : List String :=
  ((r.template id platform).map (·.dependencies)).getD []

theorem dependencies_eq_eraseDups :
    c.dependencies r platform = (c.usedCapsules.map (listedBy r platform)).flatten.eraseDups :=
  Job.dependencies_eq ⟨r, platform, c⟩

variable {r platform}

theorem getElem?_listedBy {id dep : String} {m : Nat} :
    (listedBy r platform id)[m]? = some dep ↔
      ∃ t, r.template id platform = some t ∧ t.dependencies[m]? = some dep := by
  rw [listedBy]
  cases r.template id platform with
  | none => simp
  | some t => simp

theorem mem_listedBy {id dep : String} :
    dep ∈ listedBy r platform id ↔
      ∃ t, r.template id platform = some t ∧ dep ∈ t.dependencies := by
  rw [listedBy]
  cases r.template id platform with
  | none => simp
  | some t => simp

theorem standsAt_iff_listsAt {c : Composition} {dep : String} {k m : Nat} :
    StandsAt (c.usedCapsules.map (listedBy r platform)) dep k m ↔
      c.ListsAt r platform dep k m := by
  simp only [StandsAt, ListsAt, List.getElem?_map, Option.map_eq_some_iff]
  constructor
  · rintro ⟨l, ⟨id, hid, rfl⟩, hdep⟩
    obtain ⟨t, ht, hm⟩ := getElem?_listedBy.1 hdep
    exact ⟨id, t, hid, ht, hm⟩
  · rintro ⟨id, t, hid, ht, hm⟩
    exact ⟨_, ⟨id, hid, rfl⟩, getElem?_listedBy.2 ⟨t, ht, hm⟩⟩

end Composition

/-- Walks and what is collected along them. A walk from any depth visits every place of a tree once,
in the order of the places, as deep as it lies below the start. The capsules in use are those of the
walks of the root and of the flat list, each at its first occurrence. The dependencies are those
that the templates of these capsules list for the platform, each once; of two of them the first one
is listed by an earlier capsule than the other is by any, or before it in the template. -/
theorem walk_order_and_collections (start : Nat) (i : Instance) (c : Composition) (r : Registry)
    (platform : String) :
    (∃ places : List (List Instance.Step),
      places.Nodup ∧ (∀ p, p ∈ places ↔ (i.descend? p).isSome = true) ∧
      places.Pairwise (List.Lex Instance.Step.Before) ∧
      List.Forall₂ (i.Visits start) places (i.walk start)) ∧
    KeepsFirst (((c.root.toList ++ c.capsules).flatMap (Instance.walk 0)).map (·.1.capsuleId))
      c.usedCapsules ∧
    (c.dependencies r platform).Nodup ∧
    (∀ dep, dep ∈ c.dependencies r platform ↔
      ∃ id ∈ c.usedCapsules, ∃ t, r.template id platform = some t ∧ dep ∈ t.dependencies) ∧
    (c.dependencies r platform).Pairwise fun a b =>
      ∃ k m, c.ListsAt r platform a k m ∧
        ∀ k' m', c.ListsAt r platform b k' m' → k < k' ∨ k = k' ∧ m < m' := by
  have hdeps := keepsFirst_eraseDups (c.usedCapsules.map (Composition.listedBy r platform)).flatten
  rw [← c.dependencies_eq_eraseDups] at hdeps
  refine ⟨⟨i.places, i.nodup_places, fun p => Instance.mem_places_iff, i.pairwise_places,
    i.visits_walk start⟩, ?_, hdeps.nodup, fun dep => ?_, ?_⟩
  · have hwalk : c.walk = (c.root.toList ++ c.capsules).flatMap (Instance.walk 0) := by
      rw [Composition.walk, Instance.walkList_eq_flatMap, Instance.walkList_eq_flatMap,
        List.flatMap_append]
    rw [← hwalk]
    exact keepsFirst_eraseDups _
  · rw [hdeps.mem, ← List.flatMap_def, List.mem_flatMap]
    simp only [Composition.mem_listedBy]
  · refine hdeps.order.imp_of_mem fun {a b} ha _ hlt => ?_
    obtain ⟨k, m, hfirst, hlater⟩ := exists_standsAt_of_idxOf_lt ((hdeps.mem a).1 ha) hlt
    refine ⟨k, m, Composition.standsAt_iff_listsAt.1 hfirst, fun k' m' hb => ?_⟩
    exact hlater k' m' (Composition.standsAt_iff_listsAt.2 hb)

end CapsuleKit
