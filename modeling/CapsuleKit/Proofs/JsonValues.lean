import CapsuleKit.Composition.Obstacle
import CapsuleKit.Proofs.Decode
import CapsuleKit.Proofs.Fallible
import CapsuleKit.Proofs.Walk
import CapsuleKit.Proofs.Words

/-!
# Values that JSON can hold

`Value.IsJson` says what a JSON document can hold: maps with texts as keys, no moments, and whole
numbers of at most `Number.digitLimit` digits. Texts always have an order, so the entries of such a
map can be sorted (`sortKeys_gives`); hence nothing keeps such a value from being written
(`Value.IsJson.obstacle?_eq_none`), nor a page whose props are such values
(`Instance.listObstacle?_eq_none`). Numbers that are read from such values are not too long either.
-/

namespace CapsuleKit

/-! ### Sorting entries with texts as keys -/

section Sorting

variable {α : Type} {P : Scalar × α → Prop}

theorem keyLess_gives (hP : ∀ e, P e → ∃ s, e.1 = .text s) {x y : Scalar × α} (hx : P x) (hy : P y) :
    Gives (x.1.keyLess y.1) fun _ => True := by
  obtain ⟨s, hs⟩ := hP x hx
  obtain ⟨t, ht⟩ := hP y hy
  rw [hs, ht]
  exact .ok trivial

variable (hP : ∀ e, P e → ∃ s, e.1 = .text s)
include hP

theorem runLength_gives (descending : Bool) {xs : List (Scalar × α)} (hxs : ∀ e ∈ xs, P e)
    {last : Scalar × α} (hlast : P last) :
    Gives (runLength descending last.1 xs) fun _ => True := by
  induction xs generalizing last with
  | nil => exact .ok trivial
  | cons x xs ih =>
    rw [List.forall_mem_cons] at hxs
    refine .bind (keyLess_gives hP hxs.1 hlast) fun b _ => ?_
    by_cases hb : b = descending
    · rw [if_pos hb]
      exact .bind (ih hxs.2 hxs.1) fun n _ => .ok trivial
    · rw [if_neg hb]
      exact .ok trivial

theorem frontRun_gives {xs : List (Scalar × α)} (hxs : ∀ e ∈ xs, P e) :
    Gives (frontRun xs) fun p => (∀ e ∈ p.1, P e) ∧ ∀ e ∈ p.2, P e := by
  rcases xs with _ | ⟨x, _ | ⟨y, rest⟩⟩
  · exact .ok ⟨hxs, hxs⟩
  · exact .ok ⟨hxs, by simp⟩
  · simp only [List.forall_mem_cons] at hxs
    obtain ⟨hx, hy, hrest⟩ := hxs
    refine .bind (keyLess_gives hP hy hx) fun descending _ => ?_
    refine .bind (runLength_gives hP descending hrest hy) fun n _ => .ok ⟨?_, ?_⟩
    · have hrun : ∀ e ∈ x :: y :: rest.take n, P e := by
        simp only [List.forall_mem_cons]
        exact ⟨hx, hy, fun e he => hrest e (List.mem_of_mem_take he)⟩
      cases descending with
      | false => exact hrun
      | true => exact fun e he => hrun e (List.mem_reverse.1 he)
    · exact fun e he => hrest e (List.mem_of_mem_drop he)

theorem placeOf_gives {sorted : List (Scalar × α)} (hsorted : ∀ e ∈ sorted, P e) {key : Scalar × α}
    (hkey : P key) (fuel low high : Nat) :
    Gives (placeOf sorted key.1 fuel low high) fun _ => True := by
  induction fuel generalizing low high with
  | zero => exact .ok trivial
  | succ fuel ih =>
    unfold placeOf
    split
    · dsimp only
      cases hx : sorted[low + (high - low) / 2]? with
      | none => exact .ok trivial
      | some x =>
        refine .bind (keyLess_gives hP hkey (hsorted x (List.mem_of_getElem? hx))) fun b _ => ?_
        cases b with
        | false => exact ih _ _
        | true => exact ih _ _
    · exact .ok trivial

theorem insertKeys_gives {sorted xs : List (Scalar × α)} (hsorted : ∀ e ∈ sorted, P e)
    (hxs : ∀ e ∈ xs, P e) : Gives (insertKeys sorted xs) fun l => ∀ e ∈ l, P e := by
  induction xs generalizing sorted with
  | nil => exact .ok hsorted
  | cons x xs ih =>
    rw [List.forall_mem_cons] at hxs
    refine .bind (placeOf_gives hP hsorted hxs.1 _ _ _) fun n _ => ih ?_ hxs.2
    intro e he
    simp only [List.mem_append, List.mem_cons] at he
    rcases he with he | rfl | he
    · exact hsorted e (List.mem_of_mem_take he)
    · exact hxs.1
    · exact hsorted e (List.mem_of_mem_drop he)

theorem mergeRuns_gives (fuel : Nat) {xs ys : List (Scalar × α)} (hxs : ∀ e ∈ xs, P e)
    (hys : ∀ e ∈ ys, P e) : Gives (mergeRuns fuel xs ys) fun l => ∀ e ∈ l, P e := by
  induction fuel generalizing xs ys with
  | zero => exact .ok (List.forall_mem_append.2 ⟨hxs, hys⟩)
  | succ fuel ih =>
    rcases xs with _ | ⟨x, xs⟩
    · exact .ok hys
    rcases ys with _ | ⟨y, ys⟩
    · exact .ok hxs
    · have hx := List.forall_mem_cons.1 hxs
      have hy := List.forall_mem_cons.1 hys
      refine .bind (keyLess_gives hP hy.1 hx.1) fun b _ => ?_
      cases b with
      | false => exact .bind (ih hx.2 hys) fun l hl => .ok (List.forall_mem_cons.2 ⟨hx.1, hl⟩)
      | true => exact .bind (ih hxs hy.2) fun l hl => .ok (List.forall_mem_cons.2 ⟨hy.1, hl⟩)

namespace KeyRun

theorem join_gives {r q : KeyRun α} (hr : ∀ e ∈ r.entries, P e) (hq : ∀ e ∈ q.entries, P e) :
    Gives (r.join q) fun s => ∀ e ∈ s.entries, P e :=
  .bind (mergeRuns_gives hP _ hr hq) fun _ hl => .ok hl

theorem settle_gives (power fuel : Nat) {stack : List (KeyRun α)}
    (h : ∀ r ∈ stack, ∀ e ∈ r.entries, P e) :
    Gives (settle power fuel stack) fun s => ∀ r ∈ s, ∀ e ∈ r.entries, P e := by
  induction fuel generalizing stack with
  | zero => exact .ok h
  | succ fuel ih =>
    rcases stack with _ | ⟨top, _ | ⟨below, rest⟩⟩
    · exact .ok h
    · exact .ok h
    · unfold settle
      split
      · simp only [List.forall_mem_cons] at h
        refine .bind (join_gives hP h.2.1 h.1) fun r hr => ih ?_
        exact List.forall_mem_cons.2 ⟨hr, h.2.2⟩
      · exact .ok h

theorem push_gives (n : Nat) {run : KeyRun α} {stack : List (KeyRun α)}
    (hrun : ∀ e ∈ run.entries, P e) (h : ∀ r ∈ stack, ∀ e ∈ r.entries, P e) :
    Gives (push n run stack) fun s => ∀ r ∈ s, ∀ e ∈ r.entries, P e := by
  rcases stack with _ | ⟨top, rest⟩
  · exact .ok (List.forall_mem_cons.2 ⟨hrun, h⟩)
  · refine .bind (settle_gives hP _ _ h) fun settled hsettled => ?_
    rcases settled with _ | ⟨top, rest⟩
    · exact .ok (List.forall_mem_cons.2 ⟨hrun, hsettled⟩)
    · simp only [List.forall_mem_cons] at hsettled
      exact .ok (List.forall_mem_cons.2 ⟨hrun, List.forall_mem_cons.2 hsettled⟩)

theorem collapse_gives (fuel : Nat) {stack : List (KeyRun α)}
    (h : ∀ r ∈ stack, ∀ e ∈ r.entries, P e) :
    Gives (collapse fuel stack) fun l => ∀ e ∈ l, P e := by
  induction fuel generalizing stack with
  | zero =>
    refine .ok fun e he => ?_
    obtain ⟨r, hr, he⟩ := List.mem_flatMap.1 he
    exact h r (List.mem_reverse.1 hr) e he
  | succ fuel ih =>
    rcases stack with _ | ⟨top, _ | ⟨middle, _ | ⟨below, rest⟩⟩⟩
    · exact .ok (by simp)
    · exact .ok (h top List.mem_cons_self)
    · simp only [List.forall_mem_cons] at h
      refine .bind (join_gives hP h.2.1 h.1) fun r hr => ih ?_
      exact List.forall_mem_cons.2 ⟨hr, h.2.2⟩
    · simp only [List.forall_mem_cons] at h
      obtain ⟨htop, hmiddle, hbelow, hrest⟩ := h
      unfold collapse
      split
      · refine .bind (join_gives hP hbelow hmiddle) fun r hr => ih ?_
        exact List.forall_mem_cons.2 ⟨htop, List.forall_mem_cons.2 ⟨hr, hrest⟩⟩
      · refine .bind (join_gives hP hmiddle htop) fun r hr => ih ?_
        exact List.forall_mem_cons.2 ⟨hr, List.forall_mem_cons.2 ⟨hbelow, hrest⟩⟩

theorem gather_gives (n least fuel first : Nat) {stack : List (KeyRun α)}
    {entries : List (Scalar × α)} (hstack : ∀ r ∈ stack, ∀ e ∈ r.entries, P e)
    (hentries : ∀ e ∈ entries, P e) :
    Gives (gather n least fuel first stack entries) fun s => ∀ r ∈ s, ∀ e ∈ r.entries, P e := by
  induction fuel generalizing first stack entries with
  | zero => exact .ok hstack
  | succ fuel ih =>
    rcases entries with _ | ⟨x, xs⟩
    · exact .ok hstack
    · refine .bind (frontRun_gives hP hentries) fun p hp => ?_
      obtain ⟨run, rest⟩ := p
      have htake : ∀ e ∈ rest.take (least - run.length), P e :=
        fun e he => hp.2 e (List.mem_of_mem_take he)
      refine .bind (insertKeys_gives hP hp.1 htake) fun run' hrun' => ?_
      refine .bind (push_gives hP n hrun' hstack) fun stack' hstack' => ih _ hstack' ?_
      exact fun e he => hp.2 e (List.mem_of_mem_drop he)

end KeyRun

theorem sortKeys_gives {entries : List (Scalar × α)} (h : ∀ e ∈ entries, P e) :
    Gives (sortKeys entries) fun l => ∀ e ∈ l, P e :=
  .bind (KeyRun.gather_gives hP _ _ _ _ (by simp) h) fun _ hstack => KeyRun.collapse_gives hP _ hstack

end Sorting

/-! ### Values -/

/-- A value of a JSON document whose whole numbers are not too long. -/
inductive Value.IsJson : Value → Prop
  | null : IsJson .null
  | bool (b : Bool) : IsJson (.bool b)
  | int {n : Int} (h : Json.isOverlong n = false) : IsJson (.int n)
  | float (x : Binary64) : IsJson (.float x)
  | text (s : String) : IsJson (.text s)
  | list {vs : List Value} (h : ∀ v ∈ vs, IsJson v) : IsJson (.list vs)
  | object {es : List (String × Value)} (h : ∀ e ∈ es, IsJson e.2) : IsJson (.object es)

namespace Json

theorem firstM_eq_none {α β : Type} {f : α → Option β} {as : List α} (h : ∀ a ∈ as, f a = none) :
    as.firstM f = none := by
  induction as with
  | nil => rfl
  | cons a as ih =>
    rw [List.forall_mem_cons] at h
    simp [List.firstM, h.1, ih h.2]

theorem itemsObstacle?_eq_none {vs : List Value} (h : ∀ v ∈ vs, obstacle? v = none) :
    itemsObstacle? vs = none := by
  induction vs with
  | nil => rfl
  | cons v vs ih =>
    rw [List.forall_mem_cons] at h
    rw [itemsObstacle?, h.1, ih h.2]
    rfl

theorem mem_entryObstacles {es : List (Scalar × Value)} {e : Scalar × Option Obstacle}
    (h : e ∈ entryObstacles es) : ∃ v, (e.1, v) ∈ es ∧ e.2 = obstacle? v := by
  induction es with
  | nil => simp [entryObstacles] at h
  | cons first es ih =>
    obtain ⟨k, v⟩ := first
    rw [entryObstacles, List.mem_cons] at h
    rcases h with rfl | h
    · exact ⟨v, List.mem_cons_self, rfl⟩
    · obtain ⟨v', hv', he⟩ := ih h
      exact ⟨v', List.mem_cons_of_mem _ hv', he⟩

theorem sortedObstacle?_eq_none {entries : List (Scalar × Option Obstacle)}
    (h : ∀ e ∈ entries, (∃ s, e.1 = .text s) ∧ e.2 = none) : sortedObstacle? entries = none := by
  obtain ⟨sorted, hsorted, hall⟩ := sortKeys_gives (fun _ he => he.1) h
  rw [sortedObstacle?, hsorted]
  refine firstM_eq_none fun e he => ?_
  obtain ⟨⟨s, hs⟩, hnone⟩ := hall e he
  rw [hs, hnone]
  rfl

end Json

theorem Value.IsJson.obstacle?_eq_none {v : Value} (h : v.IsJson) : Json.obstacle? v = none := by
  induction h with
  | null => rfl
  | bool b => rfl
  | int h => simp [Json.obstacle?, Json.scalarObstacle?, h]
  | float x => rfl
  | text s => rfl
  | list _ ih => rw [Json.obstacle?, Json.itemsObstacle?_eq_none ih]
  | object _ ih =>
    rw [Value.object, Json.obstacle?]
    refine Json.sortedObstacle?_eq_none fun e he => ?_
    obtain ⟨v, hv, hobstacle⟩ := Json.mem_entryObstacles he
    obtain ⟨field, hfield, heq⟩ := List.mem_map.1 hv
    rw [Prod.mk.injEq] at heq
    exact ⟨⟨field.1, heq.1.symm⟩, by rw [hobstacle, ← heq.2, ih field hfield]⟩

/-! ### Pages -/

/-- All props of some instances are JSON values. -/
def PropsAreJson (is : List Instance) : Prop :=
  ∀ i ∈ is, ∀ p ∈ i.props, p.2.IsJson

theorem propsAreJson_append {is js : List Instance} :
    PropsAreJson (is ++ js) ↔ PropsAreJson is ∧ PropsAreJson js :=
  List.forall_mem_append

theorem propsObstacle?_eq_none (d : Definition) {props : List (String × Value)}
    (h : ∀ p ∈ props, p.2.IsJson) : propsObstacle? d props = none := by
  refine Json.firstM_eq_none fun p hp => ?_
  have hjson := h p (List.mem_filter.1 hp).1
  rw [propObstacle?, hjson.obstacle?_eq_none, ite_self]

namespace Instance

variable (r : Registry) (platform : String)

mutual

theorem obstacle?_eq_none : ∀ i : Instance, PropsAreJson (forest [i]) → obstacle? r platform i = none
  | ⟨id, capsuleId, name, props, children, slots⟩, h => by
    rw [forest_cons, forest_nil, List.append_nil] at h
    obtain ⟨hprops, hnested⟩ := List.forall_mem_cons.1 h
    obtain ⟨hchildren, hslots⟩ := propsAreJson_append.1 hnested
    rw [obstacle?, listObstacle?_eq_none children hchildren, slotsObstacle?_eq_none slots hslots]
    cases r.supported platform capsuleId with
    | none => rfl
    | some d =>
      dsimp only
      rw [propsObstacle?_eq_none d hprops]
      rfl

theorem listObstacle?_eq_none :
    ∀ is : List Instance, PropsAreJson (forest is) → listObstacle? r platform is = none
  | [], _ => rfl
  | i :: is, h => by
    rw [← List.singleton_append, forest_append, propsAreJson_append] at h
    rw [listObstacle?, obstacle?_eq_none i h.1, listObstacle?_eq_none is h.2]
    rfl

theorem slotsObstacle?_eq_none : ∀ ss : List (String × List Instance),
    PropsAreJson (slotForest ss) → slotsObstacle? r platform ss = none
  | [], _ => rfl
  | (name, is) :: ss, h => by
    rw [slotForest_cons, propsAreJson_append] at h
    rw [slotsObstacle?, listObstacle?_eq_none is h.1, slotsObstacle?_eq_none ss h.2]
    rfl

end

end Instance

/-! ### Whole numbers -/

namespace Number

theorem ofDigits_lt {ds : List Char} (hds : ∀ c ∈ ds, c.isDigit = true) :
    ofDigits ds < Nat.pow 10 ds.length := by
  have hfold : ∀ (ds : List Char) (acc : Nat), (∀ c ∈ ds, c.isDigit = true) →
      ds.foldl (fun acc c => 10 * acc + (c.toNat - 48)) acc < (acc + 1) * Nat.pow 10 ds.length := by
    intro ds
    induction ds with
    | nil => exact fun acc _ => Nat.lt_of_lt_of_eq (Nat.lt_succ_self acc) (Nat.mul_one _).symm
    | cons c ds ih =>
      intro acc hds
      obtain ⟨hc, hds⟩ := List.forall_mem_cons.1 hds
      have hdigit := Text.digit_iff.1 hc
      have hstep : (10 * acc + (c.toNat - 48) + 1) * Nat.pow 10 ds.length ≤
          (acc + 1) * 10 * Nat.pow 10 ds.length := Nat.mul_le_mul_right _ (by omega)
      have hpow : Nat.pow 10 (c :: ds).length = 10 * Nat.pow 10 ds.length := Nat.pow_succ'
      rw [hpow, ← Nat.mul_assoc]
      exact Nat.lt_of_lt_of_le (ih _ hds) hstep
  have h := hfold ds 0 hds
  rwa [Nat.zero_add, Nat.one_mul] at h

end Number

namespace Json

open Number

theorem lt_pow_of_le {n a b : Nat} (h : n < Nat.pow 10 a) (hab : a ≤ b) : n < Nat.pow 10 b :=
  Nat.lt_of_lt_of_le h (Nat.pow_le_pow_right (by decide) hab)

theorem isOverlong_of_digits {n : Int} {count : Nat} (h : n.natAbs < Nat.pow 10 count)
    (hcount : count ≤ digitLimit) : isOverlong n = false :=
  decide_eq_false (Nat.not_le_of_lt (lt_pow_of_le h hcount))

theorem isOverlong_of_short {n : Int} (h : n.natAbs < Nat.pow 10 19) : isOverlong n = false :=
  isOverlong_of_digits h (by decide)

theorem isOverlong_readPlainWhole {cs : List Char} {n : Int} (h : readPlainWhole cs = .ok n) :
    isOverlong n = false := by
  unfold readPlainWhole at h
  dsimp only at h
  generalize (cs.head? == some '-') = negative at h
  generalize (if negative then cs.drop 1 else cs) = body at h
  generalize hbody : body.takeWhile Char.isDigit = digits at h
  have hdigits : ∀ c ∈ digits, c.isDigit = true := by
    rw [← hbody]
    exact List.all_eq_true.1 List.all_takeWhile
  by_cases hzero : digits.head? = some '0'
  · rw [if_pos hzero] at h
    split at h
    · obtain rfl := Except.ok.inj h
      exact isOverlong_of_short (by decide)
    · cases h
  rw [if_neg hzero] at h
  by_cases hempty : digits.isEmpty = true
  · rw [if_pos hempty] at h
    cases h
  rw [if_neg hempty] at h
  by_cases hlong : digitLimit < (if negative then 1 else 0) + digits.length
  · rw [if_pos hlong] at h
    cases h
  rw [if_neg hlong] at h
  by_cases hrest : digits.length < body.length
  · rw [if_pos hrest] at h
    cases h
  rw [if_neg hrest] at h
  have hshort : digits.length ≤ digitLimit := by omega
  have hlt := ofDigits_lt hdigits
  obtain rfl := Except.ok.inj h
  refine isOverlong_of_digits ?_ hshort
  cases negative with
  | true => exact Nat.lt_of_le_of_lt (Nat.le_of_eq (Int.natAbs_neg _)) hlt
  | false => exact hlt

theorem isOverlong_readWhole {s : String} {n : Int} (h : readWhole s = .ok n) :
    isOverlong n = false := by
  unfold readWhole at h
  split at h
  · split at h
    · exact isOverlong_readPlainWhole h
    · cases h
  · exact isOverlong_readPlainWhole h

end Json

namespace Schema

theorem isOverlong_int {v : Value} (hv : v.IsJson) {n : Int} (h : int v = .ok n) :
    Json.isOverlong n = false := by
  cases hv with
  | null => cases h
  | bool b =>
    obtain rfl := Checked.ok.inj h
    cases b <;> exact Json.isOverlong_of_short (by decide)
  | int hn =>
    obtain rfl := Checked.ok.inj h
    exact hn
  | float x =>
    have hfloat : intOfFloat x = .ok n := h
    unfold intOfFloat at hfloat
    split at hfloat
    · split at hfloat
      · cases hfloat
      · split at hfloat
        · rename_i hfits
          obtain rfl := Checked.ok.inj hfloat
          rw [fitsWord, Bool.and_eq_true, decide_eq_true_iff, decide_eq_true_iff] at hfits
          have hpow : Nat.pow 10 19 = 10000000000000000000 := rfl
          exact Json.isOverlong_of_short (by omega)
        · cases hfloat
    · cases hfloat
  | text s =>
    have htext : intOfText s = .ok n := h
    unfold intOfText at htext
    split at htext
    · rename_i hread
      obtain rfl := Checked.ok.inj htext
      exact Json.isOverlong_readWhole hread
    · cases htext
    · cases htext
  | list _ => cases h
  | object _ => cases h

theorem isOverlong_withDefault {fs : Fields} (hfs : ∀ e ∈ fs, e.2.IsJson) {s : Spelling}
    {default n : Int} (hdefault : default.natAbs < Nat.pow 10 19)
    (h : fs.withDefault s default int = .ok n) : Json.isOverlong n = false := by
  rcases Fields.exists_mem_of_withDefault h with rfl | ⟨e, he, hn⟩
  · exact Json.isOverlong_of_short hdefault
  · exact isOverlong_int (hfs e he) hn

end Schema

end CapsuleKit
