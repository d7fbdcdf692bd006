import CapsuleKit.Proofs.Calls.Layout
import CapsuleKit.Proofs.Page
import CapsuleKit.Proofs.Split
import Mathlib.Data.List.Infix

/-!
# Where nested instances are written

What is written for an instance stands in what is written for the instances that it is nested in. In
a page of elements its text does (`Text.IsIn`), because a slot is part of one line there. In the calls
of SwiftUI and Compose even its lines do, one after the other: only the last line of a slot may get a
comma, and that line belongs to the slot. `Layout.Encloses` is what both have in common, a layout that
keeps what it is given, and `Layout.IsRenderer.within_list` follows from it for every depth of nesting.
-/

namespace CapsuleKit

/-! ### Texts in texts -/

namespace Text

/-- Whether a text stands somewhere in another. -/
def IsIn (part text : String) : Prop :=
  part.toList <:+: text.toList

theorem IsIn.refl (s : String) : IsIn s s :=
  List.infix_rfl

theorem IsIn.trans {a b c : String} (hab : IsIn a b) (hbc : IsIn b c) : IsIn a c :=
  List.IsInfix.trans hab hbc

theorem isIn_append_left (a b : String) : IsIn a (a ++ b) := by
  rw [IsIn, String.toList_append]
  exact (List.prefix_append _ _).isInfix

theorem isIn_append_right (a b : String) : IsIn b (a ++ b) := by
  rw [IsIn, String.toList_append]
  exact (List.suffix_append _ _).isInfix

theorem intercalate_isIn (sep : String) {part ls : List String} (h : part <:+: ls) :
    IsIn (String.intercalate sep part) (String.intercalate sep ls) := by
  obtain ⟨before, after, rfl⟩ := h
  cases part with
  | nil => exact ⟨[], _, rfl⟩
  | cons p ps =>
    cases before with
    | nil =>
      refine ⟨[], after.flatMap fun t => sep.toList ++ t.toList, ?_⟩
      simp only [List.nil_append, List.cons_append, toList_intercalate_cons, List.flatMap_append,
        List.append_assoc]
    | cons b bs =>
      refine ⟨b.toList ++ (bs.flatMap fun t => sep.toList ++ t.toList) ++ sep.toList,
        after.flatMap fun t => sep.toList ++ t.toList, ?_⟩
      simp only [List.cons_append, toList_intercalate_cons, List.flatMap_append, List.flatMap_cons,
        List.append_assoc]

theorem isIn_intercalate_of_mem (sep : String) {s : String} {ls : List String} (h : s ∈ ls) :
    IsIn s (String.intercalate sep ls) := by
  obtain ⟨before, after, rfl⟩ := List.append_of_mem h
  have hs : IsIn (String.intercalate sep [s]) (String.intercalate sep (before ++ [s] ++ after)) :=
    intercalate_isIn sep ⟨before, after, rfl⟩
  rwa [String.intercalate_singleton, List.append_assoc] at hs

theorem isIn_joinLines_append_left (as bs : List String) :
    IsIn (joinLines as) (joinLines (as ++ bs)) :=
  intercalate_isIn _ (List.prefix_append _ _).isInfix

theorem isIn_joinLines_append_right (as bs : List String) :
    IsIn (joinLines bs) (joinLines (as ++ bs)) :=
  intercalate_isIn _ (List.suffix_append _ _).isInfix

theorem isIn_joinLines_cons (a : String) (bs : List String) :
    IsIn (joinLines bs) (joinLines (a :: bs)) :=
  isIn_joinLines_append_right [a] bs

end Text

namespace Layout

open Text (IsIn joinLines)

variable {σ : Type}

/-- Ways in which lines stand in others: in what they are the front or the back of, and in what holds
something that they stand in. -/
structure IsWithin (within : List String → List String → Prop) : Prop where
  refl : ∀ ls, within ls ls
  trans : ∀ {as bs cs}, within as bs → within bs cs → within as cs
  append_left : ∀ as bs, within as (as ++ bs)
  append_right : ∀ as bs, within bs (as ++ bs)

/-- Whether a layout keeps what it is given: the lines in a slot, the slots of a call, of which
`lines` are what a call leaves as it is, and the lines inside a call. -/
structure Encloses (L : Layout σ) (within : List String → List String → Prop)
    (lines : σ → List String) : Prop extends IsWithin within where
  slot : ∀ depth name inner, within inner (lines (L.slot depth name inner))
  call_slot : ∀ depth d props slots isLeaf inner, ∀ s ∈ slots,
    within (lines s) (L.call depth d props slots isLeaf inner)
  call_inner : ∀ depth d props slots inner,
    within inner (L.call depth d props slots false inner)

namespace IsRenderer

variable {L : Layout σ} {within : List String → List String → Prop} {lines : σ → List String}
  {r : Registry} {platform : String} {one : Int → Instance → List String}
  {list : Int → List Instance → List String}
  {slots : Int → List (String × List Instance) → List σ}
  {loose : Int → List (String × List Instance) → List String}
  (h : L.IsRenderer r platform one list slots loose)

include h

mutual

theorem within_one (hL : L.Encloses within lines) : ∀ (depth : Int) (t : Instance),
    ∀ i ∈ t :: (Instance.forest t.children ++ Instance.slotForest t.slots),
      ∃ e, within (one e i) (one depth t)
  | depth, ⟨id, capsuleId, name, props, children, ss⟩ => by
    intro i hi
    rcases List.mem_cons.1 hi with rfl | hi
    · exact ⟨depth, hL.refl _⟩
    cases hs : r.supported platform capsuleId with
    | none =>
      rw [h.unsupported depth _ hs, ← List.singleton_append]
      rcases List.mem_append.1 hi with hi | hi
      · obtain ⟨e, he⟩ := within_list hL depth children i hi
        exact ⟨e, hL.trans he (hL.trans (hL.append_left ..) (hL.append_right ..))⟩
      · obtain ⟨e, he⟩ := within_loose hL depth ss i hi
        exact ⟨e, hL.trans he (hL.trans (hL.append_right ..) (hL.append_right ..))⟩
    | some d =>
      rw [h.supported depth _ d hs]
      rcases List.mem_append.1 hi with hi | hi
      · obtain ⟨e, he⟩ := within_list hL (depth + 1) children i hi
        -- a call without children has no lines inside, but then nothing is nested there
        have hne : children.isEmpty = false := by
          cases children with
          | nil => cases hi
          | cons c cs => rfl
        rw [hne]
        exact ⟨e, hL.trans he (hL.call_inner ..)⟩
      · obtain ⟨e, s, hmem, he⟩ := within_slots hL depth ss i hi
        exact ⟨e, hL.trans he (hL.call_slot _ _ _ _ _ _ s hmem)⟩

/-- Whatever is nested in instances is written in what is written for them. -/
theorem within_list (hL : L.Encloses within lines) : ∀ (depth : Int) (is : List Instance),
    ∀ i ∈ Instance.forest is, ∃ e, within (one e i) (list depth is)
  | _, [] => by
    intro i hi
    cases hi
  | depth, t :: ts => by
    intro i hi
    rw [h.list_cons]
    rw [Instance.forest_cons] at hi
    rcases List.mem_append.1 hi with hi | hi
    · obtain ⟨e, he⟩ := within_one hL depth t i hi
      exact ⟨e, hL.trans he (hL.append_left ..)⟩
    · obtain ⟨e, he⟩ := within_list hL depth ts i hi
      exact ⟨e, hL.trans he (hL.append_right ..)⟩

theorem within_slots (hL : L.Encloses within lines) :
    ∀ (depth : Int) (ss : List (String × List Instance)),
      ∀ i ∈ Instance.slotForest ss, ∃ e, ∃ s ∈ slots depth ss, within (one e i) (lines s)
  | _, [] => by
    intro i hi
    cases hi
  | depth, (name, is) :: ss => by
    intro i hi
    rw [h.slots_cons]
    rw [Instance.slotForest_cons] at hi
    rcases List.mem_append.1 hi with hi | hi
    · obtain ⟨e, he⟩ := within_list hL (depth + 2) is i hi
      exact ⟨e, _, .head _, hL.trans he (hL.slot ..)⟩
    · obtain ⟨e, s, hmem, he⟩ := within_slots hL depth ss i hi
      exact ⟨e, s, .tail _ hmem, he⟩

theorem within_loose (hL : L.Encloses within lines) :
    ∀ (depth : Int) (ss : List (String × List Instance)),
      ∀ i ∈ Instance.slotForest ss, ∃ e, within (one e i) (loose depth ss)
  | _, [] => by
    intro i hi
    cases hi
  | depth, (name, is) :: ss => by
    intro i hi
    rw [h.loose_cons]
    rw [Instance.slotForest_cons] at hi
    rcases List.mem_append.1 hi with hi | hi
    · obtain ⟨e, he⟩ := within_list hL depth is i hi
      exact ⟨e, hL.trans he (hL.append_left ..)⟩
    · obtain ⟨e, he⟩ := within_loose hL depth ss i hi
      exact ⟨e, hL.trans he (hL.append_right ..)⟩

end

end IsRenderer

/-! ### Elements -/

def TextWithin (as bs : List String) : Prop :=
  IsIn (joinLines as) (joinLines bs)

theorem isWithin_text : IsWithin TextWithin where
  refl _ := .refl _
  trans := Text.IsIn.trans
  append_left := Text.isIn_joinLines_append_left
  append_right := Text.isIn_joinLines_append_right

theorem encloses_jsx : jsx.Encloses TextWithin (fun s => [s]) where
  toIsWithin := isWithin_text
  slot depth name inner := by
    rw [TextWithin, Text.joinLines_singleton]
    refine .trans ?_ (Text.isIn_append_left _ _)
    refine .trans ?_ (Text.isIn_append_left _ _)
    refine .trans ?_ (Text.isIn_append_left _ _)
    exact Text.isIn_append_right _ _
  call_slot depth d props slots isLeaf inner s hs := by
    have htag : IsIn s (Jsx.openTag depth d.componentName (Jsx.attributes d props ++ slots)) := by
      have hmem : s ∈ d.componentName :: (Jsx.attributes d props ++ slots) :=
        .tail _ (List.mem_append_right _ hs)
      exact (Text.isIn_intercalate_of_mem " " hmem).trans (Text.isIn_append_right _ _)
    rw [TextWithin, Text.joinLines_singleton]
    refine (htag.trans (Text.isIn_append_left _ (if isLeaf then " />" else ">"))).trans ?_
    cases isLeaf <;> exact Text.isIn_intercalate_of_mem _ (.head _)
  call_inner depth d props slots inner :=
    (Text.isIn_joinLines_append_left ..).trans (Text.isIn_joinLines_cons ..)

/-! ### Calls -/

theorem isWithin_infix : IsWithin (· <:+: ·) where
  refl _ := List.infix_rfl
  trans := List.IsInfix.trans
  append_left as bs := (List.prefix_append as bs).isInfix
  append_right as bs := (List.suffix_append as bs).isInfix

theorem infix_of_head {ls : List String} {close : String} {head : String → List String}
    (h : ∀ tail, ls <:+: head tail) (isLeaf : Bool) (inner : List String) :
    ls <:+: if isLeaf then head "" else head " \x7b" ++ inner ++ [close] := by
  cases isLeaf with
  | true => exact h ""
  | false =>
    refine (h " \x7b").trans ?_
    exact ⟨[], inner ++ [close], (List.append_assoc ..).symm⟩

theorem dropLast_infix_withComma (ls : List String) : ls.dropLast <:+: SwiftView.withComma ls := by
  rcases List.eq_nil_or_concat ls with rfl | ⟨init, l, rfl⟩
  · exact List.infix_rfl
  · rw [List.concat_eq_append, List.dropLast_concat, Calls.withComma_concat]
    exact (List.prefix_append _ _).isInfix

theorem dropLast_infix_separated {lss : List (List String)} {ls : List String} (h : ls ∈ lss) :
    ls.dropLast <:+: SwiftView.separated lss := by
  fun_induction SwiftView.separated lss with
  | case1 => cases h
  | case2 ls' =>
    rw [List.mem_singleton.1 h]
    exact (List.dropLast_prefix _).isInfix
  | case3 first rest _ ih =>
    rcases List.mem_cons.1 h with rfl | h
    · exact (dropLast_infix_withComma ls).trans (List.prefix_append _ _).isInfix
    · exact (ih h).trans (List.suffix_append _ _).isInfix

theorem encloses_swift : swift.Encloses (· <:+: ·) List.dropLast where
  toIsWithin := isWithin_infix
  slot depth name inner := by
    show inner <:+: (SwiftView.slotArgument depth name inner).dropLast
    rw [SwiftView.slotArgument, ← List.cons_append, List.dropLast_concat]
    -- an empty slot holds an empty view instead
    cases inner with
    | nil => exact List.nil_infix
    | cons l ls => exact (List.suffix_cons _ _).isInfix
  call_slot depth d props slots isLeaf inner s hs := by
    have hhead (tail : String) : s.dropLast <:+:
        SwiftView.callHead depth d.componentName (SwiftView.arguments d props) slots tail := by
      rw [SwiftView.callHead, if_neg (by simp [List.ne_nil_of_mem hs])]
      exact (dropLast_infix_separated (List.mem_append_right _ hs)).trans
        ((List.prefix_append _ _).isInfix.trans (List.suffix_cons _ _).isInfix)
    exact infix_of_head hhead isLeaf inner
  call_inner _ _ _ _ _ := ⟨_, _, rfl⟩

theorem encloses_compose : compose.Encloses (· <:+: ·) List.dropLast where
  toIsWithin := isWithin_infix
  slot depth name inner := by
    show inner <:+: (Composable.slotArgument depth name inner).dropLast
    rw [Composable.slotArgument, ← List.cons_append, List.dropLast_concat]
    exact (List.suffix_cons _ _).isInfix
  call_slot depth d props slots isLeaf inner s hs := by
    have hslot : s.dropLast <:+: slots.flatten := by
      obtain ⟨before, after, rfl⟩ := List.append_of_mem hs
      exact (List.dropLast_prefix s).isInfix.trans ⟨before.flatten, after.flatten, by simp⟩
    have hhead (tail : String) : s.dropLast <:+:
        Composable.callHead depth d.componentName (Composable.arguments d props) slots tail := by
      rw [Composable.callHead, if_neg (by simp [List.ne_nil_of_mem hs])]
      exact hslot.trans ((List.suffix_append _ _).isInfix.trans
        ((List.prefix_append _ _).isInfix.trans (List.suffix_cons _ _).isInfix))
    exact infix_of_head hhead isLeaf inner
  call_inner _ _ _ _ _ := ⟨_, _, rfl⟩

end Layout

end CapsuleKit
