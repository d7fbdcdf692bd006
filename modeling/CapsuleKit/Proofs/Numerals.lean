import CapsuleKit.Number.Shortest
import Mathlib.Tactic.SplitIfs

/-!
# Texts of numbers

The text of a number, whole or not, is made of letters, digits, signs and points (`IsNumeral`): no
mark of a language in which it is written can be among them, and a reader knows where it ends.
-/

namespace CapsuleKit

/-- Letters, digits, signs and points. -/
def isNumeralChar (c : Char) : Bool :=
  c.isAlphanum || c == '.' || c == '+' || c == '-'

theorem isNumeralChar_of_isAlphanum {c : Char} (h : c.isAlphanum = true) :
    isNumeralChar c = true := by
  simp [isNumeralChar, h]

theorem isNumeralChar_toDigits (n : Nat) : ∀ c ∈ Nat.toDigits 10 n, isNumeralChar c = true := by
  intro c hc
  have hdigit : c.isDigit = true := Nat.isDigit_of_mem_toDigits (by decide) (by decide) hc
  exact isNumeralChar_of_isAlphanum (by simp [Char.isAlphanum, hdigit])

theorem isNumeralChar_exponentText (e : Int) :
    ∀ c ∈ Binary64.exponentText e, isNumeralChar c = true := by
  have hdigits := isNumeralChar_toDigits e.natAbs
  refine List.forall_mem_cons.2 ⟨?_, ?_⟩
  · split_ifs <;> rfl
  · split_ifs
    · exact List.forall_mem_cons.2 ⟨rfl, hdigits⟩
    · exact hdigits

theorem isNumeralChar_zeros (n : Nat) : ∀ c ∈ Binary64.zeros n, isNumeralChar c = true := by
  intro c hc
  rw [List.eq_of_mem_replicate hc]
  rfl

theorem isNumeralChar_layout {ds : List Char} (h : ∀ c ∈ ds, isNumeralChar c = true) (e : Int) :
    ∀ c ∈ Binary64.layout ds e, isNumeralChar c = true := by
  have hexp : ∀ c ∈ 'e' :: Binary64.exponentText e, isNumeralChar c = true :=
    List.forall_mem_cons.2 ⟨rfl, isNumeralChar_exponentText e⟩
  simp only [Binary64.layout]
  split_ifs
  · match ds, h with
    | [], _ => exact fun c hc => absurd hc List.not_mem_nil
    | [d], h => exact List.forall_mem_cons.2 ⟨h d (.head _), hexp⟩
    | d :: c :: rest, h =>
      obtain ⟨hd, hrest⟩ := List.forall_mem_cons.1 h
      exact List.forall_mem_cons.2 ⟨hd,
        List.forall_mem_append.2 ⟨List.forall_mem_cons.2 ⟨rfl, hrest⟩, hexp⟩⟩
  · exact List.forall_mem_cons.2 ⟨rfl, List.forall_mem_cons.2 ⟨rfl,
      List.forall_mem_append.2 ⟨isNumeralChar_zeros _, h⟩⟩⟩
  · exact List.forall_mem_append.2
      ⟨List.forall_mem_append.2 ⟨h, isNumeralChar_zeros _⟩, List.all_eq_true.1 rfl⟩
  · exact List.forall_mem_append.2 ⟨fun c hc => h c (List.mem_of_mem_take hc),
      List.forall_mem_cons.2 ⟨rfl, fun c hc => h c (List.mem_of_mem_drop hc)⟩⟩

theorem layout_ne_nil {ds : List Char} (h : ds ≠ []) (e : Int) : Binary64.layout ds e ≠ [] := by
  simp only [Binary64.layout]
  split_ifs
  · match ds, h with
    | [d], _ => exact List.cons_ne_nil _ _
    | d :: c :: rest, _ => exact List.cons_ne_nil _ _
  · exact List.cons_ne_nil _ _
  · simp
  · simp

/-- A text of letters, digits, signs and points. -/
structure IsNumeral (s : String) : Prop where
  ne_nil : s.toList ≠ []
  chars : ∀ c ∈ s.toList, isNumeralChar c = true

namespace IsNumeral

theorem ofList {cs : List Char} (hne : cs ≠ []) (h : ∀ c ∈ cs, isNumeralChar c = true) :
    IsNumeral (String.ofList cs) :=
  ⟨by rwa [String.toList_ofList], by rwa [String.toList_ofList]⟩

theorem of_all {s : String} (hne : s.toList.isEmpty = false)
    (h : s.toList.all isNumeralChar = true) : IsNumeral s where
  ne_nil := by
    rw [← List.isEmpty_eq_false_iff]
    exact hne
  chars := List.all_eq_true.1 h

theorem cons {c : Char} {cs : List Char} (hc : isNumeralChar c = true)
    (h : ∀ d ∈ cs, isNumeralChar d = true) : IsNumeral (String.ofList (c :: cs)) :=
  ofList (List.cons_ne_nil _ _) (List.forall_mem_cons.2 ⟨hc, h⟩)

theorem append {s t : String} (hs : IsNumeral s) (ht : IsNumeral t) : IsNumeral (s ++ t) where
  ne_nil := by
    rw [String.toList_append]
    exact List.append_ne_nil_of_left_ne_nil hs.ne_nil _
  chars := by
    rw [String.toList_append]
    exact List.forall_mem_append.2 ⟨hs.chars, ht.chars⟩

theorem decimalText (n : Nat) : IsNumeral (decimalText n) :=
  ofList Nat.toDigits_ne_nil (isNumeralChar_toDigits n)

theorem int (n : Int) : IsNumeral (intText n) := by
  unfold intText
  split_ifs
  · exact append (of_all rfl rfl) (decimalText n.natAbs)
  · exact decimalText n.natAbs

theorem float (x : Binary64) : IsNumeral x.text := by
  unfold Binary64.text
  cases x.parts with
  | nan => exact of_all rfl rfl
  | infinite s =>
    cases s
    · exact of_all rfl rfl
    · exact of_all rfl rfl
  | finite s m e =>
    have hlayout (d : Nat) (p : Int) :
        ∀ c ∈ Binary64.layout (Nat.toDigits 10 d) p, isNumeralChar c = true :=
      isNumeralChar_layout (isNumeralChar_toDigits d) p
    simp only
    split_ifs
    · exact cons rfl (List.all_eq_true.1 rfl)
    · exact cons rfl (hlayout _ _)
    · exact cons rfl (List.all_eq_true.1 rfl)
    · exact ofList (layout_ne_nil Nat.toDigits_ne_nil _) (hlayout _ _)

end IsNumeral

end CapsuleKit
