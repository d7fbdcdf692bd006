import CapsuleKit.Capsule.Registry
import CapsuleKit.Compile.Names
import Mathlib.Tactic.SplitIfs

/-!
# Plain names

The characters of a name that `Text.isPlainName` accepts, and the names that generated code gets:
whatever a capsule and a composition are called, those of components and of the app are plain.
-/

namespace CapsuleKit

namespace Text

variable {c : Char}

theorem isNamePart_of_isNameStart (h : isNameStart c = true) : isNamePart c = true := by
  simp only [isNameStart, isNamePart, Char.isAlphanum, Bool.or_eq_true] at h ⊢
  exact h.imp_left .inl

theorem ne_of_isNameStart {d : Char} (h : isNameStart c = true) (hd : isNameStart d = false) :
    c ≠ d := by
  rintro rfl
  rw [hd] at h
  cases h

theorem exists_of_isPlainName {s : String} (h : isPlainName s = true) :
    ∃ c cs, s.toList = c :: cs ∧ isNameStart c = true ∧ ∀ d ∈ cs, isNamePart d = true := by
  unfold isPlainName at h
  split at h
  · cases h
  · rename_i c cs heq
    rw [Bool.and_eq_true, List.all_eq_true] at h
    exact ⟨c, cs, heq, h⟩

theorem isPlainName_ofList {cs : List Char} (hc : isNameStart c = true)
    (hcs : ∀ d ∈ cs, isNamePart d = true) : isPlainName (String.ofList (c :: cs)) = true := by
  rw [isPlainName, String.toList_ofList]
  exact Bool.and_eq_true_iff.2 ⟨hc, List.all_eq_true.2 hcs⟩

theorem isPlainName_identifier {s : String} (h : identifier s ≠ "") :
    isPlainName (identifier s) = true := by
  unfold identifier at h ⊢
  split
  · rename_i heq
    rw [heq] at h
    exact absurd rfl h
  · rename_i c cs heq
    have hpart : ∀ d ∈ c :: cs, isNamePart d = true := by
      intro d hd
      rw [← heq] at hd
      rw [isNamePart, (List.mem_filter.1 hd).2, Bool.true_or]
    split_ifs with hdigit
    · exact isPlainName_ofList (by decide) hpart
    · refine isPlainName_ofList ?_ fun d hd => hpart d (.tail _ hd)
      have halnum := hpart c (.head _)
      simp only [isNamePart, isNameStart, Char.isAlphanum, hdigit, Bool.or_false] at halnum ⊢
      exact halnum

theorem isPlainName_nonEmptyOr (s : String) {other : String} (h : isPlainName other = true) :
    isPlainName (nonEmptyOr (identifier s) other) = true := by
  unfold nonEmptyOr
  split_ifs with hempty
  · exact h
  · exact isPlainName_identifier fun heq => hempty (by rw [heq]; rfl)

end Text

theorem Definition.isPlainName_componentName (d : Definition) :
    Text.isPlainName d.componentName = true :=
  Text.isPlainName_nonEmptyOr _ (by decide)

theorem Composition.isPlainName_typeName (c : Composition) :
    Text.isPlainName c.typeName = true :=
  Text.isPlainName_nonEmptyOr _ (by decide)

/-- Whether the slots of an instance have plain names. Where the capsule is not supported they are not
written, and may be called anything. -/
def Instance.HasPlainSlots (r : Registry) (platform : String) (i : Instance) : Prop :=
  (r.supported platform i.capsuleId).isSome = true → ∀ s ∈ i.slots, Text.isPlainName s.1 = true

end CapsuleKit
