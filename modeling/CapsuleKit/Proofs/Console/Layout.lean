import CapsuleKit.Console.Layout
import CapsuleKit.Proofs.Split
import Mathlib.Data.List.Infix

/-!
# Short lines

A character takes two columns at most (`Text.width_le`), so that text of half as many characters as
a line has columns is never broken, folded or trimmed. Without tabs its lines stay as they are:
`laidOut_eq`.
-/

namespace CapsuleKit

theorem Text.charWidth_le (c : Char) : charWidth c ≤ 2 := by
  unfold charWidth
  repeat' split
  all_goals omega

theorem Text.widthFrom_le (last : Option Char) (cs : List Char) :
    widthFrom last cs ≤ 2 * cs.length := by
  fun_induction widthFrom last cs with
  | case1 => exact Nat.zero_le _
  | case2 last c cs ih =>
    simp only [List.length_cons]
    omega
  | case3 => exact Nat.zero_le _
  | case4 last cs ih =>
    have hpicture : (if last.any (isAmong pictureRanges) then 1 else 0) ≤ 1 := by split <;> omega
    simp only [List.length_cons]
    omega
  | case5 last c cs _ _ _ ih =>
    have hc := charWidth_le c
    simp only [List.length_cons]
    omega

theorem Text.width_le (cs : List Char) : width cs ≤ 2 * cs.length :=
  widthFrom_le none cs

/-! ### Lines and words put together again -/

namespace Text

theorem sublist_of_mem_splitOnP {p : Char → Bool} {cs w : List Char} (h : w ∈ List.splitOnP p cs) :
    w.Sublist cs := by
  induction cs generalizing w with
  | nil => exact (List.mem_singleton.1 h).symm ▸ List.Sublist.refl _
  | cons c cs ih =>
    cases hc : p c with
    | true =>
      rw [List.splitOnP_cons_eq_if_modifyHead, if_pos hc] at h
      rcases List.mem_cons.1 h with rfl | h
      · exact List.nil_sublist _
      · exact (ih h).cons c
    | false =>
      obtain ⟨v, vs, hv, hcons⟩ := splitOnP_cons_of_neg hc cs
      rw [hcons] at h
      rw [hv] at ih
      rcases List.mem_cons.1 h with rfl | h
      · exact (ih List.mem_cons_self).cons_cons c
      · exact (ih (List.mem_cons_of_mem v h)).cons c

end Text

namespace Console

theorem flatten_cutAtWords (line : List Char) : (cutAtWords line).flatten = line := by
  induction line with
  | nil => rfl
  | cons c cs ih =>
    rw [cutAtWords]
    split
    case h_1 heq =>
      rw [heq] at ih
      rw [← ih]
      rfl
    case h_2 w ws heq =>
      rw [heq] at ih
      rw [← ih]
      split <;> rfl

theorem flatten_lineWords (line : List Char) : (lineWords line).flatten = line := by
  have hflat := flatten_cutAtWords line
  unfold lineWords
  split
  case h_1 w v ws heq =>
    rw [heq] at hflat
    split
    · rw [List.flatten_cons, List.append_assoc]
      exact hflat
    · exact hflat
  case h_2 => exact hflat

theorem withoutTabs_eq_self {line : List Char} (h : '\t' ∉ line) : withoutTabs line = line := by
  have hnone : ∀ c ∈ line, (c == '\t') = false := by
    intro c hc
    rw [beq_eq_false_iff_ne]
    rintro rfl
    exact h hc
  rw [withoutTabs, List.splitOnP_eq_singleton (p := (· == '\t')) hnone, joinTabs]

/-! ### Lines that fit -/

variable {width : Nat} (o : Overflow)

theorem fillLines_eq {used : Nat} {words : List (List Char)}
    (h : used + 2 * words.flatten.length ≤ width) (line : List Char) :
    fillLines width o line used words = [line ++ words.flatten] := by
  induction words generalizing line used with
  | nil => rw [fillLines, List.flatten_nil, List.append_nil]
  | cons word words ih =>
    have hword := Text.width_le word
    have htrim : Text.width (trimEnd word) ≤ 2 * word.length :=
      (Text.width_le _).trans (Nat.mul_le_mul_left 2 (List.length_take_le' _ _))
    rw [List.flatten_cons, List.length_append] at h
    unfold fillLines
    dsimp only
    rw [if_pos (by omega), ih (by omega), List.flatten_cons, List.append_assoc]

theorem trimExcess_eq_self {line : List Char} (h : line.length ≤ width) :
    trimExcess width line = line := by
  unfold trimExcess
  dsimp only
  rw [Nat.sub_eq_zero_of_le h, Nat.zero_min, Nat.sub_zero, List.take_length]

theorem wrapped_eq_self {line : List Char} (htab : '\t' ∉ line) (hshort : 2 * line.length ≤ width) :
    wrapped width o line = [line] := by
  have hfits : 0 + 2 * (lineWords line).flatten.length ≤ width := by
    rwa [flatten_lineWords, Nat.zero_add]
  rw [wrapped, withoutTabs_eq_self htab, fillLines_eq o hfits, flatten_lineWords, List.nil_append,
    List.map_singleton, trimExcess_eq_self (by omega)]

theorem laidOut_eq {cs : List Char} (htab : '\t' ∉ cs) (hshort : 2 * cs.length ≤ width) :
    laidOut width o cs = List.splitOnP (· == '\n') cs := by
  have hline : ∀ l ∈ List.splitOnP (· == '\n') cs,
      wrapped width o l = [l] ∧ o.cut width l = l := by
    intro l hl
    have hsub := Text.sublist_of_mem_splitOnP hl
    have hlength := hsub.length_le
    have hwidth := Text.width_le l
    exact ⟨wrapped_eq_self o (fun hmem => htab (hsub.subset hmem)) (by omega), if_pos (by omega)⟩
  rw [laidOut, List.flatMap_congr fun l hl => (hline l hl).1, List.flatMap_singleton']
  exact (List.map_congr_left fun l hl => (hline l hl).2).trans (List.map_id' _)

end Console

end CapsuleKit
