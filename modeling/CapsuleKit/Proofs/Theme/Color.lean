import CapsuleKit.Proofs.Split
import CapsuleKit.Theme.Color
import Mathlib.Data.List.TakeWhile

/-!
# Colours that are written and read

A colour whose channels are bytes is read back from the six digits it is written with, in small
letters or capitals (`Rgb.ofDigits?_hexChars`, `Rgb.ofDigits?_upper`), and every colour that is read
has such channels (`Rgb.isByte_of_ofHex?`). A text that reads as a colour has no blanks at its ends
(`Rgb.strip_of_ofHex?`). In a style sheet a text is either read as a colour, or stands there without
the blanks around it, or gives way to the neutral grey (`Css.color_cases`).
-/

namespace CapsuleKit

namespace Text

theorem hexValue?_hexChar {d : Nat} (h : d < 16) : hexValue? (hexChar d) = some d := by
  have hall : ∀ d < 16, hexValue? (hexChar d) = some d := by decide
  exact hall d h

theorem hexValue?_toUpper_hexChar {d : Nat} (h : d < 16) :
    hexValue? (hexChar d).toUpper = some d := by
  have hall : ∀ d < 16, hexValue? (hexChar d).toUpper = some d := by decide
  exact hall d h

variable {c : Char} {d : Nat}

theorem range_of_hexValue? (h : hexValue? c = some d) :
    d < 16 ∧ (48 ≤ c.toNat ∧ c.toNat ≤ 57 ∨ 97 ≤ c.toNat ∧ c.toNat ≤ 102 ∨
      65 ≤ c.toNat ∧ c.toNat ≤ 70) := by
  simp only [hexValue?, Char.isDigit, Char.le_def, UInt32.le_iff_toNat_le, Bool.and_eq_true,
    decide_eq_true_eq] at h
  change (if 48 ≤ c.toNat ∧ c.toNat ≤ 57 then some (c.toNat - 48)
    else if 97 ≤ c.toNat ∧ c.toNat ≤ 102 then some (c.toNat - 87)
    else if 65 ≤ c.toNat ∧ c.toNat ≤ 70 then some (c.toNat - 55) else none) = some d at h
  split at h
  · cases h; omega
  · split at h
    · cases h; omega
    · split at h
      · cases h; omega
      · cases h

theorem isAlphanum_of_hexValue? (h : hexValue? c = some d) : c.isAlphanum = true := by
  have hrange := (range_of_hexValue? h).2
  have hclass : c.isAlphanum = ((decide (c.val ≥ 65 ∧ c.val ≤ 90) ||
      decide (c.val ≥ 97) && decide (c.val ≤ 122)) ||
        decide (c.val ≥ 48) && decide (c.val ≤ 57)) := rfl
  simp only [hclass, Bool.or_eq_true, Bool.and_eq_true, decide_eq_true_eq, ge_iff_le,
    UInt32.le_iff_toNat_le]
  change ((65 ≤ c.toNat ∧ c.toNat ≤ 90) ∨ 97 ≤ c.toNat ∧ c.toNat ≤ 122) ∨
    48 ≤ c.toNat ∧ c.toNat ≤ 57
  omega

theorem isBlank_of_hexValue? (h : hexValue? c = some d) : isBlank c = false := by
  have hrange := (range_of_hexValue? h).2
  simp only [isBlank, Bool.or_eq_false_iff, decide_eq_false_iff_not, beq_eq_false_iff_ne]
  omega

end Text

namespace Rgb

/-- Every channel is a byte. -/
structure IsByte (c : Rgb) : Prop where
  red : c.red < 256
  green : c.green < 256
  blue : c.blue < 256

theorem isByte_neutral : neutral.IsByte := ⟨by decide, by decide, by decide⟩

/-! ### Digits -/

theorem channel?_digits {f : Char → Char}
    (hf : ∀ d < 16, Text.hexValue? (f (Text.hexChar d)) = some d) {n : Nat} (h : n < 256) :
    channel? (f (Text.hexChar (n / 16 % 16))) (f (Text.hexChar (n % 16))) = some n := by
  rw [channel?, hf _ (Nat.mod_lt _ (by decide)), hf _ (Nat.mod_lt _ (by decide))]
  exact congrArg some (by omega)

theorem ofDigits?_map_hexChars {f : Char → Char}
    (hf : ∀ d < 16, Text.hexValue? (f (Text.hexChar d)) = some d) {c : Rgb} (h : c.IsByte) :
    ofDigits? (c.hexChars.map f) = some c := by
  simp only [hexChars, Text.hexDigits, List.nil_append, List.cons_append, List.map_cons,
    List.map_nil, ofDigits?, channel?_digits hf h.red, channel?_digits hf h.green,
    channel?_digits hf h.blue]

theorem ofDigits?_hexChars {c : Rgb} (h : c.IsByte) : ofDigits? c.hexChars = some c := by
  have hmap := ofDigits?_map_hexChars (f := id) (fun d hd => Text.hexValue?_hexChar hd) h
  rwa [List.map_id] at hmap

theorem ofDigits?_upper {c : Rgb} (h : c.IsByte) :
    ofDigits? (c.hexChars.map Char.toUpper) = some c :=
  ofDigits?_map_hexChars (fun _ hd => Text.hexValue?_toUpper_hexChar hd) h

theorem ofHex?_hex {c : Rgb} (h : c.IsByte) : ofHex? c.hex = some c := by
  rw [ofHex?, hex, String.toList_ofList]
  exact ofDigits?_hexChars h

theorem channel?_eq_some {high low : Char} {n : Nat} :
    channel? high low = some n ↔
      ∃ a b, Text.hexValue? high = some a ∧ Text.hexValue? low = some b ∧ 16 * a + b = n := by
  rw [channel?]
  split
  case h_1 a b ha hb => simp [ha, hb]
  case h_2 hnone =>
    refine iff_of_false (fun h => by cases h) ?_
    rintro ⟨a, b, ha, hb, -⟩
    exact hnone a b ha hb

theorem ofDigits?_eq_some {ds : List Char} {c : Rgb} :
    ofDigits? ds = some c ↔ ∃ a₁ a₂ a₃ a₄ a₅ a₆, ds = [a₁, a₂, a₃, a₄, a₅, a₆] ∧
      channel? a₁ a₂ = some c.red ∧ channel? a₃ a₄ = some c.green ∧
      channel? a₅ a₆ = some c.blue := by
  constructor
  · intro h
    rw [ofDigits?.eq_def] at h
    split at h
    case h_1 a₁ a₂ a₃ a₄ a₅ a₆ =>
      split at h
      case h_1 r g b hr hg hb =>
        cases h
        exact ⟨a₁, a₂, a₃, a₄, a₅, a₆, rfl, hr, hg, hb⟩
      case h_2 => cases h
    case h_2 => cases h
  · rintro ⟨a₁, a₂, a₃, a₄, a₅, a₆, rfl, hr, hg, hb⟩
    simp only [ofDigits?, hr, hg, hb]

theorem digits_of_ofDigits? {ds : List Char} {c : Rgb} (h : ofDigits? ds = some c) :
    c.IsByte ∧ ds.length = 6 ∧ ∀ d ∈ ds, ∃ v, Text.hexValue? d = some v := by
  have hchannel : ∀ {a b : Char} {n : Nat}, channel? a b = some n →
      n < 256 ∧ (∃ v, Text.hexValue? a = some v) ∧ ∃ v, Text.hexValue? b = some v := by
    intro a b n hn
    obtain ⟨x, y, hx, hy, rfl⟩ := channel?_eq_some.1 hn
    have hhigh : x < 16 := (Text.range_of_hexValue? hx).1
    have hlow : y < 16 := (Text.range_of_hexValue? hy).1
    exact ⟨by omega, ⟨x, hx⟩, y, hy⟩
  obtain ⟨a₁, a₂, a₃, a₄, a₅, a₆, rfl, hr, hg, hb⟩ := ofDigits?_eq_some.1 h
  obtain ⟨hr, h₁, h₂⟩ := hchannel hr
  obtain ⟨hg, h₃, h₄⟩ := hchannel hg
  obtain ⟨hb, h₅, h₆⟩ := hchannel hb
  refine ⟨⟨hr, hg, hb⟩, rfl, ?_⟩
  simp only [List.mem_cons, List.not_mem_nil, or_false]
  rintro d (rfl | rfl | rfl | rfl | rfl | rfl) <;> assumption

theorem exists_digits_of_ofHex? {s : String} {c : Rgb} (h : ofHex? s = some c) :
    ∃ ds, ofDigits? ds = some c ∧ (s.toList = '#' :: ds ∨ s.toList = ds) := by
  rw [ofHex?] at h
  split at h
  case h_1 ds hs => exact ⟨ds, h, .inl hs⟩
  case h_2 => exact ⟨s.toList, h, .inr rfl⟩

theorem isByte_of_ofHex? {s : String} {c : Rgb} (h : ofHex? s = some c) : c.IsByte := by
  obtain ⟨ds, hds, -⟩ := exists_digits_of_ofHex? h
  exact (digits_of_ofDigits? hds).1

theorem isByte_parse (s : String) : (parse s).IsByte := by
  rw [parse]
  cases h : ofHex? s with
  | none => exact isByte_neutral
  | some c => exact isByte_of_ofHex? h

theorem strip_of_ofHex? {s : String} {c : Rgb} (h : ofHex? s = some c) : Text.strip s = s := by
  obtain ⟨ds, hds, hs⟩ := exists_digits_of_ofHex? h
  have hdigits : ∀ d ∈ ds, Text.isBlank d = false := by
    intro d hd
    obtain ⟨v, hv⟩ := (digits_of_ofDigits? hds).2.2 d hd
    exact Text.isBlank_of_hexValue? hv
  have hblank : ∀ d ∈ s.toList, Text.isBlank d = false := by
    rcases hs with hs | hs
    · rw [hs]
      exact List.forall_mem_cons.2 ⟨by decide, hdigits⟩
    · rwa [hs]
  rw [Text.strip, Text.trimBoth_eq_self (fun d hd => hblank d (List.mem_of_head? hd))
    (fun d hd => hblank d (List.mem_of_getLast? hd)), String.ofList_toList]

/-! ### Fractions -/

/-- A text gives `n / 255` to three decimals: as thousandths `m` it is off by at most half of one,
`|n / 255 - m / 1000| ≤ 1 / 2000`. -/
def IsFraction (n : Nat) (s : String) : Prop :=
  ∃ a b c d : Fin 10,
    s = String.ofList [a.val.digitChar, '.', b.val.digitChar, c.val.digitChar, d.val.digitChar] ∧
      let m := 1000 * a.val + 100 * b.val + 10 * c.val + d.val
      510 * m ≤ 2000 * n + 255 ∧ 2000 * n ≤ 510 * m + 255

theorem isFraction_fraction {n : Nat} (h : n < 256) : IsFraction n (fraction n) := by
  have hdigit : ∀ d < 10, Char.ofNat (48 + d) = Nat.digitChar d := by decide
  have hwhole : (2000 * n + 255) / 510 / 1000 < 10 := by omega
  have htenths : (2000 * n + 255) / 510 / 100 % 10 < 10 := Nat.mod_lt _ (by decide)
  have hhundredths : (2000 * n + 255) / 510 / 10 % 10 < 10 := Nat.mod_lt _ (by decide)
  have hthousandths : (2000 * n + 255) / 510 % 10 < 10 := Nat.mod_lt _ (by decide)
  refine ⟨⟨_, hwhole⟩, ⟨_, htenths⟩, ⟨_, hhundredths⟩, ⟨_, hthousandths⟩, ?_, ?_⟩
  · rw [← String.toList_inj]
    simp [fraction, fraction.decimal, hdigit _ hwhole, hdigit _ htenths, hdigit _ hhundredths,
      hdigit _ hthousandths]
  · have htens : (2000 * n + 255) / 510 / 10 / 10 = (2000 * n + 255) / 510 / 100 :=
      Nat.div_div_eq_div_mul _ 10 10
    have hhundreds : (2000 * n + 255) / 510 / 100 / 10 = (2000 * n + 255) / 510 / 1000 :=
      Nat.div_div_eq_div_mul _ 100 10
    dsimp only
    omega

end Rgb

/-! ### Colours of style sheets -/

namespace Css

/-- Of the texts that read as colours, a style sheet takes those with `#` and those of letters only
in its own notation. -/
theorem isColor_iff_of_ofHex? {s : String} {c : Rgb} (h : Rgb.ofHex? s = some c) :
    isColor s.toList = true ↔ s.toList.head? = some '#' ∨ ∀ d ∈ s.toList, d.isAlpha = true := by
  obtain ⟨ds, hds, hs⟩ := Rgb.exists_digits_of_ofHex? h
  obtain ⟨-, hlength, hdigits⟩ := Rgb.digits_of_ofDigits? hds
  have hne : ∀ {d e : Char}, d ∈ ds → Text.hexValue? e = none → d ≠ e := by
    rintro d e hd he rfl
    obtain ⟨v, hv⟩ := hdigits d hd
    exact absurd (he.symm.trans hv) nofun
  rcases hs with hs | hs
  · have hall : ds.all isHexDigit = true := by
      rw [List.all_eq_true]
      intro d hd
      obtain ⟨v, hv⟩ := hdigits d hd
      rw [isHexDigit, hv, Option.isSome_some]
    simp [hs, isColor, hlength, hall]
  · have hfirst : ds.head? ≠ some '#' := fun hhead => hne (List.mem_of_head? hhead) (by decide) rfl
    rw [hs, or_iff_right hfirst, isColor.eq_def]
    split
    case h_1 => exact absurd rfl hfirst
    case h_2 =>
      -- the text has no bracket, so it is a name exactly when the letters reach to its end
      cases hrest : ds.dropWhile Char.isAlpha with
      | nil =>
        have hletters : ∀ d ∈ ds, d.isAlpha = true := List.dropWhile_eq_nil_iff.1 hrest
        have hname : ds.takeWhile Char.isAlpha = ds := List.takeWhile_eq_self_iff.2 hletters
        have hsome : ds.isEmpty = false := by
          rw [← Bool.not_eq_true, List.isEmpty_iff_length_eq_zero, hlength]
          decide
        simp only [hname, hsome, Bool.not_false, Bool.and_true, true_iff]
        exact hletters
      | cons d rest =>
        have hmem : d ∈ ds := (List.dropWhile_sublist _).subset (hrest ▸ List.mem_cons_self)
        have hbracket : d ≠ '(' := hne hmem (by decide)
        have hnot : d.isAlpha = false := Text.head?_dropWhile (by rw [hrest]; rfl)
        refine iff_of_false ?_ fun hletters => ?_
        · simp [hbracket]
        · rw [hletters d hmem] at hnot
          cases hnot

theorem color_cases (s : String) :
    (∃ c, Rgb.ofHex? s = some c ∧ color s = c.hex) ∨
      (Rgb.ofHex? s = none ∧ isColor (Text.strip s).toList = true ∧ color s = Text.strip s) ∨
      (Rgb.ofHex? s = none ∧ isColor (Text.strip s).toList = false ∧
        color s = Rgb.neutral.hex) := by
  rw [color]
  cases h : Rgb.ofHex? s with
  | some c => exact .inl ⟨c, rfl, rfl⟩
  | none =>
    cases hcolor : isColor (Text.strip s).toList with
    | true => exact .inr (.inl ⟨rfl, rfl, rfl⟩)
    | false => exact .inr (.inr ⟨rfl, rfl, rfl⟩)

end Css

end CapsuleKit
