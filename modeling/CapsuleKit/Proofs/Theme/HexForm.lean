import CapsuleKit.Proofs.CaseConversions
import CapsuleKit.Proofs.Theme.Color

/-!
# Colours as six digits

A text is a colour exactly if it is six hexadecimal digits, with `#` in front or without it
(`Rgb.Spells`). What is written for the colour then has the same six digits, leading zeros included:
in small letters in the form `#rrggbb`, in capitals in the packed number of Kotlin source. Any other
text counts as the neutral grey.
-/

namespace CapsuleKit

/-! ### Digits -/

namespace Text

/-- The hexadecimal digits, with small letters and with capitals. -/
def hexAlphabet : List Char := "0123456789abcdefABCDEF".toList

variable {c : Char} {d : Nat}

theorem mem_hexAlphabet_iff : c ∈ hexAlphabet ↔ ∃ d, hexValue? c = some d := by
  constructor
  · intro h
    have hall : hexAlphabet.all (fun c => (hexValue? c).isSome) = true := by decide
    exact Option.isSome_iff_exists.1 (List.all_eq_true.1 hall c h)
  · rintro ⟨d, h⟩
    have hmem : (hexValue? c).isSome = true → c ∈ hexAlphabet :=
      forall_alphanum (P := fun c => (hexValue? c).isSome = true → c ∈ hexAlphabet) (by decide)
        (isAlphanum_of_hexValue? h)
    exact hmem (by rw [h, Option.isSome_some])

theorem hexChar_of_hexValue? (h : hexValue? c = some d) : hexChar d = c.toLower :=
  forall_alphanum (P := fun c => ∀ d ∈ hexValue? c, hexChar d = c.toLower) (by decide)
    (isAlphanum_of_hexValue? h) d h

theorem toUpper_toLower (h : c.isAlphanum = true) : c.toLower.toUpper = c.toUpper :=
  forall_alphanum (P := fun c => c.toLower.toUpper = c.toUpper) (by decide) h

end Text

namespace Rgb

variable {ds : List Char} {c : Rgb} {s : String}

theorem hexDigits_of_channel? {a b : Char} {n : Nat} (h : channel? a b = some n) :
    Text.hexDigits 2 n = [a.toLower, b.toLower] := by
  obtain ⟨x, y, hx, hy, rfl⟩ := channel?_eq_some.1 h
  have hlow : y < 16 := (Text.range_of_hexValue? hy).1
  have hhigh : x < 16 := (Text.range_of_hexValue? hx).1
  have hfirst : (16 * x + y) / 16 % 16 = x := by omega
  have hsecond : (16 * x + y) % 16 = y := by omega
  simp only [Text.hexDigits, List.nil_append, List.cons_append, hfirst, hsecond,
    Text.hexChar_of_hexValue? hx, Text.hexChar_of_hexValue? hy]

theorem hexChars_of_ofDigits? (h : ofDigits? ds = some c) : c.hexChars = ds.map Char.toLower := by
  obtain ⟨a₁, a₂, a₃, a₄, a₅, a₆, rfl, hred, hgreen, hblue⟩ := ofDigits?_eq_some.1 h
  rw [hexChars, hexDigits_of_channel? hred, hexDigits_of_channel? hgreen,
    hexDigits_of_channel? hblue]
  rfl

theorem exists_ofDigits?_iff :
    (∃ c, ofDigits? ds = some c) ↔ ds.length = 6 ∧ ∀ d ∈ ds, d ∈ Text.hexAlphabet := by
  constructor
  · rintro ⟨c, h⟩
    obtain ⟨-, hlength, hdigits⟩ := digits_of_ofDigits? h
    exact ⟨hlength, fun d hd => Text.mem_hexAlphabet_iff.2 (hdigits d hd)⟩
  · rintro ⟨hlength, hdigits⟩
    obtain ⟨a₁, a₂, a₃, a₄, a₅, a₆, rfl⟩ :
        ∃ a₁ a₂ a₃ a₄ a₅ a₆, ds = [a₁, a₂, a₃, a₄, a₅, a₆] := by
      rcases ds with _ | ⟨a₁, _ | ⟨a₂, _ | ⟨a₃, _ | ⟨a₄, _ | ⟨a₅, _ | ⟨a₆, _ | ⟨a₇, rest⟩⟩⟩⟩⟩⟩⟩
      case cons.cons.cons.cons.cons.cons.nil => exact ⟨a₁, a₂, a₃, a₄, a₅, a₆, rfl⟩
      all_goals
        simp only [List.length_cons, List.length_nil] at hlength
        omega
    have hchannel : ∀ a ∈ [a₁, a₂, a₃, a₄, a₅, a₆], ∀ b ∈ [a₁, a₂, a₃, a₄, a₅, a₆],
        ∃ n, channel? a b = some n := by
      intro a ha b hb
      obtain ⟨x, hx⟩ := Text.mem_hexAlphabet_iff.1 (hdigits a ha)
      obtain ⟨y, hy⟩ := Text.mem_hexAlphabet_iff.1 (hdigits b hb)
      exact ⟨_, channel?_eq_some.2 ⟨x, y, hx, hy, rfl⟩⟩
    obtain ⟨red, hred⟩ := hchannel a₁ (by simp) a₂ (by simp)
    obtain ⟨green, hgreen⟩ := hchannel a₃ (by simp) a₄ (by simp)
    obtain ⟨blue, hblue⟩ := hchannel a₅ (by simp) a₆ (by simp)
    exact ⟨⟨red, green, blue⟩, ofDigits?_eq_some.2 ⟨_, _, _, _, _, _, rfl, hred, hgreen, hblue⟩⟩

/-! ### Texts -/

/-- A text is six digits, with `#` in front or without it. -/
structure Spells (s : String) (ds : List Char) : Prop where
  length : ds.length = 6
  digits : ∀ d ∈ ds, d ∈ Text.hexAlphabet
  text : s.toList = ds ∨ s.toList = '#' :: ds

theorem Spells.ofHex?_eq (h : Spells s ds) : ofHex? s = ofDigits? ds := by
  rcases h.text with hs | hs
  · -- no digit is the mark in front
    have hmark : '#' ∉ ds := fun hmem => absurd (h.digits '#' hmem) (by decide)
    rw [ofHex?]
    split
    case h_1 cs hcs =>
      rw [← hs, hcs] at hmark
      exact absurd List.mem_cons_self hmark
    case h_2 => rw [hs]
  · rw [ofHex?, hs]
    rfl

theorem isSome_ofHex?_iff : (ofHex? s).isSome = true ↔ ∃ ds, Spells s ds := by
  rw [Option.isSome_iff_exists]
  constructor
  · rintro ⟨c, h⟩
    obtain ⟨ds, hds, hs⟩ := exists_digits_of_ofHex? h
    obtain ⟨hlength, hdigits⟩ := exists_ofDigits?_iff.1 ⟨c, hds⟩
    exact ⟨ds, hlength, hdigits, hs.symm⟩
  · rintro ⟨ds, h⟩
    rw [h.ofHex?_eq]
    exact exists_ofDigits?_iff.2 ⟨h.length, h.digits⟩

theorem Spells.map_toUpper (h : Spells s ds) :
    (ds.map Char.toLower).map Char.toUpper = ds.map Char.toUpper := by
  rw [List.map_map]
  refine List.map_congr_left fun d hd => ?_
  obtain ⟨v, hv⟩ := Text.mem_hexAlphabet_iff.1 (h.digits d hd)
  exact Text.toUpper_toLower (Text.isAlphanum_of_hexValue? hv)

/-- Reading and writing colours. Exactly the texts of six digits, with `#` in front or without it,
are colours; their channels are bytes, `#rrggbb` has their digits in small letters and the packed
number of Kotlin source has them in capitals. Any colour of bytes is read back from `#rrggbb`, and
a text that is no colour counts as the neutral grey. -/
theorem hex_form_read_and_written (s : String) :
    ((ofHex? s).isSome = true ↔ ∃ ds, Spells s ds) ∧
      (∀ ds, Spells s ds → ∃ c, ofHex? s = some c ∧
        (c.red ≤ 255 ∧ c.green ≤ 255 ∧ c.blue ≤ 255) ∧
        c.hex = "#" ++ String.ofList (ds.map Char.toLower) ∧
        ofHex? c.hex = some c ∧
        (parse s).kotlin = "Color(0xFF" ++ String.ofList (ds.map Char.toUpper) ++ ")") ∧
      (∀ c : Rgb, c.red ≤ 255 → c.green ≤ 255 → c.blue ≤ 255 → ofHex? c.hex = some c) ∧
      ((¬ ∃ ds, Spells s ds) →
        parse s = ⟨128, 128, 128⟩ ∧ (parse s).kotlin = "Color(0xFF808080)") := by
  refine ⟨isSome_ofHex?_iff, fun ds h => ?_, fun c hred hgreen hblue => ?_, fun hnone => ?_⟩
  · obtain ⟨c, hc⟩ := Option.isSome_iff_exists.1 (isSome_ofHex?_iff.2 ⟨ds, h⟩)
    have hbyte : c.IsByte := isByte_of_ofHex? hc
    have hchars : c.hexChars = ds.map Char.toLower := by
      rw [h.ofHex?_eq] at hc
      exact hexChars_of_ofDigits? hc
    refine ⟨c, hc, ⟨Nat.le_of_lt_succ hbyte.red, Nat.le_of_lt_succ hbyte.green,
      Nat.le_of_lt_succ hbyte.blue⟩, ?_, ofHex?_hex hbyte, ?_⟩
    · rw [hex, hchars, ← String.toList_inj]
      simp
    · rw [parse, hc, Option.getD_some, kotlin, hchars, h.map_toUpper]
  · exact ofHex?_hex ⟨Nat.lt_succ_of_le hred, Nat.lt_succ_of_le hgreen, Nat.lt_succ_of_le hblue⟩
  · have hgrey : parse s = neutral := by
      rw [parse, Option.not_isSome_iff_eq_none.1 fun hsome => hnone (isSome_ofHex?_iff.1 hsome)]
      rfl
    rw [hgrey]
    exact ⟨rfl, by decide⟩

/-- A colour in letters of both cases, with leading zeros in two channels. -/
theorem hex_form_read_and_written_mixed :
    Spells "#0aF00b" "0aF00b".toList ∧ ∃ c, ofHex? "#0aF00b" = some c ∧ c.hex = "#0af00b" ∧
      ofHex? c.hex = some c ∧ (parse "#0aF00b").kotlin = "Color(0xFF0AF00B)" := by
  have hall : "0aF00b".toList.all (· ∈ Text.hexAlphabet) = true := by decide
  have hspells : Spells "#0aF00b" "0aF00b".toList :=
    ⟨by decide, fun d hd => of_decide_eq_true (List.all_eq_true.1 hall d hd), .inr (by decide)⟩
  obtain ⟨-, hread, -⟩ := hex_form_read_and_written "#0aF00b"
  obtain ⟨c, hc, -, hhex, hback, hkotlin⟩ := hread _ hspells
  exact ⟨hspells, c, hc, hhex.trans (by decide), hback, hkotlin.trans (by decide)⟩

end Rgb

end CapsuleKit
