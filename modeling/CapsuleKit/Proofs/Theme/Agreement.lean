import CapsuleKit.Proofs.Theme.Sources

/-!
# Agreement of a theme's colours

The colours of a theme reach an app in three notations. Where the style sheet gives a token a colour
of six hexadecimal digits, the constants of the other two should be the same colour, packed into a
number or as fractions of one. That is so for every colour but one kind (`colorsAgree_iff`): a style
sheet takes the blanks from around a colour and a constant does not, so such a colour is grey there
(`not_colorsAgree_padded`).
-/

namespace CapsuleKit

/-! ### Literals that are a colour -/

namespace Rgb

/-- A call with a packed number: full opacity, then the six digits of the colour. -/
def IsPacked (c : Rgb) (text : String) : Prop :=
  ∃ digits, text = "Color(0xFF" ++ String.ofList digits ++ ")" ∧ ofDigits? digits = some c

/-- A call with the channels as fractions of one, in order. -/
def IsFractions (c : Rgb) (text : String) : Prop :=
  ∃ r g b, text = "Color(red: " ++ r ++ ", green: " ++ g ++ ", blue: " ++ b ++ ")" ∧
    IsFraction c.red r ∧ IsFraction c.green g ∧ IsFraction c.blue b

theorem isPacked_kotlin_iff {c d : Rgb} (h : c.IsByte) : d.IsPacked c.kotlin ↔ d = c := by
  constructor
  · rintro ⟨digits, htext, hdigits⟩
    have hsame : c.hexChars.map Char.toUpper = digits := by
      rw [kotlin, ← String.toList_inj] at htext
      simpa only [String.toList_append, List.append_assoc, List.append_cancel_left_eq,
        List.append_cancel_right_eq, String.toList_ofList] using htext
    rw [← hsame, ofDigits?_upper h, Option.some.injEq] at hdigits
    exact hdigits.symm
  · rintro rfl
    exact ⟨_, rfl, ofDigits?_upper h⟩

theorem isFractions_swift {c : Rgb} (h : c.IsByte) : c.IsFractions c.swift :=
  ⟨_, _, _, rfl, isFraction_fraction h.red, isFraction_fraction h.green,
    isFraction_fraction h.blue⟩

end Rgb

/-! ### Agreement -/

namespace Theme

/-- If the style sheet gives a token a colour of six digits, then the constants in Kotlin and in
Swift are that colour. -/
def ColorsAgree (t : Theme) (package : String) (k : ColorToken) : Prop :=
  ∀ value c, (Css.declarations t.css).lookup ("--color-" ++ k.cssName) = some value →
    Rgb.ofHex? value = some c →
      (∃ text, Source.constant? "val " (t.kotlinColors package) k.pascalName = some text ∧
        c.IsPacked text) ∧
      ∃ text, Source.constant? "static let " (t.swiftColors "app") ("app" ++ k.pascalName) =
        some text ∧ c.IsFractions text

theorem colorsAgree_iff_parse (t : Theme) (package : String) (k : ColorToken) :
    t.ColorsAgree package k ↔
      ∀ c, Rgb.ofHex? (Css.color (t.color k)) = some c → c = Rgb.parse (t.color k) := by
  have hbyte := Rgb.isByte_parse (t.color k)
  constructor
  · intro hagree c hc
    obtain ⟨⟨text, htext, hpacked⟩, -⟩ := hagree _ c (t.lookup_declarations k) hc
    rw [t.constant?_kotlinColors package k, Option.some.injEq] at htext
    rw [← htext, Rgb.isPacked_kotlin_iff hbyte] at hpacked
    exact hpacked
  · intro hsame value c hvalue hc
    rw [t.lookup_declarations k, Option.some.injEq] at hvalue
    subst hvalue
    rw [hsame c hc]
    exact ⟨⟨_, t.constant?_kotlinColors package k, (Rgb.isPacked_kotlin_iff hbyte).2 rfl⟩,
      _, t.constant?_swiftColors k, Rgb.isFractions_swift hbyte⟩

end Theme

/-- A colour of six digits, other than the neutral grey, with blanks around it, that is written with
`#` or in letters only. -/
def Css.IsPaddedHex (s : String) : Prop :=
  Text.strip s ≠ s ∧ ∃ c, Rgb.ofHex? (Text.strip s) = some c ∧ c ≠ Rgb.neutral ∧
    ((Text.strip s).toList.head? = some '#' ∨ ∀ d ∈ (Text.strip s).toList, d.isAlpha = true)

theorem Css.parse_color_iff (s : String) :
    (∀ c, Rgb.ofHex? (color s) = some c → c = Rgb.parse s) ↔ ¬ IsPaddedHex s := by
  rcases color_cases s with ⟨c, hc, htext⟩ | ⟨hnone, hcolor, htext⟩ | ⟨hnone, hcolor, htext⟩
  · refine iff_of_true (fun d hd => ?_) fun hpadded => hpadded.1 (Rgb.strip_of_ofHex? hc)
    rw [htext, Rgb.ofHex?_hex (Rgb.isByte_of_ofHex? hc), Option.some.injEq] at hd
    rw [← hd, Rgb.parse, hc, Option.getD_some]
  · rw [htext, Rgb.parse, hnone, Option.getD_none]
    constructor
    · rintro hsame ⟨-, c, hc, hgrey, -⟩
      exact hgrey (hsame c hc)
    · intro hpadded c hc
      have hstrip : Text.strip s ≠ s := by
        intro heq
        rw [heq, hnone] at hc
        cases hc
      by_contra hgrey
      exact hpadded ⟨hstrip, c, hc, hgrey, (isColor_iff_of_ofHex? hc).1 hcolor⟩
  · refine iff_of_true (fun d hd => ?_) ?_
    · rw [htext, Rgb.ofHex?_hex Rgb.isByte_neutral, Option.some.injEq] at hd
      rw [← hd, Rgb.parse, hnone, Option.getD_none]
    · rintro ⟨-, c, hc, -, hnotation⟩
      rw [(isColor_iff_of_ofHex? hc).2 hnotation] at hcolor
      cases hcolor

/-- Every style sheet declares every token, and the constants agree with a colour of six digits
there unless the theme puts blanks around that colour. -/
theorem colorsAgree_iff (t : Theme) (package : String) (k : ColorToken) :
    (∃ value, (Css.declarations t.css).lookup ("--color-" ++ k.cssName) = some value) ∧
      (t.ColorsAgree package k ↔ ¬ Css.IsPaddedHex (t.color k)) :=
  ⟨⟨_, t.lookup_declarations k⟩,
    (t.colorsAgree_iff_parse package k).trans (Css.parse_color_iff (t.color k))⟩

/-- Red with a space in front is red in the style sheet and grey elsewhere. -/
theorem not_colorsAgree_padded :
    ¬ Theme.ColorsAgree { colors := { primary := some " #ff0000" } } "com.example" .primary := by
  rw [Theme.colorsAgree_iff_parse]
  intro hsame
  exact absurd (hsame ⟨255, 0, 0⟩ (by decide +kernel)) (by decide +kernel)

end CapsuleKit
