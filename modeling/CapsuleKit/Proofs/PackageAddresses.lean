import CapsuleKit.Proofs.Split
import CapsuleKit.Target.Ios.Project
import Mathlib.Data.List.Infix

/-!
# Addresses of Swift packages

A Swift package is written as its address, alone or with a version behind `@`, and an address may
have such a mark of its own: `https://user@host/path` or `git@host:path`. The last `@` is taken for
the mark of a version if something stands between the scheme and it. So an address with a version is
always read back, and an address alone only if its last `@` has no user in front of it; any other
address is cut at its own mark (`Ios.package_addresses_read_iff`).
-/

namespace CapsuleKit.Ios

def separator : List Char := "://".toList

/-- The scheme of an address reaches up to the end of its first separator. -/
structure IsScheme (s : List Char) : Prop where
  ends : separator <:+ s
  first : ¬ separator <:+: s.dropLast

/-- An address has something behind its scheme or, without a scheme, is not empty. -/
def HasPlace (address : List Char) : Prop :=
  (∃ s rest, IsScheme s ∧ rest ≠ [] ∧ address = s ++ rest) ∨
    (¬ separator <:+: address ∧ address ≠ [])

/-- An `@` between two texts is taken for the mark of a version: there is an address in front of it,
and no scheme begins only behind it. -/
def Divides (front back : List Char) : Prop :=
  HasPlace front ∧ (separator <:+: back → separator <:+: front)

variable {c : Char} {cs s front back : List Char}

/-! ### Separators -/

theorem prefix_append_mark {mark : Char} {sep : List Char} (h : mark ∉ sep) (as bs : List Char) :
    sep <+: as ++ mark :: bs ↔ sep <+: as := by
  induction sep generalizing as with
  | nil => simp
  | cons d sep ih =>
    obtain ⟨hd, hsep⟩ := not_or.1 (mt List.mem_cons.2 h)
    cases as with
    | nil => simp [Ne.symm hd]
    | cons a as => simp [List.cons_prefix_cons, ih hsep]

theorem infix_append_mark {mark : Char} {sep : List Char} (h : mark ∉ sep) (as bs : List Char) :
    sep <:+: as ++ mark :: bs ↔ sep <:+: as ∨ sep <:+: bs := by
  induction as with
  | nil =>
    rw [List.nil_append, List.infix_cons_iff, ← List.nil_append (mark :: bs),
      prefix_append_mark h, List.prefix_nil, List.infix_nil]
  | cons a as ih =>
    rw [List.cons_append, List.infix_cons_iff, List.infix_cons_iff, ih, ← List.cons_append,
      prefix_append_mark h, or_assoc]

theorem separator_infix_mark :
    separator <:+: front ++ '@' :: back ↔ separator <:+: front ∨ separator <:+: back :=
  infix_append_mark (by decide) front back

/-! ### Schemes -/

theorem schemeLength?_of_start (h : separator <+: cs) : schemeLength? cs = some 3 := by
  obtain ⟨rest, rfl⟩ := h
  rfl

theorem schemeLength?_cons (h : ¬ separator <+: c :: cs) :
    schemeLength? (c :: cs) = (schemeLength? cs).map (· + 1) := by
  rw [schemeLength?.eq_def]
  split
  case h_1 heq => cases heq
  case h_2 rest heq => exact absurd ⟨rest, heq.symm⟩ h
  case h_3 heq =>
    cases heq
    rfl

theorem schemeLength?_eq_none (h : ¬ separator <:+: cs) : schemeLength? cs = none := by
  induction cs with
  | nil => rfl
  | cons c cs ih =>
    rw [List.infix_cons_iff, not_or] at h
    rw [schemeLength?_cons h.1, ih h.2, Option.map_none]

theorem IsScheme.ne_nil (h : IsScheme s) : s ≠ [] := by
  rintro rfl
  exact absurd (List.suffix_nil.1 h.ends) (by decide)

theorem IsScheme.tail (h : IsScheme (c :: s)) (hfirst : ¬ separator <+: c :: s) : IsScheme s := by
  have hends : separator <:+ s := by
    rcases List.suffix_cons_iff.1 h.ends with heq | hs
    · exact absurd (heq ▸ List.prefix_rfl) hfirst
    · exact hs
  refine ⟨hends, fun hin => h.first ?_⟩
  have hne : s ≠ [] := by
    rintro rfl
    exact absurd (List.suffix_nil.1 hends) (by decide)
  rw [List.dropLast_cons_of_ne_nil hne]
  exact List.infix_cons_iff.2 (.inr hin)

theorem schemeLength?_append (h : IsScheme s) (rest : List Char) :
    schemeLength? (s ++ rest) = some s.length := by
  induction s with
  | nil => exact absurd rfl h.ne_nil
  | cons c s ih =>
    have hlong : separator.length ≤ (c :: s).length := h.ends.length_le
    by_cases hfirst : separator <+: c :: s
    · -- the first separator ends the scheme, so the scheme is nothing else
      have hshort : ¬ separator.length ≤ (c :: s).dropLast.length := fun hle =>
        h.first (List.prefix_of_prefix_length_le hfirst (List.dropLast_prefix _) hle).isInfix
      have hthree : separator.length = 3 := rfl
      rw [List.length_dropLast] at hshort
      rw [schemeLength?_of_start (hfirst.trans (List.prefix_append _ _))]
      exact congrArg some (by omega)
    · have hnot : ¬ separator <+: c :: (s ++ rest) := fun hin =>
        hfirst (List.prefix_of_prefix_length_le hin (List.prefix_append (c :: s) rest) hlong)
      rw [List.cons_append, schemeLength?_cons hnot, ih (h.tail hfirst)]
      rfl

theorem exists_isScheme (h : separator <:+: cs) : ∃ s rest, IsScheme s ∧ cs = s ++ rest := by
  induction cs with
  | nil => exact absurd (List.infix_nil.1 h) (by decide)
  | cons c cs ih =>
    by_cases hfirst : separator <+: c :: cs
    · obtain ⟨rest, hrest⟩ := hfirst
      exact ⟨separator, rest, ⟨List.suffix_rfl, by decide⟩, hrest.symm⟩
    · have hin : separator <:+: cs := (List.infix_cons_iff.1 h).resolve_left hfirst
      obtain ⟨s, rest, hs, rfl⟩ := ih hin
      refine ⟨c :: s, rest, ⟨hs.ends.trans (List.suffix_cons c s), ?_⟩, rfl⟩
      rw [List.dropLast_cons_of_ne_nil hs.ne_nil, List.infix_cons_iff]
      rintro (hstart | hin')
      · have hwhole : c :: s.dropLast <+: c :: (s ++ rest) :=
          List.cons_prefix_cons.2 ⟨rfl, (List.dropLast_prefix s).trans (List.prefix_append s rest)⟩
        exact hfirst (hstart.trans hwhole)
      · exact hs.first hin'

theorem IsScheme.has_separator (h : IsScheme s) (rest : List Char) :
    separator <:+: s ++ rest :=
  h.ends.isInfix.trans (List.prefix_append s rest).isInfix

/-- What stands in front of an `@` is compared with the scheme by its length. -/
theorem schemeLength?_lt_iff :
    (schemeLength? (front ++ '@' :: back)).getD 0 < front.length ↔ Divides front back := by
  by_cases hfront : separator <:+: front
  · obtain ⟨s, rest, hs, rfl⟩ := exists_isScheme hfront
    rw [List.append_assoc, schemeLength?_append hs, Option.getD_some, List.length_append,
      Divides, and_iff_left fun _ => hfront]
    constructor
    · intro hlt
      refine .inl ⟨s, rest, hs, ?_, rfl⟩
      rintro rfl
      exact absurd hlt (by simp)
    · rintro (⟨s', rest', hs', hne, heq⟩ | ⟨hnot, -⟩)
      · -- an address has one scheme
        have hlength : s.length = s'.length := by
          have hboth := schemeLength?_append hs rest
          rw [heq, schemeLength?_append hs' rest', Option.some.injEq] at hboth
          exact hboth.symm
        have hpos : 0 < rest'.length := List.length_pos_iff.2 hne
        have hsum := congrArg List.length heq
        rw [List.length_append, List.length_append] at hsum
        omega
      · exact absurd hfront hnot
  · have hplace : HasPlace front ↔ front ≠ [] := by
      constructor
      · rintro (⟨s, rest, hs, -, rfl⟩ | ⟨-, hne⟩)
        · exact absurd (hs.has_separator rest) hfront
        · exact hne
      · exact fun hne => .inr ⟨hfront, hne⟩
    by_cases hback : separator <:+: back
    · refine iff_of_false ?_ fun h => hfront (h.2 hback)
      obtain ⟨s, rest, hs, heq⟩ := exists_isScheme (separator_infix_mark.2 (.inr hback))
      rw [heq, schemeLength?_append hs, Option.getD_some]
      intro hlt
      -- a scheme that ends in front of the mark would be one of the text there
      have hstart : s <+: front := List.prefix_of_prefix_length_le
        ⟨rest, heq.symm⟩ (List.prefix_append front _) (Nat.le_of_lt hlt)
      exact hfront (hs.ends.isInfix.trans hstart.isInfix)
    · have hnone : ¬ separator <:+: front ++ '@' :: back := by
        rw [separator_infix_mark]
        exact not_or.2 ⟨hfront, hback⟩
      rw [schemeLength?_eq_none hnone, Option.getD_none, List.length_pos_iff, Divides, hplace,
        and_iff_left fun h => absurd h hback]

/-! ### Reading -/

theorem packageOfText_of_not_mem {d : String} (h : '@' ∉ d.toList) :
    packageOfText d = (d, defaultVersion) := by
  rw [packageOfText, Text.cutAtLast_eq_none h]

theorem packageOfText_mark {a b : String} (h : '@' ∉ b.toList) :
    packageOfText (a ++ "@" ++ b) =
      if (schemeLength? (a.toList ++ '@' :: b.toList)).getD 0 < a.toList.length then
        (a, Text.nonEmptyOr b defaultVersion)
      else (a ++ "@" ++ b, defaultVersion) := by
  have htext : (a ++ "@" ++ b).toList = a.toList ++ '@' :: b.toList := by simp
  rw [packageOfText, htext, Text.cutAtLast_append_cons h]
  simp only [String.ofList_toList]

theorem packageOfText_of_divides {a b : String} (hmark : '@' ∉ b.toList) (hne : b ≠ "")
    (h : Divides a.toList b.toList) : packageOfText (a ++ "@" ++ b) = (a, b) := by
  rw [packageOfText_mark hmark, if_pos (schemeLength?_lt_iff.2 h), Text.nonEmptyOr,
    if_neg (by simpa using hne)]

/-- Reading a package. A text without `@` is an address, in the default version. Any other text has
a last `@`. Where `/` or `:` follows it, the text is read as an address exactly if the `@` does not
divide it, and is cut there if it does. Where a version follows it that has neither, and an address
stands in front of it, the text is read as both. -/
theorem package_addresses_read_iff (d : String) :
    ('@' ∉ d.toList → packageOfText d = (d, "1.0.0")) ∧
      ∀ a b : String, d = a ++ "@" ++ b → '@' ∉ b.toList →
        ('/' ∈ b.toList ∨ ':' ∈ b.toList →
          (packageOfText d = (d, "1.0.0") ↔ ¬ Divides a.toList b.toList) ∧
          (Divides a.toList b.toList → packageOfText d = (a, b))) ∧
        (HasPlace a.toList → b ≠ "" → '/' ∉ b.toList → ':' ∉ b.toList →
          packageOfText d = (a, b)) := by
  refine ⟨packageOfText_of_not_mem, ?_⟩
  rintro a b rfl hmark
  refine ⟨fun hpath => ?_, fun hplace hne _ hcolon => ?_⟩
  · have hne : b ≠ "" := by
      rintro rfl
      simp at hpath
    have hcut := packageOfText_of_divides (a := a) hmark hne
    refine ⟨⟨fun hread hdivides => ?_, fun hnot => ?_⟩, hcut⟩
    · rw [hcut hdivides, Prod.mk.injEq] at hread
      -- what is cut off is shorter than the text
      have hlength := congrArg String.length hread.1
      simp only [String.length_append] at hlength
      have hone : "@".length = 1 := rfl
      omega
    · rw [packageOfText_mark hmark, if_neg (mt schemeLength?_lt_iff.1 hnot), defaultVersion]
  · have hplain : ¬ separator <:+: b.toList := fun hin => hcolon (hin.subset (by decide))
    exact packageOfText_of_divides hmark hne ⟨hplace, fun hin => absurd hin hplain⟩

/-- A version behind an address with a user, and an address whose user is empty. -/
theorem package_addresses_read_iff_user :
    HasPlace "https://me@host/kit.git".toList ∧
      packageOfText "https://me@host/kit.git@2.1.0" = ("https://me@host/kit.git", "2.1.0") ∧
      ¬ Divides "https://".toList "host/kit.git".toList ∧
      packageOfText "https://@host/kit.git" = ("https://@host/kit.git", "1.0.0") := by
  have hscheme : IsScheme "https://".toList := ⟨⟨"https".toList, by decide⟩, by decide⟩
  have hplace : HasPlace "https://me@host/kit.git".toList :=
    .inl ⟨_, "me@host/kit.git".toList, hscheme, by decide, by decide⟩
  have hnot : ¬ Divides "https://".toList "host/kit.git".toList :=
    mt schemeLength?_lt_iff.2 (by decide)
  refine ⟨hplace, ?_, hnot, ?_⟩
  · obtain ⟨-, hversion⟩ := (package_addresses_read_iff "https://me@host/kit.git@2.1.0").2
      "https://me@host/kit.git" "2.1.0" (by decide) (by decide)
    exact hversion hplace (by decide) (by decide) (by decide)
  · obtain ⟨haddress, -⟩ := (package_addresses_read_iff "https://@host/kit.git").2
      "https://" "host/kit.git" (by decide) (by decide)
    exact (haddress (by decide)).1.2 hnot

/-- An address without a scheme is cut behind its user. -/
theorem address_cut_behind_user :
    '@' ∉ "github.com:a/b.git".toList ∧ ':' ∈ "github.com:a/b.git".toList ∧
      packageOfText ("git" ++ "@" ++ "github.com:a/b.git") = ("git", "github.com:a/b.git") := by
  decide

end CapsuleKit.Ios
