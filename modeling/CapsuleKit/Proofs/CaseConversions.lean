import CapsuleKit.Proofs.Words

/-!
# Case conversions

All case conversions start from the words of a text in small letters. `kebabCase` and `snakeCase` put
a separator between these words, and a small word (`IsSmallWord`) has neither a separator nor a break
inside, so that cutting the text again finds the same words: `words_intercalate`. A conversion behind
one of the two is the conversion alone (`case_conversions_compose`).
-/

namespace CapsuleKit.Text

/-! ### Small letters -/

section SmallLetters

variable {c : Char}

/-- What holds of the letters and digits below 128 holds of all of them. -/
theorem forall_alphanum {P : Char → Prop}
    (hall : ∀ n < 128, (Char.ofNat n).isAlphanum = true → P (Char.ofNat n))
    (h : c.isAlphanum = true) : P c := by
  have hbound : c.toNat < 128 := by
    rw [alphanum_iff, upper_iff, lower_iff, digit_iff] at h
    omega
  have hchar := hall c.toNat hbound
  rw [Char.ofNat_toNat] at hchar
  exact hchar h

theorem isLower_toLower (h : c.isUpper = true) : c.toLower.isLower = true :=
  forall_alphanum (P := fun c => c.isUpper = true → c.toLower.isLower = true) (by decide)
    (alphanum_iff.2 (.inl h)) h

theorem toLower_eq_self (h : c.isLower = true ∨ c.isDigit = true) : c.toLower = c :=
  forall_alphanum (P := fun c => c.isLower = true ∨ c.isDigit = true → c.toLower = c) (by decide)
    (alphanum_iff.2 (.inr h)) h

theorem isSeparator_of_isAlphanum (h : c.isAlphanum = true) : isSeparator c = false := by
  cases hc : isSeparator c with
  | false => rfl
  | true => simp [isAlphanum_of_isSeparator hc] at h

theorem isBlank_of_isAlphanum (h : c.isAlphanum = true) : isBlank c = false :=
  forall_alphanum (P := fun c => isBlank c = false) (by decide) h

end SmallLetters

/-! ### Small words -/

/-- A word of small letters, or of digits. -/
structure IsSmallWord (w : List Char) : Prop where
  ne_nil : w ≠ []
  kind : (∀ c ∈ w, c.isLower = true) ∨ ∀ c ∈ w, c.isDigit = true

theorem IsWord.map_toLower {w : List Char} (h : IsWord w) : IsSmallWord (w.map Char.toLower) := by
  refine ⟨by simpa using h.ne_nil, ?_⟩
  simp only [List.forall_mem_map]
  cases h with
  | digits _ h =>
    refine .inr fun c hc => ?_
    rw [toLower_eq_self (.inr (h c hc))]
    exact h c hc
  | capitals _ h => exact .inl fun c hc => isLower_toLower (h c hc)
  | small first hfirst _ h =>
    refine .inl fun c hc => ?_
    rcases List.mem_append.1 hc with hc | hc
    · exact isLower_toLower (hfirst c (by simpa using hc))
    · rw [toLower_eq_self (.inl (h c hc))]
      exact h c hc

namespace IsSmallWord

variable {w : List Char} (h : IsSmallWord w)

include h

theorem char {c : Char} (hc : c ∈ w) : c.isLower = true ∨ c.isDigit = true :=
  h.kind.imp (· c hc) (· c hc)

theorem isAlphanum {c : Char} (hc : c ∈ w) : c.isAlphanum = true :=
  alphanum_iff.2 (.inr (h.char hc))

theorem map_toLower : w.map Char.toLower = w := by
  exact (List.map_congr_left fun c hc => toLower_eq_self (h.char hc)).trans (List.map_id w)

theorem humps_eq : humps w = [w] := by
  obtain ⟨a, w, rfl⟩ := List.exists_cons_of_ne_nil h.ne_nil
  have hin : Unbroken (a :: w) [] := by
    rcases h.kind with hkind | hkind
    · exact unbroken_of_class isBreak_small hkind
    · exact unbroken_of_class isBreak_digits hkind
  have hcut := cutAtBreaks_append hin trivial
  rw [List.append_nil] at hcut
  rw [(humps_eq_cutAtBreaks fun c hc => h.isAlphanum hc).1, hcut]
  rfl

theorem charWords_eq : charWords w = [w] := by
  have hpiece : List.splitOnP isSeparator w = [w] :=
    List.splitOnP_eq_singleton fun c hc => isSeparator_of_isAlphanum (h.isAlphanum hc)
  have hkept : w.filter Char.isAlphanum = w := List.filter_eq_self.2 fun c hc => h.isAlphanum hc
  rw [charWords, hpiece, List.flatMap_singleton, hkept, h.humps_eq]

end IsSmallWord

/-! ### Words with separators between them -/

theorem charWords_append_cons {c : Char} (h : isSeparator c = true) (as bs : List Char) :
    charWords (as ++ c :: bs) = charWords as ++ charWords bs := by
  rw [charWords, List.splitOnP_append_cons _ _ h, List.flatMap_append]
  rfl

theorem words_intercalate {sep : String} {c : Char} (hsep : sep.toList = [c])
    (hc : isSeparator c = true) {ws : List String} (hws : ∀ w ∈ ws, IsSmallWord w.toList) :
    words (String.intercalate sep ws) = ws := by
  have hword : ∀ w : String, IsSmallWord w.toList → words w = [w] := by
    intro w hw
    rw [words, hw.charWords_eq, List.map_singleton, String.ofList_toList]
  induction ws with
  | nil => simp [words, charWords, humps]
  | cons w ws ih =>
    obtain ⟨hw, hws⟩ := List.forall_mem_cons.1 hws
    cases ws with
    | nil => rw [String.intercalate_singleton, hword w hw]
    | cons v vs =>
      have hjoined : (w ++ sep ++ String.intercalate sep (v :: vs)).toList =
          w.toList ++ c :: (String.intercalate sep (v :: vs)).toList := by
        rw [String.toList_append, String.toList_append, hsep, List.append_assoc,
          List.singleton_append]
      rw [String.intercalate_cons_cons, words, hjoined, charWords_append_cons hc, List.map_append]
      show words w ++ words (String.intercalate sep (v :: vs)) = _
      rw [hword w hw, ih hws, List.singleton_append]

theorem isSmallWord_of_mem_lowerWords {s w : String} (h : w ∈ lowerWords s) :
    IsSmallWord w.toList := by
  obtain ⟨v, hv, rfl⟩ := List.mem_map.1 h
  obtain ⟨cs, hcs, rfl⟩ := List.mem_map.1 hv
  rw [lowerWord, String.toList_ofList, String.toList_ofList]
  exact (isWord_of_mem_charWords hcs).map_toLower

theorem map_lowerWord_lowerWords (s : String) : (lowerWords s).map lowerWord = lowerWords s := by
  refine (List.map_congr_left fun w hw => ?_).trans (List.map_id _)
  rw [lowerWord, (isSmallWord_of_mem_lowerWords hw).map_toLower, String.ofList_toList]
  rfl

theorem words_kebabCase (s : String) : words (kebabCase s) = lowerWords s :=
  words_intercalate (c := '-') rfl rfl fun _ => isSmallWord_of_mem_lowerWords

theorem words_snakeCase (s : String) : words (snakeCase s) = lowerWords s :=
  words_intercalate (c := '_') rfl rfl fun _ => isSmallWord_of_mem_lowerWords

/-! ### Conversions -/

/-- The ways to join the words of a text. -/
inductive CaseStyle where
  | camel
  | pascal
  | snake
  | kebab

def CaseStyle.convert : CaseStyle → String → String
  | camel => camelCase
  | pascal => pascalCase
  | snake => snakeCase
  | kebab => kebabCase

/-- A conversion sees only the words, and these in small letters. -/
theorem CaseStyle.convert_eq_of_words (style : CaseStyle) {s t : String}
    (h : words t = lowerWords s) : style.convert t = style.convert s := by
  have hlower : lowerWords t = lowerWords s := by
    rw [lowerWords, h, map_lowerWord_lowerWords]
  cases style with
  | camel => simp only [convert, camelCase, hlower]
  | pascal => simp only [convert, pascalCase, hlower]
  | snake => simp only [convert, snakeCase, hlower]
  | kebab => simp only [convert, kebabCase, hlower]

theorem capitalize_append {w : String} (h : w.toList ≠ []) (t : String) :
    capitalize (w ++ t) = capitalize w ++ t := by
  obtain ⟨c, cs, hw⟩ := List.exists_cons_of_ne_nil h
  simp only [capitalize, String.toList_append, hw, List.cons_append]
  rw [← List.append_assoc, String.ofList_append, String.ofList_toList]

theorem pascalCase_eq_capitalize (s : String) : pascalCase s = capitalize (camelCase s) := by
  rw [pascalCase, camelCase]
  cases hwords : lowerWords s with
  | nil => rfl
  | cons w ws =>
    have hw : IsSmallWord w.toList := isSmallWord_of_mem_lowerWords (s := s) (by simp [hwords])
    simp only [capitalize_append hw.ne_nil, List.map_cons, String.join_cons]

/-- Case conversions compose. The words of a text in kebab or snake case are its words in small
letters, so a conversion gives the same for the text as for either of these, each of the two changes
nothing when it is repeated, and Pascal case is camel case with a capital in front. -/
theorem case_conversions_compose (s : String) :
    words (kebabCase s) = (words s).map lowerWord ∧
      words (snakeCase s) = (words s).map lowerWord ∧
      (∀ style : CaseStyle, style.convert (kebabCase s) = style.convert s ∧
        style.convert (snakeCase s) = style.convert s) ∧
      kebabCase (kebabCase s) = kebabCase s ∧
      snakeCase (snakeCase s) = snakeCase s ∧
      pascalCase s = capitalize (camelCase s) := by
  have hkebab (style : CaseStyle) : style.convert (kebabCase s) = style.convert s :=
    style.convert_eq_of_words (words_kebabCase s)
  have hsnake (style : CaseStyle) : style.convert (snakeCase s) = style.convert s :=
    style.convert_eq_of_words (words_snakeCase s)
  exact ⟨words_kebabCase s, words_snakeCase s, fun style => ⟨hkebab style, hsnake style⟩,
    hkebab .kebab, hsnake .snake, pascalCase_eq_capitalize s⟩

end CapsuleKit.Text
