import CapsuleKit.Proofs.Split

/-!
# Where words end

`Text.humps` takes one word after the other off a piece of letters and digits. Here the same words
come from a rule about neighbours: `isBreak` looks at two characters and the one behind them, and
`cutAtBreaks` cuts wherever it holds. A word is right if no break is inside it and one is behind it
(`cutAtBreaks_append`), and the word that `humps` takes is of this kind in each of the four ways in
which a word may go on (`isNextWord_digits` and its neighbours).
-/

namespace CapsuleKit.Text

/-! ### Classes of characters -/

section Classes

variable {c : Char}

theorem digit_iff : c.isDigit = true ↔ 48 ≤ c.toNat ∧ c.toNat ≤ 57 := by
  have h : c.isDigit = (decide (c.val ≥ 48) && decide (c.val ≤ 57)) := rfl
  rw [h, Bool.and_eq_true, decide_eq_true_iff, decide_eq_true_iff]
  exact Iff.rfl

theorem upper_iff : c.isUpper = true ↔ 65 ≤ c.toNat ∧ c.toNat ≤ 90 := by
  have h : c.isUpper = decide (c.val ≥ 65 ∧ c.val ≤ 90) := rfl
  rw [h, decide_eq_true_iff]
  exact Iff.rfl

theorem lower_iff : c.isLower = true ↔ 97 ≤ c.toNat ∧ c.toNat ≤ 122 := by
  have h : c.isLower = (decide (c.val ≥ 97) && decide (c.val ≤ 122)) := rfl
  rw [h, Bool.and_eq_true, decide_eq_true_iff, decide_eq_true_iff]
  exact Iff.rfl

theorem alphanum_iff :
    c.isAlphanum = true ↔ c.isUpper = true ∨ c.isLower = true ∨ c.isDigit = true := by
  have h : c.isAlphanum = ((c.isUpper || c.isLower) || c.isDigit) := rfl
  rw [h, Bool.or_eq_true, Bool.or_eq_true, or_assoc]

theorem class_of_isUpper (h : c.isUpper = true) : c.isLower = false ∧ c.isDigit = false := by
  rw [upper_iff] at h
  rw [← Bool.not_eq_true, lower_iff, ← Bool.not_eq_true, digit_iff]
  omega

theorem class_of_isLower (h : c.isLower = true) : c.isUpper = false ∧ c.isDigit = false := by
  rw [lower_iff] at h
  rw [← Bool.not_eq_true, upper_iff, ← Bool.not_eq_true, digit_iff]
  omega

theorem class_of_isDigit (h : c.isDigit = true) : c.isUpper = false ∧ c.isLower = false := by
  rw [digit_iff] at h
  rw [← Bool.not_eq_true, upper_iff, ← Bool.not_eq_true, lower_iff]
  omega

theorem isAlphanum_of_isSeparator (h : isSeparator c = true) : c.isAlphanum = false := by
  have hmark : ∀ d : Char, c = d → d.isAlphanum = false → c.isAlphanum = false := by
    rintro d rfl hd
    exact hd
  simp only [isSeparator, Bool.or_eq_true, beq_iff_eq] at h
  rcases h with ((hblank | hmark') | hmark') | hmark'
  · rw [← Bool.not_eq_true, alphanum_iff, upper_iff, lower_iff, digit_iff]
    simp only [isBlank, Bool.or_eq_true, decide_eq_true_eq, beq_iff_eq] at hblank
    omega
  · exact hmark _ hmark' rfl
  · exact hmark _ hmark' rfl
  · exact hmark _ hmark' rfl

end Classes

/-! ### The rule -/

/-- Whether a word ends between two neighbours, of which `next` stands behind the second: at the
border of a number, before a capital behind a small letter, and before the last of several capitals
if a small letter follows it. -/
def isBreak (a b : Char) (next : Option Char) : Bool :=
  (a.isDigit != b.isDigit) || (a.isLower && b.isUpper) ||
    (a.isUpper && b.isUpper && next.any Char.isLower)

def cutAtBreaks : List Char → List (List Char)
  | [] => []
  | [a] => [[a]]
  | a :: b :: rest =>
    if isBreak a b rest.head? then [a] :: cutAtBreaks (b :: rest)
    else (cutAtBreaks (b :: rest)).modifyHead (a :: ·)

/-- Whether no break is inside a word that stands in front of a text. -/
def Unbroken : List Char → List Char → Prop
  | a :: b :: w, rest => isBreak a b (w ++ rest).head? = false ∧ Unbroken (b :: w) rest
  | _, _ => True

/-- Whether a break, or nothing at all, follows a character. -/
def BreaksBehind (a : Char) : List Char → Prop
  | [] => True
  | b :: rest => isBreak a b rest.head? = true

theorem cutAtBreaks_cons_of_breaksBehind {a : Char} {rest : List Char} (h : BreaksBehind a rest) :
    cutAtBreaks (a :: rest) = [a] :: cutAtBreaks rest := by
  cases rest with
  | nil => rfl
  | cons b rest =>
    have hbreak : isBreak a b rest.head? = true := h
    rw [cutAtBreaks, if_pos hbreak]

theorem cutAtBreaks_append {a : Char} {w rest : List Char} (hin : Unbroken (a :: w) rest)
    (hend : BreaksBehind ((a :: w).getLast (List.cons_ne_nil a w)) rest) :
    cutAtBreaks (a :: w ++ rest) = (a :: w) :: cutAtBreaks rest := by
  induction w generalizing a with
  | nil => exact cutAtBreaks_cons_of_breaksBehind hend
  | cons b w ih =>
    obtain ⟨hab, hin⟩ := hin
    have hrest := ih hin (by simpa using hend)
    rw [List.cons_append, List.cons_append, cutAtBreaks, hab, if_neg (by simp),
      ← List.cons_append, hrest]
    rfl

/-! ### Words of one kind -/

/-- Digits, capitals, or small letters with a capital in front or without. -/
inductive IsWord : List Char → Prop
  | digits {w : List Char} (hne : w ≠ []) (h : ∀ c ∈ w, c.isDigit = true) : IsWord w
  | capitals {w : List Char} (hne : w ≠ []) (h : ∀ c ∈ w, c.isUpper = true) : IsWord w
  | small (first : Option Char) {w : List Char} (hfirst : ∀ c, first = some c → c.isUpper = true)
      (hne : w ≠ []) (h : ∀ c ∈ w, c.isLower = true) : IsWord (first.toList ++ w)

theorem IsWord.ne_nil {w : List Char} (h : IsWord w) : w ≠ [] := by
  cases h with
  | digits hne => exact hne
  | capitals hne => exact hne
  | small first _ hne => simp [hne]

/-- What stands at the front of a text as its first word. -/
structure IsNextWord (a : Char) (w rest : List Char) : Prop where
  isWord : IsWord (a :: w)
  unbroken : Unbroken (a :: w) rest
  ends : BreaksBehind ((a :: w).getLast (List.cons_ne_nil a w)) rest

section Runs

variable {a : Char} {w rest : List Char}

theorem unbroken_of_class {p : Char → Bool}
    (hp : ∀ a b next, p a = true → p b = true → isBreak a b next = false)
    (h : ∀ c ∈ a :: w, p c = true) : Unbroken (a :: w) rest := by
  induction w generalizing a with
  | nil => trivial
  | cons b w ih =>
    rw [List.forall_mem_cons] at h
    exact ⟨hp a b _ h.1 (h.2 b (by simp)), ih h.2⟩

theorem isBreak_digits (a b : Char) (next : Option Char) (ha : a.isDigit = true)
    (hb : b.isDigit = true) : isBreak a b next = false := by
  simp [isBreak, ha, hb, class_of_isDigit ha]

theorem isBreak_small (a b : Char) (next : Option Char) (ha : a.isLower = true)
    (hb : b.isLower = true) : isBreak a b next = false := by
  simp [isBreak, class_of_isLower ha, class_of_isLower hb]

theorem unbroken_capitals (h : ∀ c ∈ a :: w, c.isUpper = true)
    (hrest : ∀ c, rest.head? = some c → c.isLower = false) : Unbroken (a :: w) rest := by
  induction w generalizing a with
  | nil => trivial
  | cons b w ih =>
    rw [List.forall_mem_cons] at h
    have ha := class_of_isUpper h.1
    have hb := class_of_isUpper (h.2 b (by simp))
    refine ⟨?_, ih h.2⟩
    have hnext : (w ++ rest).head?.any Char.isLower = false := by
      cases w with
      | nil =>
        cases hhead : rest.head? with
        | none => simp [hhead]
        | some c => simp [hhead, hrest c hhead]
      | cons c w => simp [(class_of_isUpper (h.2 c (by simp))).1]
    rw [isBreak, hnext]
    simp [ha, hb]

theorem isNextWord_digits (h : ∀ c ∈ a :: w, c.isDigit = true)
    (hrest : ∀ c, rest.head? = some c → c.isDigit = false) : IsNextWord a w rest where
  isWord := .digits (by simp) h
  unbroken := unbroken_of_class isBreak_digits h
  ends := by
    have hlast := h _ (List.getLast_mem (List.cons_ne_nil a w))
    cases rest with
    | nil => trivial
    | cons b rest => simp [BreaksBehind, isBreak, hlast, hrest b rfl]

theorem breaksBehind_small (ha : a.isLower = true)
    (hrest : ∀ c, rest.head? = some c → c.isLower = false)
    (halnum : ∀ c ∈ rest, c.isAlphanum = true) : BreaksBehind a rest := by
  cases rest with
  | nil => trivial
  | cons b rest =>
    rcases alphanum_iff.1 (halnum b (by simp)) with hb | hb | hb
    · simp [BreaksBehind, isBreak, ha, hb]
    · simp [hrest b rfl] at hb
    · simp [BreaksBehind, isBreak, hb, class_of_isLower ha]

theorem isNextWord_small (h : ∀ c ∈ a :: w, c.isLower = true)
    (hrest : ∀ c, rest.head? = some c → c.isLower = false)
    (halnum : ∀ c ∈ rest, c.isAlphanum = true) : IsNextWord a w rest where
  isWord := .small none (by simp) (by simp) h
  unbroken := unbroken_of_class isBreak_small h
  ends := breaksBehind_small (h _ (List.getLast_mem _)) hrest halnum

theorem isNextWord_capitalized (ha : a.isUpper = true) (hne : w ≠ [])
    (h : ∀ c ∈ w, c.isLower = true) (hrest : ∀ c, rest.head? = some c → c.isLower = false)
    (halnum : ∀ c ∈ rest, c.isAlphanum = true) : IsNextWord a w rest := by
  obtain ⟨b, w, rfl⟩ := List.exists_cons_of_ne_nil hne
  have hb := class_of_isLower (h b (by simp))
  refine ⟨.small (some a) (by simpa using ha) hne h, ⟨?_, ?_⟩, ?_⟩
  · simp [isBreak, class_of_isUpper ha, hb]
  · exact unbroken_of_class isBreak_small h
  · rw [List.getLast_cons hne]
    exact breaksBehind_small (h _ (List.getLast_mem _)) hrest halnum

theorem isNextWord_capitals (h : ∀ c ∈ a :: w, c.isUpper = true)
    (hrest : ∀ c, rest.head? = some c → c.isUpper = false ∧ c.isLower = false)
    (halnum : ∀ c ∈ rest, c.isAlphanum = true) : IsNextWord a w rest where
  isWord := .capitals (by simp) h
  unbroken := unbroken_capitals h fun c hc => (hrest c hc).2
  ends := by
    have hlast := class_of_isUpper (h _ (List.getLast_mem (List.cons_ne_nil a w)))
    cases rest with
    | nil => trivial
    | cons b rest =>
      have hb : b.isDigit = true := by
        rcases alphanum_iff.1 (halnum b (by simp)) with hb | hb | hb
        · simp [(hrest b rfl).1] at hb
        · simp [(hrest b rfl).2] at hb
        · exact hb
      simp [BreaksBehind, isBreak, hlast, hb]

theorem isNextWord_acronym {b c : Char} (h : ∀ c ∈ a :: w, c.isUpper = true)
    (hb : b.isUpper = true) (hc : c.isLower = true) (more : List Char) :
    IsNextWord a w (b :: c :: more) where
  isWord := .capitals (by simp) h
  unbroken := unbroken_capitals h (by simp [class_of_isUpper hb])
  ends := by
    have hlast := h _ (List.getLast_mem (List.cons_ne_nil a w))
    simp [BreaksBehind, isBreak, hlast, hb, hc]

end Runs

/-! ### The words of a piece -/

theorem exists_run (p : Char → Bool) (cs : List Char) :
    ∃ run rest, cs = run ++ rest ∧ cs.takeWhile p = run ∧ (∀ c ∈ run, p c = true) ∧
      ∀ c, rest.head? = some c → p c = false :=
  ⟨cs.takeWhile p, cs.dropWhile p, List.takeWhile_append_dropWhile.symm, rfl,
    List.all_eq_true.1 List.all_takeWhile, fun _ => head?_dropWhile⟩

/-- The word that is taken off the front of a piece is the first one by the rule. -/
theorem isNextWord_wordTail {a : Char} {cs : List Char} (h : ∀ c ∈ a :: cs, c.isAlphanum = true) :
    IsNextWord a (cs.take (wordTail a cs)) (cs.drop (wordTail a cs)) := by
  rw [List.forall_mem_cons] at h
  obtain ⟨ha, hcs⟩ := h
  unfold wordTail
  by_cases hdigit : a.isDigit = true
  · obtain ⟨run, rest, rfl, hrun, hin, hout⟩ := exists_run Char.isDigit cs
    rw [if_pos hdigit, hrun, List.take_left, List.drop_left]
    exact isNextWord_digits (List.forall_mem_cons.2 ⟨hdigit, hin⟩) hout
  by_cases hsmall : a.isLower = true
  · obtain ⟨run, rest, rfl, hrun, hin, hout⟩ := exists_run Char.isLower cs
    rw [if_neg hdigit, if_pos hsmall, hrun, List.take_left, List.drop_left]
    exact isNextWord_small (List.forall_mem_cons.2 ⟨hsmall, hin⟩) hout
      fun c hc => hcs c (by simp [hc])
  have hupper : a.isUpper = true := by
    rcases alphanum_iff.1 ha with ha | ha | ha
    · exact ha
    · exact absurd ha hsmall
    · exact absurd ha hdigit
  obtain ⟨capitals, rest, rfl, hrun, hcapitals, hend⟩ := exists_run Char.isUpper cs
  obtain ⟨small, more, rfl, hrun', hin, hout⟩ := exists_run Char.isLower rest
  simp only [if_neg hdigit, if_neg hsmall, hrun, List.drop_left, hrun']
  rcases small with - | ⟨c, small⟩
  · -- no small letter follows the capitals
    rw [List.nil_append] at hend hcs ⊢
    rw [List.length_nil, if_pos rfl, List.take_left, List.drop_left]
    refine isNextWord_capitals (List.forall_mem_cons.2 ⟨hupper, hcapitals⟩)
      (fun d hd => ⟨hend d hd, hout d hd⟩) fun d hd => hcs d (by simp [hd])
  · rw [List.length_cons, if_neg (Nat.succ_ne_zero _)]
    rcases List.eq_nil_or_concat capitals with rfl | ⟨capitals, b, rfl⟩
    · -- `a` is the only capital
      rw [List.length_nil, if_pos rfl, List.nil_append, ← List.length_cons, List.take_left,
        List.drop_left]
      exact isNextWord_capitalized hupper (by simp) hin hout fun d hd => hcs d (by simp [hd])
    · -- the last capital goes with the small letters
      rw [List.concat_eq_append] at hcapitals ⊢
      have hlength : (capitals ++ [b]).length ≠ 0 := by simp
      rw [if_neg hlength, List.length_append, List.length_singleton, Nat.add_sub_cancel,
        List.append_assoc, List.take_left, List.drop_left]
      rw [List.forall_mem_append, List.forall_mem_singleton] at hcapitals
      exact isNextWord_acronym (List.forall_mem_cons.2 ⟨hupper, hcapitals.1⟩) hcapitals.2
        (hin c (by simp)) _

theorem humps_eq_cutAtBreaks {cs : List Char} (h : ∀ c ∈ cs, c.isAlphanum = true) :
    humps cs = cutAtBreaks cs ∧ ∀ w ∈ humps cs, IsWord w := by
  fun_induction humps cs with
  | case1 => exact ⟨rfl, by simp⟩
  | case2 a cs ih =>
    have hnext := isNextWord_wordTail h
    have hdrop : ∀ c ∈ cs.drop (wordTail a cs), c.isAlphanum = true := fun c hc =>
      h c (List.mem_cons_of_mem a (List.mem_of_mem_drop hc))
    obtain ⟨hcut, hwords⟩ := ih hdrop
    constructor
    · rw [hcut, ← cutAtBreaks_append hnext.unbroken hnext.ends, List.cons_append,
        List.take_append_drop]
    · exact List.forall_mem_cons.2 ⟨hnext.isWord, hwords⟩

theorem flatten_cutAtBreaks (cs : List Char) : (cutAtBreaks cs).flatten = cs := by
  fun_induction cutAtBreaks cs with
  | case1 => rfl
  | case2 a => rfl
  | case3 a b rest _ ih => rw [List.flatten_cons, ih, List.singleton_append]
  | case4 a b rest _ ih =>
    cases hcut : cutAtBreaks (b :: rest) with
    | nil => simp [hcut] at ih
    | cons w ws =>
      rw [hcut, List.flatten_cons] at ih
      simp [← ih]

/-! ### The words of a text -/

theorem flatten_splitOnP (p : Char → Bool) (cs : List Char) :
    (List.splitOnP p cs).flatten = cs.filter (!p ·) := by
  induction cs with
  | nil => rfl
  | cons c cs ih =>
    cases hc : p c with
    | true => simp [List.splitOnP_cons_eq_if_modifyHead, hc, ih]
    | false =>
      obtain ⟨w, ws, hw, hcons⟩ := splitOnP_cons_of_neg hc cs
      rw [hw] at ih
      simp [hcons, hc, ← ih]

/-- The pieces of a text between runs of separators. -/
def pieces (cs : List Char) : List (List Char) :=
  (cs.splitOnP isSeparator).filter (!·.isEmpty)

theorem humps_filter (piece : List Char) :
    humps (piece.filter Char.isAlphanum) = cutAtBreaks (piece.filter Char.isAlphanum) :=
  (humps_eq_cutAtBreaks (by simp)).1

theorem charWords_eq (cs : List Char) :
    charWords cs = (pieces cs).flatMap fun piece => cutAtBreaks (piece.filter Char.isAlphanum) := by
  rw [charWords, pieces]
  generalize List.splitOnP isSeparator cs = ps
  induction ps with
  | nil => rfl
  | cons piece ps ih =>
    rw [List.flatMap_cons, ih, humps_filter]
    cases piece with
    | nil => rfl
    | cons c cs => simp

theorem isWord_of_mem_charWords {cs w : List Char} (h : w ∈ charWords cs) : IsWord w := by
  obtain ⟨piece, -, hw⟩ := List.mem_flatMap.1 h
  exact (humps_eq_cutAtBreaks (by simp)).2 w hw

theorem flatten_charWords (cs : List Char) : (charWords cs).flatten = cs.filter Char.isAlphanum := by
  have hpieces : ∀ ps : List (List Char),
      (ps.flatMap fun piece => humps (piece.filter Char.isAlphanum)).flatten =
        ps.flatten.filter Char.isAlphanum := by
    intro ps
    induction ps with
    | nil => rfl
    | cons piece ps ih =>
      rw [List.flatMap_cons, List.flatten_append, ih, humps_filter, flatten_cutAtBreaks,
        List.flatten_cons, List.filter_append]
  rw [charWords, hpieces, flatten_splitOnP, List.filter_filter]
  refine List.filter_congr fun c _ => ?_
  cases hc : isSeparator c with
  | true => simp [isAlphanum_of_isSeparator hc]
  | false => simp

/-- The words of a text are what stands between the breaks of its pieces, from which all characters
but letters and digits of ASCII are left out. Each word is of one kind, and together the words have
every letter and digit of the text once and in order. -/
theorem words_eq_cutAtBreaks (s : String) :
    words s =
        ((pieces s.toList).flatMap fun piece =>
          cutAtBreaks (piece.filter Char.isAlphanum)).map String.ofList ∧
      (∀ w ∈ words s, IsWord w.toList) ∧
      String.join (words s) = String.ofList (s.toList.filter Char.isAlphanum) := by
  refine ⟨by rw [words, charWords_eq], ?_, ?_⟩
  · intro w hw
    obtain ⟨cs, hcs, rfl⟩ := List.mem_map.1 hw
    rw [String.toList_ofList]
    exact isWord_of_mem_charWords hcs
  · apply String.toList_injective
    simp [words, ← flatten_charWords, String.toList_join, List.flatMap_def]

end CapsuleKit.Text
