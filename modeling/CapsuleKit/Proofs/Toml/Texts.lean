import CapsuleKit.Proofs.Split
import CapsuleKit.Proofs.Theme.Color
import CapsuleKit.Text.Escape
import CapsuleKit.Toml.Reader

/-!
# Texts written for TOML

`IsBasic` is the grammar of basic texts: what may stand between two quotes, and what it stands for.
The reader follows it (`IsBasic.exists_basicBody`). `Text.escape` writes such a text unless one of
its characters is a control character that has neither an escape there nor a place in the grammar
(`isBasic_escape_iff`). An entry of a document with an escaped text is then read back, and all
others are refused (`Draft.readLines_textLine`).
-/

namespace CapsuleKit.Toml

/-! ### The grammar -/

/-- What may stand between the quotes of a basic text, and what it stands for: characters other than
quotes, backslashes and control characters stand for themselves, and a backslash starts the escape
of a character or of the number of one. -/
inductive IsBasic : List Char → List Char → Prop
  | nil : IsBasic [] []
  | plain {c : Char} {cs value : List Char} (hquote : c ≠ '"') (hslash : c ≠ '\\')
    (hlegal : isIllegal c = false) (h : IsBasic cs value) : IsBasic (c :: cs) (c :: value)
  | escaped {e d : Char} {cs value : List Char} (hescape : escaped? e = some d)
    (h : IsBasic cs value) : IsBasic ('\\' :: e :: cs) (d :: value)
  | scalar {mark d : Char} {digits cs value : List Char}
    (hmark : mark = 'u' ∧ digits.length = 4 ∨ mark = 'U' ∧ digits.length = 8)
    (hscalar : scalar? digits = some d) (h : IsBasic cs value) :
    IsBasic ('\\' :: mark :: (digits ++ cs)) (d :: value)

theorem isIllegal_iff {c : Char} :
    isIllegal c = true ↔ (c.toNat < 32 ∨ c.toNat = 127) ∧ c ≠ '\t' := by
  simp only [isIllegal, Bool.or_eq_true, Bool.and_eq_true, decide_eq_true_eq, bne_iff_ne,
    beq_iff_eq]
  constructor
  · rintro (⟨hlow, htab⟩ | hdelete)
    · exact ⟨.inl hlow, htab⟩
    · refine ⟨.inr hdelete, ?_⟩
      rintro rfl
      cases hdelete
  · rintro ⟨hlow | hdelete, htab⟩
    · exact .inl ⟨hlow, htab⟩
    · exact .inr hdelete

theorem isIllegal_of_escaped? {e d : Char} (h : escaped? e = some d) : isIllegal e = false := by
  unfold escaped? at h
  split at h
  case h_8 => cases h
  all_goals rfl

theorem isIllegal_of_hexValue? {c : Char} {n : Nat} (h : Text.hexValue? c = some n) :
    isIllegal c = false := by
  have hrange := (Text.range_of_hexValue? h).2
  rw [← Bool.not_eq_true, isIllegal_iff]
  omega

theorem isIllegal_of_scalar? {digits : List Char} {d : Char} (h : scalar? digits = some d) :
    ∀ c ∈ digits, isIllegal c = false := by
  have hread : ∀ acc n,
      digits.foldlM (fun acc c => (Text.hexValue? c).map (16 * acc + ·)) acc = some n →
        ∀ c ∈ digits, isIllegal c = false := by
    clear h
    induction digits with
    | nil => exact fun _ _ _ => List.forall_mem_nil _
    | cons c cs ih =>
      intro acc n h
      rw [List.foldlM_cons] at h
      obtain ⟨next, hnext, hrest⟩ := Option.bind_eq_some_iff.1 h
      obtain ⟨v, hv, -⟩ := Option.map_eq_some_iff.1 hnext
      exact List.forall_mem_cons.2 ⟨isIllegal_of_hexValue? hv, ih next n hrest⟩
  unfold scalar? at h
  split at h
  · cases h
  · rename_i n hn
    exact hread 0 n hn

/-! ### Reading by the grammar -/

section Steps

variable (fuel : Nat) (done cs : List Char)

theorem basicBody_quote : basicBody false (fuel + 1) done ('"' :: cs) = .ok (done.reverse, cs) :=
  rfl

theorem basicBody_plain {c : Char} (hquote : c ≠ '"') (hslash : c ≠ '\\') :
    basicBody false (fuel + 1) done (c :: cs) =
      if isIllegal c then .error .malformed else basicBody false fuel (c :: done) cs := by
  rw [basicBody]
  · rfl
  · exact hquote
  · exact hslash

theorem basicBody_escape {ds rest : List Char} (h : escape false cs = .ok (ds, rest)) :
    basicBody false (fuel + 1) done ('\\' :: cs) =
      basicBody false fuel (ds.reverse ++ done) rest := by
  rw [basicBody, h]
  rfl

theorem escape_char {e d : Char} (h : escaped? e = some d) :
    escape false (e :: cs) = .ok ([d], cs) := by
  have hmark : ¬ (e = 'u' || e = 'U') = true := by
    simp only [Bool.or_eq_true, decide_eq_true_eq]
    rintro (rfl | rfl) <;> cases h
  rw [escape, Bool.false_and, if_neg Bool.false_ne_true, if_neg hmark, h]

theorem escape_scalar {mark d : Char} {digits : List Char}
    (hmark : mark = 'u' ∧ digits.length = 4 ∨ mark = 'U' ∧ digits.length = 8)
    (h : scalar? digits = some d) : escape false (mark :: (digits ++ cs)) = .ok ([d], cs) := by
  have hwidth : (if mark = 'u' then 4 else 8) = digits.length := by
    rcases hmark with ⟨rfl, hlength⟩ | ⟨rfl, hlength⟩ <;> rw [hlength] <;> rfl
  have heither : (mark = 'u' || mark = 'U') = true := by
    rcases hmark with ⟨rfl, -⟩ | ⟨rfl, -⟩ <;> rfl
  rw [escape, Bool.false_and, if_neg Bool.false_ne_true, if_pos heither]
  simp only [hwidth]
  rw [if_neg (by simp), List.take_left, List.drop_left, h]

end Steps

namespace IsBasic

variable {body value : List Char}

theorem append {body' value' : List Char} (h : IsBasic body value) (h' : IsBasic body' value') :
    IsBasic (body ++ body') (value ++ value') := by
  induction h with
  | nil => exact h'
  | plain hquote hslash hlegal _ ih => exact .plain hquote hslash hlegal ih
  | escaped hescape _ ih => exact .escaped hescape ih
  | scalar hmark hscalar _ ih =>
    rw [List.cons_append, List.cons_append, List.append_assoc]
    exact .scalar hmark hscalar ih

theorem legal (h : IsBasic body value) : ∀ c ∈ body, isIllegal c = false := by
  induction h with
  | nil => exact List.forall_mem_nil _
  | plain _ _ hlegal _ ih => exact List.forall_mem_cons.2 ⟨hlegal, ih⟩
  | escaped hescape _ ih =>
    exact List.forall_mem_cons.2 ⟨rfl, List.forall_mem_cons.2 ⟨isIllegal_of_escaped? hescape, ih⟩⟩
  | @scalar mark d digits cs value hmark hscalar _ ih =>
    have hlegal : isIllegal mark = false := by
      rcases hmark with ⟨rfl, -⟩ | ⟨rfl, -⟩ <;> rfl
    refine List.forall_mem_cons.2 ⟨rfl, List.forall_mem_cons.2 ⟨hlegal, ?_⟩⟩
    exact List.forall_mem_append.2 ⟨isIllegal_of_scalar? hscalar, ih⟩

theorem exists_basicBody (h : IsBasic body value) {fuel : Nat} {rest : List Char}
    (hfuel : (body ++ rest).length < fuel) (done : List Char) :
    ∃ k, rest.length < k ∧
      basicBody false fuel done (body ++ rest) =
        basicBody false k (value.reverse ++ done) rest := by
  induction h generalizing fuel done with
  | nil => exact ⟨fuel, hfuel, rfl⟩
  | @plain c cs value hquote hslash hlegal _ ih =>
    obtain ⟨fuel, rfl⟩ := Nat.exists_eq_add_one_of_ne_zero (Nat.ne_zero_of_lt hfuel)
    obtain ⟨k, hk, heq⟩ := ih (Nat.lt_of_succ_lt_succ hfuel) (c :: done)
    refine ⟨k, hk, ?_⟩
    rw [List.cons_append, basicBody_plain _ _ _ hquote hslash, if_neg (by simp [hlegal]), heq]
    simp
  | @escaped e d cs value hescape _ ih =>
    obtain ⟨fuel, rfl⟩ := Nat.exists_eq_add_one_of_ne_zero (Nat.ne_zero_of_lt hfuel)
    obtain ⟨k, hk, heq⟩ := ih (Nat.lt_of_succ_lt (Nat.lt_of_succ_lt_succ hfuel)) (d :: done)
    refine ⟨k, hk, ?_⟩
    rw [List.cons_append, List.cons_append, basicBody_escape _ _ _ (escape_char _ hescape)]
    simpa using heq
  | @scalar mark d digits cs value hmark hscalar _ ih =>
    obtain ⟨fuel, rfl⟩ := Nat.exists_eq_add_one_of_ne_zero (Nat.ne_zero_of_lt hfuel)
    have hshort : (cs ++ rest).length < fuel := by
      simp only [List.length_append, List.length_cons] at hfuel ⊢
      omega
    obtain ⟨k, hk, heq⟩ := ih hshort (d :: done)
    refine ⟨k, hk, ?_⟩
    rw [List.cons_append, List.cons_append, List.append_assoc,
      basicBody_escape _ _ _ (escape_scalar _ hmark hscalar)]
    simpa using heq

theorem basicText (h : IsBasic body value) (rest : List Char) :
    basicText (body ++ '"' :: rest) = .ok (String.ofList value, rest) := by
  obtain ⟨k, hk, heq⟩ := h.exists_basicBody (Nat.lt_succ_self _) []
  obtain ⟨k, rfl⟩ := Nat.exists_eq_add_one_of_ne_zero (Nat.ne_zero_of_lt hk)
  rw [Toml.basicText, heq, basicBody_quote, List.append_nil, List.reverse_reverse]
  rfl

theorem unique {value' : List Char} (h : IsBasic body value) (h' : IsBasic body value') :
    value = value' := by
  have hread := (h.basicText []).symm.trans (h'.basicText [])
  exact String.ofList_injective (Prod.mk.inj (Except.ok.inj hread)).1

end IsBasic

/-! ### Escaped texts -/

/-- A text whose only control characters are tabs, line feeds and carriage returns. -/
def IsWritable (cs : List Char) : Prop :=
  ∀ c ∈ cs, c.toNat < 32 ∨ c.toNat = 127 → c = '\t' ∨ c = '\n' ∨ c = '\r'

instance (cs : List Char) : Decidable (IsWritable cs) :=
  List.decidableBAll
    (fun c : Char => c.toNat < 32 ∨ c.toNat = 127 → c = '\t' ∨ c = '\n' ∨ c = '\r') cs

theorem isWritable_cons {c : Char} {cs : List Char} :
    IsWritable (c :: cs) ↔ IsWritable [c] ∧ IsWritable cs := by
  simp only [IsWritable, List.forall_mem_cons, List.not_mem_nil, false_implies, implies_true,
    and_true]

theorem escapeChar_of_not_isWritable {c : Char} (h : ¬ IsWritable [c]) :
    Text.escapeChar c = [c] ∧ c ≠ '"' ∧ c ≠ '\\' ∧ isIllegal c = true := by
  simp only [IsWritable, List.forall_mem_singleton, Classical.not_imp, not_or] at h
  obtain ⟨hcontrol, htab, hfeed, hreturn⟩ := h
  have hquote : c ≠ '"' := by
    rintro rfl
    revert hcontrol
    decide
  have hslash : c ≠ '\\' := by
    rintro rfl
    revert hcontrol
    decide
  refine ⟨?_, hquote, hslash, isIllegal_iff.2 ⟨hcontrol, htab⟩⟩
  rw [Text.escapeChar, if_neg hslash, if_neg hquote, if_neg hfeed, if_neg hreturn, if_neg htab]

theorem isBasic_escapeChar {c : Char} (h : IsWritable [c]) : IsBasic (Text.escapeChar c) [c] := by
  unfold Text.escapeChar
  split_ifs with hslash hquote hfeed hreturn htab
  · subst hslash
    exact .escaped rfl .nil
  · subst hquote
    exact .escaped rfl .nil
  · subst hfeed
    exact .escaped rfl .nil
  · subst hreturn
    exact .escaped rfl .nil
  · subst htab
    exact .escaped rfl .nil
  · refine .plain hquote hslash ?_ .nil
    rw [← Bool.not_eq_true, isIllegal_iff]
    rintro ⟨hcontrol, -⟩
    rcases h c List.mem_cons_self hcontrol with heq | heq | heq
    · exact htab heq
    · exact hfeed heq
    · exact hreturn heq

theorem isBasic_flatMap_escapeChar {cs : List Char} (h : IsWritable cs) :
    IsBasic (cs.flatMap Text.escapeChar) cs := by
  induction cs with
  | nil => exact .nil
  | cons c cs ih =>
    obtain ⟨hc, hcs⟩ := isWritable_cons.1 h
    exact (isBasic_escapeChar hc).append (ih hcs)

theorem isBasic_escape_iff (s : String) (value : List Char) :
    IsBasic (Text.escape s).toList value ↔ IsWritable s.toList ∧ value = s.toList := by
  rw [Text.escape, String.toList_ofList]
  constructor
  · intro h
    have hwritable : IsWritable s.toList := by
      intro c hc
      by_contra hcontrol
      have hone : ¬ IsWritable [c] := fun hone => hcontrol (hone c List.mem_cons_self)
      obtain ⟨hself, -, -, hillegal⟩ := escapeChar_of_not_isWritable hone
      have hmem : c ∈ s.toList.flatMap Text.escapeChar :=
        List.mem_flatMap.2 ⟨c, hc, by rw [hself]; exact List.mem_cons_self⟩
      rw [h.legal c hmem] at hillegal
      cases hillegal
    exact ⟨hwritable, h.unique (isBasic_flatMap_escapeChar hwritable)⟩
  · rintro ⟨hwritable, rfl⟩
    exact isBasic_flatMap_escapeChar hwritable

theorem basicBody_of_not_isWritable {cs : List Char} (h : ¬ IsWritable cs) {fuel : Nat}
    {rest : List Char} (hfuel : (cs.flatMap Text.escapeChar ++ rest).length < fuel)
    (done : List Char) :
    basicBody false fuel done (cs.flatMap Text.escapeChar ++ rest) = .error .malformed := by
  induction cs generalizing fuel done with
  | nil => exact absurd (List.forall_mem_nil _) h
  | cons c cs ih =>
    rw [List.flatMap_cons, List.append_assoc] at hfuel ⊢
    by_cases hc : IsWritable [c]
    · obtain ⟨k, hk, heq⟩ := (isBasic_escapeChar hc).exists_basicBody hfuel done
      rw [heq]
      exact ih (fun hcs => h (isWritable_cons.2 ⟨hc, hcs⟩)) hk _
    · obtain ⟨hself, hquote, hslash, hillegal⟩ := escapeChar_of_not_isWritable hc
      obtain ⟨fuel, rfl⟩ := Nat.exists_eq_add_one_of_ne_zero (Nat.ne_zero_of_lt hfuel)
      rw [hself, List.singleton_append, basicBody_plain _ _ _ hquote hslash, if_pos hillegal]

theorem basicText_escape {s : String} (h : IsWritable s.toList) (rest : List Char) :
    basicText ((Text.escape s).toList ++ '"' :: rest) = .ok (s, rest) := by
  rw [((isBasic_escape_iff s _).2 ⟨h, rfl⟩).basicText, String.ofList_toList]

theorem basicText_of_not_isWritable {s : String} (h : ¬ IsWritable s.toList) (rest : List Char) :
    basicText ((Text.escape s).toList ++ '"' :: rest) = .error .malformed := by
  rw [basicText, Text.escape, String.toList_ofList,
    basicBody_of_not_isWritable h (Nat.lt_succ_self _)]
  rfl

/-! ### Entries -/

theorem exists_escapeChar (c : Char) : ∃ d ds, Text.escapeChar c = d :: ds ∧ d ≠ '"' := by
  unfold Text.escapeChar
  split_ifs with hslash hquote
  case neg => exact ⟨c, [], rfl, hquote⟩
  all_goals exact ⟨'\\', _, rfl, by decide⟩

/-- One quote is not three: an escaped text starts with no quote, and a line feed ends an empty
one. -/
theorem escape_ne_quotes (s : String) (rest more : List Char) :
    (Text.escape s).toList ++ '"' :: '\n' :: rest ≠ '"' :: '"' :: more := by
  rw [Text.escape, String.toList_ofList]
  intro heq
  cases hs : s.toList with
  | nil =>
    rw [hs] at heq
    cases heq
  | cons c cs =>
    obtain ⟨d, ds, hd, hquote⟩ := exists_escapeChar c
    rw [hs, List.flatMap_cons, hd] at heq
    exact hquote (List.cons.inj heq).1

theorem readValue_quote (fuel : Nat) {body : List Char} (h : ∀ more, body ≠ '"' :: '"' :: more) :
    readValue (fuel + 1) ('"' :: body) =
      (basicText body).bind fun p => .ok (.text p.1, p.2) := by
  rw [readValue]
  · rfl
  · exact h

/-- A key that needs no quotes. -/
def IsBareKey (key : String) : Prop :=
  key.toList ≠ [] ∧ ∀ c ∈ key.toList, isBareKeyChar c = true

instance (key : String) : Decidable (IsBareKey key) :=
  decidable_of_iff (key.toList ≠ [] ∧ key.toList.all isBareKeyChar = true)
    (by rw [IsBareKey, List.all_eq_true])

theorem IsBareKey.exists_cons {key : String} (h : IsBareKey key) :
    ∃ c cs, key.toList = c :: cs ∧ isBareKeyChar c = true ∧ isSpace c = false ∧ c ≠ '\n' ∧
      c ≠ '[' ∧ c ≠ '"' ∧ c ≠ '\'' := by
  obtain ⟨hne, hkey⟩ := h
  obtain ⟨c, cs, hcs⟩ := List.exists_cons_of_ne_nil hne
  have hc := hkey c (hcs ▸ List.mem_cons_self)
  refine ⟨c, cs, hcs, hc, ?_, ?_, ?_, ?_, ?_⟩
  · rw [isSpace, Bool.or_eq_false_iff, beq_eq_false_iff_ne, beq_eq_false_iff_ne]
    constructor <;> rintro rfl <;> cases hc
  all_goals rintro rfl; cases hc

theorem readKey_bare {key : String} (h : IsBareKey key) (rest : List Char) :
    readKey (key.toList ++ ' ' :: '=' :: rest) = .ok ([key], '=' :: rest) := by
  have hend : ∀ c, (' ' :: '=' :: rest).head? = some c → isBareKeyChar c = false := by
    intro c hc
    obtain rfl := Option.some.inj hc
    rfl
  have htake := Text.takeWhile_append h.2 hend
  have hdrop := Text.dropWhile_append h.2 hend
  have hpart : keyPart (key.toList ++ ' ' :: '=' :: rest) = .ok (key, ' ' :: '=' :: rest) := by
    obtain ⟨c, cs, hcs, -, -, -, -, hquote, hmark⟩ := h.exists_cons
    rw [keyPart]
    · simp only [htake, hdrop, String.ofList_toList]
      rw [hcs]
      rfl
    all_goals
      intro more heq
      rw [hcs] at heq
      have := (List.cons.inj heq).1
      contradiction
  rw [readKey, hpart]
  rfl

def textLine (key s : String) : String :=
  key ++ " = \"" ++ Text.escape s ++ "\""

theorem toList_textLine (key s : String) : (textLine key s).toList =
    key.toList ++ ' ' :: '=' :: ' ' :: '"' :: ((Text.escape s).toList ++ ['"']) := by
  simp [textLine]

namespace Draft

variable {key : String} (hkey : IsBareKey key) {d d' : Draft} {s : String} (rest : List Char)

include hkey

theorem readLine_textLine (hd : d.assign [key] (.text s) = some d') :
    readLine d ((textLine key s).toList ++ '\n' :: rest) =
      if IsWritable s.toList then .ok (d', '\n' :: rest) else .error .malformed := by
  have hspace : skipSpace (' ' :: '"' :: ((Text.escape s).toList ++ '"' :: '\n' :: rest)) =
      '"' :: ((Text.escape s).toList ++ '"' :: '\n' :: rest) := rfl
  have hvalue := fun fuel => readValue_quote fuel (escape_ne_quotes s rest)
  simp only [readLine, toList_textLine, List.append_assoc, List.cons_append, List.nil_append,
    readKey_bare hkey, Bind.bind, Except.bind, hspace, hvalue]
  split_ifs with hs
  · simp only [basicText_escape hs, hd]
    rfl
  · rw [basicText_of_not_isWritable hs]

theorem readStatement_key (d : Draft) :
    readStatement d (key.toList ++ rest) = readLine d (key.toList ++ rest) := by
  obtain ⟨c, cs, hcs, hc, -, -, hbracket, -⟩ := hkey.exists_cons
  rw [hcs, List.cons_append, readStatement, if_pos (by rw [isKeyStart, hc]; rfl)]
  exact hbracket

theorem readLines_textLine (hd : d.assign [key] (.text s) = some d') (fuel : Nat) :
    readLines (fuel + 1) d ((textLine key s).toList ++ '\n' :: rest) =
      if IsWritable s.toList then readLines fuel d' rest else .error .malformed := by
  have hline := readLine_textLine hkey rest hd
  obtain ⟨more, hmore⟩ : ∃ more, (textLine key s).toList ++ '\n' :: rest = key.toList ++ more :=
    ⟨_, by rw [toList_textLine, List.append_assoc]⟩
  obtain ⟨c, cs, hcs, -, hblank, hfeed, -⟩ := hkey.exists_cons
  have hspace : skipSpace (key.toList ++ more) = key.toList ++ more := by
    rw [hcs]
    exact List.dropWhile_cons_of_neg (by simp [hblank])
  rw [hmore] at hline ⊢
  rw [readLines, hspace]
  split
  case _ heq =>
    rw [hcs] at heq
    cases heq
  case _ heq =>
    rw [hcs] at heq
    exact absurd (List.cons.inj heq).1 hfeed
  · rw [readStatement_key hkey, hline]
    split_ifs <;> rfl

end Draft

end CapsuleKit.Toml
