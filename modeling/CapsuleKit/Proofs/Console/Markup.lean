import CapsuleKit.Console.Markup
import CapsuleKit.Proofs.Fallible
import CapsuleKit.Proofs.Words

/-!
# Texts that can be printed

A text can be printed unless its markup does not fit. `Fits names ps` is a condition on the pieces of
a text under which it does: every closing tag has an open one among `names`, and no tag is an action
or a colour that lacks a number. `Prints` lifts it to the characters of a text, piece by piece: text
without a bracket always prints, and tags do whose names are plain words (`Prints.tag`).
-/

namespace CapsuleKit.Console

/-- A text that can be read as markup and whose styles can be looked at. -/
def IsMarkup (s : String) : Prop :=
  Gives (Marked.ofText s) fun m => m.check = .ok ()

/-- A text that can be printed as a line. -/
def Printable (s : String) : Prop :=
  Gives (printLine s) fun _ => True

theorem IsMarkup.printable {s : String} (h : IsMarkup s) : Printable s :=
  .bind h fun m hm => by rw [hm]; exact .ok trivial

/-! ### Pieces -/

/-- A tag that is neither an action nor a colour without its numbers. -/
def OpenTag.IsHarmless (t : OpenTag) : Prop :=
  t.isAction = false ∧ Style.ofWords t.words {} ≠ .error .lacking

/-- Pieces whose tags are harmless and match, where tags of some names are open already. -/
inductive Fits : List String → List Piece → Prop
  | nil (names : List String) : Fits names []
  | text {names : List String} {ps : List Piece} (cs : List Char) (h : Fits names ps) :
    Fits names (.text cs :: ps)
  | opening {names : List String} {ps : List Piece} {tag : List Char} {name : String}
    {parameters : Option (List Char)} (hname : styleName tag = .ok name)
    (harmless : (⟨name, parameters, 0⟩ : OpenTag).IsHarmless) (h : Fits (name :: names) ps) :
    Fits names (.opening tag parameters :: ps)
  | closing {names : List String} {ps : List Piece} {tag : List Char} {name : String}
    (hne : tag ≠ []) (hname : styleName tag = .ok name) (hmem : name ∈ names)
    (h : Fits (names.erase name) ps) : Fits names (.closing tag :: ps)

theorem close_of_isHarmless {t : OpenTag} (h : t.IsHarmless) : t.close = .ok () := by
  simp [OpenTag.close, h.1]

theorem span_of_isHarmless {t : OpenTag} (h : t.IsHarmless) (stop : Nat) :
    ∀ s ∈ t.span stop, Style.ofWords s.words {} ≠ .error .lacking := by
  simp [OpenTag.span, h.1, h.2]

theorem Fits.markedFrom {names : List String} {ps : List Piece} (h : Fits names ps) (place : Nat)
    {opened : List OpenTag} (hnames : opened.map (·.name) = names)
    (hopened : ∀ t ∈ opened, t.IsHarmless) :
    Gives (markedFrom place opened ps) fun m =>
      ∀ s ∈ m.spans, Style.ofWords s.words {} ≠ .error .lacking := by
  induction h generalizing place opened with
  | nil names =>
    refine .ok fun s hs => ?_
    obtain ⟨t, ht, hs⟩ := List.mem_flatMap.1 hs
    exact span_of_isHarmless (hopened t ht) _ s hs
  | text cs _ ih => exact .bind (ih _ hnames hopened) fun m hm => .ok hm
  | opening hname harmless _ ih =>
    rw [Console.markedFrom, hname]
    exact ih place (by rw [List.map_cons, hnames]) (List.forall_mem_cons.2 ⟨harmless, hopened⟩)
  | @closing names ps tag name hne hname hmem _ ih =>
    obtain ⟨c, cs, rfl⟩ := List.exists_cons_of_ne_nil hne
    subst hnames
    obtain ⟨u, hu, rfl⟩ := List.mem_map.1 hmem
    have hfind : (opened.find? (·.name == u.name)).isSome = true :=
      List.find?_isSome.2 ⟨u, hu, beq_self_eq_true _⟩
    obtain ⟨t, ht⟩ := Option.isSome_iff_exists.1 hfind
    have hmem := List.mem_of_find?_eq_some ht
    have herase : (opened.eraseP (·.name == u.name)).map (·.name) =
        (opened.map (·.name)).erase u.name := by
      rw [List.erase_eq_eraseP', List.eraseP_map]
      rfl
    have hrest := ih place herase fun t' ht' => hopened t' (List.mem_of_mem_eraseP ht')
    have hstyle : Gives ((styleName (c :: cs)).mapError fun _ => MarkupError.color) (· = u.name) :=
      ⟨u.name, by rw [hname]; rfl, rfl⟩
    have hclose : Gives t.close fun _ => True := ⟨(), close_of_isHarmless (hopened t hmem), trivial⟩
    rw [Console.markedFrom]
    · refine .bind hstyle fun name hname => ?_
      rw [hname, ht]
      refine .bind hclose fun _ _ => .bind hrest fun m hspans => .ok ?_
      exact List.forall_mem_append.2 ⟨span_of_isHarmless (hopened t hmem) place, hspans⟩
    · exact hne

theorem check_eq_ok {m : Marked} (h : ∀ s ∈ m.spans, Style.ofWords s.words {} ≠ .error .lacking) :
    m.check = .ok () := by
  refine if_neg ?_
  rw [List.any_eq_true]
  rintro ⟨s, hs, hlacks⟩
  rw [Bool.and_eq_true] at hlacks
  have hne := h s hs
  split at hlacks
  · rename_i heq
    exact hne heq
  · cases hlacks.2

theorem Fits.isMarkup {s : String} (h : Fits [] (pieces s)) : IsMarkup s := by
  have hnone : ([] : List OpenTag).map (·.name) = [] := rfl
  obtain ⟨m, hm, hspans⟩ := h.markedFrom 0 hnone (List.forall_mem_nil _)
  exact ⟨m, hm, check_eq_ok hspans⟩

/-! ### Characters -/

theorem Fits.plainPiece {names : List String} {ps : List Piece} (h : Fits names ps)
    (done : List Char) : Fits names (plainPiece done ++ ps) := by
  unfold Console.plainPiece
  split
  · exact h
  · exact h.text _

section Steps

variable {slashes : List Char} (hslashes : ∀ c ∈ slashes, (c == '\\') = true) (fuel : Nat)
  (done : List Char)

include hslashes

theorem takeWhile_slashes {c : Char} (hc : (c == '\\') = false) (cs : List Char) :
    (slashes ++ c :: cs).takeWhile (· == '\\') = slashes :=
  Text.takeWhile_append hslashes fun d hd => by rw [← Option.some.inj hd, hc]

theorem piecesFrom_char {c : Char} (hc : (c == '\\') = false) (hbracket : c ≠ '[') (cs : List Char) :
    piecesFrom (fuel + 1) done (slashes ++ c :: cs) = piecesFrom fuel (c :: (slashes ++ done)) cs := by
  rw [piecesFrom, takeWhile_slashes hslashes hc, List.drop_left]
  split
  · cases ‹c :: cs = []›
  · rename_i heq
    exact absurd (List.cons.inj heq).1 hbracket
  · rename_i heq
    obtain ⟨rfl, rfl⟩ := List.cons.inj heq
    rfl

theorem piecesFrom_slashes :
    piecesFrom (fuel + 1) done slashes = plainPiece (slashes ++ done) := by
  have hend : ∀ d, ([] : List Char).head? = some d → (d == '\\') = false := by simp
  have htake := Text.takeWhile_append hslashes hend
  rw [List.append_nil] at htake
  rw [piecesFrom, htake, List.drop_length]

theorem piecesFrom_bracket {cs : List Char} (h : tagBody? cs = none) :
    piecesFrom (fuel + 1) done (slashes ++ '[' :: cs) =
      piecesFrom fuel ('[' :: (slashes ++ done)) cs := by
  rw [piecesFrom, takeWhile_slashes hslashes rfl, List.drop_left]
  simp only [h]

theorem piecesFrom_tag {cs body after : List Char} (h : tagBody? cs = some (body, after)) :
    piecesFrom (fuel + 1) done (slashes ++ '[' :: cs) =
      plainPiece done ++ .text (slashes.take (slashes.length / 2)) ::
        (if slashes.length % 2 = 1 then .text ('[' :: body ++ [']']) else tagPiece body) ::
          piecesFrom fuel [] after := by
  rw [piecesFrom, takeWhile_slashes hslashes rfl, List.drop_left]
  simp only [h]

end Steps

theorem exists_slashes (cs : List Char) :
    ∃ slashes, (∀ c ∈ slashes, (c == '\\') = true) ∧
      (cs = slashes ∨ ∃ c rest, (c == '\\') = false ∧ cs = slashes ++ c :: rest) := by
  refine ⟨cs.takeWhile (· == '\\'), List.all_eq_true.1 List.all_takeWhile, ?_⟩
  have hsplit := List.takeWhile_append_dropWhile (p := (· == '\\')) (l := cs)
  cases hrest : cs.dropWhile (· == '\\') with
  | nil =>
    rw [hrest, List.append_nil] at hsplit
    exact .inl hsplit.symm
  | cons c rest =>
    rw [hrest] at hsplit
    have hhead := List.head?_dropWhile_not (· == '\\') cs
    rw [hrest] at hhead
    exact .inr ⟨c, rest, by simpa using hhead, hsplit.symm⟩

/-- Characters whose pieces fit, however much text was collected in front of them. -/
def Prints (names : List String) (cs : List Char) : Prop :=
  ∀ fuel done, cs.length < fuel → Fits names (piecesFrom fuel done cs)

namespace Prints

variable {names : List String} {cs : List Char}

theorem isMarkup {s : String} (h : Prints [] s.toList) : IsMarkup s :=
  Fits.isMarkup (h _ _ (Nat.lt_succ_of_le (Nat.le_of_eq String.length_toList)))

theorem plain (h : '[' ∉ cs) : Prints names cs := by
  intro fuel done hfuel
  induction fuel generalizing done cs with
  | zero => cases hfuel
  | succ fuel ih =>
    obtain ⟨slashes, hslashes, rfl | ⟨c, rest, hc, rfl⟩⟩ := exists_slashes cs
    · rw [piecesFrom_slashes hslashes, ← List.append_nil (plainPiece _)]
      exact (Fits.nil names).plainPiece _
    · have hbracket : c ≠ '[' := fun heq => h (by simp [heq])
      rw [piecesFrom_char hslashes fuel done hc hbracket]
      refine ih (fun hmem => h (by simp [hmem])) _ ?_
      simp only [List.length_append, List.length_cons] at hfuel
      omega

end Prints

/-- What a bracket is seen behind: all the text in front of it but the backslashes is collected. -/
theorem piecesFrom_skip {cs tail : List Char} (h : '[' ∉ cs) {fuel : Nat}
    (hfuel : (cs ++ '[' :: tail).length < fuel) (done : List Char) :
    ∃ k done' slashes, (∀ c ∈ slashes, (c == '\\') = true) ∧
      (slashes ≠ [] → cs.getLast? = some '\\') ∧ tail.length < k ∧
        piecesFrom fuel done (cs ++ '[' :: tail) = piecesFrom (k + 1) done' (slashes ++ '[' :: tail) := by
  induction fuel generalizing done cs with
  | zero => cases hfuel
  | succ fuel ih =>
    obtain ⟨slashes, hslashes, rfl | ⟨c, rest, hc, rfl⟩⟩ := exists_slashes cs
    · refine ⟨fuel, done, cs, hslashes, fun hne => ?_, ?_, rfl⟩
      · rw [List.getLast?_eq_some_getLast hne, beq_iff_eq.1 (hslashes _ (List.getLast_mem hne))]
      · simp only [List.length_append, List.length_cons] at hfuel
        omega
    · have hbracket : c ≠ '[' := fun heq => h (by simp [heq])
      have hrest : '[' ∉ rest := fun hmem => h (by simp [hmem])
      have hshort : (rest ++ '[' :: tail).length < fuel := by
        simp only [List.length_append, List.length_cons] at hfuel ⊢
        omega
      obtain ⟨k, done', slashes', hslashes', hlast, hk, heq⟩ :=
        ih hrest hshort (c :: (slashes ++ done))
      refine ⟨k, done', slashes', hslashes', fun hne => ?_, hk, ?_⟩
      · have hne' : rest ≠ [] := by
          rintro rfl
          cases hlast hne
        rw [List.getLast?_append, List.getLast?_cons_of_ne_nil hne', hlast hne]
        rfl
      · rw [List.append_assoc, List.cons_append, piecesFrom_char hslashes fuel done hc hbracket, heq]

theorem tagBody?_append {c : Char} {body : List Char} (hc : startsTag c = true)
    (hbody : ∀ d ∈ c :: body, (d != ']' && d != '[') = true) (after : List Char) :
    tagBody? (c :: body ++ ']' :: after) = some (c :: body, after) := by
  have htake : (c :: body ++ ']' :: after).takeWhile (fun d => d != ']' && d != '[') = c :: body :=
    Text.takeWhile_append hbody fun d hd => by rw [← Option.some.inj hd]; rfl
  unfold tagBody?
  dsimp only
  rw [htake, List.drop_left]
  simp only [hc, if_true]

theorem tagBody?_eq_none {c : Char} (hc : startsTag c = false) (cs : List Char) :
    tagBody? (c :: cs) = none := by
  unfold tagBody?
  dsimp only
  rw [List.takeWhile_cons]
  split
  · rename_i heq _
    split at heq
    · obtain ⟨rfl, -⟩ := List.cons.inj heq
      rw [hc]
      rfl
    · cases heq
  · rfl

namespace Prints

variable {names : List String} {cs tail : List Char}

theorem bracket (h : '[' ∉ cs) (htag : tagBody? tail = none) (htail : Prints names tail) :
    Prints names (cs ++ '[' :: tail) := by
  intro fuel done hfuel
  obtain ⟨k, done', slashes, hslashes, -, hk, heq⟩ := piecesFrom_skip h hfuel done
  rw [heq, piecesFrom_bracket hslashes k done' htag]
  exact htail k _ hk

theorem tag {c : Char} {body after : List Char} (h : '[' ∉ cs) (hc : startsTag c = true)
    (hbody : ∀ d ∈ c :: body, (d != ']' && d != '[') = true)
    (hslash : cs.getLast? = some '\\' → Prints names after)
    (hfits : ∀ fuel, after.length < fuel →
      Fits names (tagPiece (c :: body) :: piecesFrom fuel [] after)) :
    Prints names (cs ++ '[' :: (c :: body ++ ']' :: after)) := by
  intro fuel done hfuel
  obtain ⟨k, done', slashes, hslashes, hlast, hk, heq⟩ := piecesFrom_skip h hfuel done
  have hafter : after.length < k := by
    simp only [List.length_append, List.length_cons] at hk
    omega
  rw [heq, piecesFrom_tag hslashes k done' (tagBody?_append hc hbody after)]
  refine Fits.plainPiece (.text _ ?_) done'
  by_cases hodd : slashes.length % 2 = 1
  · rw [if_pos hodd]
    have hne : slashes ≠ [] := by
      rintro rfl
      cases hodd
    exact .text _ (hslash (hlast hne) k [] hafter)
  · rw [if_neg hodd]
    exact hfits k hafter

end Prints

/-! ### Plain words -/

/-- ASCII letters, digits, dashes and underscores. -/
def isPlainChar (c : Char) : Bool :=
  c.isAlphanum || c == '-' || c == '_'

/-- A text of such characters. -/
def IsPlain (s : String) : Prop :=
  ∀ c ∈ s.toList, isPlainChar c = true

instance (s : String) : Decidable (IsPlain s) :=
  List.decidableBAll (isPlainChar · = true) s.toList

theorem ne_of_isPlainChar {c d : Char} (h : isPlainChar c = true) (hd : isPlainChar d = false) :
    c ≠ d := by
  rintro rfl
  rw [h] at hd
  cases hd

theorem toNat_lt_of_isPlainChar {c : Char} (h : isPlainChar c = true) : c.toNat < 128 := by
  simp only [isPlainChar, Bool.or_eq_true, beq_iff_eq, Text.alphanum_iff, Text.upper_iff,
    Text.lower_iff, Text.digit_iff] at h
  rcases h with (h | rfl) | rfl
  · omega
  · decide
  · decide

theorem forall_plain {P : Char → Prop}
    (hall : ∀ n < 128, isPlainChar (Char.ofNat n) = true → P (Char.ofNat n)) {c : Char}
    (h : isPlainChar c = true) : P c := by
  have hchar := hall c.toNat (toNat_lt_of_isPlainChar h)
  rw [Char.ofNat_toNat] at hchar
  exact hchar h

theorem isPlainChar_toLower {c : Char} (h : isPlainChar c = true) : isPlainChar c.toLower = true :=
  forall_plain (P := fun c => isPlainChar c.toLower = true) (by decide) h

theorem isBlank_of_isPlainChar {c : Char} (h : isPlainChar c = true) : Text.isBlank c = false :=
  forall_plain (P := fun c => Text.isBlank c = false) (by decide) h

theorem IsPlain.toLower {s : String} (h : IsPlain s) : IsPlain (Text.toLower s) := by
  have hlower : ∀ (cs before : List Char), (∀ c ∈ cs, isPlainChar c = true) →
      ∀ c ∈ Text.lowerFrom before cs, isPlainChar c = true := by
    intro cs
    induction cs with
    | nil => exact fun before _ => List.forall_mem_nil _
    | cons c cs ih =>
      intro before hcs
      obtain ⟨hc, hcs⟩ := List.forall_mem_cons.1 hcs
      have hascii := toNat_lt_of_isPlainChar hc
      have hsigma : c ≠ '\u03a3' := ne_of_isPlainChar hc rfl
      rw [Text.lowerFrom, if_neg (fun hs => hsigma hs.1), Text.lower, if_pos hascii]
      exact List.forall_mem_cons.2 ⟨isPlainChar_toLower hc, ih _ hcs⟩
  rw [IsPlain, Text.toLower, String.toList_ofList]
  exact hlower s.toList [] h

theorem blankWords_of_plain {cs : List Char} (h : ∀ c ∈ cs, isPlainChar c = true) (hne : cs ≠ []) :
    blankWords cs = [String.ofList cs] := by
  rw [blankWords, List.splitOnP_eq_singleton fun c hc => isBlank_of_isPlainChar (h c hc)]
  simp [hne]

theorem ofWord_ne_lacking {word : String} (h : IsPlain word) : ColorReading.ofWord word ≠ .lacking := by
  have hrgb : inParentheses? "rgb" word.toList = none := by
    refine if_neg fun hfront => ?_
    rw [Bool.and_eq_true, List.isPrefixOf_iff_prefix] at hfront
    have hmem : '(' ∈ word.toList := hfront.1.subset (by decide)
    exact ne_of_isPlainChar (h _ hmem) rfl rfl
  unfold ColorReading.ofWord
  simp only [hrgb]
  split
  · decide
  · split
    · rename_i heq
      cases heq
    · split <;> decide
    · split <;> decide
    · decide

theorem ofWords_plain {word : String} (h : IsPlain word) :
    (∃ style, Style.ofWords [word] {} = .ok style ∧ IsPlain style.text) ∨
      Style.ofWords [word] {} = .error .unknown := by
  have hlower := h.toLower
  unfold Style.ofWords
  dsimp only
  split
  · exact .inr rfl
  split
  · exact .inr rfl
  split
  · exact .inr rfl
  cases hattribute : attributeOf? (Text.toLower word) with
  | some a =>
    refine .inl ⟨_, rfl, ?_⟩
    have htexts : ∀ a ∈ attributeNames,
        (Style.text { attributes := [(a.1, true)] }).toList.all isPlainChar = true := by decide
    obtain ⟨names, hnames, rfl⟩ := Option.map_eq_some_iff.1 hattribute
    exact List.all_eq_true.1 (htexts names (List.mem_of_find?_eq_some hnames))
  | none =>
    cases hcolor : ColorReading.ofWord (Text.toLower word) with
    | color =>
      have hok : colorWord (Text.toLower word) = .ok (Text.toLower word) := by
        rw [colorWord, hcolor]
      refine .inl ⟨{ color := some (Text.toLower word) }, ?_, ?_⟩
      · simp only [hok, bind, Except.bind, Style.ofWords]
      · have htext : Style.text { color := some (Text.toLower word) } =
            String.intercalate " " [Text.toLower word] := rfl
        rw [htext, String.intercalate_singleton]
        exact hlower
    | noColor =>
      have herror : colorWord (Text.toLower word) = .error .unknown := by
        rw [colorWord, hcolor]
      exact .inr (by simp only [herror, bind, Except.bind])
    | lacking => exact absurd hcolor (ofWord_ne_lacking hlower)

theorem styleName_plain {cs : List Char} (h : ∀ c ∈ cs, isPlainChar c = true) (hne : cs ≠ []) :
    ∃ name, styleName cs = .ok name ∧ IsPlain name := by
  have hword : IsPlain (String.ofList cs) := by rwa [IsPlain, String.toList_ofList]
  have htrim : Text.trimBoth Text.isBlank cs = cs :=
    Text.trimBoth_eq_self (fun d hd => isBlank_of_isPlainChar (h d (List.mem_of_mem_head? hd)))
      fun d hd => isBlank_of_isPlainChar (h d (List.mem_of_getLast? hd))
  unfold styleName
  rw [blankWords_of_plain h hne, htrim]
  dsimp only
  split
  · exact ⟨_, rfl, List.all_eq_true.1 rfl⟩
  · rcases ofWords_plain hword with ⟨style, hstyle, htext⟩ | hunknown
    · rw [hstyle]
      exact ⟨_, rfl, htext⟩
    · rw [hunknown]
      exact ⟨_, rfl, hword.toLower⟩

theorem isHarmless_of_plain {name : String} (h : IsPlain name) :
    (⟨name, none, 0⟩ : OpenTag).IsHarmless := by
  constructor
  · rw [OpenTag.isAction, String.startsWith_string_eq_false_iff]
    intro hfront
    exact ne_of_isPlainChar (h '@' (hfront.subset List.mem_cons_self)) rfl rfl
  · have hwords : OpenTag.words ⟨name, none, 0⟩ = blankWords name.toList :=
      congrArg blankWords (List.append_nil _)
    rw [hwords]
    by_cases hne : name.toList = []
    · have hempty : Style.ofWords (blankWords []) {} = .ok {} := rfl
      rw [hne, hempty]
      simp
    · rw [blankWords_of_plain h hne, String.ofList_toList]
      rcases ofWords_plain h with ⟨style, hstyle, -⟩ | hunknown
      · rw [hstyle]
        simp
      · rw [hunknown]
        simp

/-- A name of a tag: a plain word that starts with a small letter. -/
structure IsTagName (tag : List Char) : Prop where
  plain : ∀ c ∈ tag, isPlainChar c = true
  start : ∃ c cs, tag = c :: cs ∧ c.isLower = true

namespace IsTagName

variable {tag : List Char} (h : IsTagName tag)

include h

theorem ne_nil : tag ≠ [] := by
  obtain ⟨c, cs, rfl, -⟩ := h.start
  exact List.cons_ne_nil _ _

theorem inside : ∀ c ∈ tag, (c != ']' && c != '[') = true ∧ (c != '=') = true := by
  intro c hc
  have hplain := h.plain c hc
  rw [Bool.and_eq_true, bne_iff_ne, bne_iff_ne, bne_iff_ne]
  exact ⟨⟨ne_of_isPlainChar hplain rfl, ne_of_isPlainChar hplain rfl⟩, ne_of_isPlainChar hplain rfl⟩

theorem tagPiece_opening : tagPiece tag = .opening tag none := by
  obtain ⟨c, cs, rfl, hc⟩ := h.start
  have hslash : c ≠ '/' := by
    rintro rfl
    cases hc
  have hend : ∀ d, ([] : List Char).head? = some d → (d != '=') = false := by simp
  have htake := Text.takeWhile_append (fun d hd => (h.inside d hd).2) hend
  have hdrop := Text.dropWhile_append (fun d hd => (h.inside d hd).2) hend
  rw [List.append_nil] at htake hdrop
  unfold tagPiece
  rw [htake, hdrop]
  split
  · rename_i heq
    exact absurd (List.cons.inj heq).1 hslash
  · rename_i heq _
    cases heq
  · rfl

theorem tagPiece_closing : tagPiece ('/' :: tag) = .closing tag := by
  have hinside : ∀ d ∈ '/' :: tag, (d != '=') = true :=
    List.forall_mem_cons.2 ⟨rfl, fun d hd => (h.inside d hd).2⟩
  have hend : ∀ d, ([] : List Char).head? = some d → (d != '=') = false := by simp
  have htake := Text.takeWhile_append hinside hend
  rw [List.append_nil] at htake
  have htrim : Text.trimBoth Text.isBlank tag = tag :=
    Text.trimBoth_eq_self (fun d hd => isBlank_of_isPlainChar (h.plain d (List.mem_of_mem_head? hd)))
      fun d hd => isBlank_of_isPlainChar (h.plain d (List.mem_of_getLast? hd))
  unfold tagPiece
  rw [htake]
  simp only [htrim]

end IsTagName

namespace Prints

variable {names : List String} {cs inner after tag : List Char}

theorem opening (htag : IsTagName tag) (h : '[' ∉ cs) (hlast : cs.getLast? ≠ some '\\')
    (hafter : ∀ name, styleName tag = .ok name → Prints (name :: names) after) :
    Prints names (cs ++ '[' :: (tag ++ ']' :: after)) := by
  obtain ⟨name, hname, hplain⟩ := styleName_plain htag.plain htag.ne_nil
  have hopens := htag.tagPiece_opening
  have hinside := fun d hd => (htag.inside d hd).1
  obtain ⟨c, body, rfl, hc⟩ := htag.start
  refine Prints.tag h (by simp [startsTag, hc]) hinside (fun hl => absurd hl hlast) ?_
  intro fuel hfuel
  rw [hopens]
  exact .opening hname (isHarmless_of_plain hplain) (hafter name hname fuel [] hfuel)

/-- Text between two tags of one name. A backslash at its end may keep the second one as text. -/
theorem element (htag : IsTagName tag) (h : '[' ∉ cs) (hlast : cs.getLast? ≠ some '\\')
    (hinner : '[' ∉ inner) (hafter : ∀ names, Prints names after) :
    Prints names (cs ++ '[' :: (tag ++ ']' :: (inner ++ '[' :: ('/' :: tag ++ ']' :: after)))) := by
  refine opening htag h hlast fun name hname => ?_
  have hinside : ∀ d ∈ '/' :: tag, (d != ']' && d != '[') = true :=
    List.forall_mem_cons.2 ⟨rfl, fun d hd => (htag.inside d hd).1⟩
  refine Prints.tag hinner rfl hinside (fun _ => hafter _) fun fuel hfuel => ?_
  rw [htag.tagPiece_closing]
  exact .closing htag.ne_nil hname List.mem_cons_self (hafter _ fuel [] hfuel)

end Prints

theorem isMarkup_of_element {s : String} {cs tag inner after : List Char}
    (hs : s.toList = cs ++ '[' :: (tag ++ ']' :: (inner ++ '[' :: ('/' :: tag ++ ']' :: after))))
    (htag : IsTagName tag) (h : '[' ∉ cs) (hlast : cs.getLast? ≠ some '\\') (hinner : '[' ∉ inner)
    (hafter : ∀ names, Prints names after) : IsMarkup s := by
  refine Prints.isMarkup ?_
  rw [hs]
  exact .element htag h hlast hinner hafter

end CapsuleKit.Console
