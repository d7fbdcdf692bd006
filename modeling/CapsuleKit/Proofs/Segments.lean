import CapsuleKit.Capsule.Template
import CapsuleKit.Proofs.NameGrammar
import CapsuleKit.Proofs.Split
import Mathlib.Data.List.TakeWhile

/-!
# The decomposition of template source

A placeholder is a name between double braces, with blanks around it (`IsPlaceholder`). No brace
opens inside it, so two placeholders of a source never overlap (`IsPlaceholder.prefix_before`), and
there is one way only to cut a source into its placeholders and the characters between them:
`segments` finds it (`isDecomposition_segments`, `IsDecomposition.eq_segments`). Filling a source in
works on the pieces of this decomposition, which does not depend on the values.
-/

namespace CapsuleKit.Template

/-! ### Placeholders -/

/-- A name between double braces, with blanks on either side of it. -/
structure IsPlaceholder (source : List Char) (name : String) : Prop where
  name_mem : name.toList ∈ Grammar.identifier
  source_eq : ∃ before after, (∀ c ∈ before, Text.isBlank c = true) ∧
    (∀ c ∈ after, Text.isBlank c = true) ∧
    source = '\x7b' :: '\x7b' :: (before ++ (name.toList ++ (after ++ ['\x7d', '\x7d'])))

theorem isBlank_of_isNamePart {c : Char} (h : Text.isNamePart c = true) : Text.isBlank c = false := by
  rw [Text.isNamePart, Bool.or_eq_true, beq_iff_eq] at h
  rcases h with h | rfl
  · exact Text.isBlank_of_isAlphanum h
  · rfl

theorem exists_nameChars {name : String} (h : name.toList ∈ Grammar.identifier) :
    ∃ c cs, name.toList = c :: cs ∧ Text.isNameStart c = true ∧ ∀ d ∈ cs, Text.isNamePart d = true := by
  obtain ⟨_, ⟨c, hc, rfl⟩, cs, hcs, heq⟩ := Language.mem_mul.1 h
  exact ⟨c, cs, heq.symm, hc, Grammar.mem_kstar_one.1 hcs⟩

theorem name_mem_identifier {c : Char} {cs : List Char} (hc : Text.isNameStart c = true)
    (hcs : ∀ d ∈ cs, Text.isNamePart d = true) :
    (String.ofList (c :: cs)).toList ∈ Grammar.identifier := by
  rw [String.toList_ofList, Grammar.identifier, Grammar.cons_mem_one_mul, Grammar.mem_kstar_one]
  exact ⟨hc, hcs⟩

namespace IsPlaceholder

variable {source source' : List Char} {name name' : String}

theorem exists_inner (h : IsPlaceholder source name) :
    ∃ c inner, source = '\x7b' :: '\x7b' :: c :: inner ∧ '\x7b' ∉ c :: inner := by
  obtain ⟨before, after, hbefore, hafter, hsource⟩ := h.source_eq
  obtain ⟨d, ds, hname, hd, hds⟩ := exists_nameChars h.name_mem
  have hbrace : '\x7b' ∉ before ++ (name.toList ++ (after ++ ['\x7d', '\x7d'])) := by
    simp only [hname, List.mem_append, List.mem_cons, List.not_mem_nil, or_false, not_or]
    refine ⟨fun hmem => ?_, ⟨?_, fun hmem => ?_⟩, fun hmem => ?_, by decide, by decide⟩
    · exact absurd (hbefore _ hmem) (by decide)
    · rintro rfl
      exact absurd hd (by decide)
    · exact absurd (hds _ hmem) (by decide)
    · exact absurd (hafter _ hmem) (by decide)
  obtain ⟨c, inner, hinner⟩ : ∃ c inner,
      before ++ (name.toList ++ (after ++ ['\x7d', '\x7d'])) = c :: inner :=
    List.exists_cons_of_ne_nil (by simp)
  rw [hinner] at hsource hbrace
  exact ⟨c, inner, hsource, hbrace⟩

theorem ne_nil (h : IsPlaceholder source name) : source ≠ [] := by
  obtain ⟨c, inner, rfl, -⟩ := h.exists_inner
  exact List.cons_ne_nil _ _

/-- Placeholders do not overlap: one that starts behind the start of another starts behind its
end. -/
theorem prefix_before (h : IsPlaceholder source name) (h' : IsPlaceholder source' name')
    {rest before after : List Char} (heq : source ++ rest = before ++ (source' ++ after))
    (hbefore : before ≠ []) : source <+: before := by
  obtain ⟨c, inner, rfl, hinner⟩ := h.exists_inner
  obtain ⟨c', inner', rfl, -⟩ := h'.exists_inner
  rcases List.append_eq_append_iff.1 heq with ⟨gap, hgap, -⟩ | ⟨overlap, hsource, hrest⟩
  · exact ⟨gap, hgap.symm⟩
  -- what the two share starts with the brace of the second, which the first has only in front
  cases overlap with
  | nil =>
    rw [List.append_nil] at hsource
    rw [hsource]
  | cons d overlap =>
    obtain ⟨rfl, hsecond⟩ := List.cons.inj hrest
    obtain ⟨b, front, rfl⟩ := List.exists_cons_of_ne_nil hbefore
    cases front with
    | nil =>
      obtain ⟨-, rfl⟩ : _ ∧ c :: inner = overlap := by simpa using hsource
      obtain ⟨rfl, -⟩ := List.cons.inj hsecond
      exact absurd List.mem_cons_self hinner
    | cons b' front =>
      obtain ⟨-, -, htail⟩ : _ ∧ _ ∧ c :: inner = front ++ '\x7b' :: overlap := by
        simpa using hsource
      exact absurd (by simp [htail]) hinner

end IsPlaceholder

theorem placeholder?_append {source : List Char} {name : String} (h : IsPlaceholder source name)
    (rest : List Char) :
    placeholder? (source ++ rest) = some (name.toList, source.length) := by
  obtain ⟨before, after, hbefore, hafter, rfl⟩ := h.source_eq
  obtain ⟨c, cs, hname, hc, hcs⟩ := exists_nameChars h.name_mem
  have hblank : Text.isBlank c = false := isBlank_of_isNamePart (Text.isNamePart_of_isNameStart hc)
  have hinner : (before ++ c :: (cs ++ (after ++ '\x7d' :: '\x7d' :: rest))).dropWhile
      Text.isBlank = c :: (cs ++ (after ++ '\x7d' :: '\x7d' :: rest)) :=
    Text.dropWhile_append hbefore (by simpa using hblank)
  have hend : ∀ d, (after ++ '\x7d' :: '\x7d' :: rest).head? = some d → Text.isNamePart d = false := by
    cases after with
    | nil =>
      rintro d ⟨⟩
      rfl
    | cons b after =>
      rintro d ⟨⟩
      by_contra hname
      have := isBlank_of_isNamePart (Bool.not_eq_false _ ▸ hname)
      simp [hafter b] at this
  have hclose : (after ++ '\x7d' :: '\x7d' :: rest).dropWhile Text.isBlank =
      '\x7d' :: '\x7d' :: rest :=
    Text.dropWhile_append hafter (by simp; decide)
  have hcode :
      '\x7b' :: '\x7b' :: (before ++ (name.toList ++ (after ++ ['\x7d', '\x7d']))) ++ rest =
        '\x7b' :: '\x7b' :: (before ++ c :: (cs ++ (after ++ '\x7d' :: '\x7d' :: rest))) := by
    simp [hname]
  rw [hcode, placeholder?]
  simp only [hinner, hc, if_true, Text.dropWhile_append hcs hend, hclose,
    Text.takeWhile_append hcs hend, Option.some.injEq, Prod.mk.injEq, hname, true_and]
  simp only [List.length_cons, List.length_append, List.length_nil]
  omega

theorem exists_of_placeholder? {cs name : List Char} {size : Nat}
    (h : placeholder? cs = some (name, size)) :
    ∃ source rest, cs = source ++ rest ∧ size = source.length ∧
      IsPlaceholder source (String.ofList name) := by
  unfold placeholder? at h
  split at h
  case h_2 => cases h
  case h_1 rest =>
    dsimp only at h
    split at h
    case h_1 => cases h
    case h_2 c more hinner =>
      split at h
      case isFalse => cases h
      case isTrue hc =>
        split at h
        case h_2 => cases h
        case h_1 tail hclose =>
          obtain ⟨rfl, rfl⟩ := Prod.mk.inj (Option.some.inj h)
          have hmore : more = more.takeWhile Text.isNamePart ++
              ((more.dropWhile Text.isNamePart).takeWhile Text.isBlank ++ '\x7d' :: '\x7d' :: tail) := by
            rw [← hclose, List.takeWhile_append_dropWhile, List.takeWhile_append_dropWhile]
          have hrest : rest = rest.takeWhile Text.isBlank ++ c :: more := by
            rw [← hinner, List.takeWhile_append_dropWhile]
          have hcode : '\x7b' :: '\x7b' :: rest =
              '\x7b' :: '\x7b' :: (rest.takeWhile Text.isBlank ++
                ((String.ofList (c :: more.takeWhile Text.isNamePart)).toList ++
                  ((more.dropWhile Text.isNamePart).takeWhile Text.isBlank ++ ['\x7d', '\x7d']))) ++
              tail := by
            rw [String.toList_ofList]
            conv_lhs => rw [hrest, hmore]
            simp
          refine ⟨_, tail, hcode, ?_, ?_⟩
          · rw [hcode, List.length_append, Nat.add_sub_cancel]
          · exact ⟨name_mem_identifier hc fun d => List.mem_takeWhile_imp, _, _,
              fun d => List.mem_takeWhile_imp, fun d => List.mem_takeWhile_imp, rfl⟩

/-! ### Decompositions -/

/-- The source of a piece as it is written. -/
def Segment.source : Segment → List Char
  | .char c => [c]
  | .placeholder source _ => source

/-- Pieces that make up a source. Those that are no single characters are placeholders, and every
placeholder that can be found in the source, wherever it stands, is one of the pieces. -/
structure IsDecomposition (pieces : List Segment) (code : List Char) : Prop where
  flatMap_source : pieces.flatMap (·.source) = code
  isPlaceholder : ∀ source name, .placeholder source name ∈ pieces → IsPlaceholder source name
  complete : ∀ before source name after, code = before ++ (source ++ after) →
    IsPlaceholder source name →
    ∃ front back, pieces = front ++ .placeholder source name :: back ∧
      front.flatMap (·.source) = before ∧ back.flatMap (·.source) = after

theorem segments_of_placeholder {source : List Char} {name : String}
    (h : IsPlaceholder source name) (rest : List Char) :
    segments (source ++ rest) = .placeholder source name :: segments rest := by
  have hfound := placeholder?_append h rest
  obtain ⟨c, inner, rfl, -⟩ := h.exists_inner
  rw [List.cons_append, segments, ← List.cons_append, hfound]
  simp

theorem segments_of_none {c : Char} {cs : List Char} (h : placeholder? (c :: cs) = none) :
    segments (c :: cs) = .char c :: segments cs := by
  rw [segments, h]

/-- A source is empty, starts with a placeholder, or starts with a character that is a piece. -/
theorem source_induction {P : List Char → Prop} (nil : P [])
    (placeholder : ∀ source name rest, IsPlaceholder source name → P rest → P (source ++ rest))
    (char : ∀ c cs, placeholder? (c :: cs) = none → P cs → P (c :: cs)) : ∀ code, P code := by
  intro code
  induction hlength : code.length using Nat.strong_induction_on generalizing code with
  | h n ih =>
    subst hlength
    cases code with
    | nil => exact nil
    | cons c cs =>
      cases hfound : placeholder? (c :: cs) with
      | none => exact char c cs hfound (ih _ (Nat.lt_succ_self _) cs rfl)
      | some found =>
        obtain ⟨source, rest, hcode, -, hsource⟩ := exists_of_placeholder? hfound
        rw [hcode]
        refine placeholder source _ rest hsource (ih _ ?_ rest rfl)
        rw [hcode, List.length_append]
        have := List.length_pos_iff.2 hsource.ne_nil
        omega

namespace IsDecomposition

variable {pieces : List Segment} {piece : Segment} {code source rest : List Char} {name : String}
  {c : Char} {cs : List Char}

theorem nil : IsDecomposition [] [] where
  flatMap_source := rfl
  isPlaceholder _ _ hmem := absurd hmem List.not_mem_nil
  complete before source name after heq hsource := by
    have hnil := (List.append_eq_nil_iff.1 (List.append_eq_nil_iff.1 heq.symm).2).1
    exact absurd hnil hsource.ne_nil

theorem placeholder (hsource : IsPlaceholder source name) (h : IsDecomposition pieces rest) :
    IsDecomposition (.placeholder source name :: pieces) (source ++ rest) where
  flatMap_source := by rw [List.flatMap_cons, h.flatMap_source, Segment.source]
  isPlaceholder source' name' hmem := by
    rcases List.mem_cons.1 hmem with heq | hmem
    · obtain ⟨rfl, rfl⟩ := Segment.placeholder.inj heq
      exact hsource
    · exact h.isPlaceholder _ _ hmem
  complete before source' name' after heq hsource' := by
    by_cases hbefore : before = []
    · subst hbefore
      -- both start the source, and a source has one placeholder at its start
      have hfound := placeholder?_append hsource rest
      rw [List.nil_append] at heq
      rw [heq, placeholder?_append hsource' after] at hfound
      obtain ⟨hname, hlength⟩ := Prod.mk.inj (Option.some.inj hfound)
      obtain ⟨rfl, rfl⟩ := List.append_inj heq hlength.symm
      rw [String.toList_inj.1 hname]
      exact ⟨[], pieces, rfl, rfl, h.flatMap_source⟩
    · obtain ⟨before, rfl⟩ := hsource.prefix_before hsource' heq hbefore
      rw [List.append_assoc] at heq
      obtain ⟨front, back, rfl, rfl, hback⟩ :=
        h.complete before source' name' after (List.append_cancel_left heq) hsource'
      exact ⟨.placeholder source name :: front, back, rfl, rfl, hback⟩

theorem char (hnone : placeholder? (c :: cs) = none) (h : IsDecomposition pieces cs) :
    IsDecomposition (.char c :: pieces) (c :: cs) where
  flatMap_source := by rw [List.flatMap_cons, h.flatMap_source]; rfl
  isPlaceholder source name hmem := h.isPlaceholder _ _ (by simpa using hmem)
  complete before source name after heq hsource := by
    cases before with
    | nil =>
      rw [heq, List.nil_append, placeholder?_append hsource] at hnone
      cases hnone
    | cons d before =>
      obtain ⟨rfl, hcs⟩ := List.cons.inj heq
      obtain ⟨front, back, rfl, rfl, hback⟩ := h.complete before source name after hcs hsource
      exact ⟨.char c :: front, back, rfl, rfl, hback⟩

theorem source_ne_nil (h : IsDecomposition pieces code) (hpiece : piece ∈ pieces) :
    piece.source ≠ [] := by
  cases piece with
  | char c => exact List.cons_ne_nil _ _
  | placeholder source name => exact (h.isPlaceholder _ _ hpiece).ne_nil

theorem tail (h : IsDecomposition (piece :: pieces) code) :
    IsDecomposition pieces (pieces.flatMap (·.source)) where
  flatMap_source := rfl
  isPlaceholder source name hmem := h.isPlaceholder _ _ (List.mem_cons_of_mem _ hmem)
  complete before source name after heq hsource := by
    have hcode : code = (piece.source ++ before) ++ (source ++ after) := by
      rw [← h.flatMap_source, List.flatMap_cons, heq, List.append_assoc]
    obtain ⟨front, back, hpieces, hfront, hback⟩ := h.complete _ source name after hcode hsource
    -- the placeholder is not the first piece, which has a source of its own in front of it
    cases front with
    | nil =>
      have hnil := (List.append_eq_nil_iff.1 hfront.symm).1
      exact absurd hnil (h.source_ne_nil List.mem_cons_self)
    | cons first front =>
      obtain ⟨rfl, rfl⟩ := List.cons.inj hpieces
      exact ⟨front, back, rfl, List.append_cancel_left hfront, hback⟩

theorem placeholder?_eq_none (h : IsDecomposition (.char c :: pieces) code) :
    placeholder? code = none := by
  cases hfound : placeholder? code with
  | none => rfl
  | some found =>
    obtain ⟨source, rest, hcode, -, hsource⟩ := exists_of_placeholder? hfound
    obtain ⟨front, back, hpieces, hfront, -⟩ := h.complete [] source _ rest hcode hsource
    cases front with
    | nil => cases hpieces
    | cons first front =>
      have hmem : first ∈ Segment.char c :: pieces := hpieces ▸ List.mem_cons_self
      exact absurd (List.append_eq_nil_iff.1 hfront).1 (h.source_ne_nil hmem)

theorem eq_segments (h : IsDecomposition pieces code) : pieces = segments code := by
  induction pieces generalizing code with
  | nil =>
    rw [← h.flatMap_source, List.flatMap_nil, segments]
  | cons piece pieces ih =>
    have hpieces := ih h.tail
    have hcode := h.flatMap_source
    rw [List.flatMap_cons] at hcode
    cases piece with
    | placeholder source name =>
      have hsource := h.isPlaceholder source name List.mem_cons_self
      rw [← hcode, Segment.source, segments_of_placeholder hsource, ← hpieces]
    | char c =>
      have hnone := h.placeholder?_eq_none
      rw [← hcode] at hnone ⊢
      exact (congrArg _ hpieces).trans (segments_of_none hnone).symm

end IsDecomposition

theorem isDecomposition_segments (code : List Char) : IsDecomposition (segments code) code := by
  induction code using source_induction with
  | nil =>
    rw [segments]
    exact .nil
  | placeholder source name rest hsource ih =>
    rw [segments_of_placeholder hsource]
    exact .placeholder hsource ih
  | char c cs hnone ih =>
    rw [segments_of_none hnone]
    exact .char hnone ih

/-! ### Filling in -/

theorem fill_nil (code : String) : fill [] code = code := by
  have htext : ∀ s : Segment, s.text [] = s.source := by
    intro s
    cases s <;> rfl
  simp only [fill, htext, (isDecomposition_segments code.toList).flatMap_source,
    String.ofList_toList]

/-- Filling a source in is a single exact pass. A source has one decomposition into placeholders and
the characters between them, which holds every placeholder that can be found in it. Whatever the
values are, the result is the text of these pieces one after the other, where a placeholder gives
the value of its name and stays as it is if there is none; only a value that has the name of the
template itself is refused. Without values the result is the source. -/
theorem render_decomposes (code : String) :
    ∃ pieces, IsDecomposition pieces code.toList ∧
      (∀ other, IsDecomposition other code.toList → other = pieces) ∧
      (∀ values : List (String × String), render? values code =
        if ownName ∈ values.map (·.1) then none
        else some (String.ofList (pieces.flatMap (·.text values)))) ∧
      render? [] code = some code := by
  refine ⟨segments code.toList, isDecomposition_segments _, fun other h => h.eq_segments,
    fun values => ?_, congrArg some (fill_nil code)⟩
  have hany : values.any (·.1 == ownName) = true ↔ ownName ∈ values.map (·.1) := by
    simp only [List.any_eq_true, List.mem_map, beq_iff_eq]
  simp only [render?, hany]
  rfl

/-- A placeholder for which there is a value, and which is not filled in. -/
theorem render_refuses_own_name :
    let code := "\x7b\x7bself\x7d\x7d"
    let values := [("self", "x")]
    IsPlaceholder code.toList "self" ∧ values.lookup "self" = some "x" ∧
      render? values code ≠ some "x" := by
  refine ⟨⟨Grammar.mem_identifier_iff.2 rfl, [], [], ?_, ?_, rfl⟩, rfl, ?_⟩
  · exact List.forall_mem_nil _
  · exact List.forall_mem_nil _
  · decide

end CapsuleKit.Template
