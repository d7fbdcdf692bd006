import CapsuleKit.Proofs.Console.Markup
import Mathlib.Data.List.Infix

/-!
# What a text with markup shows

`shownText` is the text of pieces, which is what is left of a text once its markup has been read
(`text_eq_shownText`). Text is shown as it is where no tag stands in it (`IsTagFree`), no backslash
in front of a bracket and no control character that is dropped (`IsKept`), whatever stands around
it: `infix_shownText`. All else loses a character that is counted by `isMark`
(`countP_piecesFrom`), so that these conditions are exact.
-/

namespace CapsuleKit.Console

/-! ### The text of pieces -/

def Piece.shown : Piece → List Char
  | .text cs => cs.filter (!isDropped ·)
  | .opening _ _ => []
  | .closing _ => []

def shownText (ps : List Piece) : List Char :=
  ps.flatMap Piece.shown

theorem shownText_append (ps qs : List Piece) :
    shownText (ps ++ qs) = shownText ps ++ shownText qs :=
  List.flatMap_append

theorem shownText_cons (p : Piece) (ps : List Piece) :
    shownText (p :: ps) = p.shown ++ shownText ps :=
  List.flatMap_cons

def plainText (cs : List Char) : List Char :=
  (unescaped cs).filter (!isDropped ·)

theorem shownText_plainPiece (done : List Char) :
    shownText (plainPiece done) = plainText done.reverse := by
  cases done with
  | nil => rfl
  | cons c cs => exact List.append_nil _

theorem text_eq_shownText {ps : List Piece} {place : Nat} {opened : List OpenTag} {m : Marked}
    (h : markedFrom place opened ps = .ok m) : m.text = shownText ps := by
  induction ps generalizing place opened m with
  | nil =>
    obtain rfl := Except.ok.inj h
    rfl
  | cons p ps ih =>
    rw [shownText_cons]
    cases p with
    | text cs =>
      obtain ⟨rest, hrest, h⟩ := bind_eq_ok.1 h
      obtain rfl := Except.ok.inj h
      rw [← ih hrest]
      rfl
    | opening name parameters =>
      obtain ⟨name, -, h⟩ := bind_eq_ok.1 h
      exact ih h
    | closing tag =>
      cases tag with
      | nil =>
        cases opened with
        | nil => cases h
        | cons t opened =>
          obtain ⟨-, -, h⟩ := bind_eq_ok.1 h
          obtain ⟨rest, hrest, h⟩ := bind_eq_ok.1 h
          obtain rfl := Except.ok.inj h
          rw [← ih hrest]
          rfl
      | cons c cs =>
        obtain ⟨name, -, h⟩ := bind_eq_ok.1 h
        split at h
        · obtain ⟨-, -, h⟩ := bind_eq_ok.1 h
          obtain ⟨rest, hrest, h⟩ := bind_eq_ok.1 h
          obtain rfl := Except.ok.inj h
          rw [← ih hrest]
          rfl
        · cases h

/-! ### Tags -/

/-- The inside of a tag: text without brackets whose first character may start a tag. -/
structure IsTagBody (body : List Char) : Prop where
  start : ∃ c cs, body = c :: cs ∧ startsTag c = true
  inside : ∀ d ∈ body, (d != ']' && d != '[') = true

/-- Text in which no tag stands. -/
def IsTagFree (cs : List Char) : Prop :=
  ∀ body, IsTagBody body → ¬ '[' :: (body ++ [']']) <:+: cs

namespace IsTagBody

variable {body : List Char} (h : IsTagBody body)

include h

theorem notMem_closing : ']' ∉ body := fun hmem => absurd (h.inside _ hmem) (by decide)

theorem notMem_opening : '[' ∉ body := fun hmem => absurd (h.inside _ hmem) (by decide)

theorem tagBody? (after : List Char) : tagBody? (body ++ ']' :: after) = some (body, after) := by
  obtain ⟨c, cs, rfl, hc⟩ := h.start
  exact tagBody?_append hc h.inside after

/-- A tag that ends somewhere ends before a space with a bracket behind it. -/
theorem exists_of_append_space {after front tail : List Char}
    (heq : front ++ ' ' :: '[' :: tail = body ++ ']' :: after) :
    ∃ more, front = body ++ ']' :: more ∧ after = more ++ ' ' :: '[' :: tail := by
  rcases List.append_eq_append_iff.1 heq with ⟨cs, rfl, htail⟩ | ⟨cs, rfl, htail⟩
  · rcases cs with _ | ⟨c, _ | ⟨d, cs⟩⟩
    · cases htail
    · cases htail
    · obtain ⟨-, htail⟩ := List.cons.inj htail
      obtain ⟨rfl, -⟩ := List.cons.inj htail
      exact absurd (by simp) h.notMem_opening
  · cases cs with
    | nil => cases htail
    | cons c cs =>
      obtain ⟨rfl, rfl⟩ := List.cons.inj htail
      exact ⟨cs, rfl, rfl⟩

end IsTagBody

theorem tagBody?_eq_some {cs body after : List Char} (h : tagBody? cs = some (body, after)) :
    cs = body ++ ']' :: after ∧ IsTagBody body := by
  have hfront : cs.takeWhile (fun d => d != ']' && d != '[') <+: cs := List.takeWhile_prefix _
  have hinside : ∀ d ∈ cs.takeWhile (fun d => d != ']' && d != '['),
      (d != ']' && d != '[') = true := List.all_eq_true.1 List.all_takeWhile
  unfold Console.tagBody? at h
  dsimp only at h
  split at h
  case h_1 c body' rest hbody hdrop =>
    split at h
    case isTrue hc =>
      obtain ⟨rfl, rfl⟩ := Prod.mk.inj (Option.some.inj h)
      refine ⟨?_, ⟨c, body', hbody, hc⟩, hinside⟩
      rw [← hdrop, List.prefix_iff_eq_append.1 hfront]
    case isFalse => cases h
  case h_2 => cases h

theorem tagBody?_append_eq_none {cs : List Char} (h : tagBody? (cs ++ [']']) = none)
    (rest : List Char) : tagBody? (cs ++ ']' :: rest) = none := by
  cases htag : tagBody? (cs ++ ']' :: rest) with
  | none => rfl
  | some p =>
    obtain ⟨hsplit, hbody⟩ := tagBody?_eq_some htag
    obtain ⟨more, hmore⟩ : ∃ more, cs ++ [']'] = p.1 ++ ']' :: more := by
      rcases List.append_eq_append_iff.1 hsplit with ⟨ds, hds, htail⟩ | ⟨ds, hds, htail⟩
      · cases ds with
        | nil => exact ⟨[], by rw [hds, List.append_nil]⟩
        | cons d ds =>
          obtain ⟨rfl, -⟩ := List.cons.inj htail
          exact absurd (by rw [hds]; simp) hbody.notMem_closing
      · cases ds with
        | nil => exact ⟨[], by rw [hds, List.append_nil]⟩
        | cons d ds =>
          obtain ⟨rfl, -⟩ := List.cons.inj htail
          exact ⟨ds ++ [']'], by rw [hds]; simp⟩
    rw [hmore, hbody.tagBody?] at h
    cases h

theorem isTagFree_iff {cs : List Char} :
    IsTagFree cs ↔ ∀ rest, '[' :: rest <:+ cs → tagBody? rest = none := by
  constructor
  · intro h rest hrest
    cases htag : tagBody? rest with
    | none => rfl
    | some p =>
      obtain ⟨rfl, hbody⟩ := tagBody?_eq_some htag
      have hfront : '[' :: (p.1 ++ [']']) <+: '[' :: (p.1 ++ ']' :: p.2) := ⟨p.2, by simp⟩
      exact absurd (hfront.isInfix.trans hrest.isInfix) (h _ hbody)
  · rintro h body hbody ⟨before, after, rfl⟩
    have htag := h (body ++ ']' :: after) ⟨before, by simp⟩
    rw [hbody.tagBody?] at htag
    cases htag

theorem IsTagFree.of_isInfix {cs ds : List Char} (h : IsTagFree ds) (hpart : cs <:+: ds) :
    IsTagFree cs :=
  fun body hbody hin => h body hbody (hin.trans hpart)

theorem suffix_of_suffix_append {as bs cs : List Char} (h : '[' :: cs <:+ as ++ bs)
    (has : '[' ∉ as) : '[' :: cs <:+ bs := by
  obtain ⟨front, hfront⟩ := h
  rcases List.append_eq_append_iff.1 hfront with ⟨ds, rfl, hds⟩ | ⟨ds, -, rfl⟩
  · cases ds with
    | nil => exact ⟨[], hds⟩
    | cons d ds =>
      obtain ⟨rfl, -⟩ := List.cons.inj hds
      exact absurd (by simp) has
  · exact ⟨ds, rfl⟩

theorem IsTagFree.tagBody?_append {inner more : List Char} (h : IsTagFree ('[' :: (inner ++ [']'])))
    (hmore : '[' :: more <:+ '[' :: (inner ++ [']'])) (rest : List Char) :
    tagBody? (more ++ rest) = none := by
  have hnone := isTagFree_iff.1 h more hmore
  rw [← List.cons_append, List.suffix_concat_iff] at hmore
  obtain hnil | ⟨t, ht, -⟩ := hmore
  · cases hnil
  · cases t with
    | nil => cases ht
    | cons c t =>
      rw [List.cons_append] at ht
      obtain ⟨-, rfl⟩ := List.cons.inj ht
      rw [List.append_assoc]
      exact tagBody?_append_eq_none hnone rest

/-- A tag between texts without brackets stands in the brackets there. -/
theorem IsTagFree.append {inner : List Char} (h : IsTagFree ('[' :: (inner ++ [']'])))
    {front rest : List Char} (hfront : '[' ∉ front) (hrest : '[' ∉ rest) :
    IsTagFree (front ++ ('[' :: (inner ++ [']']) ++ rest)) := by
  refine isTagFree_iff.2 fun more hmore => ?_
  obtain ⟨before, hbefore⟩ := suffix_of_suffix_append hmore hfront
  rcases List.append_eq_append_iff.1 hbefore with ⟨ds, hds, htail⟩ | ⟨ds, -, hds⟩
  · cases ds with
    | nil =>
      rw [List.nil_append] at htail
      exact absurd (htail ▸ List.mem_cons_self) hrest
    | cons d ds =>
      rw [List.cons_append] at htail
      obtain ⟨rfl, rfl⟩ := List.cons.inj htail
      exact h.tagBody?_append ⟨before, hds.symm⟩ rest
  · exact absurd (by rw [hds]; simp) hrest

/-! ### Scanning -/

/-- What a tag and the backslashes in front of it become. -/
def tagPieces (slashes body : List Char) : List Piece :=
  [.text (slashes.take (slashes.length / 2)),
   if slashes.length % 2 = 1 then .text ('[' :: body ++ [']']) else tagPiece body]

theorem shown_tagPiece (body : List Char) : (tagPiece body).shown = [] := by
  unfold tagPiece
  split <;> rfl

/-- What one step of the scan does: it ends, or collects a character with the backslashes in front
of it, or takes a tag. -/
theorem piecesFrom_step (fuel : Nat) (done cs : List Char) :
    ∃ slashes, (∀ c ∈ slashes, (c == '\\') = true) ∧
      (cs = slashes ∧ piecesFrom (fuel + 1) done cs = plainPiece (slashes ++ done) ∨
        (∃ c rest, (c == '\\') = false ∧ (c = '[' → tagBody? rest = none) ∧
          cs = slashes ++ c :: rest ∧
          piecesFrom (fuel + 1) done cs = piecesFrom fuel (c :: (slashes ++ done)) rest) ∨
        ∃ rest body after, tagBody? rest = some (body, after) ∧ cs = slashes ++ '[' :: rest ∧
          piecesFrom (fuel + 1) done cs =
            plainPiece done ++ (tagPieces slashes body ++ piecesFrom fuel [] after)) := by
  obtain ⟨slashes, hslashes, rfl | ⟨c, rest, hc, rfl⟩⟩ := exists_slashes cs
  · exact ⟨cs, hslashes, .inl ⟨rfl, piecesFrom_slashes hslashes fuel done⟩⟩
  · refine ⟨slashes, hslashes, .inr ?_⟩
    by_cases hbracket : c = '['
    · subst hbracket
      cases htag : tagBody? rest with
      | none =>
        exact .inl ⟨'[', rest, hc, fun _ => htag, rfl, piecesFrom_bracket hslashes fuel done htag⟩
      | some p =>
        exact .inr ⟨rest, p.1, p.2, htag, rfl, piecesFrom_tag hslashes fuel done htag⟩
    · exact .inl ⟨c, rest, hc, fun h => absurd h hbracket, rfl,
        piecesFrom_char hslashes fuel done hc hbracket rest⟩

theorem Prints.tagFree {cs : List Char} (h : IsTagFree cs) (names : List String) :
    Prints names cs := by
  intro fuel done hfuel
  induction fuel generalizing done cs with
  | zero => cases hfuel
  | succ fuel ih =>
    obtain ⟨slashes, -, ⟨-, heq⟩ | ⟨c, rest, -, -, rfl, heq⟩ | ⟨rest, body, after, htag, rfl, -⟩⟩ :=
      piecesFrom_step fuel done cs
    · rw [heq, ← List.append_nil (plainPiece _)]
      exact (Fits.nil names).plainPiece _
    · rw [heq]
      refine ih (h.of_isInfix ⟨slashes ++ [c], [], by simp⟩) _ ?_
      simp only [List.length_append, List.length_cons] at hfuel
      omega
    · rw [isTagFree_iff.1 h rest ⟨slashes, rfl⟩] at htag
      cases htag

/-- A space and a bracket behind it are reached whatever stands in front of them: a tag there ends
before the space. -/
theorem piecesFrom_front (front tail : List Char) {fuel : Nat}
    (hfuel : (front ++ ' ' :: '[' :: tail).length < fuel) (done : List Char) :
    ∃ ps k done', ('[' :: tail).length < k ∧
      piecesFrom fuel done (front ++ ' ' :: '[' :: tail) =
        ps ++ piecesFrom k (' ' :: done') ('[' :: tail) := by
  induction fuel generalizing front done with
  | zero => cases hfuel
  | succ fuel ih =>
    obtain ⟨slashes, hslashes, rfl | ⟨c, rest, hc, rfl⟩⟩ := exists_slashes front
    · refine ⟨[], fuel, front ++ done, ?_, ?_⟩
      · simp only [List.length_append, List.length_cons] at hfuel ⊢
        omega
      · exact piecesFrom_char hslashes fuel done rfl (by decide) ('[' :: tail)
    · simp only [List.length_append, List.length_cons] at hfuel
      have hshort : (rest ++ ' ' :: '[' :: tail).length < fuel := by
        simp only [List.length_append, List.length_cons]
        omega
      rw [List.append_assoc, List.cons_append]
      by_cases hbracket : c = '['
      · subst hbracket
        cases htag : tagBody? (rest ++ ' ' :: '[' :: tail) with
        | none =>
          rw [piecesFrom_bracket hslashes fuel done htag]
          exact ih rest hshort _
        | some p =>
          obtain ⟨hsplit, hbody⟩ := tagBody?_eq_some htag
          obtain ⟨more, rfl, hafter⟩ := hbody.exists_of_append_space hsplit
          have hmore : (more ++ ' ' :: '[' :: tail).length < fuel := by
            simp only [List.length_append, List.length_cons] at hshort ⊢
            omega
          obtain ⟨ps, k, done', hk, heq⟩ := ih more hmore []
          refine ⟨plainPiece done ++ (tagPieces slashes p.1 ++ ps), k, done', hk, ?_⟩
          rw [piecesFrom_tag hslashes fuel done htag, hafter, heq, List.append_assoc,
            List.append_assoc]
          rfl
      · rw [piecesFrom_char hslashes fuel done hc hbracket]
        exact ih rest hshort _

theorem reverse_slashes {slashes : List Char} (h : ∀ c ∈ slashes, (c == '\\') = true) :
    slashes.reverse = slashes := by
  rw [List.eq_replicate_of_mem fun c hc => beq_iff_eq.1 (h c hc), List.reverse_replicate]

theorem piecesFrom_collect {cs more : List Char}
    (hfree : ∀ rest, '[' :: rest <:+ cs → tagBody? (rest ++ more) = none)
    (hlast : cs.getLast? ≠ some '\\') {fuel : Nat} (hfuel : (cs ++ more).length < fuel)
    (done : List Char) :
    ∃ k, more.length < k ∧
      piecesFrom fuel done (cs ++ more) = piecesFrom k (cs.reverse ++ done) more := by
  induction fuel generalizing cs done with
  | zero => cases hfuel
  | succ fuel ih =>
    obtain ⟨slashes, hslashes, rfl | ⟨c, rest, hc, rfl⟩⟩ := exists_slashes cs
    · -- Text of nothing but backslashes would end in one.
      have hempty : cs = [] := by
        by_contra hne
        have hslash := beq_iff_eq.1 (hslashes _ (List.getLast_mem hne))
        rw [List.getLast?_eq_some_getLast hne, hslash] at hlast
        exact hlast rfl
      subst hempty
      exact ⟨fuel + 1, hfuel, rfl⟩
    · have hrest : rest <:+ slashes ++ c :: rest := ⟨slashes ++ [c], by simp⟩
      have hlast' : rest.getLast? ≠ some '\\' := by
        intro h
        rw [List.getLast?_append, List.getLast?_cons, h] at hlast
        exact hlast rfl
      have hshort : (rest ++ more).length < fuel := by
        simp only [List.length_append, List.length_cons] at hfuel ⊢
        omega
      obtain ⟨k, hk, heq⟩ := ih (fun rest' h => hfree rest' (h.trans hrest)) hlast' hshort
        (c :: (slashes ++ done))
      refine ⟨k, hk, ?_⟩
      have hreverse := reverse_slashes hslashes
      rw [List.append_assoc, List.cons_append]
      by_cases hbracket : c = '['
      · subst hbracket
        rw [piecesFrom_bracket hslashes fuel done (hfree rest ⟨slashes, rfl⟩), heq]
        simp [hreverse]
      · rw [piecesFrom_char hslashes fuel done hc hbracket, heq]
        simp [hreverse]

theorem exists_shownText_tag {cs body after : List Char} (hcs : '[' ∉ cs)
    (hlast : cs.getLast? ≠ some '\\') (hbody : IsTagBody body) {fuel : Nat}
    (hfuel : (cs ++ '[' :: (body ++ ']' :: after)).length < fuel) :
    ∃ k, after.length < k ∧
      shownText (piecesFrom fuel [] (cs ++ '[' :: (body ++ ']' :: after))) =
        plainText cs ++ shownText (piecesFrom k [] after) := by
  have hnone : ∀ rest, '[' :: rest <:+ cs →
      tagBody? (rest ++ '[' :: (body ++ ']' :: after)) = none :=
    fun rest hrest => absurd (hrest.subset List.mem_cons_self) hcs
  obtain ⟨k, hk, hcollect⟩ := piecesFrom_collect hnone hlast hfuel []
  obtain ⟨k, rfl⟩ := Nat.exists_eq_add_one_of_ne_zero (Nat.ne_zero_of_lt hk)
  have htag := piecesFrom_tag (List.forall_mem_nil _) k (cs.reverse ++ []) (hbody.tagBody? after)
  have hvanishes : shownText (tagPieces [] body) = [] := by
    show [] ++ ((tagPiece body).shown ++ []) = []
    rw [shown_tagPiece, List.append_nil, List.append_nil]
  simp only [List.length_cons, List.length_append] at hk
  refine ⟨k, by omega, ?_⟩
  calc shownText (piecesFrom fuel [] (cs ++ '[' :: (body ++ ']' :: after)))
      = shownText
          (plainPiece (cs.reverse ++ []) ++ (tagPieces [] body ++ piecesFrom k [] after)) := by
        rw [hcollect]
        exact congrArg shownText htag
    _ = plainText cs ++ shownText (piecesFrom k [] after) := by
        rw [shownText_append, shownText_append, shownText_plainPiece, hvanishes, List.append_nil,
          List.reverse_reverse, List.nil_append]

theorem exists_shownText_piecesFrom (fuel : Nat) (done cs : List Char) :
    ∃ more rest,
      shownText (piecesFrom fuel done cs) = plainText (done.reverse ++ more) ++ rest := by
  induction fuel generalizing done cs with
  | zero =>
    refine ⟨[], [], ?_⟩
    rw [piecesFrom, shownText_plainPiece, List.append_nil, List.append_nil]
  | succ fuel ih =>
    obtain ⟨slashes, -, ⟨-, heq⟩ | ⟨c, rest, -, -, -, heq⟩ | ⟨rest, body, after, -, -, heq⟩⟩ :=
      piecesFrom_step fuel done cs
    · refine ⟨slashes.reverse, [], ?_⟩
      rw [heq, shownText_plainPiece, List.reverse_append, List.append_nil]
    · obtain ⟨more, rest', hshown⟩ := ih (c :: (slashes ++ done)) rest
      refine ⟨slashes.reverse ++ c :: more, rest', ?_⟩
      rw [heq, hshown]
      simp
    · refine ⟨[], shownText (tagPieces slashes body ++ piecesFrom fuel [] after), ?_⟩
      rw [heq, shownText_append, shownText_plainPiece, List.append_nil]

/-! ### Text that is kept -/

/-- Text without backslashes in front of brackets and without control characters that are
dropped. -/
structure IsKept (cs : List Char) : Prop where
  noEscape : ¬ ['\\', '['] <:+: cs
  noControl : ∀ c ∈ cs, isDropped c = false

theorem IsKept.of_isInfix {cs ds : List Char} (h : IsKept ds) (hpart : cs <:+: ds) : IsKept cs :=
  ⟨fun hescape => h.noEscape (hescape.trans hpart), fun c hc => h.noControl c (hpart.subset hc)⟩

theorem unescaped_append {as : List Char} (h : as.getLast? ≠ some '\\') (bs : List Char) :
    unescaped (as ++ bs) = unescaped as ++ unescaped bs := by
  have htail : ∀ {c : Char} {cs : List Char},
      (c :: cs).getLast? ≠ some '\\' → cs.getLast? ≠ some '\\' := by
    intro c cs h hcs
    rw [List.getLast?_cons, hcs] at h
    exact h rfl
  fun_induction unescaped as with
  | case1 cs ih =>
    rw [List.cons_append, List.cons_append, unescaped, ih (htail (htail h)), List.cons_append]
  | case2 c cs hne ih =>
    rw [List.cons_append, unescaped, ih (htail h), List.cons_append]
    rintro rest rfl hrest
    cases cs with
    | nil => exact h rfl
    | cons d ds => exact hne ds rfl (by rw [(List.cons.inj hrest).1])
  | case3 => rfl

theorem unescaped_eq_self {cs : List Char} (h : ¬ ['\\', '['] <:+: cs) : unescaped cs = cs := by
  fun_induction unescaped cs with
  | case1 cs ih => exact absurd ⟨[], cs, rfl⟩ h
  | case2 c cs hne ih => rw [ih fun hcs => h (hcs.trans (List.suffix_cons c cs).isInfix)]
  | case3 => rfl

theorem IsKept.plainText_eq {cs : List Char} (h : IsKept cs) : plainText cs = cs := by
  rw [plainText, unescaped_eq_self h.noEscape, List.filter_eq_self]
  intro c hc
  rw [h.noControl c hc]
  rfl

theorem plainText_append {as : List Char} (h : as.getLast? ≠ some '\\') (bs : List Char) :
    plainText (as ++ bs) = plainText as ++ plainText bs := by
  rw [plainText, unescaped_append h, List.filter_append, plainText, plainText]

theorem IsKept.brackets {inner : List Char} (h : IsKept inner) :
    IsKept ('[' :: (inner ++ [']'])) := by
  constructor
  · intro hpart
    obtain hfirst | hpart := List.infix_cons_iff.1 hpart
    · cases (List.cons_prefix_cons.1 hfirst).1
    · obtain hlast | hpart := List.infix_concat_iff.1 hpart
      · have hend := List.singleton_suffix_iff_getLast?_eq_some.1
          ((List.suffix_cons '\\' ['[']).trans hlast)
        rw [List.getLast?_concat] at hend
        cases hend
      · exact h.noEscape hpart
  · simp only [List.forall_mem_cons, List.forall_mem_append]
    exact ⟨rfl, h.noControl, rfl, List.forall_mem_nil _⟩

/-- Text in brackets is shown as it is behind a space, whatever stands around it, if no tag stands
there and all of it is kept. -/
theorem infix_shownText {inner : List Char} (hfree : IsTagFree ('[' :: (inner ++ [']'])))
    (hkept : IsKept inner) (front rest : List Char) {fuel : Nat}
    (hfuel : (front ++ ' ' :: '[' :: (inner ++ ']' :: rest)).length < fuel) :
    inner <:+: shownText (piecesFrom fuel [] (front ++ ' ' :: '[' :: (inner ++ ']' :: rest))) := by
  obtain ⟨ps, k, done, hk, hfront⟩ := piecesFrom_front front (inner ++ ']' :: rest) hfuel []
  have hbrackets : '[' :: (inner ++ ']' :: rest) = '[' :: (inner ++ [']']) ++ rest := by simp
  have hlast : ('[' :: (inner ++ [']'])).getLast? ≠ some '\\' := by
    rw [← List.cons_append, List.getLast?_concat]
    decide
  rw [hbrackets] at hk hfront ⊢
  obtain ⟨k, -, hcollect⟩ := piecesFrom_collect (fun more h => hfree.tagBody?_append h rest) hlast
    hk (' ' :: done)
  obtain ⟨more, rest', hshown⟩ := exists_shownText_piecesFrom k
    (('[' :: (inner ++ [']'])).reverse ++ ' ' :: done) rest
  have hreverse : (('[' :: (inner ++ [']'])).reverse ++ ' ' :: done).reverse ++ more =
      (done.reverse ++ [' ']) ++ ('[' :: (inner ++ [']']) ++ more) := by simp
  have hspace : (done.reverse ++ [' ']).getLast? ≠ some '\\' := by
    rw [List.getLast?_concat]
    decide
  rw [hfront, shownText_append, hcollect, hshown, hreverse, plainText_append hspace,
    plainText_append hlast, hkept.brackets.plainText_eq]
  exact ⟨shownText ps ++ (plainText (done.reverse ++ [' ']) ++ ['[']),
    ']' :: plainText more ++ rest', by simp⟩

/-! ### What is lost -/

/-- The characters one of which is lost wherever text is not shown as it is: those that start a tag,
backslashes, and those that are dropped. -/
def isMark (c : Char) : Bool :=
  startsTag c || c == '\\' || isDropped c

theorem countP_plainText (cs : List Char) :
    (plainText cs).countP isMark ≤ cs.countP isMark ∧
      (cs.countP isMark ≤ (plainText cs).countP isMark → IsKept cs) := by
  unfold plainText
  fun_induction unescaped cs with
  | case1 cs ih =>
    have hslash : isMark '\\' = true := rfl
    have hbracket : isMark '[' = false := rfl
    rw [List.filter_cons_of_pos rfl, List.countP_cons_of_neg (by simp [hbracket]),
      List.countP_cons_of_pos hslash, List.countP_cons_of_neg (by simp [hbracket])]
    exact ⟨by omega, fun h => absurd h (by omega)⟩
  | case2 c cs hne ih =>
    by_cases hc : isDropped c = true
    · have hmark : isMark c = true := by simp [isMark, hc]
      rw [List.filter_cons_of_neg (by simp [hc]), List.countP_cons_of_pos hmark]
      exact ⟨by omega, fun h => absurd h (by omega)⟩
    · rw [List.filter_cons_of_pos (by simp [hc]), List.countP_cons, List.countP_cons]
      refine ⟨by omega, fun h => ?_⟩
      have hkept := ih.2 (by omega)
      constructor
      · intro hpart
        obtain hfirst | hpart := List.infix_cons_iff.1 hpart
        · obtain ⟨rfl, rest, hrest⟩ := List.cons_prefix_cons.1 hfirst
          exact hne rest rfl hrest.symm
        · exact hkept.noEscape hpart
      · exact List.forall_mem_cons.2 ⟨by simpa using hc, hkept.noControl⟩
  | case3 => exact ⟨Nat.le_refl _, fun _ => ⟨by decide, List.forall_mem_nil _⟩⟩

theorem countP_tagPieces {slashes body : List Char} (hslashes : ∀ c ∈ slashes, (c == '\\') = true)
    (hbody : IsTagBody body) :
    (shownText (tagPieces slashes body)).countP isMark <
      slashes.countP isMark + body.countP isMark := by
  have hall : slashes.countP isMark = slashes.length := by
    refine List.countP_eq_length.2 fun c hc => ?_
    rw [beq_iff_eq.1 (hslashes c hc)]
    rfl
  have hhalf : (Piece.text (slashes.take (slashes.length / 2))).shown.countP isMark ≤
      slashes.length / 2 :=
    List.countP_le_length.trans ((List.length_filter_le _ _).trans (List.length_take_le _ _))
  have hnone : (shownText []).countP isMark = 0 := rfl
  unfold tagPieces
  rw [shownText_cons, shownText_cons, List.countP_append, List.countP_append]
  -- A tag that stands as text costs the backslash in front of it, any other its first character.
  split
  case isTrue hodd =>
    have htag : (Piece.text ('[' :: body ++ [']'])).shown.countP isMark ≤ body.countP isMark := by
      refine List.filter_sublist.countP_le.trans ?_
      rw [List.countP_append, List.countP_cons_of_neg (by decide), List.countP_singleton]
      exact Nat.le_refl _
    omega
  case isFalse heven =>
    obtain ⟨c, cs, rfl, hc⟩ := hbody.start
    have hmark : isMark c = true := by simp [isMark, hc]
    rw [shown_tagPiece, List.countP_nil, List.countP_cons_of_pos hmark]
    omega

/-- A text shows no more marks than it has, and all of them only if no tag stands in it and all of
it is kept. -/
theorem countP_piecesFrom {fuel : Nat} {cs : List Char} (hfuel : cs.length < fuel)
    (done : List Char) :
    (shownText (piecesFrom fuel done cs)).countP isMark ≤ done.countP isMark + cs.countP isMark ∧
      (done.countP isMark + cs.countP isMark ≤
          (shownText (piecesFrom fuel done cs)).countP isMark →
        IsKept (done.reverse ++ cs) ∧ IsTagFree cs) := by
  induction fuel generalizing done cs with
  | zero => cases hfuel
  | succ fuel ih =>
    obtain ⟨slashes, hslashes, ⟨rfl, heq⟩ | ⟨c, rest, hc, hbracket, rfl, heq⟩ |
      ⟨rest, body, after, htag, rfl, heq⟩⟩ := piecesFrom_step fuel done cs
    · have hplain := countP_plainText (done.reverse ++ cs)
      rw [List.countP_append, List.countP_reverse] at hplain
      rw [heq, shownText_plainPiece, List.reverse_append, reverse_slashes hslashes]
      refine ⟨hplain.1, fun h => ⟨hplain.2 h, isTagFree_iff.2 fun rest hrest => ?_⟩⟩
      cases hslashes '[' (hrest.subset List.mem_cons_self)
    · have hshort : rest.length < fuel := by
        simp only [List.length_append, List.length_cons] at hfuel
        omega
      have hcount : (c :: (slashes ++ done)).countP isMark + rest.countP isMark =
          done.countP isMark + (slashes ++ c :: rest).countP isMark := by
        simp only [List.countP_append, List.countP_cons]
        omega
      obtain ⟨hle, hexact⟩ := ih hshort (c :: (slashes ++ done))
      rw [hcount] at hle hexact
      rw [heq]
      refine ⟨hle, fun h => ?_⟩
      obtain ⟨hkept, hfree⟩ := hexact h
      refine ⟨?_, isTagFree_iff.2 fun more hmore => ?_⟩
      · rwa [List.reverse_cons, List.reverse_append, reverse_slashes hslashes, List.append_assoc,
          List.append_assoc, List.singleton_append] at hkept
      · have hslash : '[' ∉ slashes := fun hmem => absurd (hslashes _ hmem) (by decide)
        obtain hhere | hrest := List.suffix_cons_iff.1 (suffix_of_suffix_append hmore hslash)
        · obtain ⟨rfl, rfl⟩ := List.cons.inj hhere
          exact hbracket rfl
        · exact isTagFree_iff.1 hfree more hrest
    · obtain ⟨rfl, hbody⟩ := tagBody?_eq_some htag
      have hshort : after.length < fuel := by
        simp only [List.length_append, List.length_cons] at hfuel
        omega
      have hplain := (countP_plainText done.reverse).1
      have htags := countP_tagPieces hslashes hbody
      have hafter := (ih hshort []).1
      rw [List.countP_reverse] at hplain
      rw [List.countP_nil] at hafter
      rw [heq, shownText_append, shownText_append, shownText_plainPiece]
      simp only [List.countP_append, List.countP_cons]
      exact ⟨by omega, fun h => absurd h (by omega)⟩

end CapsuleKit.Console
