import CapsuleKit.Text.Basic
import CapsuleKit.Text.Words

/-!
# Cutting, trimming and joining texts

What is used here of `List.splitOnP`, which cuts at every character of a class and keeps empty pieces,
beyond what is known of it in general: pieces that are each ended by a mark are cut apart again
(`splitOnP_flatMap_append`), and the first piece reaches up to the first mark. `Text.cutAtFirst` and
`Text.cutAtLast` cut once. `Text.trimBoth` leaves a text alone whose ends do not belong to the class
(`trimBoth_eq_self`), such as its own results (`trimBoth_trimBoth`).
-/

namespace CapsuleKit.Text

variable {p : Char → Bool} {c : Char} {cs : List Char}

/-! ### Pieces between marks -/

theorem splitOnP_cons_of_neg (h : p c = false) (cs : List Char) :
    ∃ w ws, List.splitOnP p cs = w :: ws ∧ List.splitOnP p (c :: cs) = (c :: w) :: ws := by
  obtain ⟨w, ws, hw⟩ := List.exists_cons_of_ne_nil (List.splitOnP_ne_nil p cs)
  refine ⟨w, ws, hw, ?_⟩
  rw [List.splitOnP_cons_eq_if_modifyHead, h, hw]
  rfl

theorem splitOnP_append_of_forall_not {as bs w : List Char} {ws : List (List Char)}
    (h : ∀ d ∈ as, p d = false) (hbs : List.splitOnP p bs = w :: ws) :
    List.splitOnP p (as ++ bs) = (as ++ w) :: ws := by
  induction as with
  | nil => exact hbs
  | cons a as ih =>
    obtain ⟨ha, has⟩ := List.forall_mem_cons.1 h
    rw [List.cons_append, List.splitOnP_cons_eq_if_modifyHead, ha, ih has]
    rfl

theorem splitOnP_flatMap_append (h : p c = true) {ws : List (List Char)}
    (hws : ∀ w ∈ ws, ∀ d ∈ w, p d = false) (rest : List Char) :
    List.splitOnP p (ws.flatMap (· ++ [c]) ++ rest) = ws ++ List.splitOnP p rest := by
  induction ws with
  | nil => rfl
  | cons w ws ih =>
    rw [List.forall_mem_cons] at hws
    rw [List.flatMap_cons, List.append_assoc, List.append_assoc, List.singleton_append,
      List.splitOnP_append_cons_of_forall_mem hws.1 c h, ih hws.2, List.cons_append]

theorem exists_splitOnP_eq_cons (p : Char → Bool) (cs : List Char) :
    ∃ ws, List.splitOnP p cs = cs.takeWhile (!p ·) :: ws := by
  induction cs with
  | nil => exact ⟨[], rfl⟩
  | cons c cs ih =>
    obtain ⟨ws, hws⟩ := ih
    cases hc : p c with
    | true =>
      refine ⟨List.splitOnP p cs, ?_⟩
      rw [List.splitOnP_cons_eq_if_modifyHead, hc, List.takeWhile_cons_of_neg (by simp [hc])]
      rfl
    | false =>
      refine ⟨ws, ?_⟩
      rw [List.splitOnP_cons_eq_if_modifyHead, hc, hws, List.takeWhile_cons_of_pos (by simp [hc])]
      rfl

/-! ### One cut -/

theorem cutAtFirst_append_cons {mark : Char} {as : List Char} (h : mark ∉ as) (bs : List Char) :
    cutAtFirst mark (as ++ mark :: bs) = some (as, bs) := by
  induction as with
  | nil => simp [cutAtFirst]
  | cons a as ih =>
    rw [List.mem_cons, not_or] at h
    rw [List.cons_append, cutAtFirst, if_neg (Ne.symm h.1), ih h.2, Option.map_some]

theorem cutAtFirst_eq_none {mark : Char} {cs : List Char} (h : mark ∉ cs) :
    cutAtFirst mark cs = none := by
  induction cs with
  | nil => rfl
  | cons c cs ih =>
    rw [List.mem_cons, not_or] at h
    rw [cutAtFirst, if_neg (Ne.symm h.1), ih h.2, Option.map_none]

theorem cutAtLast_eq_none {mark : Char} {cs : List Char} (h : mark ∉ cs) :
    cutAtLast mark cs = none := by
  induction cs with
  | nil => rfl
  | cons c cs ih =>
    rw [List.mem_cons, not_or] at h
    simp only [cutAtLast, ih h.2, if_neg (Ne.symm h.1)]

theorem cutAtLast_append_cons {mark : Char} {bs : List Char} (h : mark ∉ bs) (as : List Char) :
    cutAtLast mark (as ++ mark :: bs) = some (as, bs) := by
  induction as with
  | nil => simp only [List.nil_append, cutAtLast, cutAtLast_eq_none h, if_true]
  | cons a as ih => simp only [List.cons_append, cutAtLast, ih]

/-! ### Trimming -/

theorem trimBoth_cons_of_pos (h : p c = true) (cs : List Char) :
    trimBoth p (c :: cs) = trimBoth p cs := by
  rw [trimBoth, trimBoth, List.dropWhile_cons_of_pos h]

theorem trimBoth_eq_self (hfirst : ∀ d, cs.head? = some d → p d = false)
    (hlast : ∀ d, cs.getLast? = some d → p d = false) : trimBoth p cs = cs := by
  have hdrop : ∀ {ds : List Char}, (∀ d, ds.head? = some d → p d = false) →
      ds.dropWhile p = ds := by
    intro ds h
    cases ds with
    | nil => rfl
    | cons d ds => rw [List.dropWhile_cons_of_neg (by simp [h d rfl])]
  have hrev : ∀ d, cs.reverse.head? = some d → p d = false := by
    simpa only [List.head?_reverse] using hlast
  rw [trimBoth, hdrop hfirst, dropRightWhile, hdrop hrev, List.reverse_reverse]

theorem head?_dropWhile {d : Char} (h : (cs.dropWhile p).head? = some d) : p d = false := by
  have hnot := List.head?_dropWhile_not p cs
  rw [h] at hnot
  exact hnot

theorem trimBoth_trimBoth (p : Char → Bool) (cs : List Char) :
    trimBoth p (trimBoth p cs) = trimBoth p cs := by
  refine trimBoth_eq_self (fun d hd => ?_) (fun d hd => ?_)
  · have hfront : trimBoth p cs <+: cs.dropWhile p := by
      rw [← List.reverse_suffix, trimBoth, dropRightWhile, List.reverse_reverse]
      exact List.dropWhile_suffix p
    obtain ⟨rest, hrest⟩ := hfront
    have hhead : (cs.dropWhile p).head? = some d := by
      rw [← hrest, List.head?_append, hd, Option.some_or]
    exact head?_dropWhile hhead
  · rw [trimBoth, dropRightWhile, List.getLast?_reverse] at hd
    exact head?_dropWhile hd

theorem dropRightWhile_append {bs : List Char} (hbs : ∀ d ∈ bs, p d = true) (cs : List Char) :
    dropRightWhile p (cs ++ bs) = dropRightWhile p cs := by
  have hback : ∀ d ∈ bs.reverse, p d = true := by simpa using hbs
  rw [dropRightWhile, List.reverse_append, List.dropWhile_append_of_pos hback, dropRightWhile]

theorem trimBoth_append {as bs : List Char} (has : ∀ d ∈ as, p d = true)
    (hcs : ∀ d ∈ cs, p d = false) (hbs : ∀ d ∈ bs, p d = true) :
    trimBoth p (as ++ (cs ++ bs)) = cs := by
  rw [trimBoth, List.dropWhile_append_of_pos has]
  cases cs with
  | nil =>
    rw [List.nil_append, ← List.append_nil bs, List.dropWhile_append_of_pos hbs]
    rfl
  | cons c cs =>
    have hself : trimBoth p (c :: cs) = c :: cs :=
      trimBoth_eq_self (fun d hd => hcs d (List.mem_of_head? hd))
        fun d hd => hcs d (List.mem_of_getLast? hd)
    have hc : ¬p c = true := by simp [hcs c List.mem_cons_self]
    rw [trimBoth, List.dropWhile_cons_of_neg hc] at hself
    rw [List.cons_append, List.dropWhile_cons_of_neg hc, ← List.cons_append,
      dropRightWhile_append hbs, hself]

theorem strip_strip (s : String) : strip (strip s) = strip s := by
  rw [strip, strip, String.toList_ofList, trimBoth_trimBoth]

/-! ### Runs of a class -/

theorem takeWhile_append {as bs : List Char} (has : ∀ d ∈ as, p d = true)
    (hbs : ∀ d, bs.head? = some d → p d = false) : (as ++ bs).takeWhile p = as := by
  rw [List.takeWhile_append_of_pos has]
  cases bs with
  | nil => exact List.append_nil as
  | cons b bs =>
    have hb : ¬ p b = true := by simp [hbs b rfl]
    rw [List.takeWhile_cons_of_neg hb, List.append_nil]

theorem dropWhile_append {as bs : List Char} (has : ∀ d ∈ as, p d = true)
    (hbs : ∀ d, bs.head? = some d → p d = false) : (as ++ bs).dropWhile p = bs := by
  rw [List.dropWhile_append_of_pos has]
  cases bs with
  | nil => rfl
  | cons b bs => rw [List.dropWhile_cons_of_neg (by simp [hbs b rfl])]

/-! ### Joining -/

theorem lines_append (as bs : List String) : lines (as ++ bs) = lines as ++ lines bs := by
  simp [lines]

theorem lines_cons (a : String) (bs : List String) : lines (a :: bs) = a ++ "\n" ++ lines bs := by
  simp [lines]

theorem joinLines_singleton (s : String) : joinLines [s] = s :=
  String.intercalate_singleton

theorem joinLines_concat (ls : List String) (l : String) : joinLines (ls ++ [l]) = lines ls ++ l := by
  induction ls with
  | nil => simp [joinLines, lines]
  | cons a as ih =>
    rw [List.cons_append, joinLines, String.intercalate_cons_of_ne_nil (by simp), ← joinLines, ih,
      lines_cons]
    simp only [String.append_assoc]

theorem lines_eq_joinLines {ls : List String} (h : ls ≠ []) : lines ls = joinLines ls ++ "\n" := by
  obtain ⟨init, l, rfl⟩ := (List.eq_nil_or_concat ls).resolve_left h
  rw [List.concat_eq_append, joinLines_concat, lines_append, lines_cons]
  simp [lines, String.append_assoc]

theorem toList_intercalate_cons (sep s : String) (ss : List String) :
    (String.intercalate sep (s :: ss)).toList =
      s.toList ++ ss.flatMap fun t => sep.toList ++ t.toList := by
  induction ss generalizing s with
  | nil => simp
  | cons t ts ih =>
    rw [String.intercalate_cons_cons, String.toList_append, String.toList_append, ih,
      List.flatMap_cons, List.append_assoc, List.append_assoc]

/-! ### Lines of source code -/

/-- Line feed and carriage return end a line of source code. -/
def isLineBreak (c : Char) : Bool :=
  c == '\n' || c == '\r'

/-- The lines of a text as source code. -/
def sourceLines (s : String) : List String :=
  (List.splitOnP isLineBreak s.toList).map String.ofList

/-- The lines of a text that are not empty. -/
def codeLines (s : String) : List String :=
  (sourceLines s).filter (· ≠ "")

theorem toList_lines (ls : List String) :
    (lines ls).toList = (ls.map String.toList).flatMap (· ++ ['\n']) := by
  induction ls with
  | nil => rfl
  | cons l ls ih =>
    rw [lines_cons, String.toList_append, String.toList_append, ih, List.map_cons, List.flatMap_cons]
    rfl

theorem sourceLines_joinLines {ls : List String} (hne : ls ≠ [])
    (h : ∀ l ∈ ls, ∀ c ∈ l.toList, isLineBreak c = false) : sourceLines (joinLines ls) = ls := by
  obtain ⟨init, last, rfl⟩ := (List.eq_nil_or_concat ls).resolve_left hne
  rw [List.concat_eq_append, List.forall_mem_append, List.forall_mem_singleton] at h
  have hinit : ∀ w ∈ init.map String.toList, ∀ c ∈ w, isLineBreak c = false := by
    intro w hw
    obtain ⟨l, hl, rfl⟩ := List.mem_map.1 hw
    exact h.1 l hl
  rw [List.concat_eq_append, joinLines_concat, sourceLines, String.toList_append, toList_lines,
    splitOnP_flatMap_append rfl hinit, List.splitOnP_eq_singleton h.2]
  simp [Function.comp_def]

theorem codeLines_joinLines {ls : List String}
    (h : ∀ l ∈ ls, ∀ c ∈ l.toList, isLineBreak c = false) (hne : ∀ l ∈ ls, l ≠ "") :
    codeLines (joinLines ls) = ls := by
  cases ls with
  | nil => rfl
  | cons l ls =>
    rw [codeLines, sourceLines_joinLines (List.cons_ne_nil _ _) h, List.filter_eq_self]
    simpa using hne

end CapsuleKit.Text
