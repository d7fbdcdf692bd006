import CapsuleKit.Console.Command
import CapsuleKit.Proofs.Console.Layout
import CapsuleKit.Proofs.Console.Shown

/-!
# Instances in diagnostics

The line for an error or a warning has the id of the instance in brackets (`IsLineFor`), as markup.
An id is shown there as it is exactly if its brackets hold no tag and all of it is kept
(`IsVerbatim`), for which it may not start as a tag does (`isVerbatim_iff`): `instance_named_iff`.
-/

namespace CapsuleKit.Console

/-! ### Ids in brackets -/

/-- An id that is shown as it is where it stands in brackets. -/
structure IsVerbatim (id : String) : Prop extends IsKept id.toList where
  noTag : IsTagFree ('[' :: (id.toList ++ [']']))

theorem isVerbatim_empty : IsVerbatim "" where
  noEscape := by decide
  noControl := List.forall_mem_nil _
  noTag := by
    refine isTagFree_iff.2 fun rest hrest => ?_
    obtain heq | hrest := List.suffix_cons_iff.1 hrest
    · obtain ⟨-, rfl⟩ := List.cons.inj heq
      rfl
    · cases List.mem_singleton.1 (hrest.subset List.mem_cons_self)

theorem isVerbatim_iff {id : String} {c : Char} {cs : List Char} (hid : id.toList = c :: cs)
    (hopening : '[' ∉ c :: cs) (hclosing : ']' ∉ c :: cs) :
    IsVerbatim id ↔ startsTag c = false ∧ ∀ d ∈ c :: cs, isDropped d = false := by
  have hinside : ∀ d ∈ c :: cs, (d != ']' && d != '[') = true := by
    intro d hd
    rw [Bool.and_eq_true, bne_iff_ne, bne_iff_ne]
    exact ⟨fun h => hclosing (h ▸ hd), fun h => hopening (h ▸ hd)⟩
  constructor
  · intro h
    refine ⟨?_, hid ▸ h.noControl⟩
    cases hc : startsTag c with
    | false => rfl
    | true => exact absurd (hid ▸ List.infix_rfl) (h.noTag (c :: cs) ⟨⟨c, cs, rfl, hc⟩, hinside⟩)
  · rintro ⟨hc, hkept⟩
    refine ⟨⟨fun hescape => ?_, hid ▸ hkept⟩, isTagFree_iff.2 fun rest hrest => ?_⟩
    · rw [hid] at hescape
      exact hopening (hescape.subset (by simp))
    · rw [hid] at hrest
      obtain heq | hrest := List.suffix_cons_iff.1 hrest
      · obtain ⟨-, rfl⟩ := List.cons.inj heq
        exact tagBody?_eq_none hc _
      · exact absurd (hrest.subset List.mem_cons_self) (by simpa using hopening)

/-! ### Lines -/

/-- A line that is printed for an error or a warning among the results. -/
inductive IsLineFor (results : List (String × CompileResult)) (platform : String) (d : Diagnostic) :
    String → Prop
  | error {r : CompileResult} (hr : (platform, r) ∈ results) (hd : d ∈ r.errors.getD []) :
    IsLineFor results platform d (errorLine platform d)
  | warning {r : CompileResult} {line : String} {rest : List String} (hr : (platform, r) ∈ results)
    (hd : d ∈ r.warnings.getD []) (hline : warningLines platform d = line :: rest) :
    IsLineFor results platform d line

namespace IsLineFor

variable {results : List (String × CompileResult)} {platform : String} {d : Diagnostic}
  {line : String}

theorem mem_diagnosticLines (h : IsLineFor results platform d line) :
    line ∈ diagnosticLines results := by
  cases h with
  | error hr hd =>
    exact List.mem_flatMap.2 ⟨_, hr, List.mem_append_left _ (List.mem_map.2 ⟨d, hd, rfl⟩)⟩
  | warning hr hd hline =>
    refine List.mem_flatMap.2 ⟨_, hr, List.mem_append_right _ (List.mem_flatMap.2 ⟨d, hd, ?_⟩)⟩
    rw [hline]
    exact List.mem_cons_self

theorem exists_toList (h : IsLineFor results platform d line) :
    ∃ tag mark : List Char, IsTagName tag ∧ '[' ∉ mark ∧
      line.toList = [' ', ' '] ++ '[' :: (tag ++ ']' :: (mark ++ '[' :: ('/' :: tag ++ ']' ::
        (' ' :: platform.toList ++ (whereText d).toList ++
          (' ' :: (d.code.toList ++ ':' :: ' ' :: d.message.toList)))))) := by
  cases h with
  | error =>
    refine ⟨"red".toList, "✗".toList, ⟨List.all_eq_true.1 rfl, 'r', _, rfl, rfl⟩, by decide, ?_⟩
    unfold errorLine
    simp
  | warning hr hd hline =>
    rw [warningLines, List.cons.injEq] at hline
    rw [← hline.1]
    refine ⟨"yellow".toList, "!".toList, ⟨List.all_eq_true.1 rfl, 'y', _, rfl, rfl⟩, by decide, ?_⟩
    simp

end IsLineFor

theorem toList_whereText {d : Diagnostic} {id : String} (h : d.capsuleId = some id)
    (hne : id ≠ "") : (whereText d).toList = ' ' :: '[' :: (id.toList ++ [']']) := by
  rw [whereText, h]
  simp [hne]

/-! ### What is shown -/

theorem text_eq_of_ofText {s : String} {m : Marked} (h : Marked.ofText s = .ok m) :
    m.text = shownText (piecesFrom (s.toList.length + 1) [] s.toList) := by
  rw [text_eq_shownText h, pieces, String.length_toList]

theorem printLine_eq {s : String} {m : Marked} (h : Marked.ofText s = .ok m)
    (hcheck : m.check = .ok ()) (htab : '\t' ∉ m.text) (hshort : 2 * m.text.length ≤ consoleWidth) :
    printLine s = .ok (String.ofList m.text ++ "\n") := by
  rw [printLine, h]
  show (m.check >>= fun _ => _) = _
  rw [hcheck]
  show Except.ok _ = _
  rw [laidOut_eq _ htab hshort, ← List.splitOn_eq_splitOnP, List.intercalate_splitOn]

namespace IsLineFor

variable {results : List (String × CompileResult)} {platform : String} {d : Diagnostic}
  {line id : String}

theorem infix_text (h : IsLineFor results platform d line) (hid : d.capsuleId = some id)
    (hverbatim : IsVerbatim id) {m : Marked} (hm : Marked.ofText line = .ok m) :
    id.toList <:+: m.text := by
  by_cases hne : id = ""
  · rw [hne]
    exact List.nil_infix
  · obtain ⟨tag, mark, -, -, hline⟩ := h.exists_toList
    rw [toList_whereText hid hne] at hline
    obtain ⟨front, rest, hsplit⟩ : ∃ front rest,
        line.toList = front ++ ' ' :: '[' :: (id.toList ++ ']' :: rest) := by
      refine ⟨[' ', ' '] ++ '[' :: (tag ++ ']' :: (mark ++ '[' :: ('/' :: tag ++ ']' ::
        (' ' :: platform.toList)))), ' ' :: (d.code.toList ++ ':' :: ' ' :: d.message.toList), ?_⟩
      rw [hline]
      simp
    rw [text_eq_of_ofText hm, hsplit]
    exact infix_shownText hverbatim.noTag hverbatim.toIsKept front rest (Nat.lt_succ_self _)

theorem isMarkup (h : IsLineFor results platform d line) (hid : d.capsuleId = some id)
    (hverbatim : IsVerbatim id) (hplatform : '[' ∉ platform.toList) (hcode : '[' ∉ d.code.toList)
    (hmessage : '[' ∉ d.message.toList) : IsMarkup line := by
  obtain ⟨tag, mark, htag, hmark, hline⟩ := h.exists_toList
  refine isMarkup_of_element hline htag (by decide) (by decide) hmark fun names => ?_
  by_cases hne : id = ""
  · have hwhere : (whereText d).toList = [] := by
      rw [whereText, hid, hne]
      rfl
    rw [hwhere]
    exact .plain (by simp [hplatform, hcode, hmessage])
  · have hsame : ' ' :: platform.toList ++ (' ' :: '[' :: (id.toList ++ [']'])) ++
        (' ' :: (d.code.toList ++ ':' :: ' ' :: d.message.toList)) =
        ' ' :: (platform.toList ++ [' ']) ++ ('[' :: (id.toList ++ [']']) ++
          (' ' :: (d.code.toList ++ ':' :: ' ' :: d.message.toList))) := by simp
    rw [toList_whereText hid hne, hsame]
    exact .tagFree (hverbatim.noTag.append (by simp [hplatform]) (by simp [hcode, hmessage])) names

end IsLineFor

/-! ### The least line -/

/-- An error with an id and nothing else. -/
def bareError (id : String) : Diagnostic where
  code := ""
  message := ""
  capsuleId := some id

theorem exists_shownText_cross (tail : List Char) {fuel : Nat}
    (hfuel : ("  [red]✗[/red]".toList ++ tail).length < fuel) :
    ∃ k, tail.length < k ∧ shownText (piecesFrom fuel [] ("  [red]✗[/red]".toList ++ tail)) =
      ' ' :: ' ' :: '✗' :: shownText (piecesFrom k [] tail) := by
  have hopening : IsTagBody ['r', 'e', 'd'] := ⟨⟨_, _, rfl, rfl⟩, List.all_eq_true.1 rfl⟩
  have hclosing : IsTagBody ['/', 'r', 'e', 'd'] := ⟨⟨_, _, rfl, rfl⟩, List.all_eq_true.1 rfl⟩
  have hline : "  [red]✗[/red]".toList ++ tail = [' ', ' '] ++ '[' :: (['r', 'e', 'd'] ++ ']' ::
      (['✗'] ++ '[' :: (['/', 'r', 'e', 'd'] ++ ']' :: tail))) := by
    rw [String.toList_ofList]
    rfl
  rw [hline] at hfuel ⊢
  obtain ⟨k, hk, hfirst⟩ := exists_shownText_tag (by decide) (by decide) hopening hfuel
  obtain ⟨k, hk, hsecond⟩ := exists_shownText_tag (by decide) (by decide) hclosing hk
  exact ⟨k, hk, by rw [hfirst, hsecond]; rfl⟩

/-- Around the id the line of such an error shows no mark, so that all marks of the id are shown
only if it is verbatim. -/
theorem isVerbatim_of_countP {id : String} (hne : id ≠ "") {m : Marked}
    (h : Marked.ofText (errorLine "" (bareError id)) = .ok m)
    (hcount : id.toList.countP isMark ≤ m.text.countP isMark) : IsVerbatim id := by
  have hline : (errorLine "" (bareError id)).toList = "  [red]✗[/red]".toList ++
      ([' ', ' '] ++ ('[' :: (id.toList ++ [']'])) ++ [' ', ':', ' ']) := by
    unfold errorLine
    simp only [String.toList_append, toList_whereText (d := bareError id) rfl hne]
    simp [bareError]
  have hmarks : ([' ', ' '] ++ ('[' :: (id.toList ++ [']'])) ++ [' ', ':', ' ']).countP isMark =
      id.toList.countP isMark := by
    have hspaces : List.countP isMark [' ', ' '] = 0 := rfl
    have hclosing : List.countP isMark [']'] = 0 := rfl
    have hend : List.countP isMark [' ', ':', ' '] = 0 := rfl
    rw [List.countP_append, List.countP_append, hspaces, hend, Nat.zero_add, Nat.add_zero,
      List.countP_cons_of_neg (by decide), List.countP_append, hclosing, Nat.add_zero]
  obtain ⟨k, hk, hshown⟩ := exists_shownText_cross
    ([' ', ' '] ++ ('[' :: (id.toList ++ [']'])) ++ [' ', ':', ' ']) (Nat.lt_succ_self _)
  rw [text_eq_of_ofText h, hline, hshown, List.countP_cons_of_neg (by decide),
    List.countP_cons_of_neg (by decide), List.countP_cons_of_neg (by decide), ← hmarks] at hcount
  obtain ⟨hkept, hfree⟩ := (countP_piecesFrom hk []).2 (by rwa [List.countP_nil, Nat.zero_add])
  have hbrackets : '[' :: (id.toList ++ [']']) <:+:
      [' ', ' '] ++ ('[' :: (id.toList ++ [']'])) ++ [' ', ':', ' '] := List.infix_append _ _ _
  have hid : id.toList <:+: '[' :: (id.toList ++ [']']) := ⟨['['], [']'], rfl⟩
  exact ⟨hkept.of_isInfix (hid.trans hbrackets), hfree.of_isInfix hbrackets⟩

/-- When the line for an error or a warning names the instance. For all lines that hold no bracket
but those around the id it is shown exactly if the id is verbatim. A verbatim id is also shown in
every other line that can be read, and unless that line is long or has tabs, its text is printed as
it is. -/
theorem instance_named_iff (id : String) :
    ((∀ results platform d line, IsLineFor results platform d line → d.capsuleId = some id →
        '[' ∉ platform.toList → '[' ∉ d.code.toList → '[' ∉ d.message.toList →
        Gives (Marked.ofText line) fun m => m.check = .ok () ∧ id.toList <:+: m.text) ↔
      IsVerbatim id) ∧
    (IsVerbatim id → ∀ results platform d line, IsLineFor results platform d line →
      d.capsuleId = some id → line ∈ diagnosticLines results ∧
        ∀ m, Marked.ofText line = .ok m → id.toList <:+: m.text ∧
          (m.check = .ok () → '\t' ∉ m.text → 2 * m.text.length ≤ consoleWidth →
            printLine line = .ok (String.ofList m.text ++ "\n"))) ∧
    ∀ c cs, id.toList = c :: cs → '[' ∉ c :: cs → ']' ∉ c :: cs →
      (IsVerbatim id ↔ startsTag c = false ∧ ∀ d ∈ c :: cs, isDropped d = false) := by
  refine ⟨⟨fun h => ?_, ?_⟩, ?_, fun c cs => isVerbatim_iff⟩
  · -- An error with nothing but the id is enough to tell: it has to show all marks of the id.
    by_cases hne : id = ""
    · rw [hne]
      exact isVerbatim_empty
    · let r : CompileResult := { success := false, platform := "", errors := some [bareError id] }
      have hline : IsLineFor [("", r)] "" (bareError id) (errorLine "" (bareError id)) :=
        .error List.mem_cons_self List.mem_cons_self
      obtain ⟨m, hm, -, hshown⟩ := h _ _ _ _ hline rfl List.not_mem_nil List.not_mem_nil
        List.not_mem_nil
      exact isVerbatim_of_countP hne hm hshown.sublist.countP_le
  · intro hverbatim results platform d line hline hid hplatform hcode hmessage
    obtain ⟨m, hm, hcheck⟩ := hline.isMarkup hid hverbatim hplatform hcode hmessage
    exact ⟨m, hm, hcheck, hline.infix_text hid hverbatim hm⟩
  · intro hverbatim results platform d line hline hid
    refine ⟨hline.mem_diagnosticLines, fun m hm => ⟨?_, printLine_eq hm⟩⟩
    exact hline.infix_text hid hverbatim hm

/-- An id of small letters is taken for a tag, and the error does not say where it is. -/
theorem instance_named_page :
    let c : Composition := { name := "Demo", root := some { id := "page", capsuleId := "lost" } }
    let r := Generator.web.compile ⟨⟨[]⟩, "web", c⟩
    let d : Diagnostic := ⟨"UNSUPPORTED_CAPSULE", "Unknown capsule 'lost'", some "page", none⟩
    let shown := "  ✗ web  UNSUPPORTED_CAPSULE: Unknown capsule 'lost'\n"
    IsLineFor [("web", r)] "web" d (errorLine "web" d) ∧ printLine (errorLine "web" d) = .ok shown ∧
      ¬ "page".toList <:+: shown.toList := by
  intro c r d shown
  have hd : d ∈ r.errors.getD [] := by decide +kernel
  have hprint : printLine (errorLine "web" d) = .ok shown := by decide +kernel
  exact ⟨.error List.mem_cons_self hd, hprint, by decide +kernel⟩

end CapsuleKit.Console
