import CapsuleKit.Console.Command
import CapsuleKit.Proofs.Console.Markup
import CapsuleKit.Proofs.Numerals
import CapsuleKit.Proofs.Orchestration

/-!
# What a compilation prints

Successful results of the known platforms make a table that can be drawn. Around it stand lines that
hold texts of the composition and of its diagnostics (`reportLines`), and what such a text says is
markup. All of them can be printed if the texts hold no opening bracket and ids are plain words
(`Compilation.HasPlainTexts.printable`); an id stands in brackets and may itself be taken for a tag.
-/

namespace CapsuleKit.Console

/-! ### Tables -/

theorem isMarkup_of_notMem {s : String} (h : '[' ∉ s.toList) : IsMarkup s :=
  Prints.isMarkup (.plain h)

theorem isMarkup_of_isNumeral {s : String} (h : IsNumeral s) : IsMarkup s := by
  refine isMarkup_of_notMem fun hmem => ?_
  exact absurd (h.chars '[' hmem) (by decide)

theorem isNumeral_tenths (x : Binary64) : IsNumeral x.tenths := by
  have hpoint : IsNumeral "." := .of_all rfl rfl
  unfold Binary64.tenths
  split
  · exact .float x
  · dsimp only
    split
    · exact (((IsNumeral.of_all rfl rfl).append (.decimalText _)).append hpoint).append (.decimalText _)
    · rw [String.empty_append]
      exact ((IsNumeral.decimalText _).append hpoint).append (.decimalText _)

theorem getD_of_forall {α : Type} {P : α → Prop} {as : List α} {default : α}
    (h : ∀ a ∈ as, P a) (hdefault : P default) (i : Nat) : P (as.getD i default) := by
  rw [List.getD_eq_getElem?_getD]
  cases ha : as[i]? with
  | none => exact hdefault
  | some a => exact h a (List.mem_of_getElem? ha)

theorem Table.gives_text {t : Table} (htitle : IsMarkup t.title)
    (hheads : ∀ c ∈ t.columns, IsMarkup c.head)
    (hrows : ∀ row ∈ t.rows, ∀ cell ∈ row, IsMarkup cell) : Gives t.text fun _ => True := by
  have hcells : ∀ column ∈ t.cells, ∀ cell ∈ column, IsMarkup cell := by
    intro column hcolumn
    obtain ⟨p, hp, rfl⟩ := List.mem_map.1 hcolumn
    refine List.forall_mem_cons.2 ⟨hheads p.1 (List.fst_mem_of_mem_zipIdx hp), ?_⟩
    refine List.forall_mem_map.2 fun row hrow => ?_
    exact getD_of_forall (hrows row hrow) (isMarkup_of_notMem List.not_mem_nil) p.2
  have hlines : Gives t.lines fun _ => True := by
    refine .bind htitle fun title _ => ?_
    refine .bind (.mapM fun column hcolumn => .mapM fun cell hcell => hcells column hcolumn cell hcell)
      fun columns hcolumns => ?_
    have hrow : ∀ i, ∀ m ∈ columns.map (·.getD i ⟨[], []⟩), Gives m.check fun _ => True := by
      intro i
      refine List.forall_mem_map.2 fun column hcolumn => ?_
      have hchecks : ∀ m ∈ column, Gives m.check fun _ => True :=
        fun m hm => ⟨(), hcolumns column hcolumn m hm, trivial⟩
      have hempty : Gives (Marked.check ⟨[], []⟩) fun _ => True := ⟨(), rfl, trivial⟩
      exact getD_of_forall hchecks hempty i
    refine .bind (.mapM fun row hmem => .mapM (R := fun _ => True) ?_) fun _ _ => .ok trivial
    rcases List.mem_cons.1 hmem with rfl | hmem
    · exact hrow 0
    · obtain ⟨i, -, rfl⟩ := List.mem_map.1 hmem
      exact hrow (i + 1)
  exact .bind hlines fun _ _ => .ok trivial

/-! ### What is printed -/

theorem notMem_of_known {platform : String} (h : platform ∈ Manifest.knownPlatforms) :
    '[' ∉ platform.toList := by
  simp only [Manifest.knownPlatforms, List.mem_cons, List.not_mem_nil, or_false] at h
  rcases h with rfl | rfl | rfl | rfl <;> decide

theorem gives_resultsTable {results : List (String × CompileResult)}
    (hplatform : ∀ p ∈ results, p.1 ∈ Manifest.knownPlatforms)
    (hsuccess : ∀ p ∈ results, p.2.success = true) :
    Gives (resultsTable results).text fun _ => True := by
  have htitle : '[' ∉ "Compilation Results".toList := by decide
  have hheads : (resultsTable results).columns.all (fun c => !c.head.toList.contains '[') = true := rfl
  refine Table.gives_text (isMarkup_of_notMem htitle) (fun c hc => ?_) ?_
  · have hhead := List.all_eq_true.1 hheads c hc
    exact isMarkup_of_notMem (by simpa using hhead)
  · refine List.forall_mem_map.2 fun p hp => ?_
    obtain ⟨platform, r⟩ := p
    have hstatus : IsMarkup (if r.success then "[green]ok[/green]" else "[red]failed[/red]") := by
      rw [if_pos (hsuccess _ hp)]
      have hcell : "[green]ok[/green]".toList =
          [] ++ '[' :: ("green".toList ++ ']' :: ("ok".toList ++
            '[' :: ('/' :: "green".toList ++ ']' :: []))) := rfl
      exact isMarkup_of_element hcell ⟨List.all_eq_true.1 rfl, 'g', _, rfl, rfl⟩ List.not_mem_nil
        (by simp) (by decide) fun _ => .plain List.not_mem_nil
    simp only [List.forall_mem_cons]
    exact ⟨isMarkup_of_notMem (notMem_of_known (hplatform _ hp)), hstatus,
      isMarkup_of_isNumeral (.int _), isMarkup_of_isNumeral (.int _),
      isMarkup_of_isNumeral (.decimalText _), isMarkup_of_isNumeral (.decimalText _),
      isMarkup_of_isNumeral (isNumeral_tenths _), List.forall_mem_nil _⟩

/-- A diagnostic whose texts hold no bracket and whose instance has a plain id. -/
structure HasPlainTexts (d : Diagnostic) : Prop where
  code : '[' ∉ d.code.toList
  message : '[' ∉ d.message.toList
  suggestion : ∀ s, d.suggestion = some s → '[' ∉ s.toList
  capsuleId : ∀ id, d.capsuleId = some id → IsPlain id

instance (d : Diagnostic) : Decidable (HasPlainTexts d) :=
  decidable_of_iff ('[' ∉ d.code.toList ∧ '[' ∉ d.message.toList ∧
      (∀ s ∈ d.suggestion, '[' ∉ s.toList) ∧ ∀ id ∈ d.capsuleId, IsPlain id)
    ⟨fun ⟨hcode, hmessage, hsuggestion, hid⟩ => ⟨hcode, hmessage, hsuggestion, hid⟩,
      fun h => ⟨h.code, h.message, h.suggestion, h.capsuleId⟩⟩

theorem prints_whereText {d : Diagnostic} (h : HasPlainTexts d) {front rest : List Char}
    (hfront : '[' ∉ front) (hrest : '[' ∉ rest) (names : List String) :
    Prints names (front ++ (whereText d).toList ++ rest) := by
  unfold whereText
  split
  · rename_i id hid
    split
    · exact .plain (by simp [hfront, hrest])
    · rename_i hempty
      have hplain := h.capsuleId id hid
      have hcs : '[' ∉ front ++ [' '] := by simp [hfront]
      have htext : front ++ (" [" ++ id ++ "]").toList ++ rest =
          front ++ [' '] ++ '[' :: (id.toList ++ ']' :: rest) := by simp
      rw [htext]
      cases hchars : id.toList with
      | nil => simp [← String.toList_eq_nil_iff, hchars] at hempty
      | cons c cs =>
        rw [IsPlain, hchars] at hplain
        have hfirst := hplain c List.mem_cons_self
        cases hc : c.isLower with
        | true => exact .opening ⟨hplain, c, cs, rfl, hc⟩ hcs (by simp) fun name _ => .plain hrest
        | false =>
          have hstart : startsTag c = false := by
            simp only [startsTag, hc, Bool.false_or, Bool.or_eq_false_iff, beq_eq_false_iff_ne]
            exact ⟨⟨ne_of_isPlainChar hfirst rfl, ne_of_isPlainChar hfirst rfl⟩,
              ne_of_isPlainChar hfirst rfl⟩
          have hid : '[' ∉ c :: cs := fun hmem => ne_of_isPlainChar (hplain _ hmem) rfl rfl
          refine .bracket hcs (tagBody?_eq_none hstart _) (.plain ?_)
          simpa [hrest] using hid
  · exact .plain (by simp [hfront, hrest])

theorem printable_warning {platform : String} (hplatform : '[' ∉ platform.toList) {d : Diagnostic}
    (h : HasPlainTexts d) : ∀ line ∈ warningLines platform d, Printable line := by
  refine List.forall_mem_cons.2 ⟨?_, ?_⟩
  · have hfront : '[' ∉ ' ' :: platform.toList := by simp [hplatform]
    have hrest : '[' ∉ " ".toList ++ d.code.toList ++ ": ".toList ++ d.message.toList := by
      simp [h.code, h.message]
    have hline : ("  [yellow]![/yellow] " ++ platform ++ whereText d ++ " " ++ d.code ++ ": " ++
        d.message).toList =
        "  ".toList ++ '[' :: ("yellow".toList ++ ']' :: ("!".toList ++
          '[' :: ('/' :: "yellow".toList ++ ']' :: (' ' :: platform.toList ++ (whereText d).toList ++
            (" ".toList ++ d.code.toList ++ ": ".toList ++ d.message.toList))))) := by
      simp
    exact (isMarkup_of_element hline ⟨List.all_eq_true.1 rfl, 'y', _, rfl, rfl⟩ (by decide) (by decide)
      (by decide) fun names => prints_whereText h hfront hrest names).printable
  · split
    · rename_i s hs
      split
      · exact List.forall_mem_nil _
      · have hline : ("      [dim]" ++ s ++ "[/dim]").toList =
            "      ".toList ++ '[' :: ("dim".toList ++ ']' :: (s.toList ++
              '[' :: ('/' :: "dim".toList ++ ']' :: []))) := by simp
        exact List.forall_mem_singleton.2 (isMarkup_of_element hline
          ⟨List.all_eq_true.1 rfl, 'd', _, rfl, rfl⟩ (by decide) (by decide) (h.suggestion s hs)
          fun _ => .plain List.not_mem_nil).printable
    · exact List.forall_mem_nil _

def headingLine (c : Compilation) : String :=
  "\n[bold]" ++ c.composition.name ++ "[/bold] v" ++ c.composition.version ++ "\n"

def endingLine (o : CompileOptions) (c : Compilation) : String :=
  if o.dryRun then "\n[dim]Dry run: no files written[/dim]"
  else "\nOutput: [cyan]" ++ c.output.text ++ "[/cyan]"

/-- The lines that are printed around the table. -/
def reportLines (o : CompileOptions) (c : Compilation) : List String :=
  headingLine c :: (diagnosticLines c.results ++ [endingLine o c])

/-- A compilation whose texts hold no bracket. -/
structure Compilation.HasPlainTexts (c : Compilation) : Prop where
  name : '[' ∉ c.composition.name.toList
  version : '[' ∉ c.composition.version.toList
  output : '[' ∉ c.output.text.toList
  warnings : ∀ p ∈ c.results, ∀ d ∈ p.2.warnings.getD [], Console.HasPlainTexts d

instance (c : Compilation) : Decidable c.HasPlainTexts :=
  decidable_of_iff ('[' ∉ c.composition.name.toList ∧ '[' ∉ c.composition.version.toList ∧
      '[' ∉ c.output.text.toList ∧ ∀ p ∈ c.results, ∀ d ∈ p.2.warnings.getD [], HasPlainTexts d)
    ⟨fun ⟨hname, hversion, houtput, hwarnings⟩ => ⟨hname, hversion, houtput, hwarnings⟩,
      fun h => ⟨h.name, h.version, h.output, h.warnings⟩⟩

namespace Compilation.HasPlainTexts

variable {c : Compilation} (h : c.HasPlainTexts)

include h

theorem printable_heading : Printable (headingLine c) := by
  have hline : (headingLine c).toList =
      "\n".toList ++ '[' :: ("bold".toList ++ ']' :: (c.composition.name.toList ++
        '[' :: ('/' :: "bold".toList ++ ']' :: (" v".toList ++ c.composition.version.toList ++
          "\n".toList)))) := by
    simp [headingLine]
  have hafter : '[' ∉ " v".toList ++ c.composition.version.toList ++ "\n".toList := by
    simp [h.version]
  exact (isMarkup_of_element hline ⟨List.all_eq_true.1 rfl, 'b', _, rfl, rfl⟩ (by decide) (by decide)
    h.name fun _ => .plain hafter).printable

theorem printable_ending (o : CompileOptions) : Printable (endingLine o c) := by
  unfold endingLine
  split
  · have hline : "\n[dim]Dry run: no files written[/dim]".toList =
        "\n".toList ++ '[' :: ("dim".toList ++ ']' :: ("Dry run: no files written".toList ++
          '[' :: ('/' :: "dim".toList ++ ']' :: []))) := rfl
    exact (isMarkup_of_element hline ⟨List.all_eq_true.1 rfl, 'd', _, rfl, rfl⟩ (by decide)
      (by decide) (by decide) fun _ => .plain List.not_mem_nil).printable
  · have hline : ("\nOutput: [cyan]" ++ c.output.text ++ "[/cyan]").toList =
        "\nOutput: ".toList ++ '[' :: ("cyan".toList ++ ']' :: (c.output.text.toList ++
          '[' :: ('/' :: "cyan".toList ++ ']' :: []))) := by simp
    exact (isMarkup_of_element hline ⟨List.all_eq_true.1 rfl, 'c', _, rfl, rfl⟩ (by decide)
      (by decide) h.output fun _ => .plain List.not_mem_nil).printable

theorem printable (hplatform : ∀ p ∈ c.results, p.1 ∈ Manifest.knownPlatforms)
    (herrors : ∀ p ∈ c.results, p.2.errors = none) (o : CompileOptions) :
    ∀ line ∈ reportLines o c, Printable line := by
  have hdiagnostics : ∀ line ∈ diagnosticLines c.results, Printable line := by
    intro line hline
    obtain ⟨⟨platform, r⟩, hp, hline⟩ := List.mem_flatMap.1 hline
    have hnone : r.errors = none := herrors _ hp
    simp only [hnone, Option.getD_none, List.map_nil, List.nil_append] at hline
    obtain ⟨d, hd, hline⟩ := List.mem_flatMap.1 hline
    exact printable_warning (notMem_of_known (hplatform _ hp)) (h.warnings _ hp d hd) line hline
  rw [reportLines, List.forall_mem_cons, List.forall_mem_append, List.forall_mem_singleton]
  exact ⟨h.printable_heading, hdiagnostics, h.printable_ending o⟩

end Compilation.HasPlainTexts

end CapsuleKit.Console
