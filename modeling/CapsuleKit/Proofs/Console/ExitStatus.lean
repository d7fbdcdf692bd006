import CapsuleKit.Proofs.Console.Report

/-!
# The exit status of a compilation

Whether a compilation ends with status zero. Printing a document never fails, so that with `--json`
only the results count. Otherwise what is printed is markup, and a line that cannot be printed makes
the status one whatever the results are. `exit_status_iff` says that there is no other way: the table
of results is always drawn, because successful results belong to the four known platforms.
-/

namespace CapsuleKit.Console

/-! ### Outcomes -/

namespace Outcome

/-- Breaking off gives the exit code one. -/
def IsFair (o : Outcome) : Prop :=
  o.crash ≠ none → o.exit = 1

variable {o : Outcome}

theorem IsFair.andPrint (h : o.IsFair) (text : Except MarkupError String) :
    (o.andPrint text).IsFair := by
  unfold Outcome.andPrint
  split
  · exact h
  · exact fun hcrash => h hcrash
  · exact fun _ => rfl

theorem IsFair.andPrintLines (h : o.IsFair) (ls : List String) : (o.andPrintLines ls).IsFair := by
  induction ls generalizing o with
  | nil => exact h
  | cons l ls ih => exact ih (h.andPrint (printLine l))

theorem crash_andPrint (text : Except MarkupError String) :
    (o.andPrint text).crash = none ↔ o.crash = none ∧ Gives text fun _ => True := by
  unfold Outcome.andPrint
  split
  · rename_i hcrash
    simp [hcrash]
  · rename_i s hcrash
    simp [hcrash, Gives]
  · rename_i e hcrash
    simp [Gives]

theorem crash_andPrintLines (ls : List String) :
    (o.andPrintLines ls).crash = none ↔ o.crash = none ∧ ∀ l ∈ ls, Printable l := by
  induction ls generalizing o with
  | nil => simp [andPrintLines]
  | cons l ls ih =>
    have hstep : o.andPrintLines (l :: ls) = (o.andPrint (printLine l)).andPrintLines ls := rfl
    rw [hstep, ih, crash_andPrint, List.forall_mem_cons, and_assoc]
    rfl

theorem exit_withExit (h : o.IsFair) (code : Nat) :
    (o.withExit code).exit = if o.crash = none then code else 1 := by
  unfold withExit
  cases hcrash : o.crash with
  | none => simp
  | some x => simp [h (by simp [hcrash])]

end Outcome

/-! ### Compilations -/

theorem compilation_eq (t : FileTree) (o : CompileOptions) :
    compilation t o = do
      let loaded ← (Manifest.load t (o.project ++ Path.ofText Manifest.fileName)).mapError .fault
      let m := loaded.manifest
      let _ ← (logLevel m.logLevel o.verbose).mapError .level
      let path ← o.composition.elim (manifestPath m m.composition) pure
      let read ← (t.composition path).mapError .fault
      let c ← withTheme read o.theme m.theme
      let registry ← (registryOf t m o.capsuleFiles).mapError .fault
      let output ← o.output.elim (manifestPath m m.outputDir) pure
      let limit := (o.timeout.or m.timeout).map TimeLimit.real
      return ⟨c, (Orchestrator.standard limit).compileAll registry c
        (some (firstGiven [o.platforms, c.targets, m.targets])), output⟩ := by
  unfold compilation
  cases o.composition <;> cases o.output <;> rfl

theorem exists_results {t : FileTree} {o : CompileOptions} {c : Compilation}
    (h : compilation t o = .ok c) : ∃ loaded registry limit,
      Manifest.load t (o.project ++ Path.ofText Manifest.fileName) = .ok loaded ∧
        c.results = (Orchestrator.standard limit).compileAll registry c.composition
          (some (firstGiven [o.platforms, c.composition.targets, loaded.manifest.targets])) := by
  rw [compilation_eq] at h
  obtain ⟨loaded, hloaded, h⟩ := bind_eq_ok.1 h
  obtain ⟨level, -, h⟩ := bind_eq_ok.1 h
  obtain ⟨path, -, h⟩ := bind_eq_ok.1 h
  obtain ⟨read, -, h⟩ := bind_eq_ok.1 h
  obtain ⟨composition, -, h⟩ := bind_eq_ok.1 h
  obtain ⟨registry, -, h⟩ := bind_eq_ok.1 h
  obtain ⟨output, -, h⟩ := bind_eq_ok.1 h
  obtain rfl := Except.ok.inj h
  exact ⟨loaded, registry, _, mapError_eq_ok.1 hloaded, rfl⟩

theorem isRegular_of_mem_standard {limit : Option TimeLimit} {k : Compiler}
    (h : k ∈ (Orchestrator.standard limit).compilers) : k.IsRegular limit := by
  intro r c
  simp only [Orchestrator.standard, List.mem_cons, List.not_mem_nil, or_false] at h
  rcases h with rfl | rfl | rfl | rfl <;> exact .inl ⟨_, rfl⟩

theorem known_of_success {limit : Option TimeLimit} {registry : Registry} {c : Composition}
    {platform : String}
    (h : ((Orchestrator.standard limit).compileOne registry c platform).success = true) :
    ((Orchestrator.standard limit).compileOne registry c platform).errors = none ∧
      platform ∈ Manifest.knownPlatforms := by
  have hwell : ((Orchestrator.standard limit).compileOne registry c platform).IsWellFormed platform :=
    Orchestrator.isWellFormed_compileOne fun k hk => isRegular_of_mem_standard hk
  refine ⟨hwell.success_iff.1 h, ?_⟩
  rcases (Orchestrator.standard limit).compileOne_cases registry c platform with
    ⟨code, message, heq⟩ | ⟨k, hk, -, -⟩
  · rw [heq] at h
    cases h
  · obtain ⟨hmem, rfl⟩ := Orchestrator.find?_eq_some hk
    exact List.mem_map_of_mem (f := Compiler.platform) hmem

/-! ### Reports -/

/-- What is printed about a compilation, before the exit code is set. -/
def printed (t : FileTree) (o : CompileOptions) (c : Compilation) : Outcome :=
  let start : Outcome := { output := "", tree := t }
  if o.asJson then start.andPrint (.ok (Json.pretty (payload c.results) ++ "\n"))
  else
    ((start.andPrintLines [headingLine c]).andPrint (resultsTable c.results).text).andPrintLines
      (diagnosticLines c.results ++ [endingLine o c])

theorem report_eq (t : FileTree) (o : CompileOptions) (c : Compilation) : report t o c =
    (printed t o c).withExit (if (Summary.ofResults c.results).success then 0 else 1) :=
  rfl

theorem isFair_printed (t : FileTree) (o : CompileOptions) (c : Compilation) :
    (printed t o c).IsFair := by
  have hstart : Outcome.IsFair { output := "", tree := t } := fun h => absurd rfl h
  unfold printed
  dsimp only
  split
  · exact hstart.andPrint _
  · exact ((hstart.andPrintLines _).andPrint _).andPrintLines _

theorem crash_printed (t : FileTree) (o : CompileOptions) (c : Compilation) :
    (printed t o c).crash = none ↔ o.asJson = true ∨
      (Gives (resultsTable c.results).text (fun _ => True) ∧
        ∀ line ∈ reportLines o c, Printable line) := by
  unfold printed
  dsimp only
  split
  · rename_i hjson
    simp [hjson, Outcome.crash_andPrint, Gives]
  · rename_i hjson
    rw [Outcome.crash_andPrintLines, Outcome.crash_andPrint, Outcome.crash_andPrintLines,
      List.forall_mem_singleton, reportLines, List.forall_mem_cons]
    constructor
    · rintro ⟨⟨⟨-, hheading⟩, htable⟩, hlines⟩
      exact .inr ⟨htable, hheading, hlines⟩
    · rintro (hasJson | ⟨htable, hheading, hlines⟩)
      · exact absurd hasJson hjson
      · exact ⟨⟨⟨rfl, hheading⟩, htable⟩, hlines⟩

theorem exit_report (t : FileTree) (o : CompileOptions) {c : Compilation}
    (hknown : ∀ p ∈ c.results, p.2.success = true → p.1 ∈ Manifest.knownPlatforms) :
    (report t o c).exit = 0 ↔ (∀ p ∈ c.results, p.2.success = true) ∧
      (o.asJson = true ∨ ∀ line ∈ reportLines o c, Printable line) := by
  have hsummary : (Summary.ofResults c.results).success = true ↔
      ∀ p ∈ c.results, p.2.success = true := List.all_eq_true
  rw [report_eq, Outcome.exit_withExit (isFair_printed t o c), ← hsummary]
  cases hsuccess : (Summary.ofResults c.results).success with
  | false => simp
  | true =>
    have hall := hsummary.1 hsuccess
    have htable := gives_resultsTable (fun p hp => hknown p hp (hall p hp)) hall
    have hcrash := crash_printed t o c
    rw [and_iff_right htable] at hcrash
    rw [← hcrash]
    simp

theorem exit_report_le (t : FileTree) (o : CompileOptions) (c : Compilation) :
    (report t o c).exit ≤ 1 := by
  rw [report_eq, Outcome.exit_withExit (isFair_printed t o c)]
  split
  · split <;> omega
  · omega

/-! ### Command lines -/

namespace Arguments

section Words

variable {specs : List OptionSpec} {mixed : Bool} {word : String} (rest : List String)

theorem read_dashes : read specs mixed ("--" :: rest) = .ok { others := rest } := by
  rw [read, if_pos rfl]

theorem read_other (hdash : word ≠ "--") (hoption : isOptionWord word = false) :
    read specs false (word :: rest) = .ok { others := word :: rest } := by
  rw [read, if_neg hdash, hoption]
  rfl

theorem read_flags {flags : List String} (hdash : word ≠ "--") (hoption : isOptionWord word = true)
    (hword : Word.ofText specs word = .ok { flags }) : read specs mixed (word :: rest) =
      (read specs mixed rest).map (give (flags.map (Given.mk · ""))) := by
  rw [read, if_neg hdash, if_pos hoption, hword]
  cases read specs mixed rest <;> rfl

theorem read_unknown {e : UsageError} (hdash : word ≠ "--") (hoption : isOptionWord word = true)
    (hword : Word.ofText specs word = .error e) : read specs mixed (word :: rest) = .error e := by
  rw [read, if_neg hdash, if_pos hoption, hword]
  rfl

end Words

/-- The option that asks for a document. -/
def json : Given := ⟨"--json", ""⟩

theorem read_json (rest : List String) : read compileOptions true ("--json" :: rest) =
    (read compileOptions true rest).map (give [json]) := by
  have hword : Word.ofText compileOptions "--json" = .ok { flags := ["--json"] } := rfl
  exact read_flags rest (by decide) rfl hword

variable (a : Arguments) {option : String} (h : option ≠ "--json")

include h

theorem values_give_json : (a.give [json]).values option = a.values option := by
  simp [values, give, json, h.symm]

theorem value?_give_json : (a.give [json]).value? option = a.value? option := by
  rw [value?, values_give_json a h, value?]

theorem has_give_json : (a.give [json]).has option = a.has option := by
  simp [has, give, json, h.symm]

end Arguments

namespace Request

open Arguments

theorem optionFault?_give_json (t : FileTree) (a : Arguments) (option : String) :
    optionFault? t (a.give [json]) option = optionFault? t a option := by
  unfold optionFault?
  split
  · rw [value?_give_json a (by decide)]
  · rw [values_give_json a (by decide)]
  · rw [value?_give_json a (by decide)]
  · rw [value?_give_json a (by decide)]
  · rfl

theorem check_give_json (t : FileTree) (a : Arguments) (count : Nat) :
    check t (a.give [json]) count = check t a count := by
  have hfaults : ((a.give [json]).given.map (·.option)).findSome? (optionFault? t (a.give [json])) =
      (a.given.map (·.option)).findSome? (optionFault? t a) := by
    rw [funext (optionFault?_give_json t a)]
    rfl
  unfold check
  rw [hfaults]
  rfl

theorem compileOptionsOf_give_json (a : Arguments) :
    compileOptionsOf (a.give [json]) = { compileOptionsOf a with asJson := true } := by
  have hjson : (a.give [json]).has "--json" = true := rfl
  have hothers : (a.give [json]).others = a.others := rfl
  simp only [compileOptionsOf, projectOptionsOf, hjson, hothers,
    value?_give_json a (by decide : "--project" ≠ "--json"),
    values_give_json a (by decide : "--capsules" ≠ "--json"),
    values_give_json a (by decide : "--platform" ≠ "--json"),
    value?_give_json a (by decide : "--output" ≠ "--json"),
    value?_give_json a (by decide : "--theme" ≠ "--json"),
    value?_give_json a (by decide : "--timeout" ≠ "--json"),
    has_give_json a (by decide : "--dry-run" ≠ "--json"),
    has_give_json a (by decide : "--verbose" ≠ "--json")]

theorem ofCommand_eq_ok {t : FileTree} {specs : List OptionSpec} {count : Nat} {words : List String}
    {make : Arguments → Request} {r : Request} (h : ofCommand t specs count words make = .ok r)
    (hhelp : r ≠ .help) : ∃ a, read specs true words = .ok a ∧ a.has "--help" = false ∧
      check t a count = .ok () ∧ r = make a := by
  unfold ofCommand at h
  cases hread : read specs true words with
  | error e =>
    rw [hread] at h
    cases h
  | ok a =>
    simp only [hread] at h
    split at h
    · exact absurd (Except.ok.inj h).symm hhelp
    · rename_i hno
      obtain ⟨u, hcheck, h⟩ := bind_eq_ok.1 h
      exact ⟨a, rfl, by simpa using hno, hcheck, (Except.ok.inj h).symm⟩

/-- What the words behind `compile` ask for. -/
def ofCompileWords (t : FileTree) (rest : List String) : Except RequestFault Request :=
  ofCommand t compileOptions 1 rest fun a => .compile (compileOptionsOf a)

/-- Only the form of the report changes when `--json` is put in front. -/
theorem ofCompileWords_json {t : FileTree} {rest : List String} {o : CompileOptions}
    (h : ofCompileWords t rest = .ok (.compile o)) :
    ofCompileWords t ("--json" :: rest) = .ok (.compile { o with asJson := true }) := by
  have hhelp : Request.compile o ≠ .help := by simp
  obtain ⟨a, hread, hno, hcheck, hmake⟩ := ofCommand_eq_ok h hhelp
  obtain rfl := Request.compile.inj hmake
  have hno' : (a.give [json]).has "--help" = false := by rw [has_give_json a (by decide), hno]
  unfold ofCompileWords ofCommand
  simp only [read_json, hread, Except.map, hno', check_give_json, hcheck, compileOptionsOf_give_json]
  rfl

/-! ### The first words -/

theorem ofText_front {word : String} {w : Word} (hoption : isOptionWord word = true)
    (h : Word.ofText [helpOption, versionOption] word = .ok w) : ∃ flag, w = { flags := [flag] } := by
  unfold Word.ofText at h
  dsimp only at h
  split at h
  · rename_i s hs
    have hvalue : s.takesValue = false := by
      have hmem := List.mem_of_find?_eq_some hs
      simp only [List.mem_cons, List.not_mem_nil, or_false] at hmem
      rcases hmem with rfl | rfl <;> rfl
    rw [hvalue, if_neg Bool.false_ne_true] at h
    split at h
    · cases h
    · exact ⟨s.long, (Except.ok.inj h).symm⟩
  · split at h
    · cases h
    · unfold isOptionWord at hoption
      split at hoption
      · rename_i c cs hword
        rw [hword] at h
        cases h
      · cases hoption

theorem read_front {words : List String} {a : Arguments}
    (h : read [helpOption, versionOption] false words = .ok a) (hgiven : a.given = []) :
    words = a.others ∨ words = "--" :: a.others := by
  cases words with
  | nil =>
    obtain rfl := Except.ok.inj h
    exact .inl rfl
  | cons word rest =>
    by_cases hdash : word = "--"
    · subst hdash
      rw [read_dashes] at h
      obtain rfl := Except.ok.inj h
      exact .inr rfl
    · cases hoption : isOptionWord word with
      | false =>
        rw [read_other rest hdash hoption] at h
        obtain rfl := Except.ok.inj h
        exact .inl rfl
      | true =>
        cases hword : Word.ofText [helpOption, versionOption] word with
        | error e =>
          rw [read_unknown rest hdash hoption hword] at h
          cases h
        | ok w =>
          obtain ⟨flag, rfl⟩ := ofText_front hoption hword
          rw [read_flags rest hdash hoption hword] at h
          cases hrest : read [helpOption, versionOption] false rest with
          | error e =>
            rw [hrest] at h
            cases h
          | ok b =>
            rw [hrest] at h
            obtain rfl := Except.ok.inj h
            cases hgiven

/-- A command line with `--json` as the first option of its command. -/
def withJson : List String → List String
  | [] => []
  | word :: rest => if word = "compile" then word :: "--json" :: rest else word :: withJson rest

theorem exists_ofCompileWords {t : FileTree} {words : List String} {o : CompileOptions}
    (h : ofWords t words = .ok (.compile o)) : ∃ rest, ofCompileWords t rest = .ok (.compile o) ∧
      (words = "compile" :: rest ∨ words = "--" :: "compile" :: rest) := by
  unfold ofWords at h
  cases hread : read [helpOption, versionOption] false words with
  | error e =>
    rw [hread] at h
    cases h
  | ok a =>
    simp only [hread] at h
    split at h
    · split at h <;> cases h
    · rename_i rest hgiven hothers
      refine ⟨rest, h, ?_⟩
      rw [← hothers]
      exact read_front hread hgiven
    · obtain ⟨_, -, -, -, hmake⟩ := ofCommand_eq_ok h (by simp)
      cases hmake
    · obtain ⟨_, -, -, -, hmake⟩ := ofCommand_eq_ok h (by simp)
      cases hmake
    · cases h

theorem ofWords_compile (t : FileTree) (rest : List String) :
    ofWords t ("compile" :: rest) = ofCompileWords t rest := by
  rw [ofWords, read_other rest (by decide) rfl]
  rfl

theorem ofWords_dashes (t : FileTree) (rest : List String) :
    ofWords t ("--" :: "compile" :: rest) = ofCompileWords t rest := by
  rw [ofWords, read_dashes]
  rfl

theorem ofWords_withJson {t : FileTree} {words : List String} {o : CompileOptions}
    (h : ofWords t words = .ok (.compile o)) :
    ofWords t (withJson words) = .ok (.compile { o with asJson := true }) := by
  obtain ⟨rest, hrest, rfl | rfl⟩ := exists_ofCompileWords h
  · rw [withJson, if_pos rfl, ofWords_compile]
    exact ofCompileWords_json hrest
  · rw [withJson, if_neg (by decide), withJson, if_pos rfl, ofWords_dashes]
    exact ofCompileWords_json hrest

end Request

/-! ### The exit status -/

theorem exists_report {t : FileTree} {o : CompileOptions} {c : Compilation}
    (hload : compilation t o = .ok c)
    (hwrite : o.dryRun = true ∨ (writeAll c.output (c.results.map (·.2)) t).2 = none) :
    ∃ after, runCompile t o = report after o c := by
  have hnone : (if o.dryRun then (t, none) else writeAll c.output (c.results.map (·.2)) t).2 = none := by
    split
    · rfl
    · rename_i hdry
      exact hwrite.resolve_left hdry
  refine ⟨(if o.dryRun then (t, none) else writeAll c.output (c.results.map (·.2)) t).1, ?_⟩
  simp only [runCompile, hload, hnone]

theorem exists_run {t : FileTree} {words : List String} {o : CompileOptions} {c : Compilation}
    (hrequest : Request.ofWords t words = .ok (.compile o)) (hload : compilation t o = .ok c)
    (hwrite : o.dryRun = true ∨ (writeAll c.output (c.results.map (·.2)) t).2 = none) :
    ∃ after, run t words = report after o c := by
  obtain ⟨after, h⟩ := exists_report hload hwrite
  refine ⟨after, ?_⟩
  rw [run, hrequest]
  exact h

/-- The exit status of a compilation whose files load and are written. There is one result for each
requested platform. With `--json` the status is zero exactly if all results are successful. Without
it every line of the report has to be printable as well, so that the two agree exactly if a result
failed or all lines are printable; they do if the texts hold no markup. -/
theorem exit_status_iff (t : FileTree) (words : List String) (o : CompileOptions) (c : Compilation)
    (hrequest : Request.ofWords t words = .ok (.compile o)) (hload : compilation t o = .ok c)
    (hwrite : o.dryRun = true ∨ (writeAll c.output (c.results.map (·.2)) t).2 = none) :
    let succeeds := ∀ p ∈ c.results, p.2.success = true
    let prints := o.asJson = true ∨ ∀ line ∈ reportLines o c, Printable line
    (∃ loaded, Manifest.load t (o.project ++ Path.ofText Manifest.fileName) = .ok loaded ∧
      c.results.map (·.1) =
        (firstGiven [o.platforms, c.composition.targets, loaded.manifest.targets]).eraseDups) ∧
    ((run t (Request.withJson words)).exit = 0 ↔ succeeds) ∧
    ((run t words).exit = 0 ↔ succeeds ∧ prints) ∧
    ((run t words).exit = (run t (Request.withJson words)).exit ↔ (succeeds → prints)) ∧
    (c.HasPlainTexts → succeeds → prints) := by
  intro succeeds prints
  obtain ⟨loaded, registry, limit, hloaded, hresults⟩ := exists_results hload
  have hone : ∀ p ∈ c.results, p.2.success = true →
      p.2.errors = none ∧ p.1 ∈ Manifest.knownPlatforms := by
    intro p hp hsuccess
    rw [hresults] at hp
    rw [Orchestrator.mem_compileAll hp] at hsuccess ⊢
    exact known_of_success hsuccess
  have hknown := fun p hp hsuccess => (hone p hp hsuccess).2
  obtain ⟨after, hrun⟩ := exists_run hrequest hload hwrite
  obtain ⟨after', hjson⟩ := exists_run (Request.ofWords_withJson hrequest) hload hwrite
  have hzero : (run t words).exit = 0 ↔ succeeds ∧ prints := by
    rw [hrun]
    exact exit_report after o hknown
  have hzero' : (run t (Request.withJson words)).exit = 0 ↔ succeeds := by
    rw [hjson, exit_report after' _ hknown]
    exact and_iff_left (.inl rfl)
  have hle : (run t words).exit ≤ 1 := hrun ▸ exit_report_le after o c
  have hle' : (run t (Request.withJson words)).exit ≤ 1 := hjson ▸ exit_report_le after' _ c
  refine ⟨⟨loaded, hloaded, ?_⟩, hzero', hzero, ?_, fun hplain hsuccess => .inr ?_⟩
  · rw [hresults, Orchestrator.map_fst_compileAll]
    rfl
  · have hsame : (run t words).exit = (run t (Request.withJson words)).exit ↔
        ((run t words).exit = 0 ↔ (run t (Request.withJson words)).exit = 0) := by omega
    rw [hsame, hzero, hzero', and_iff_left_iff_imp]
  · exact hplain.printable (fun p hp => hknown p hp (hsuccess p hp))
      (fun p hp => (hone p hp (hsuccess p hp)).1) o

/-- A backslash at the end of a name keeps the tag behind it as text, and the id of the button is
taken for a tag; still everything is printed. -/
theorem exit_status_backslash :
    let text := "\x7b\"name\":\"Shop\\\\\",\"root\":\x7b\"id\":\"b\",\"type\":\"button\"\x7d\x7d"
    let t : FileTree := ⟨["w"], [(["w", "app.json"], .file (some text))]⟩
    let words := ["compile", "app.json", "-t", "web", "-t", "ios", "-n"]
    let o : CompileOptions :=
      { project := Path.ofText ".", capsuleFiles := [], composition := some (Path.ofText "app.json"),
        platforms := ["web", "ios"], dryRun := true }
    Request.ofWords t words = .ok (.compile o) ∧
      (Gives (compilation t o) fun c => c.composition.name = "Shop\\" ∧ c.HasPlainTexts) ∧
      (run t words).exit = 0 ∧ (run t (Request.withJson words)).exit = 0 := by
  intro text t words o
  have hrequest : Request.ofWords t words = .ok (.compile o) := by decide +kernel
  have hcheck : ((compilation t o).toOption.any fun c => c.composition.name = "Shop\\" ∧
      c.HasPlainTexts ∧ ∀ p ∈ c.results, p.2.success = true) = true := by decide +kernel
  obtain ⟨c, hload, hc⟩ := Gives.of_any hcheck
  obtain ⟨hname, hplain, hsuccess⟩ := of_decide_eq_true hc
  obtain ⟨-, hjson, hexit, -, hprints⟩ := exit_status_iff t words o c hrequest hload (.inl rfl)
  exact ⟨hrequest, ⟨c, hload, hname, hplain⟩, hexit.2 ⟨hsuccess, hprints hplain hsuccess⟩,
    hjson.2 hsuccess⟩

/-- A name that looks like a closing tag hides the success of the only platform. -/
theorem exit_status_unmatched :
    let t : FileTree := ⟨["w"], [(["w", "app.json"], .file (some "\x7b\"name\":\"[/x]\"\x7d"))]⟩
    let words := ["compile", "app.json", "-t", "web", "-n"]
    let o : CompileOptions :=
      { project := Path.ofText ".", capsuleFiles := [], composition := some (Path.ofText "app.json"),
        platforms := ["web"], dryRun := true }
    Request.ofWords t words = .ok (.compile o) ∧
      ((compilation t o).toOption.any fun c => ∀ p ∈ c.results, p.2.success = true) = true ∧
      (run t words).exit = 1 ∧ (run t (Request.withJson words)).exit = 0 := by
  decide +kernel

end CapsuleKit.Console
