import CapsuleKit.Compile.Generator
import CapsuleKit.Proofs.Check
import CapsuleKit.Proofs.JsonValues
import CapsuleKit.Proofs.References
import CapsuleKit.Proofs.Versions

/-!
# When generators fail

A generator finishes exactly if every one of its steps does (`Emission.failure_eq_none`), and a step
is kept from finishing by a page that cannot be written, a number that is too long, or a version that
cannot be read. For compositions of JSON values only the last remains, and levels of more than
`Number.digitLimit` digits in templates: `generator_failures` says when each generator reports a
failure, and what its result then looks like.
-/

namespace CapsuleKit

open Schema

/-! ### Steps that finish -/

/-- A step that writes its file. -/
def Finishes (step : EmitStep) : Prop :=
  ∃ f, step = .ok f

@[simp] theorem finishes_emitFile (path content : String) (language : Option String) :
    Finishes (emitFile path content language) := ⟨_, rfl⟩

@[simp] theorem finishes_emitUnless {o : Option Json.Obstacle} {step : EmitStep} :
    Finishes (emitUnless o step) ↔ o = none ∧ Finishes step := by
  cases o with
  | none => simp [emitUnless]
  | some o => simp [emitUnless, Finishes]

theorem Emission.failure_eq_none {steps : List EmitStep} :
    (ofSteps steps).failure = none ↔ ∀ s ∈ steps, Finishes s := by
  refine ⟨fun h s hs => ?_, fun h => ?_⟩
  · obtain ⟨f, -, hf⟩ := exists_file h s hs
    exact ⟨f, hf⟩
  · induction steps with
    | nil => rfl
    | cons first steps ih =>
      obtain ⟨⟨f, rfl⟩, hsteps⟩ := List.forall_mem_cons.1 h
      rw [ofSteps_ok]
      exact ih hsteps

section Steps

variable (j : Job)

theorem finishes_optional {p : Prop} [Decidable p] {steps : List EmitStep} :
    (∀ s ∈ (if p then steps else []), Finishes s) ↔ (p → ∀ s ∈ steps, Finishes s) := by
  by_cases hp : p <;> simp [hp]

theorem Web.finishes_steps (c : WebConfig) (parts : Parts) :
    (∀ s ∈ steps c parts j, Finishes s) ↔ j.pageObstacle? = none := by
  simp only [steps, componentSteps, List.forall_mem_append, List.forall_mem_cons, List.forall_mem_map,
    finishes_optional, finishes_emitFile, finishes_emitUnless, List.not_mem_nil, false_implies,
    implies_true, and_true, true_and]

theorem Desktop.finishes_projectSteps (c : DesktopConfig) :
    (∀ s ∈ projectSteps c j, Finishes s) ↔ j.pageObstacle? = none ∧ sizeObstacle? c = none := by
  simp only [projectSteps, shellSteps, List.forall_mem_append, List.forall_mem_cons,
    Web.finishes_steps, finishes_emitFile, finishes_emitUnless, List.not_mem_nil, false_implies,
    implies_true, and_true, true_and]

theorem Android.finishes_projectSteps (c : AndroidConfig) :
    (∀ s ∈ projectSteps c j, Finishes s) ↔
      levelObstacle? c j = none ∧ j.pageObstacle? = none := by
  simp only [projectSteps, List.forall_mem_append, List.forall_mem_cons, List.forall_mem_map,
    finishes_emitFile, finishes_emitUnless, List.not_mem_nil, false_implies, implies_true, and_true,
    true_and]

theorem Ios.finishes_projectSteps (c : IosConfig) :
    (∀ s ∈ projectSteps c j, Finishes s) ↔
      ¬ Fails (j.deploymentTarget c.minVersion) ∧ j.pageObstacle? = none := by
  unfold projectSteps
  cases h : j.deploymentTarget c.minVersion with
  | error fault => simp [Finishes, Fails]
  | ok target =>
    simp only [filesFor, List.forall_mem_append, List.forall_mem_cons, List.forall_mem_map,
      finishes_emitFile, finishes_emitUnless, List.not_mem_nil, false_implies, implies_true,
      and_true, true_and, not_fails_ok, not_false_eq_true]

end Steps

/-! ### Numbers among the options -/

/-- All values of a composition are JSON values: the props of its instances, wherever they stand,
and the options for the platforms. -/
structure Composition.IsJson (c : Composition) : Prop where
  props : PropsAreJson (c.walk.map (·.1))
  options : ∀ o ∈ c.platformConfig, ∀ e ∈ o.2, e.2.IsJson

namespace Composition.IsJson

variable {c : Composition} (h : c.IsJson) (r : Registry) (platform : String)

include h

theorem pageObstacle?_eq_none : Job.pageObstacle? ⟨r, platform, c⟩ = none := by
  refine Instance.listObstacle?_eq_none r platform c.topLevel fun i hi => ?_
  obtain ⟨v, hv, rfl⟩ := mem_walk_of_mem_topLevel hi
  exact h.props v.1 (List.mem_map.2 ⟨v, hv, rfl⟩)

theorem option_isJson {e : Scalar × Value}
    (he : e ∈ (c.overlay platform).map fun e => (Scalar.text e.1, e.2)) : e.2.IsJson := by
  obtain ⟨o, ho, rfl⟩ := List.mem_map.1 he
  rw [overlay] at ho
  cases hlookup : c.platformConfig.lookup platform with
  | none =>
    rw [hlookup] at ho
    cases ho
  | some options =>
    rw [hlookup] at ho
    obtain ⟨l₁, l₂, heq, -⟩ := List.lookup_eq_some_iff.1 hlookup
    exact h.options (platform, options) (by simp [heq]) o ho

theorem isOverlong_option {s : Spelling} {default n : Int} (hdefault : default.natAbs < Nat.pow 10 19)
    (hn : Fields.withDefault ((c.overlay platform).map fun e => (.text e.1, e.2)) s default int =
      .ok n) : Json.isOverlong n = false :=
  isOverlong_withDefault (fun _ he => h.option_isJson platform he) hdefault hn

theorem sizeObstacle?_eq_none :
    Desktop.sizeObstacle? ((Job.options ⟨r, platform, c⟩ DesktopConfig.build).getD {}) = none := by
  refine if_neg ?_
  simp only [List.any_cons, List.any_nil, Bool.or_false, Bool.or_eq_true, not_or, Bool.not_eq_true]
  cases hc : Job.options ⟨r, platform, c⟩ DesktopConfig.build with
  | bad ps =>
    exact ⟨Json.isOverlong_of_short (n := 1200) (by decide),
      Json.isOverlong_of_short (n := 800) (by decide),
      Json.isOverlong_of_short (n := 800) (by decide),
      Json.isOverlong_of_short (n := 600) (by decide)⟩
  | ok config =>
    simp only [Job.options, DesktopConfig.build, Checked.seq_eq_ok, Checked.map_eq_ok] at hc
    obtain ⟨_, _, ⟨_, minHeight, ⟨_, minWidth, ⟨_, height, ⟨_, width, ⟨_, _, ⟨_, -, rfl⟩, -, rfl⟩,
      hwidth, rfl⟩, hheight, rfl⟩, hminWidth, rfl⟩, hminHeight, rfl⟩, -, rfl⟩ := hc
    exact ⟨h.isOverlong_option platform (by decide) hwidth,
      h.isOverlong_option platform (by decide) hheight,
      h.isOverlong_option platform (by decide) hminWidth,
      h.isOverlong_option platform (by decide) hminHeight⟩

theorem isOverlong_levels :
    let config := (Job.options ⟨r, platform, c⟩ AndroidConfig.build).getD {}
    Json.isOverlong config.minSdk = false ∧ Json.isOverlong config.targetSdk = false ∧
      Json.isOverlong config.compileSdk = false := by
  cases hc : Job.options ⟨r, platform, c⟩ AndroidConfig.build with
  | bad ps =>
    exact ⟨Json.isOverlong_of_short (n := 24) (by decide),
      Json.isOverlong_of_short (n := 34) (by decide), Json.isOverlong_of_short (n := 34) (by decide)⟩
  | ok config =>
    simp only [Job.options, AndroidConfig.build, Checked.seq_eq_ok, Checked.map_eq_ok] at hc
    obtain ⟨_, compileSdk, ⟨_, targetSdk, ⟨_, minSdk, ⟨_, _, ⟨_, -, rfl⟩, -, rfl⟩, hmin, rfl⟩, htarget,
      rfl⟩, hcompile, rfl⟩ := hc
    exact ⟨h.isOverlong_option platform (by decide) hmin,
      h.isOverlong_option platform (by decide) htarget,
      h.isOverlong_option platform (by decide) hcompile⟩

end Composition.IsJson

/-! ### Levels of the templates in use -/

theorem le_foldl_max_iff {n a : Int} {levels : List Int} :
    n ≤ levels.foldl max a ↔ n ≤ a ∨ ∃ m ∈ levels, n ≤ m := by
  induction levels generalizing a with
  | nil => simp
  | cons m levels ih =>
    have hmax : n ≤ max a m ↔ n ≤ a ∨ n ≤ m := by omega
    rw [List.foldl_cons, ih, hmax, or_assoc]
    simp only [List.mem_cons, exists_eq_or_imp]

namespace Job

variable {j : Job}

/-- A template in use asks for a level of too many digits. -/
def AsksTooMuch (j : Job) : Prop :=
  ∃ t n, j.Uses t ∧ t.minSdk = some n ∧ Nat.pow 10 Number.digitLimit ≤ n

theorem mem_levels {n : Int} :
    n ∈ (j.components.filterMap (·.2.minSdk)).filter (· != 0) ↔
      n ≠ 0 ∧ ∃ t, j.Uses t ∧ t.minSdk = some n := by
  simp only [List.mem_filter, List.mem_filterMap, Prod.exists, ← exists_mem_components, bne_iff_ne]
  constructor
  · rintro ⟨⟨d, t, hmem, ht⟩, hne⟩
    exact ⟨hne, t, ⟨d, hmem⟩, ht⟩
  · rintro ⟨hne, t, ⟨d, hmem⟩, ht⟩
    exact ⟨⟨d, t, hmem, ht⟩, hne⟩

/-- The highest level is too long exactly if a template asks for one that is: a configured level
bounds it from below. -/
theorem isOverlong_minSdk {c : AndroidConfig} (h : Json.isOverlong c.minSdk = false) :
    Json.isOverlong (j.minSdk c) = true ↔ j.AsksTooMuch := by
  rw [Json.isOverlong, decide_eq_false_iff_not] at h
  rw [Json.isOverlong, decide_eq_true_iff, AsksTooMuch]
  generalize Nat.pow 10 Number.digitLimit = limit at h ⊢
  have hconfigured : c.minSdk ≤ j.minSdk c := le_foldl_max_iff.2 (.inl (Int.le_refl _))
  have habs : limit ≤ (j.minSdk c).natAbs ↔ limit ≤ j.minSdk c := by omega
  have hbelow : ¬ limit ≤ c.minSdk := by omega
  rw [habs, minSdk, le_foldl_max_iff, or_iff_right hbelow]
  constructor
  · rintro ⟨n, hn, hlimit⟩
    obtain ⟨-, t, ht, hlevel⟩ := mem_levels.1 hn
    exact ⟨t, n, ht, hlevel, hlimit⟩
  · rintro ⟨t, n, ht, hlevel, hlimit⟩
    exact ⟨n, mem_levels.2 ⟨by omega, t, ht, hlevel⟩, hlimit⟩

end Job

/-! ### Results -/

/-- One of the errors of a result has a code. -/
def CompileResult.Reports (r : CompileResult) (code : DiagnosticCode) : Prop :=
  ∃ e ∈ r.errors.getD [], e.code = code.name

theorem CompileResult.getD_present {α : Type} (l : List α) : (present l).getD [] = l := by
  cases l <;> rfl

namespace Generator

variable {g : Generator} {j : Job}

theorem errors_configDiagnostics (platform : String) (problems : List Problem) :
    (configDiagnostics platform problems).errors = [] := by
  unfold configDiagnostics
  split <;> rfl

theorem errors_compile :
    (g.compile j).errors =
      CompileResult.present ((j.composition.check j.registry j.platform).errors ++
        (failureDiagnostics (Emission.ofSteps (g.steps j)).failure).errors) := by
  have herrors : (g.diagnose j).errors = (j.composition.check j.registry j.platform).errors := by
    rw [diagnose, Diagnostics.errors_append, errors_configDiagnostics, List.nil_append]
  rw [compile, CompileResult.ofDiagnostics, CompileResult.make, Diagnostics.errors_append, herrors]

theorem warnings_compile :
    (g.compile j).warnings =
      CompileResult.present ((configDiagnostics j.platform (g.problems j)).warnings ++
        (j.composition.check j.registry j.platform).warnings) := by
  have hfailure : ∀ failure, (failureDiagnostics failure).warnings = [] := by
    intro failure
    cases failure <;> rfl
  rw [compile, CompileResult.ofDiagnostics, CompileResult.make, Diagnostics.warnings_append,
    hfailure, List.append_nil, diagnose, Diagnostics.warnings_append]

theorem warnings_compile_of_fit (h : g.problems j = []) :
    (g.compile j).warnings.getD [] = (j.composition.check j.registry j.platform).warnings := by
  rw [warnings_compile, CompileResult.getD_present, h]
  rfl

theorem warnings_compile_of_misfit (h : g.problems j ≠ []) :
    ∃ w, w.code = DiagnosticCode.invalidPlatformConfig.name ∧
      (g.compile j).warnings =
        some (w :: (j.composition.check j.registry j.platform).warnings) := by
  rw [warnings_compile, configDiagnostics, if_neg (mt List.isEmpty_iff.1 h)]
  exact ⟨_, rfl, rfl⟩

theorem code_ne_of_mem_check {c : Composition} {r : Registry} {platform : String} {e : Diagnostic}
    (he : e ∈ (c.check r platform).errors) : e.code ≠ DiagnosticCode.compilationFailed.name := by
  rw [Composition.errors_check, passErrors] at he
  obtain ⟨i, -, rfl⟩ := List.mem_map.1 he
  simp [Report.unsupported, DiagnosticCode.name]

theorem reports_compile :
    (g.compile j).Reports .compilationFailed ↔ ¬ ∀ s ∈ g.steps j, Finishes s := by
  rw [← Emission.failure_eq_none, CompileResult.Reports, errors_compile, CompileResult.getD_present]
  cases (Emission.ofSteps (g.steps j)).failure with
  | none =>
    simp only [failureDiagnostics, List.append_nil, not_true_eq_false, iff_false]
    rintro ⟨e, he, hcode⟩
    exact code_ne_of_mem_check he hcode
  | some message =>
    refine iff_of_true ⟨_, List.mem_append_right _ List.mem_cons_self, rfl⟩ ?_
    simp

theorem result_of_first_failure {message : String} {rest : List EmitStep}
    (h : g.steps j = .error message :: rest) :
    (g.compile j).files = [] ∧
      (g.compile j).errors =
        some ((j.composition.check j.registry j.platform).errors ++
          [{ code := "COMPILATION_FAILED", message }]) := by
  constructor
  · rw [compile, h]
    rfl
  · rw [errors_compile, h]
    cases (j.composition.check j.registry j.platform).errors <;> rfl

section Json

variable {c : Composition} (h : c.IsJson) (r : Registry) (platform : String)

include h

theorem not_reports_web : ¬ (web.compile ⟨r, platform, c⟩).Reports .compilationFailed := by
  rw [reports_compile, not_not]
  exact (Web.finishes_steps _ _ _).2 (h.pageObstacle?_eq_none r platform)

theorem not_reports_desktop : ¬ (desktop.compile ⟨r, platform, c⟩).Reports .compilationFailed := by
  rw [reports_compile, not_not]
  exact (Desktop.finishes_projectSteps _ _).2
    ⟨h.pageObstacle?_eq_none r platform, h.sizeObstacle?_eq_none r platform⟩

theorem reports_android :
    (android.compile ⟨r, platform, c⟩).Reports .compilationFailed ↔
      Job.AsksTooMuch ⟨r, platform, c⟩ := by
  obtain ⟨hmin, htarget, hcompile⟩ := h.isOverlong_levels r platform
  rw [reports_compile, ← Job.isOverlong_minSdk hmin]
  refine (not_congr (Android.finishes_projectSteps _ _)).trans ?_
  rw [and_iff_left (h.pageObstacle?_eq_none r platform)]
  simp [Android.levelObstacle?, htarget, hcompile]

theorem reports_ios :
    (ios.compile ⟨r, platform, c⟩).Reports .compilationFailed ↔
      Fails (Job.deploymentTarget ⟨r, platform, c⟩
        ((Job.options ⟨r, platform, c⟩ IosConfig.build).getD {}).minVersion) := by
  rw [reports_compile]
  refine (not_congr (Ios.finishes_projectSteps _ _)).trans ?_
  rw [and_iff_left (h.pageObstacle?_eq_none r platform), not_not]

end Json

end Generator

/-- When generators fail on a composition of JSON values. Web and desktop never do. Android does
exactly if a template in use asks for a level of too many digits. For iOS a template in use has to
ask for some version, and one of these or the configured version has to be unreadable; then there are
no files, the failure is the last error and the only one of its kind, and the warnings are those of
the check, behind one for the options if these do not fit. -/
theorem generator_failures (r : Registry) {c : Composition} (hc : c.IsJson) :
    ¬ (Generator.web.compile ⟨r, "web", c⟩).Reports .compilationFailed ∧
      ¬ (Generator.desktop.compile ⟨r, "desktop", c⟩).Reports .compilationFailed ∧
      ((Generator.android.compile ⟨r, "android", c⟩).Reports .compilationFailed ↔
        Job.AsksTooMuch ⟨r, "android", c⟩) ∧
      let j : Job := ⟨r, "ios", c⟩
      let result := Generator.ios.compile j
      (result.Reports .compilationFailed ↔
        (∃ v, j.AsksFor v) ∧
          (Version.IsUnreadable ((j.options IosConfig.build).getD {}).minVersion ∨
            ∃ v, j.AsksFor v ∧ Version.IsUnreadable v)) ∧
      (result.Reports .compilationFailed →
        result.files = [] ∧
          (∃ message, result.errors =
            some ((c.check r "ios").errors ++ [{ code := "COMPILATION_FAILED", message }])) ∧
          (∀ e ∈ (c.check r "ios").errors, e.code ≠ "COMPILATION_FAILED") ∧
          (Generator.ios.problems j = [] →
            result.warnings.getD [] = (c.check r "ios").warnings) ∧
          (Generator.ios.problems j ≠ [] →
            ∃ w, w.code = "INVALID_PLATFORM_CONFIG" ∧
              result.warnings = some (w :: (c.check r "ios").warnings))) := by
  refine ⟨Generator.not_reports_web hc r "web", Generator.not_reports_desktop hc r "desktop",
    Generator.reports_android hc r "android", ?_, fun hreports => ?_⟩
  · rw [Generator.reports_ios hc r "ios", Job.fails_deploymentTarget]
  · obtain ⟨fault, hfault⟩ := (Generator.reports_ios hc r "ios").1 hreports
    have hsteps : Generator.ios.steps ⟨r, "ios", c⟩ = [.error fault.message] := by
      rw [Generator.steps_ios, Ios.projectSteps, hfault]
    obtain ⟨hfiles, herrors⟩ := Generator.result_of_first_failure hsteps
    exact ⟨hfiles, ⟨_, herrors⟩, fun e he => Generator.code_ne_of_mem_check he,
      Generator.warnings_compile_of_fit, Generator.warnings_compile_of_misfit⟩

theorem Version.isUnreadable_superscript : IsUnreadable "1.²" := by
  refine ⟨['²'], by decide, List.cons_ne_nil _ _, ?_, .inl ⟨'²', List.mem_cons_self, by decide⟩⟩
  exact List.forall_mem_singleton.2 (by decide)

/-- A superscript in the version of a template, next to a capsule that is not known. -/
theorem generator_failures_superscript :
    let d : Definition :=
      { id := "card", name := "Card"
        platforms := [("ios", { framework := "swiftui", minVersion := some "1.²" })] }
    let c : Composition :=
      { name := "App"
        root := some { id := "top", capsuleId := "card", props := [("size", .object [("w", .int 3)])]
                       children := [{ id := "lost", capsuleId := "chart" }] } }
    c.IsJson ∧
      (Generator.ios.compile ⟨⟨[d]⟩, "ios", c⟩).files = [] ∧
      (Generator.ios.compile ⟨⟨[d]⟩, "ios", c⟩).warnings.getD [] = (c.check ⟨[d]⟩ "ios").warnings ∧
      ¬ (Generator.web.compile ⟨⟨[d]⟩, "web", c⟩).Reports .compilationFailed := by
  intro d c
  have hnumber : (Value.int 3).IsJson := .int (Json.isOverlong_of_short (by decide))
  have hc : c.IsJson := by
    refine ⟨?_, List.forall_mem_nil _⟩
    refine List.forall_mem_cons.2 ⟨?_, List.forall_mem_cons.2 ⟨List.forall_mem_nil _, List.forall_mem_nil _⟩⟩
    exact List.forall_mem_singleton.2 (.object (List.forall_mem_singleton.2 hnumber))
  have hasks : Job.AsksFor ⟨⟨[d]⟩, "ios", c⟩ "1.²" :=
    ⟨by decide, _, ⟨_, List.mem_cons_self, rfl⟩, rfl⟩
  obtain ⟨hweb, -, -, hios, hresult⟩ := generator_failures ⟨[d]⟩ hc
  obtain ⟨hfiles, -, -, hwarnings, -⟩ :=
    hresult (hios.2 ⟨⟨_, hasks⟩, .inr ⟨_, hasks, Version.isUnreadable_superscript⟩⟩)
  exact ⟨hc, hfiles, hwarnings rfl, hweb⟩

/-- Other failures, and other warnings with a failure: a bundle identifier that is none adds its
warning to those of the check, and a template may ask Android for a level of too many digits. -/
theorem failures_beyond_versions :
    let level : Nat := Nat.pow 10 Number.digitLimit
    let d : Definition :=
      { id := "card", name := "Card"
        platforms :=
          [("ios", { framework := "swiftui", minVersion := some "1.²" }),
           ("android", { framework := "compose", minSdk := some level })] }
    let c : Composition :=
      { name := "App", root := some { id := "top", capsuleId := "card" }
        platformConfig := [("ios", [("bundleId", .int 5)])] }
    c.IsJson ∧
      (Generator.ios.compile ⟨⟨[d]⟩, "ios", c⟩).Reports .compilationFailed ∧
      (Generator.ios.compile ⟨⟨[d]⟩, "ios", c⟩).warnings.getD [] ≠ (c.check ⟨[d]⟩ "ios").warnings ∧
      (Generator.android.compile ⟨⟨[d]⟩, "android", c⟩).Reports .compilationFailed := by
  intro level d c
  have hc : c.IsJson := by
    refine ⟨List.forall_mem_singleton.2 (List.forall_mem_nil _), ?_⟩
    exact List.forall_mem_singleton.2 (List.forall_mem_singleton.2
      (.int (Json.isOverlong_of_short (by decide))))
  have hasks : Job.AsksFor ⟨⟨[d]⟩, "ios", c⟩ "1.²" :=
    ⟨by decide, _, ⟨_, List.mem_cons_self, rfl⟩, rfl⟩
  have hlevel : Job.AsksTooMuch ⟨⟨[d]⟩, "android", c⟩ :=
    ⟨_, level, ⟨_, List.mem_cons_self, rfl⟩, rfl, Int.le_refl _⟩
  refine ⟨hc, ?_, ?_, (Generator.reports_android hc ⟨[d]⟩ "android").2 hlevel⟩
  · rw [Generator.reports_ios hc ⟨[d]⟩ "ios", Job.fails_deploymentTarget]
    exact ⟨⟨_, hasks⟩, .inr ⟨_, hasks, Version.isUnreadable_superscript⟩⟩
  · have hmisfit : Generator.ios.problems ⟨⟨[d]⟩, "ios", c⟩ ≠ [] :=
      List.ne_nil_of_length_pos (by decide)
    obtain ⟨w, -, hw⟩ := Generator.warnings_compile_of_misfit hmisfit
    rw [hw]
    exact List.cons_ne_self _ _

end CapsuleKit
