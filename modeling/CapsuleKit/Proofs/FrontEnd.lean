import CapsuleKit.Proofs.DistinctPaths
import CapsuleKit.Proofs.Packages
import CapsuleKit.Proofs.Page
import CapsuleKit.Proofs.References

/-!
# One front end on two platforms

A web project reads off a template its code, its dependencies and its imports. If two platforms give
these alike to every capsule in use, the steps of the project are the same on both
(`Web.steps_eq_of_sameFrontEnd`). A desktop project is then the web project with other texts for three
files, followed by the shell.
-/

namespace CapsuleKit

/-! ### Templates -/

/-- What a web project takes from a template. -/
def Template.frontEnd (t : Template) : String × List String × List String :=
  (t.code, t.dependencies, t.imports)

/-- A capsule has the same front end on two platforms, or none on either. -/
def Registry.SameFrontEnd (r : Registry) (p q id : String) : Prop :=
  (r.template id p).map (·.frontEnd) = (r.template id q).map (·.frontEnd)

theorem Registry.SameFrontEnd.supported_eq {r : Registry} {p q id : String}
    (h : r.SameFrontEnd p q id) : r.supported p id = r.supported q id := by
  have hsupports : r.supports id p = r.supports id q := by
    rw [supports, supports, ← Option.isSome_map (f := Template.frontEnd), h, Option.isSome_map]
  rw [supported, supported, hsupports]

/-! ### Pages -/

/-- The capsules of these instances are supported alike on two platforms. -/
def SupportedAlike (r : Registry) (p q : String) (is : List Instance) : Prop :=
  ∀ i ∈ is, r.supported p i.capsuleId = r.supported q i.capsuleId

section

variable {r : Registry} {p q : String}

theorem supportedAlike_append {is js : List Instance} :
    SupportedAlike r p q (is ++ js) ↔ SupportedAlike r p q is ∧ SupportedAlike r p q js :=
  List.forall_mem_append

theorem supportedAlike_forest_cons {i : Instance} {is : List Instance} :
    SupportedAlike r p q (Instance.forest (i :: is)) ↔
      (r.supported p i.capsuleId = r.supported q i.capsuleId ∧
        SupportedAlike r p q (Instance.forest i.children) ∧
        SupportedAlike r p q (Instance.slotForest i.slots)) ∧
      SupportedAlike r p q (Instance.forest is) := by
  rw [Instance.forest_cons, List.cons_append, SupportedAlike, List.forall_mem_cons, and_assoc,
    ← supportedAlike_append, ← supportedAlike_append]
  rfl

theorem supportedAlike_slotForest_cons {name : String} {is : List Instance}
    {ss : List (String × List Instance)} :
    SupportedAlike r p q (Instance.slotForest ((name, is) :: ss)) ↔
      SupportedAlike r p q (Instance.forest is) ∧ SupportedAlike r p q (Instance.slotForest ss) := by
  rw [Instance.slotForest_cons, supportedAlike_append]

mutual

theorem Piece.ofInstance_congr : ∀ i : Instance, SupportedAlike r p q (Instance.forest [i]) →
    ofInstance r p i = ofInstance r q i
  | ⟨id, capsuleId, name, props, children, slots⟩, h => by
    obtain ⟨⟨hi, hchildren, hslots⟩, -⟩ := supportedAlike_forest_cons.1 h
    rw [ofInstance, ofInstance, show r.supported p capsuleId = _ from hi,
      ofList_congr children hchildren, ofSlots_congr slots hslots, ofLoose_congr slots hslots]

theorem Piece.ofList_congr : ∀ is : List Instance, SupportedAlike r p q (Instance.forest is) →
    ofList r p is = ofList r q is
  | [], _ => rfl
  | i :: is, h => by
    obtain ⟨hi, his⟩ := supportedAlike_forest_cons.1 h
    rw [ofList, ofList, ofList_congr is his,
      ofInstance_congr i (supportedAlike_forest_cons.2 ⟨hi, List.forall_mem_nil _⟩)]

theorem Piece.ofSlots_congr : ∀ ss : List (String × List Instance),
    SupportedAlike r p q (Instance.slotForest ss) → ofSlots r p ss = ofSlots r q ss
  | [], _ => rfl
  | (name, is) :: ss, h => by
    obtain ⟨his, hss⟩ := supportedAlike_slotForest_cons.1 h
    rw [ofSlots, ofSlots, ofList_congr is his, ofSlots_congr ss hss]

theorem Piece.ofLoose_congr : ∀ ss : List (String × List Instance),
    SupportedAlike r p q (Instance.slotForest ss) → ofLoose r p ss = ofLoose r q ss
  | [], _ => rfl
  | (name, is) :: ss, h => by
    obtain ⟨his, hss⟩ := supportedAlike_slotForest_cons.1 h
    rw [ofLoose, ofLoose, ofList_congr is his, ofLoose_congr ss hss]

end

mutual

theorem Instance.obstacle?_congr : ∀ i : Instance, SupportedAlike r p q (forest [i]) →
    obstacle? r p i = obstacle? r q i
  | ⟨id, capsuleId, name, props, children, slots⟩, h => by
    obtain ⟨⟨hi, hchildren, hslots⟩, -⟩ := supportedAlike_forest_cons.1 h
    rw [obstacle?, obstacle?, show r.supported p capsuleId = _ from hi,
      listObstacle?_congr children hchildren, slotsObstacle?_congr slots hslots]

theorem Instance.listObstacle?_congr : ∀ is : List Instance, SupportedAlike r p q (forest is) →
    listObstacle? r p is = listObstacle? r q is
  | [], _ => rfl
  | i :: is, h => by
    obtain ⟨hi, his⟩ := supportedAlike_forest_cons.1 h
    rw [listObstacle?, listObstacle?, listObstacle?_congr is his,
      obstacle?_congr i (supportedAlike_forest_cons.2 ⟨hi, List.forall_mem_nil _⟩)]

theorem Instance.slotsObstacle?_congr : ∀ ss : List (String × List Instance),
    SupportedAlike r p q (slotForest ss) → slotsObstacle? r p ss = slotsObstacle? r q ss
  | [], _ => rfl
  | (name, is) :: ss, h => by
    obtain ⟨his, hss⟩ := supportedAlike_slotForest_cons.1 h
    rw [slotsObstacle?, slotsObstacle?, listObstacle?_congr is his, slotsObstacle?_congr ss hss]

end

end

/-! ### Projects -/

/-- Every capsule that a composition uses has the same front end on two platforms. -/
def Composition.SameFrontEnd (c : Composition) (r : Registry) (p q : String) : Prop :=
  ∀ id ∈ c.usedCapsules, r.SameFrontEnd p q id

namespace Composition.SameFrontEnd

variable {c : Composition} {r : Registry} {p q : String} (h : c.SameFrontEnd r p q)

include h

theorem topLevel : SupportedAlike r p q (Instance.forest c.topLevel) := by
  intro i hi
  obtain ⟨v, hv, rfl⟩ := mem_walk_of_mem_topLevel hi
  exact (h _ (List.mem_eraseDups.2 (List.mem_map.2 ⟨v, hv, rfl⟩))).supported_eq

theorem usedDefinitions_eq : c.usedDefinitions r p = c.usedDefinitions r q :=
  List.filterMap_congr fun id hid => (h id hid).supported_eq

theorem dependencies_eq : c.dependencies r p = c.dependencies r q := by
  have htemplates : ∀ platform, (c.usedTemplates r platform).flatMap (·.dependencies) =
      (c.usedCapsules.filterMap fun id => (r.template id platform).map (·.frontEnd)).flatMap
        (·.2.1) := by
    intro platform
    rw [← List.map_filterMap, List.flatMap_map]
    rfl
  rw [dependencies, dependencies, htemplates, htemplates, List.filterMap_congr h]

theorem components_eq : (c.components r p).map (fun x => (x.1, x.2.frontEnd)) =
    (c.components r q).map fun x => (x.1, x.2.frontEnd) := by
  rw [components, components, ← h.usedDefinitions_eq, List.map_filterMap, List.map_filterMap]
  refine List.filterMap_congr fun d hd => ?_
  obtain ⟨id, hid, hs⟩ := List.mem_filterMap.1 hd
  have htemplate : (d.template? p).map (·.frontEnd) = (d.template? q).map (·.frontEnd) := by
    have hlookup : r.lookup id = some d := by
      rw [Registry.supported] at hs
      split_ifs at hs
      exact hs
    have hsame := h id hid
    rwa [Registry.SameFrontEnd, Registry.template, Registry.template, hlookup] at hsame
  simpa [Option.map_map, Function.comp_def] using congrArg (Option.map (Prod.mk d)) htemplate

end Composition.SameFrontEnd

namespace Web

variable {c : Composition} {r : Registry} {p q : String}

theorem componentSteps_congr (h : c.SameFrontEnd r p q) (config : WebConfig) :
    componentSteps config ⟨r, p, c⟩ = componentSteps config ⟨r, q, c⟩ := by
  -- A source is filled in from the front end of its template alone.
  have hfront : ∀ platform, componentSteps config ⟨r, platform, c⟩ =
      ((c.components r platform).map fun x => (x.1, x.2.frontEnd)).map fun x =>
        emitFile (componentPath config x.1)
          (componentSource x.1 { framework := "", code := x.2.1, imports := x.2.2.2 })
          (some config.language) := by
    intro platform
    rw [List.map_map]
    rfl
  rw [hfront, hfront, h.components_eq]

theorem componentIndex_congr {j j' : Job} (h : componentNames j = componentNames j') :
    componentIndex j = componentIndex j' := by
  by_cases hnil : componentNames j = []
  · have hempty : ∀ j : Job, componentNames j = [] → componentIndex j = "export \x7b\x7d\n" := by
      intro j hj
      rw [componentNames_eq, List.map_eq_nil_iff] at hj
      rw [componentIndex, hj]
    rw [hempty j hnil, hempty j' (h ▸ hnil)]
  · rw [componentIndex_eq hnil, componentIndex_eq (h ▸ hnil), h]

theorem steps_eq_of_sameFrontEnd (h : c.SameFrontEnd r p q) (config : WebConfig) (parts : Parts) :
    steps config parts ⟨r, p, c⟩ = steps config parts ⟨r, q, c⟩ := by
  have hnames : componentNames ⟨r, p, c⟩ = componentNames ⟨r, q, c⟩ := by
    rw [componentNames, componentNames, h.usedDefinitions_eq]
  have hlines : pageLines ⟨r, p, c⟩ = pageLines ⟨r, q, c⟩ := by
    rw [pageLines, pageLines, (Layout.isRenderer_jsx r p).list_eq,
      (Layout.isRenderer_jsx r q).list_eq, Piece.ofList_congr _ h.topLevel]
  have hpage : page ⟨r, p, c⟩ = page ⟨r, q, c⟩ := by rw [page, page, hnames, hlines]
  have hobstacle : Job.pageObstacle? ⟨r, p, c⟩ = Job.pageObstacle? ⟨r, q, c⟩ :=
    Instance.listObstacle?_congr _ h.topLevel
  rw [steps, steps, componentSteps_congr h, componentIndex_congr hnames, hobstacle, hpage]

end Web

/-! ### Emissions that differ in texts -/

/-- The same file, but for the text of those at some paths. -/
structure GeneratedFile.SameBut (paths : List String) (f g : GeneratedFile) : Prop where
  path : f.path = g.path
  language : f.language = g.language
  content : f.path ∉ paths → f.content = g.content

/-- Steps that write such files, or fail alike. -/
inductive StepsAlike (paths : List String) : EmitStep → EmitStep → Prop
  | file {f g : GeneratedFile} (h : f.SameBut paths g) : StepsAlike paths (.ok f) (.ok g)
  | failure (message : String) : StepsAlike paths (.error message) (.error message)

namespace StepsAlike

variable {paths : List String}

theorem refl (step : EmitStep) : StepsAlike paths step step := by
  cases step with
  | ok f => exact .file ⟨rfl, rfl, fun _ => rfl⟩
  | error m => exact .failure m

theorem text {path : String} (h : path ∈ paths) (a b : String) (language : Option String) :
    StepsAlike paths (emitFile path a language) (emitFile path b language) :=
  .file ⟨rfl, rfl, fun hnot => absurd h hnot⟩

theorem refl_list (steps : List EmitStep) : List.Forall₂ (StepsAlike paths) steps steps :=
  List.forall₂_same.2 fun step _ => refl step

end StepsAlike

namespace Emission

variable {paths : List String} {xs ys : List EmitStep}

theorem sameBut_files (h : List.Forall₂ (StepsAlike paths) xs ys) :
    List.Forall₂ (GeneratedFile.SameBut paths) (ofSteps xs).files (ofSteps ys).files := by
  induction h with
  | nil => exact .nil
  | cons hstep _ ih =>
    cases hstep with
    | file hfile => exact .cons hfile ih
    | failure => exact .nil

theorem failure_eq (h : List.Forall₂ (StepsAlike paths) xs ys) :
    (ofSteps xs).failure = (ofSteps ys).failure := by
  induction h with
  | nil => rfl
  | cons hstep _ ih =>
    cases hstep with
    | file => exact ih
    | failure => rfl

theorem ofSteps_append_of_finished (h : (ofSteps xs).failure = none) (ys : List EmitStep) :
    ofSteps (xs ++ ys) = ⟨(ofSteps xs).files ++ (ofSteps ys).files, (ofSteps ys).failure⟩ := by
  induction xs with
  | nil => rfl
  | cons step xs ih =>
    cases step with
    | error m => cases h
    | ok f => rw [List.cons_append, ofSteps_ok, ofSteps_ok, ih h, List.cons_append]

theorem ofSteps_append_of_failure {message : String} (h : (ofSteps xs).failure = some message)
    (ys : List EmitStep) : ofSteps (xs ++ ys) = ofSteps xs := by
  induction xs with
  | nil => cases h
  | cons step xs ih =>
    cases step with
    | error m => rfl
    | ok f => rw [List.cons_append, ofSteps_ok, ofSteps_ok, ih h]

end Emission

/-! ### The desktop project -/

def Web.packageFile (c : Composition) (scripts packages devPackages : List Package) : Value :=
  .object
    [("name", .text c.slug), ("version", .text c.version), ("private", .bool true),
     ("type", .text "module"), ("scripts", Package.toValue scripts),
     ("dependencies", Package.toValue packages), ("devDependencies", Package.toValue devPackages)]

namespace Web

theorem packageValue_eq (config : WebConfig) (x : PackageExtras) (j : Job) :
    packageValue config x j = packageFile j.composition (scripts config ++ x.scripts)
      (Package.sorted (x.packages.foldl Package.pin j.packages))
      (devPackagesFor config ++ x.devPackages) := rfl

theorem packageValue_plain (config : WebConfig) (j : Job) :
    packageValue config {} j =
      packageFile j.composition (scripts config) j.packages (devPackagesFor config) := by
  simp only [packageValue_eq, List.append_nil, List.foldl_nil, j.sorted_packages]

theorem head?_files (config : WebConfig) (parts : Parts) (j : Job) (more : List EmitStep) :
    (Emission.ofSteps (steps config parts j ++ more)).files.head? =
      some { path := "package.json", content := jsonFile parts.package, language := "json" } := rfl

end Web

namespace Desktop

/-- The files whose texts differ from those of the web project. -/
def ownTexts : List String :=
  ["package.json", "vite.config.ts", "README.md"]

def parts (j : Job) : Web.Parts :=
  ⟨Web.packageValue {} packageExtras j, viteConfig, readme j.composition⟩

theorem stepsAlike_parts (c : WebConfig) (a b : Web.Parts) (j : Job) :
    List.Forall₂ (StepsAlike ownTexts) (Web.steps c a j) (Web.steps c b j) := by
  have hpackage : StepsAlike ownTexts (emitFile "package.json" (Web.jsonFile a.package) "json")
      (emitFile "package.json" (Web.jsonFile b.package) "json") := .text (by decide) _ _ _
  have hvite : StepsAlike ownTexts (emitFile "vite.config.ts" a.viteConfig "typescript")
      (emitFile "vite.config.ts" b.viteConfig "typescript") := .text (by decide) _ _ _
  have hreadme : StepsAlike ownTexts (emitFile "README.md" a.readme "markdown")
      (emitFile "README.md" b.readme "markdown") := .text (by decide) _ _ _
  rw [Web.steps, Web.steps]
  refine List.rel_append (List.rel_append (List.rel_append (List.rel_append (List.rel_append
    (List.rel_append (.cons hpackage .nil) ?_) ?_) ?_) (.cons hvite ?_)) ?_)
    (.cons (.refl _) (.cons (.refl _) (.cons hreadme ?_)))
  all_goals exact StepsAlike.refl_list _

/-- What follows the front end of a desktop project. The seven files of the shell do, once the front
end is finished and the window has a size that can be written; otherwise the emission ends where it
cannot go on. -/
structure ShellFollows (config : DesktopConfig) (web desktop : Emission)
    (shell : List GeneratedFile) : Prop where
  finished : web.failure = none → sizeObstacle? config = none →
    shell.map (·.path) = shellPaths ∧ desktop.failure = none
  stopped : ∀ message, web.failure = some message →
    shell = [] ∧ desktop.failure = some message
  oversized : web.failure = none → ∀ o, sizeObstacle? config = some o →
    shell.map (·.path) = shellPaths.take 2 ∧ desktop.failure = some o.message

theorem exists_shellFollows (config : DesktopConfig) (steps : List EmitStep) (j : Job)
    {web : Emission} (hfailure : web.failure = (Emission.ofSteps steps).failure) :
    ∃ shell, (Emission.ofSteps (steps ++ shellSteps config j)).files =
        (Emission.ofSteps steps).files ++ shell ∧
      ShellFollows config web (Emission.ofSteps (steps ++ shellSteps config j)) shell := by
  cases hsteps : (Emission.ofSteps steps).failure with
  | some message =>
    rw [Emission.ofSteps_append_of_failure hsteps]
    refine ⟨[], (List.append_nil _).symm, ?_, ?_, ?_⟩
    · intro h
      rw [hfailure, hsteps] at h
      cases h
    · intro m hm
      exact ⟨rfl, hfailure ▸ hm⟩
    · intro h
      rw [hfailure, hsteps] at h
      cases h
  | none =>
    rw [Emission.ofSteps_append_of_finished hsteps]
    refine ⟨_, rfl, ?_, ?_, ?_⟩
    · intro _ hsize
      rw [shellSteps, hsize]
      exact ⟨rfl, rfl⟩
    · intro m hm
      rw [hfailure, hsteps] at hm
      cases hm
    · intro _ o ho
      rw [shellSteps, ho]
      exact ⟨rfl, rfl⟩

/-- A desktop emission that has a web emission as its front end: the same files in order, with texts
of their own at three paths, and then the shell. The package file comes first in both. It has three
more scripts, one more development package, and, in order, the same packages besides the pinned ones
of the shell. -/
structure WrapsWeb (config : DesktopConfig) (c : Composition) (webPackages : List Package)
    (web desktop : Emission) : Prop where
  files : ∃ front shell, desktop.files = front ++ shell ∧
    List.Forall₂ (GeneratedFile.SameBut ownTexts) web.files front ∧
    ShellFollows config web desktop shell
  webPackage : web.files.head? = some
    { path := "package.json"
      content := Web.jsonFile
        (Web.packageFile c (Web.scripts {}) webPackages (Web.devPackagesFor {}))
      language := "json" }
  webOrdered : webPackages.Pairwise fun a b => a.1 < b.1
  package : ∃ packages : List Package,
    desktop.files.head? = some
      { path := "package.json"
        content := Web.jsonFile
          (Web.packageFile c
            (Web.scripts {} ++
              [("tauri", "tauri"), ("tauri:dev", "tauri dev"), ("tauri:build", "tauri build")])
            packages (Web.devPackagesFor {} ++ [("@tauri-apps/cli", "^2.0.0")]))
        language := "json" } ∧
    (packages.Pairwise fun a b => a.1 < b.1) ∧
    ∀ name, packages.lookup name =
      (([("@tauri-apps/api", "^2.0.0"), ("@tauri-apps/plugin-shell", "^2.0.0")].lookup name).or
        (webPackages.lookup name))

theorem stepsAlike_web {c : Composition} {r : Registry} (h : c.SameFrontEnd r "desktop" "web") :
    List.Forall₂ (StepsAlike ownTexts) (Web.projectSteps {} ⟨r, "web", c⟩)
      (Web.steps {} (parts ⟨r, "desktop", c⟩) ⟨r, "desktop", c⟩) := by
  rw [Web.steps_eq_of_sameFrontEnd h]
  exact stepsAlike_parts {} _ _ ⟨r, "web", c⟩

end Desktop

/-- A desktop project whose capsules have the front ends of the web platform wraps the web project
with its default options. Capsules with the same template on both platforms have one front end. -/
theorem desktop_wraps_web {c : Composition} {r : Registry} (h : c.SameFrontEnd r "desktop" "web")
    (config : DesktopConfig) :
    Desktop.WrapsWeb config c (Job.packages ⟨r, "web", c⟩)
      (Emission.ofSteps (Web.projectSteps {} ⟨r, "web", c⟩))
      (Emission.ofSteps (Desktop.projectSteps config ⟨r, "desktop", c⟩)) := by
  have hpackages : Job.packages ⟨r, "desktop", c⟩ = Job.packages ⟨r, "web", c⟩ := by
    rw [Job.packages, Job.packages, Job.dependencies, Job.dependencies, h.dependencies_eq]
  have hpins : (Desktop.packageExtras.packages.map (·.1)).Nodup := by decide
  have hnodup := Package.nodup_foldl_pin Desktop.packageExtras.packages
    (Job.nodup_packages ⟨r, "web", c⟩)
  constructor
  case files =>
    have halike := Desktop.stepsAlike_web h
    obtain ⟨shell, hshell, hfollows⟩ := Desktop.exists_shellFollows config _ ⟨r, "desktop", c⟩
      (Emission.failure_eq halike)
    exact ⟨_, shell, hshell, Emission.sameBut_files halike, hfollows⟩
  case webPackage =>
    rw [← Web.packageValue_plain {} ⟨r, "web", c⟩, Web.projectSteps, ← List.append_nil (Web.steps ..)]
    exact Web.head?_files ..
  case webOrdered => exact Job.pairwise_packages _
  case package =>
    refine ⟨_, ?_, Package.pairwise_sorted hnodup, fun name => ?_⟩
    · rw [← hpackages]
      exact Web.head?_files {} (Desktop.parts ⟨r, "desktop", c⟩) ⟨r, "desktop", c⟩ _
    · rw [Package.lookup_sorted hnodup, Package.lookup_foldl_pin hpins]
      rfl

/-- A capsule that brings a package of the shell, and templates for different frameworks. -/
theorem desktop_wraps_web_pinned :
    let source (framework : String) : Template :=
      { framework, code := "<p />", dependencies := ["@tauri-apps/api@1.5.0", "zod@3.22.0"] }
    let r : Registry :=
      ⟨[{ id := "card", name := "Card",
          platforms := [("web", source "react"), ("desktop", source "tauri")] }]⟩
    let c : Composition :=
      { name := "App"
        root := some { id := "top", capsuleId := "card", children :=
          [{ id := "lost", capsuleId := "chart" }] } }
    c.SameFrontEnd r "desktop" "web" ∧
      Desktop.WrapsWeb {} c (Job.packages ⟨r, "web", c⟩)
        (Emission.ofSteps (Web.projectSteps {} ⟨r, "web", c⟩))
        (Emission.ofSteps (Desktop.projectSteps {} ⟨r, "desktop", c⟩)) := by
  intro source r c
  have h : c.SameFrontEnd r "desktop" "web" := by
    unfold Composition.SameFrontEnd Registry.SameFrontEnd
    decide
  exact ⟨h, desktop_wraps_web h {}⟩

/-- A date has no literal on a page, and where the page cannot be written the shell does not
follow. -/
theorem shell_missing_after_date :
    let note : Template := { framework := "react", code := "<p />" }
    let r : Registry :=
      ⟨[{ id := "note", name := "Note", platforms := [("web", note), ("desktop", note)] }]⟩
    let c : Composition :=
      { name := "App"
        root := some { id := "top", capsuleId := "note", props :=
          [("when", .moment (.date ⟨2024, 1, 2⟩))] } }
    (∀ id ∈ c.usedCapsules, r.template id "desktop" = r.template id "web") ∧
      (Emission.ofSteps (Desktop.projectSteps {} ⟨r, "desktop", c⟩)).files.map (·.path) ≠
        (Emission.ofSteps (Web.projectSteps {} ⟨r, "web", c⟩)).files.map (·.path) ++
          Desktop.shellPaths := by
  intro note r c
  have hsame : ∀ id ∈ c.usedCapsules, r.template id "desktop" = r.template id "web" := by decide
  have hfront : c.SameFrontEnd r "desktop" "web" := fun id hid => congrArg _ (hsame id hid)
  have halike := Desktop.stepsAlike_web hfront
  have hfailure : (Emission.ofSteps (Web.projectSteps {} ⟨r, "web", c⟩)).failure =
      some "Object of type date is not JSON serializable" := by rfl
  refine ⟨hsame, fun hpaths => ?_⟩
  have hlength := congrArg List.length hpaths
  rw [Emission.failure_eq halike] at hfailure
  have hdesktop : (Emission.ofSteps (Desktop.projectSteps {} ⟨r, "desktop", c⟩)).files =
      (Emission.ofSteps (Web.steps {} (Desktop.parts ⟨r, "desktop", c⟩) ⟨r, "desktop", c⟩)).files :=
    congrArg Emission.files (Emission.ofSteps_append_of_failure hfailure _)
  rw [hdesktop, List.length_append, List.length_map, List.length_map,
    (Emission.sameBut_files halike).length_eq] at hlength
  simp [Desktop.shellPaths] at hlength

end CapsuleKit
