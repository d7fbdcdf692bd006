import CapsuleKit.Compile.Generator
import CapsuleKit.Proofs.Emission
import CapsuleKit.Proofs.Outline

/-!
# Component references

A page calls components by name. When a generator gets to its end, the source of every component that
the page calls is among its files, and the page imports it: on the web and on the desktop by a list
of names that is also the list of exports of the index, on Android by its full name.
-/

namespace CapsuleKit

/-- Whether there is a file at a path whose text has a property. -/
def HasFile (files : List GeneratedFile) (path : String) (text : String → Prop) : Prop :=
  ∃ f ∈ files, f.path = path ∧ text f.content

theorem HasFile.intro {files : List GeneratedFile} {path content : String}
    {language : Option String} {text : String → Prop} (h : ⟨path, content, language⟩ ∈ files)
    (ht : text content) : HasFile files path text :=
  ⟨_, h, rfl, ht⟩

/-- Whether the source of a component is among the files, and page and index list the same names,
one of which is that of the component. -/
def WebReference (files : List GeneratedFile) (extension plainExtension : String)
    (source : String → Prop) (name : String) : Prop :=
  HasFile files ("src/components/" ++ name ++ "." ++ extension) source ∧
    ∃ names, name ∈ names ∧
      HasFile files ("src/pages/HomePage." ++ extension) (fun text => ∃ rest,
        text = "import \x7b " ++ String.intercalate ", " names ++ " \x7d from '../components'\n\n" ++ rest) ∧
      HasFile files ("src/components/index." ++ plainExtension) (fun text =>
        text = Text.lines (names.map fun n => "export \x7b " ++ n ++ " \x7d from './" ++ n ++ "'"))

namespace Web

variable {j : Job} {i : Instance} {d : Definition} {t : Template}

theorem homePage_eq {names : List String} (h : names ≠ []) (title : String) (body : List String) :
    ∃ rest, homePage names title body =
      "import \x7b " ++ String.intercalate ", " names ++ " \x7d from '../components'\n\n" ++ rest := by
  rw [homePage, importLine, if_neg (by simpa using h)]
  exact ⟨_, rfl⟩

theorem componentNames_eq (j : Job) :
    componentNames j = j.components.map fun p => p.1.componentName := by
  simp only [componentNames, ← Job.map_fst_components, List.map_map, Function.comp_def]

theorem componentIndex_eq (h : componentNames j ≠ []) :
    componentIndex j = Text.lines ((componentNames j).map fun n =>
      "export \x7b " ++ n ++ " \x7d from './" ++ n ++ "'") := by
  rw [componentNames_eq] at h ⊢
  rw [componentIndex, List.map_map]
  cases hc : j.components with
  | nil => rw [hc] at h; exact absurd rfl h
  | cons p ps => rfl

section Steps

variable (c : WebConfig) (parts : Parts) (j : Job)

theorem component_mem_steps (h : (d, t) ∈ j.components) :
    emitFile ("src/components/" ++ d.componentName ++ "." ++ c.extension) (componentSource d t)
      (some c.language) ∈ steps c parts j := by
  have hmem : emitFile (componentPath c d) (componentSource d t) (some c.language) ∈
      componentSteps c j := List.mem_map.2 ⟨(d, t), h, rfl⟩
  simp only [steps, List.mem_append]
  exact .inl (.inr hmem)

theorem index_mem_steps :
    emitFile ("src/components/index." ++ c.plainExtension) (componentIndex j) (some c.language) ∈
      steps c parts j := by
  simp only [steps, List.mem_append]
  exact .inr (List.mem_cons_self ..)

theorem page_mem_steps :
    emitUnless j.pageObstacle?
        (emitFile ("src/pages/HomePage." ++ c.extension) (page j) (some c.language)) ∈
      steps c parts j := by
  simp only [steps, List.mem_append]
  exact .inr (List.mem_cons_of_mem _ (List.mem_cons_self ..))

end Steps

theorem reference_of_steps {c : WebConfig} {parts : Parts} {all : List EmitStep}
    (hsub : steps c parts j ⊆ all) (h : (Emission.ofSteps all).failure = none)
    (hi : i ∈ Instance.forest j.composition.topLevel)
    (hd : j.registry.supported j.platform i.capsuleId = some d) :
    WebReference (Emission.ofSteps all).files c.extension c.plainExtension
      (fun text => ∃ t, d.template? j.platform = some t ∧ text = componentSource d t)
      d.componentName := by
  obtain ⟨t, ht, hmem⟩ := Job.mem_components hi hd
  have hname : d.componentName ∈ componentNames j :=
    List.mem_map.2 ⟨d, Job.mem_usedDefinitions hi hd, rfl⟩
  have hne : componentNames j ≠ [] := List.ne_nil_of_mem hname
  have hsource := Emission.mem_files h (hsub (component_mem_steps c parts j hmem))
  have hpage := Emission.mem_files_unless h (hsub (page_mem_steps c parts j))
  have hindex := Emission.mem_files h (hsub (index_mem_steps c parts j))
  exact ⟨.intro hsource ⟨t, ht, rfl⟩, componentNames j, hname, .intro hpage (homePage_eq hne _ _),
    .intro hindex (componentIndex_eq hne)⟩

end Web

namespace Text

theorem exists_line {head ls : List String} {l : String} (hne : head ≠ []) (h : l ∈ ls) :
    ∃ before after, lines (head ++ ls) = before ++ "\n" ++ l ++ "\n" ++ after := by
  obtain ⟨pre, post, rfl⟩ := List.append_of_mem h
  refine ⟨joinLines (head ++ pre), lines post, ?_⟩
  rw [← List.append_assoc, lines_append, lines_cons,
    lines_eq_joinLines (List.append_ne_nil_of_left_ne_nil hne pre)]
  simp only [String.append_assoc]

end Text

namespace Ios

variable {j : Job} {i : Instance} {d : Definition} {c : IosConfig}

theorem component_mem_files (h : (Emission.ofSteps (projectSteps c j)).failure = none)
    (hi : i ∈ Instance.forest j.composition.topLevel)
    (hd : j.registry.supported j.platform i.capsuleId = some d) :
    HasFile (Emission.ofSteps (projectSteps c j)).files
      ("Sources/" ++ j.composition.typeName ++ "/Components/" ++ d.componentName ++ ".swift")
      (fun text => ∃ t, d.template? j.platform = some t ∧ text = componentSource d t) := by
  obtain ⟨t, ht, hmem⟩ := Job.mem_components hi hd
  rw [projectSteps] at h ⊢
  cases htarget : j.deploymentTarget c.minVersion with
  | error fault => rw [htarget] at h; cases h
  | ok target =>
    rw [htarget] at h
    have hstep : emitFile (componentPath j.composition d) (componentSource d t) "swift" ∈
        filesFor c j target := by
      simp only [filesFor, List.mem_append]
      exact .inl (.inr (List.mem_map.2 ⟨(d, t), hmem, rfl⟩))
    exact .intro (Emission.mem_files h hstep) ⟨t, ht, rfl⟩

end Ios

namespace Android

variable {j : Job} {i : Instance} {d : Definition} {c : AndroidConfig}

theorem component_mem_files (h : (Emission.ofSteps (projectSteps c j)).failure = none)
    (hi : i ∈ Instance.forest j.composition.topLevel)
    (hd : j.registry.supported j.platform i.capsuleId = some d) :
    HasFile (Emission.ofSteps (projectSteps c j)).files
      (sourceRoot c.packageName ++ "/ui/components/" ++ d.componentName ++ ".kt")
      (fun text =>
        ∃ t, d.template? j.platform = some t ∧ text = componentSource c.packageName d t) := by
  obtain ⟨t, ht, hmem⟩ := Job.mem_components hi hd
  have hstep : emitFile (componentPath c.packageName d) (componentSource c.packageName d t)
      "kotlin" ∈ projectSteps c j := by
    simp only [projectSteps, List.mem_append]
    exact .inl (.inr (List.mem_map.2 ⟨(d, t), hmem, rfl⟩))
  exact .intro (Emission.mem_files h hstep) ⟨t, ht, rfl⟩

theorem exists_import (package : String) {name : String} {names : List String} (h : name ∈ names)
    (body : List String) : ∃ before after, homeScreen package names body =
      before ++ "\n" ++ ("import " ++ package ++ ".ui.components." ++ name) ++ "\n" ++ after := by
  have hmem : "import " ++ package ++ ".ui.components." ++ name ∈ screenImports package names :=
    List.mem_append_right _ (List.mem_map.2 ⟨name, h, rfl⟩)
  simp only [homeScreen, List.append_assoc]
  exact Text.exists_line (List.cons_ne_nil _ _) (List.mem_append_left _ hmem)

theorem screen_mem_files (h : (Emission.ofSteps (projectSteps c j)).failure = none)
    (hi : i ∈ Instance.forest j.composition.topLevel)
    (hd : j.registry.supported j.platform i.capsuleId = some d) :
    HasFile (Emission.ofSteps (projectSteps c j)).files
      (sourceRoot c.packageName ++ "/ui/HomeScreen.kt") (fun text => ∃ before after,
        text = before ++ "\n" ++ ("import " ++ c.packageName ++ ".ui.components." ++ d.componentName) ++
          "\n" ++ after) := by
  have hname : d.componentName ∈ componentNames j :=
    List.mem_map.2 ⟨d, Job.mem_usedDefinitions hi hd, rfl⟩
  have hstep : emitUnless j.pageObstacle?
      (emitFile (sourceRoot c.packageName ++ "/ui/HomeScreen.kt")
        (homeScreen c.packageName (componentNames j) (pageLines j)) "kotlin") ∈ projectSteps c j := by
    simp only [projectSteps, List.cons_append]
    exact .tail _ (.tail _ (.tail _ (.tail _ (.tail _ (.head _)))))
  exact .intro (Emission.mem_files_unless h hstep)
    (exists_import c.packageName hname (pageLines j))

end Android

namespace Generator

theorem files_compile (g : Generator) (j : Job) :
    (g.compile j).files = (Emission.ofSteps (g.steps j)).files :=
  rfl

variable (j : Job)

theorem steps_web : web.steps j = Web.projectSteps ((j.options WebConfig.build).getD {}) j :=
  rfl

theorem steps_desktop :
    desktop.steps j =
      Web.steps {} ⟨Web.packageValue {} Desktop.packageExtras j, Desktop.viteConfig,
        Desktop.readme j.composition⟩ j ++
        Desktop.shellSteps ((j.options DesktopConfig.build).getD {}) j :=
  rfl

theorem steps_ios : ios.steps j = Ios.projectSteps ((j.options IosConfig.build).getD {}) j :=
  rfl

theorem steps_android :
    android.steps j = Android.projectSteps ((j.options AndroidConfig.build).getD {}) j :=
  rfl

end Generator

/-- No reference to a component dangles. A supported instance on the page, however deep and below
whatever ancestors, is a call of its component in the text of the page, and is read as one. When a
generator finishes, the source of that component is among its files, and the page imports the
component where the target needs that. -/
theorem component_references_resolve (j : Job) (i : Instance) (d : Definition)
    (hi : i ∈ Instance.forest j.composition.topLevel)
    (hd : j.registry.supported j.platform i.capsuleId = some d) :
    (∀ (t : Target) (depth : Int),
        (∃ e, Text.IsIn (Text.joinLines (t.render j.registry j.platform e i))
            (Text.joinLines (t.renderList j.registry j.platform depth j.composition.topLevel)) ∧
          t.IsCall e d.componentName i.propLabels i.slotLabels (t.render j.registry j.platform e i)) ∧
        ((∀ k ∈ Instance.forest j.composition.topLevel, t.IsNameable j.registry j.platform k) →
          ∃ ms, t.read (Text.joinLines
              (t.renderList j.registry j.platform depth j.composition.topLevel)) = some ms ∧
            .call d.componentName i.labels ∈ ms)) ∧
      ((Emission.ofSteps (Generator.web.steps j)).failure = none →
        let config := (j.options WebConfig.build).getD {}
        WebReference (Generator.web.compile j).files config.extension config.plainExtension
          (fun text => ∃ t, d.template? j.platform = some t ∧ text = Web.componentSource d t)
          d.componentName) ∧
      ((Emission.ofSteps (Generator.desktop.steps j)).failure = none →
        WebReference (Generator.desktop.compile j).files "tsx" "ts"
          (fun text => ∃ t, d.template? j.platform = some t ∧ text = Web.componentSource d t)
          d.componentName) ∧
      ((Emission.ofSteps (Generator.ios.steps j)).failure = none →
        HasFile (Generator.ios.compile j).files
          ("Sources/" ++ j.composition.typeName ++ "/Components/" ++ d.componentName ++ ".swift")
          (fun text => ∃ t, d.template? j.platform = some t ∧ text = Ios.componentSource d t)) ∧
      ((Emission.ofSteps (Generator.android.steps j)).failure = none →
        let package := ((j.options AndroidConfig.build).getD {}).packageName
        HasFile (Generator.android.compile j).files
            (Android.sourceRoot package ++ "/ui/components/" ++ d.componentName ++ ".kt")
            (fun text =>
              ∃ t, d.template? j.platform = some t ∧ text = Android.componentSource package d t) ∧
          HasFile (Generator.android.compile j).files
            (Android.sourceRoot package ++ "/ui/HomeScreen.kt")
            (fun text => ∃ before after, text = before ++ "\n" ++
              ("import " ++ package ++ ".ui.components." ++ d.componentName) ++ "\n" ++ after)) := by
  simp only [Generator.files_compile, Generator.steps_web, Generator.steps_desktop,
    Generator.steps_ios, Generator.steps_android]
  refine ⟨fun t depth => ⟨t.exists_isCall hi hd depth, fun hnames => ?_⟩, fun h => ?_, fun h => ?_,
    fun h => ?_, fun h => ?_⟩
  · exact ⟨_, t.read_renderList hnames depth, t.call_mem_outline hi hd⟩
  · exact Web.reference_of_steps (List.Subset.refl _) h hi hd
  · have href := Web.reference_of_steps (List.subset_append_left _ _) h hi hd
    exact href
  · exact Ios.component_mem_files h hi hd
  · have hsource := Android.component_mem_files h hi hd
    have hscreen := Android.screen_mem_files h hi hd
    exact ⟨hsource, hscreen⟩

/-- A component that is only used in a slot of an unsupported instance: all four generators finish,
the page has its call, and the desktop project has its source. -/
theorem component_references_resolve_in_slot :
    let d : Definition := { id := "box", name := "Box", platforms := [("web", { framework := "react" })] }
    let leaf : Instance := { id := "leaf", capsuleId := "box" }
    let j : Job :=
      { registry := ⟨[d]⟩
        platform := "web"
        composition :=
          { name := "App", root := some { id := "top", capsuleId := "gone", slots := [("side", [leaf])] } } }
    let lines := ["\x7b/* unsupported capsule: top */\x7d", "<Box />"]
    (∀ g ∈ [Generator.web, .desktop, .ios, .android], (Emission.ofSteps (g.steps j)).failure = none) ∧
      Jsx.renderList j.registry j.platform 0 j.composition.topLevel = lines ∧
      (∃ ms, Target.jsx.read (Text.joinLines lines) = some ms ∧ .call "Box" [] ∈ ms) ∧
      HasFile (Generator.desktop.compile j).files "src/components/Box.tsx"
        (fun text => ∃ t, d.template? "web" = some t ∧ text = Web.componentSource d t) := by
  intro d leaf j lines
  have hi : leaf ∈ Instance.forest j.composition.topLevel := .tail _ (.head _)
  have hname : d.componentName = "Box" := by decide +kernel
  have hfinish : ∀ g ∈ [Generator.web, .desktop, .ios, .android],
      (Emission.ofSteps (g.steps j)).failure = none := by
    simp only [List.forall_mem_cons, List.not_mem_nil, false_implies, implies_true, and_true]
    refine ⟨?_, ?_, ?_, ?_⟩ <;> decide +kernel
  have hnames : ∀ k ∈ Instance.forest j.composition.topLevel,
      Target.jsx.IsNameable j.registry j.platform k := by
    rw [show Instance.forest j.composition.topLevel = [_, leaf] from rfl]
    simp only [List.forall_mem_cons, List.not_mem_nil, false_implies, implies_true, and_true]
    exact ⟨fun h => absurd h (by decide), fun _ => by decide⟩
  have hlines : Jsx.renderList j.registry j.platform 0 j.composition.topLevel = lines := by
    decide +kernel
  obtain ⟨hcalls, -, hdesktop, -⟩ := component_references_resolve j leaf d hi rfl
  obtain ⟨ms, hread, hcall⟩ := (hcalls .jsx 0).2 hnames
  have hsource := (hdesktop (hfinish _ (.tail _ (.head _)))).1
  rw [hname] at hcall hsource
  exact ⟨hfinish, hlines, ⟨ms, hlines ▸ hread, hcall⟩, hsource⟩

end CapsuleKit
