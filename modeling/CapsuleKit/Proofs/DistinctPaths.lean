import CapsuleKit.Proofs.FirstOccurrences
import CapsuleKit.Proofs.Paths
import Mathlib.Data.List.Nodup

/-!
# Files that overwrite each other

The files of a project have fixed paths, paths that depend on the app's name or package, and one path
for each component in use. A `PathPlan` lists them in order. If no component can have a path of another
kind (`PathPlan.IsApart`), two files share a path exactly if two components share a name. That is so for
all four projects, whatever the app and its package are called.
-/

namespace CapsuleKit

/-! ### Paths of the steps -/

/-- Whether a path is that of the file a step writes, if it writes one. -/
def WritesAt (step : EmitStep) (path : String) : Prop :=
  ∀ f, step = .ok f → f.path = path

namespace WritesAt

variable {path content : String} {language : Option String}

theorem file : WritesAt (emitFile path content language) path := by
  rintro f hf
  obtain rfl := Except.ok.inj hf
  rfl

theorem unlessObstacle {o : Option Json.Obstacle} :
    WritesAt (emitUnless o (emitFile path content language)) path := by
  cases o with
  | none => exact file
  | some o => exact fun f hf => nomatch hf

end WritesAt

theorem Emission.map_path_files {steps : List EmitStep} {paths : List String}
    (hpaths : List.Forall₂ WritesAt steps paths) (h : (ofSteps steps).failure = none) :
    (ofSteps steps).files.map (·.path) = paths := by
  induction hpaths with
  | nil => rfl
  | @cons first path steps paths hfirst _ ih =>
    cases first with
    | error m => cases h
    | ok f => rw [ofSteps_ok, List.map_cons, hfirst f rfl, ih h]

/-! ### Plans -/

theorem nodup_between_iff {before middle after : List String} (h : (before ++ after).Nodup)
    (hmiddle : ∀ path ∈ middle, path ∉ before ++ after) :
    (before ++ middle ++ after).Nodup ↔ middle.Nodup := by
  have hperm : (before ++ middle ++ after).Perm (middle ++ (before ++ after)) := by
    rw [← List.append_assoc]
    exact List.perm_append_comm.append_right _
  rw [hperm.nodup_iff, List.nodup_append]
  refine ⟨fun hall => hall.1, fun hnodup => ⟨hnodup, h, ?_⟩⟩
  rintro path hpath _ hother rfl
  exact hmiddle path hpath hother

theorem toList_prefix_append (a b : String) : a.toList <+: (a ++ b).toList := by
  rw [String.toList_append]
  exact List.prefix_append _ _

theorem toList_suffix_append (a b : String) : b.toList <:+ (a ++ b).toList := by
  rw [String.toList_append]
  exact List.suffix_append _ _

theorem not_below_of_start {start root path : String} (hroot : start.toList <+: root.toList)
    (hpath : start.toList.isPrefixOf path.toList = false) : ¬ root.toList <+: path.toList := by
  intro hprefix
  rw [List.isPrefixOf_iff_prefix.2 (hroot.trans hprefix)] at hpath
  cases hpath

/-- The paths of a project: those in front of the components, what stands around the name of a
component, and the paths behind the components. -/
structure PathPlan where
  before : List String
  front : String
  back : String
  after : List String

namespace PathPlan

variable (p : PathPlan)

def place (name : String) : String :=
  p.front ++ name ++ p.back

def paths (names : List String) : List String :=
  p.before ++ names.map p.place ++ p.after

/-- Whether the other paths are distinct, and none of them is that of a component, whatever its
name. -/
structure IsApart : Prop where
  nodup : (p.before ++ p.after).Nodup
  place_notMem : ∀ name, p.place name ∉ p.before ++ p.after

theorem place_injective : Function.Injective p.place := by
  intro a b hab
  rw [place, place, String.append_left_inj, String.append_right_inj] at hab
  exact hab

theorem prefix_place (name : String) : p.front.toList <+: (p.place name).toList := by
  rw [place, String.append_assoc]
  exact toList_prefix_append _ _

theorem suffix_place (name : String) : p.back.toList <:+ (p.place name).toList :=
  toList_suffix_append _ _

variable {p} in
theorem nodup_paths_iff (h : p.IsApart) (names : List String) :
    (p.paths names).Nodup ↔ names.Nodup := by
  refine (nodup_between_iff h.nodup fun path hpath => ?_).trans
    (List.nodup_map_iff p.place_injective)
  obtain ⟨name, -, rfl⟩ := List.mem_map.1 hpath
  exact h.place_notMem name

/-- A project with its sources in a directory, between paths outside of it. -/
def below (root : String) (first inner last : List String) (front back : String) : PathPlan where
  before := first ++ inner.map (root ++ ·)
  front := root ++ front
  back
  after := last

theorem isApart_below {root front back : String} {first inner last : List String}
    (houter : (first ++ last).Nodup) (hinner : inner.Nodup)
    (hroot : ∀ path ∈ first ++ last, ¬ root.toList <+: path.toList)
    (hplace : ∀ rest ∈ inner, front.toList.isPrefixOf rest.toList = false ∨
      ∀ name, front ++ name ++ back ≠ rest) :
    (below root first inner last front back).IsApart where
  nodup := by
    refine (nodup_between_iff houter fun path hpath hmem => ?_).2 ?_
    · obtain ⟨rest, -, rfl⟩ := List.mem_map.1 hpath
      exact hroot _ hmem (toList_prefix_append _ _)
    · exact (List.nodup_map_iff fun a b hab => (String.append_right_inj root).1 hab).2 hinner
  place_notMem name hmem := by
    have hname : (below root first inner last front back).place name =
        root ++ (front ++ name ++ back) := by
      simp only [place, below, String.append_assoc]
    have hprefix : root.toList <+: (root ++ (front ++ name ++ back)).toList :=
      toList_prefix_append _ _
    rw [hname] at hmem
    rcases List.mem_append.1 hmem with hbefore | hlast
    · rcases List.mem_append.1 hbefore with hfirst | hinner
      · exact hroot _ (List.mem_append_left _ hfirst) hprefix
      · obtain ⟨rest, hrest, heq⟩ := List.mem_map.1 hinner
        obtain rfl := (String.append_right_inj root).1 heq
        rcases hplace _ hrest with hstart | hne
        · have hfront : front.toList <+: (front ++ name ++ back).toList := by
            rw [String.append_assoc]
            exact toList_prefix_append _ _
          exact not_below_of_start List.prefix_rfl hstart hfront
        · exact hne name rfl
    · exact hroot _ (List.mem_append_right _ hlast) hprefix

end PathPlan

theorem WritesAt.components (step : Definition × Template → EmitStep) (place : String → String)
    (h : ∀ c, WritesAt (step c) (place c.1.componentName)) (cs : List (Definition × Template)) :
    List.Forall₂ WritesAt (cs.map step) ((cs.map (·.1.componentName)).map place) := by
  rw [List.map_map, List.forall₂_map_left_iff, List.forall₂_map_right_iff, List.forall₂_same]
  exact fun c _ => h c

/-- Whether steps keep to a plan, for the components of a job. -/
def Job.KeepsTo (j : Job) (p : PathPlan) (steps : List EmitStep) : Prop :=
  List.Forall₂ WritesAt steps (p.paths (j.components.map (·.1.componentName)))

/-! ### The four projects -/

namespace Web

def plan (c : WebConfig) (shell : List String) : PathPlan where
  before := ["package.json"] ++
    (if c.typescript then ["tsconfig.json", "tsconfig.node.json"] else []) ++ [".eslintrc.cjs"] ++
    (if c.usesTailwind then ["tailwind.config.js", "postcss.config.js"] else []) ++
    ["vite.config.ts", "index.html", "src/main." ++ c.extension,
     "src/theme/ThemeProvider." ++ c.extension, "src/App." ++ c.extension, "src/styles/globals.css"]
  front := "src/components/"
  back := "." ++ c.extension
  after :=
    ["src/components/index." ++ c.plainExtension, "src/pages/HomePage." ++ c.extension, "README.md",
     ".gitignore"] ++ shell

theorem place_plan (c : WebConfig) (shell : List String) (d : Definition) :
    (plan c shell).place d.componentName = componentPath c d :=
  String.append_assoc.symm

theorem keepsTo_steps (c : WebConfig) (parts : Parts) (j : Job) {more : List EmitStep}
    {shell : List String} (hmore : List.Forall₂ WritesAt more shell) :
    j.KeepsTo (plan c shell) (steps c parts j ++ more) := by
  have hcomponents : List.Forall₂ WritesAt (componentSteps c j)
      ((j.components.map (·.1.componentName)).map (plan c shell).place) := by
    refine WritesAt.components _ _ (fun p => ?_) j.components
    rw [place_plan]
    exact .file
  have htypes : List.Forall₂ WritesAt
      (if c.typescript then
        [emitFile "tsconfig.json" (jsonFile tsconfig) "json",
         emitFile "tsconfig.node.json" (jsonFile nodeTsconfig) "json"]
      else []) (if c.typescript then ["tsconfig.json", "tsconfig.node.json"] else []) := by
    split
    · exact .cons .file (.cons .file .nil)
    · exact .nil
  have hstyles : List.Forall₂ WritesAt
      (if c.usesTailwind then
        [emitFile "tailwind.config.js" (tailwindConfig j.composition.theme) "javascript",
         emitFile "postcss.config.js" postcssConfig "javascript"]
      else []) (if c.usesTailwind then ["tailwind.config.js", "postcss.config.js"] else []) := by
    split
    · exact .cons .file (.cons .file .nil)
    · exact .nil
  rw [Job.KeepsTo, steps, PathPlan.paths, List.append_assoc _ _ more]
  refine List.rel_append (List.rel_append (List.rel_append (List.rel_append (List.rel_append
    (List.rel_append (.cons .file .nil) htypes) (.cons .file .nil)) hstyles) ?_) hcomponents)
    (List.rel_append ?_ hmore)
  · exact .cons .file (.cons .file (.cons .file (.cons .file (.cons .file (.cons .file .nil)))))
  · exact .cons .file (.cons .unlessObstacle (.cons .file (.cons .file .nil)))

theorem keepsTo_projectSteps (c : WebConfig) (j : Job) :
    j.KeepsTo (plan c []) (projectSteps c j) := by
  rw [projectSteps, ← List.append_nil (steps _ _ _)]
  exact keepsTo_steps _ _ j .nil

/-- A path that is not below the directory of the components, or ends in another way. -/
def isElsewhere (c : WebConfig) (path : String) : Bool :=
  !("src/components/".toList.isPrefixOf path.toList &&
    ("." ++ c.extension).toList.isSuffixOf path.toList)

theorem isApart_plan (c : WebConfig) {shell : List String}
    (hnodup : ((plan c shell).before ++ (plan c shell).after).Nodup)
    (helse : ∀ path ∈ (plan c shell).before ++ (plan c shell).after, isElsewhere c path = true) :
    (plan c shell).IsApart where
  nodup := hnodup
  place_notMem name hmem := by
    have hfront : "src/components/".toList <+: _ := (plan c shell).prefix_place name
    have hback : ("." ++ c.extension).toList <:+ _ := (plan c shell).suffix_place name
    have hother := helse _ hmem
    rw [isElsewhere, List.isPrefixOf_iff_prefix.2 hfront, List.isSuffixOf_iff_suffix.2 hback] at hother
    cases hother

theorem isApart_plan_nil (c : WebConfig) : (plan c []).IsApart := by
  cases htypes : c.typescript <;> cases hstyles : c.usesTailwind <;>
    refine isApart_plan c ?_ ?_ <;>
    simp only [plan, isElsewhere, WebConfig.extension, WebConfig.plainExtension, htypes, hstyles,
      Bool.false_eq_true, if_true, if_false] <;>
    decide +kernel

end Web

namespace Desktop

def shellPaths : List String :=
  ["src/hooks/useTauri.ts", "src-tauri/Cargo.toml", "src-tauri/tauri.conf.json",
   "src-tauri/build.rs", "src-tauri/capabilities/default.json", "src-tauri/src/main.rs",
   "src-tauri/src/lib.rs"]

theorem keepsTo_projectSteps (c : DesktopConfig) (j : Job) :
    j.KeepsTo (Web.plan {} shellPaths) (projectSteps c j) :=
  Web.keepsTo_steps _ _ j (.cons .file (.cons .file (.cons .unlessObstacle (.cons .file (.cons .file
    (.cons .file (.cons .file .nil)))))))

theorem isApart_plan : (Web.plan {} shellPaths).IsApart :=
  Web.isApart_plan {} (by decide +kernel) (by decide +kernel)

end Desktop

namespace Ios

def sourcePaths (app : String) : List String :=
  ["/" ++ app ++ "App.swift", "/ContentView.swift", "/Theme/Colors.swift", "/Theme/Metrics.swift"]

def plan (c : Composition) : PathPlan :=
  .below (sources c) ["Package.swift"] (sourcePaths c.typeName) ["Info.plist", "README.md"]
    "/Components/" ".swift"

theorem keepsTo_filesFor (c : IosConfig) (j : Job) (target : String) :
    j.KeepsTo (plan j.composition) (filesFor c j target) := by
  have hcomponents := WritesAt.components (fun p =>
    emitFile (componentPath j.composition p.1) (componentSource p.1 p.2) "swift")
    (plan j.composition).place (fun _ => .file) j.components
  have hentry : sources j.composition ++ "/" ++ j.composition.typeName ++ "App.swift" =
      sources j.composition ++ ("/" ++ j.composition.typeName ++ "App.swift") := by
    simp only [String.append_assoc]
  refine List.rel_append (List.rel_append ?_ hcomponents) (.cons .file (.cons .file .nil))
  refine .cons .file (.cons ?_ (.cons .unlessObstacle (.cons .file (.cons .file .nil))))
  rw [hentry]
  exact .file

/-- The entry of the app is none of the components: it stands in the directory of sources itself, since
the name of the app has no slash. -/
theorem component_ne_entry (c : Composition) (name : String) :
    "/Components/" ++ name ++ ".swift" ≠ "/" ++ c.typeName ++ "App.swift" := by
  intro heq
  have hslash : '/' ∉ (c.typeName ++ "App.swift").toList := by
    rw [String.toList_append, List.mem_append]
    rintro (hmem | hmem)
    · exact absurd ((PathScan.isInner_of_isPlainName c.isPlainName_typeName).2 _ hmem) (by decide)
    · exact absurd hmem (by decide)
  have hrest : "Components/" ++ (name ++ ".swift") = c.typeName ++ "App.swift" := by
    rw [show "/Components/" = "/" ++ "Components/" by decide] at heq
    simpa only [String.append_assoc, String.append_right_inj] using heq
  rw [← hrest, String.toList_append] at hslash
  exact hslash (List.mem_append_left _ (by decide))

theorem isApart_plan (c : Composition) : (plan c).IsApart := by
  refine PathPlan.isApart_below (by decide) ?_ (fun path hpath => ?_) ?_
  · refine List.nodup_cons.2 ⟨fun hmem => ?_, by decide⟩
    have hend : "App.swift".toList <:+ ("/" ++ c.typeName ++ "App.swift").toList :=
      toList_suffix_append _ _
    have hother : ∀ path ∈ ["/ContentView.swift", "/Theme/Colors.swift", "/Theme/Metrics.swift"],
        "App.swift".toList.isSuffixOf path.toList = false := by decide
    have hnot := hother _ hmem
    rw [List.isSuffixOf_iff_suffix.2 hend] at hnot
    cases hnot
  · have hother : ∀ path ∈ ["Package.swift", "Info.plist", "README.md"],
        "Sources/".toList.isPrefixOf path.toList = false := by decide
    exact not_below_of_start (toList_prefix_append _ _) (hother path hpath)
  · refine List.forall_mem_cons.2 ⟨.inr (component_ne_entry c), fun rest hrest => .inl ?_⟩
    have hother : ∀ path ∈ ["/ContentView.swift", "/Theme/Colors.swift", "/Theme/Metrics.swift"],
        "/Components/".toList.isPrefixOf path.toList = false := by decide
    exact hother rest hrest

end Ios

namespace Android

def sourcePaths : List String :=
  ["/MainActivity.kt", "/ui/HomeScreen.kt", "/ui/theme/Color.kt", "/ui/theme/Dimens.kt"]

def plan (package : String) : PathPlan :=
  .below (sourceRoot package)
    ["settings.gradle.kts", "build.gradle.kts", "app/build.gradle.kts",
     "app/src/main/AndroidManifest.xml"]
    sourcePaths ["README.md"] "/ui/components/" ".kt"

theorem keepsTo_projectSteps (c : AndroidConfig) (j : Job) :
    j.KeepsTo (plan c.packageName) (projectSteps c j) := by
  have hcomponents := WritesAt.components (fun p =>
    emitFile (componentPath c.packageName p.1) (componentSource c.packageName p.1 p.2) "kotlin")
    (plan c.packageName).place (fun _ => .file) j.components
  refine List.rel_append (List.rel_append ?_ hcomponents) (.cons .file .nil)
  exact .cons .file (.cons .file (.cons .unlessObstacle (.cons .file (.cons .file
    (.cons .unlessObstacle (.cons .file (.cons .file .nil)))))))

theorem isApart_plan (package : String) : (plan package).IsApart := by
  refine PathPlan.isApart_below (by decide) (by decide) (fun path hpath => ?_)
    fun rest hrest => .inl ?_
  · have hother : ∀ path ∈ ["settings.gradle.kts", "build.gradle.kts", "app/build.gradle.kts",
        "app/src/main/AndroidManifest.xml"] ++ ["README.md"],
        "app/src/main/java/".toList.isPrefixOf path.toList = false := by decide
    exact not_below_of_start (toList_prefix_append _ _) (hother path hpath)
  · have hother : ∀ path ∈ sourcePaths, "/ui/components/".toList.isPrefixOf path.toList = false := by
      decide
    exact hother rest hrest

end Android

/-! ### Distinct components -/

namespace Registry

theorem id_of_supported {r : Registry} {platform id : String} {d : Definition}
    (h : r.supported platform id = some d) : d.id = id := by
  unfold supported at h
  split_ifs at h
  have hfound : (d.id == id) = true := List.find?_some (p := fun d : Definition => d.id == id) h
  exact beq_iff_eq.1 hfound

end Registry

namespace Composition

variable (c : Composition) (r : Registry) (platform : String)

theorem nodup_usedCapsules : c.usedCapsules.Nodup :=
  (keepsFirst_eraseDups _).nodup

theorem nodup_map_id_usedDefinitions : ((c.usedDefinitions r platform).map (·.id)).Nodup := by
  have hids : ∀ ids : List String,
      ((ids.filterMap (r.supported platform)).map (·.id)).Sublist ids := by
    intro ids
    induction ids with
    | nil => exact .slnil
    | cons id ids ih =>
      cases hd : r.supported platform id with
      | none =>
        rw [List.filterMap_cons_none hd]
        exact ih.cons id
      | some d =>
        rw [List.filterMap_cons_some hd, List.map_cons, Registry.id_of_supported hd]
        exact ih.cons_cons id
  exact c.nodup_usedCapsules.sublist (hids _)

theorem nodup_componentNames_iff :
    ((c.usedDefinitions r platform).map (·.componentName)).Nodup ↔
      ∀ d ∈ c.usedDefinitions r platform, ∀ d' ∈ c.usedDefinitions r platform,
        d.id ≠ d'.id → d.componentName ≠ d'.componentName := by
  have hids := c.nodup_map_id_usedDefinitions r platform
  constructor
  · intro hnames d hd d' hd' hid hname
    exact hid (congrArg (·.id) (List.inj_on_of_nodup_map hnames hd hd' hname))
  · intro hnames
    refine List.Nodup.map_on (fun d hd d' hd' hname => ?_) (.of_map _ hids)
    by_contra hne
    refine hnames d hd d' hd' (fun hid => hne ?_) hname
    exact List.inj_on_of_nodup_map hids hd hd' hid

end Composition

theorem Job.map_componentName_components (j : Job) :
    j.components.map (·.1.componentName) =
      (j.composition.usedDefinitions j.registry j.platform).map (·.componentName) := by
  simp only [← j.map_fst_components, List.map_map, Function.comp_def]

theorem Job.nodup_paths_iff {j : Job} {p : PathPlan} {steps : List EmitStep}
    (hsteps : j.KeepsTo p steps) (hp : p.IsApart) (h : (Emission.ofSteps steps).failure = none) :
    ((Emission.ofSteps steps).files.map (·.path)).Nodup ↔
      ∀ d ∈ j.composition.usedDefinitions j.registry j.platform,
        ∀ d' ∈ j.composition.usedDefinitions j.registry j.platform,
          d.id ≠ d'.id → d.componentName ≠ d'.componentName := by
  rw [Emission.map_path_files hsteps h, PathPlan.nodup_paths_iff hp, j.map_componentName_components]
  exact j.composition.nodup_componentNames_iff j.registry j.platform

/-- When a generator finishes, its files have distinct paths exactly if the capsules in use have
distinct component names. So one generated file can overwrite another only if both are sources of
capsules whose names come down to the same name of a component. -/
theorem generated_paths_distinct_iff (j : Job) (g : Generator)
    (hg : g ∈ [Generator.web, .desktop, .ios, .android])
    (h : (Emission.ofSteps (g.steps j)).failure = none) :
    ((g.compile j).files.map (·.path)).Nodup ↔
      ∀ d ∈ j.composition.usedDefinitions j.registry j.platform,
        ∀ d' ∈ j.composition.usedDefinitions j.registry j.platform,
          d.id ≠ d'.id → d.componentName ≠ d'.componentName := by
  rw [Generator.files_compile]
  simp only [List.mem_cons, List.not_mem_nil, or_false] at hg
  rcases hg with rfl | rfl | rfl | rfl
  · exact Job.nodup_paths_iff (Web.keepsTo_projectSteps _ j) (Web.isApart_plan_nil _) h
  · exact Job.nodup_paths_iff (Desktop.keepsTo_projectSteps _ j) Desktop.isApart_plan h
  · rw [Generator.steps_ios] at h ⊢
    unfold Ios.projectSteps at h ⊢
    split at h
    · cases h
    · exact Job.nodup_paths_iff (Ios.keepsTo_filesFor _ j _) (Ios.isApart_plan _) h
  · exact Job.nodup_paths_iff (Android.keepsTo_projectSteps _ j) (Android.isApart_plan _) h

/-- Two capsules with one name for their component: the project for iOS is finished, and a file of
it is overwritten. -/
theorem generated_paths_distinct_iff_shared_name :
    let d : Definition :=
      { id := "table", name := "data table", platforms := [("ios", { framework := "swiftui" })] }
    let d' : Definition :=
      { id := "grid", name := "Data-Table", platforms := [("ios", { framework := "swiftui" })] }
    let j : Job :=
      { registry := ⟨[d, d']⟩
        platform := "ios"
        composition :=
          { name := "App"
            root := some { id := "top", capsuleId := "grid"
                           children := [{ id := "leaf", capsuleId := "table" }] } } }
    Generator.ios ∈ [Generator.web, .desktop, .ios, .android] ∧
      (Emission.ofSteps (Generator.ios.steps j)).failure = none ∧
      d.componentName = "DataTable" ∧ d'.componentName = "DataTable" ∧
      ¬ ((Generator.ios.compile j).files.map (·.path)).Nodup := by
  intro d d' j
  have hg : Generator.ios ∈ [Generator.web, .desktop, .ios, .android] := .tail _ (.tail _ (.head _))
  have hfinish : (Emission.ofSteps (Generator.ios.steps j)).failure = none := by decide +kernel
  have hname : d.componentName = "DataTable" := by decide +kernel
  have hname' : d'.componentName = "DataTable" := by decide +kernel
  have hd : d ∈ j.composition.usedDefinitions j.registry j.platform :=
    List.mem_filterMap.2 ⟨"table", by decide, rfl⟩
  have hd' : d' ∈ j.composition.usedDefinitions j.registry j.platform :=
    List.mem_filterMap.2 ⟨"grid", by decide, rfl⟩
  refine ⟨hg, hfinish, hname, hname', fun hnodup => ?_⟩
  have hnames := (generated_paths_distinct_iff j Generator.ios hg hfinish).1 hnodup
  exact hnames d hd d' hd' (by decide) (hname.trans hname'.symm)

end CapsuleKit
