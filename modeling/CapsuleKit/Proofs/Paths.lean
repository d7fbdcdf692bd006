import CapsuleKit.Project.Output
import CapsuleKit.Proofs.Decode
import CapsuleKit.Proofs.Names
import CapsuleKit.Proofs.References
import CapsuleKit.Proofs.Split

/-!
# Paths of generated files

`PathScan` reads the path of a generated file: directories whose names have no dot, and last a file
whose name has one. A path that it accepts is safe to write (`IsFilePath.isSafePath`), and none
that it accepts is a directory of another (`IsFilePath.not_above`), because a slash behind a file is
refused. The paths of all generators are of this kind, whatever the names of apps and capsules are
and whatever package a project asks for.
-/

namespace CapsuleKit

/-- Whether a path stays below the directory it is seen from: it has no root in front, and its
segments are names of ASCII letters, digits and `_` `.` `-`, none of them empty, `.` or `..`. -/
structure IsSafePath (path : String) : Prop where
  relative : Path.startOf path.toList = .here
  segments : ∀ s ∈ List.splitOnP (· == '/') path.toList, s ≠ [] ∧ s ≠ ['.'] ∧ s ≠ ['.', '.'] ∧
    ∀ c ∈ s, c.isAlphanum = true ∨ c = '_' ∨ c = '.' ∨ c = '-'

/-- Where a reading of a path stands: in front of a segment, in one without a dot so far, behind a
dot that starts one, or in the name of a file. -/
inductive PathScan where
  | start
  | plain
  | dot
  | file
  deriving DecidableEq

namespace PathScan

/-- A character of a name that is no dot. -/
def isInner (c : Char) : Bool :=
  c.isAlphanum || c == '_' || c == '-'

/-- One character. Behind the name of a file no segment follows. -/
def step : PathScan → Char → Option PathScan
  | .start, c => if isInner c then some .plain else if c = '.' then some .dot else none
  | .plain, c =>
    if isInner c then some .plain
    else if c = '.' then some .file
    else if c = '/' then some .start
    else none
  | .dot, c => if isInner c then some .file else none
  | .file, c => if isInner c || c == '.' then some .file else none

def run (s : PathScan) (cs : List Char) : Option PathScan :=
  cs.foldlM step s

theorem run_cons (s : PathScan) (c : Char) (cs : List Char) :
    s.run (c :: cs) = (s.step c).bind (·.run cs) :=
  List.foldlM_cons

theorem run_append (s : PathScan) (as bs : List Char) :
    s.run (as ++ bs) = (s.run as).bind (·.run bs) :=
  List.foldlM_append

/-- Whether a text leads from one place to another. -/
def Leads (s : PathScan) (text : String) (t : PathScan) : Prop :=
  s.run text.toList = some t

variable {s t u : PathScan} {a b : String} {c : Char} {cs : List Char}

theorem Leads.append (ha : Leads s a t) (hb : Leads t b u) : Leads s (a ++ b) u := by
  unfold Leads at *
  rw [String.toList_append, run_append, ha]
  exact hb

/-! ### Names and packages -/

theorem run_start (hc : isInner c = true) (cs : List Char) :
    run .start (c :: cs) = run .plain cs := by
  rw [run_cons, step, if_pos hc]
  rfl

theorem run_plain (h : ∀ c ∈ cs, isInner c = true) : run .plain cs = some .plain := by
  induction cs with
  | nil => rfl
  | cons c cs ih =>
    obtain ⟨hc, hcs⟩ := List.forall_mem_cons.1 h
    rw [run_cons, step, if_pos hc]
    exact ih hcs

theorem isInner_of_isPlainName (h : Text.isPlainName a = true) :
    a.toList ≠ [] ∧ ∀ c ∈ a.toList, isInner c = true := by
  obtain ⟨c, cs, hchars, hc, hcs⟩ := Text.exists_of_isPlainName h
  have hpart : ∀ d ∈ c :: cs, Text.isNamePart d = true :=
    List.forall_mem_cons.2 ⟨Text.isNamePart_of_isNameStart hc, hcs⟩
  rw [hchars]
  refine ⟨List.cons_ne_nil _ _, fun d hd => ?_⟩
  rw [isInner, Bool.or_eq_true]
  exact .inl (hpart d hd)

theorem Leads.name (h : Text.isPlainName a = true) : Leads .start a .plain := by
  obtain ⟨hne, hinner⟩ := isInner_of_isPlainName h
  obtain ⟨c, cs, hchars⟩ := List.exists_cons_of_ne_nil hne
  rw [hchars] at hinner
  obtain ⟨hc, hcs⟩ := List.forall_mem_cons.1 hinner
  rw [Leads, hchars, run_start hc]
  exact run_plain hcs

theorem isInner_of_packageSegment {segment : List Char}
    (h : (match segment with
      | [] => false
      | c :: cs => c.isAlpha && cs.all fun c => c.isAlphanum || c == '_') = true) :
    segment ≠ [] ∧ ∀ c ∈ segment, isInner c = true := by
  cases segment with
  | nil => cases h
  | cons c cs =>
    rw [Bool.and_eq_true, List.all_eq_true] at h
    refine ⟨List.cons_ne_nil _ _, List.forall_mem_cons.2 ⟨?_, fun d hd => ?_⟩⟩
    · simp only [isInner, Char.isAlphanum, h.1, Bool.true_or]
    · rw [isInner, Bool.or_eq_true]
      exact .inl (h.2 d hd)

/-- Parts divided by dots lead through as many directories. A scan inside a segment need not find
more of it. -/
theorem run_dotted (cs : List Char) :
    ((∀ w ∈ List.splitOnP (· == '.') cs, w ≠ [] ∧ ∀ c ∈ w, isInner c = true) →
      run .start (cs.map fun c => if c = '.' then '/' else c) = some .plain) ∧
    ((∀ c ∈ (List.splitOnP (· == '.') cs).headD [], isInner c = true) →
      (∀ w ∈ (List.splitOnP (· == '.') cs).tail, w ≠ [] ∧ ∀ c ∈ w, isInner c = true) →
      run .plain (cs.map fun c => if c = '.' then '/' else c) = some .plain) := by
  induction cs with
  | nil => exact ⟨fun h => absurd rfl (h [] (.head _)).1, fun _ _ => rfl⟩
  | cons c cs ih =>
    by_cases hdot : c = '.'
    · subst hdot
      rw [List.splitOnP_cons_eq_if_modifyHead, if_pos (beq_self_eq_true _)]
      refine ⟨fun h => absurd rfl (h [] (.head _)).1, fun _ hrest => ?_⟩
      rw [List.map_cons, if_pos rfl, run_cons]
      exact ih.1 hrest
    · obtain ⟨w, ws, hcs, hcons⟩ :=
        Text.splitOnP_cons_of_neg (p := (· == '.')) (by simpa using hdot) cs
      rw [hcs] at ih
      rw [hcons, List.map_cons, if_neg hdot]
      refine ⟨fun h => ?_, fun hhead hrest => ?_⟩
      · obtain ⟨⟨-, hw⟩, hws⟩ := List.forall_mem_cons.1 h
        obtain ⟨hc, hw⟩ := List.forall_mem_cons.1 hw
        rw [run_start hc]
        exact ih.2 hw hws
      · obtain ⟨hc, hw⟩ := List.forall_mem_cons.1 hhead
        rw [run_cons, step, if_pos hc]
        exact ih.2 hw hrest

theorem Leads.package (h : isPackageName a = true) :
    Leads .start (String.ofList (a.toList.map fun c => if c = '.' then '/' else c)) .plain := by
  rw [isPackageName, isDottedName, Bool.and_eq_true, List.all_eq_true] at h
  rw [Leads, String.toList_ofList]
  exact (run_dotted a.toList).1 fun w hw => isInner_of_packageSegment (h.2 w hw)

/-! ### What a scan accepts -/

/-- What the rest of a segment may not be at the place of a scan. -/
def Completes : PathScan → List Char → Prop
  | .start, w => w ≠ [] ∧ w ≠ ['.'] ∧ w ≠ ['.', '.']
  | .dot, w => w ≠ [] ∧ w ≠ ['.']
  | .plain, _ => True
  | .file, _ => True

theorem Completes.cons {w : List Char} (hstep : step s c = some t) (h : Completes t w) :
    Completes s (c :: w) := by
  cases s with
  | plain => exact trivial
  | file => exact trivial
  | dot =>
    refine ⟨List.cons_ne_nil _ _, fun heq => ?_⟩
    obtain ⟨rfl, -⟩ := List.cons.inj heq
    cases hstep
  | start =>
    refine ⟨List.cons_ne_nil _ _, fun heq => ?_, fun heq => ?_⟩
    · obtain ⟨rfl, rfl⟩ := List.cons.inj heq
      cases hstep
      exact h.1 rfl
    · obtain ⟨rfl, rfl⟩ := List.cons.inj heq
      cases hstep
      exact h.2 rfl

theorem eq_of_step_slash (h : step s '/' = some t) : s = .plain ∧ t = .start := by
  cases s <;> cases h
  exact ⟨rfl, rfl⟩

theorem safe_of_step (h : step s c = some t) (hc : c ≠ '/') :
    c.isAlphanum = true ∨ c = '_' ∨ c = '.' ∨ c = '-' := by
  have hinner : isInner c = true ∨ c = '.' := by
    cases s <;> simp only [step] at h <;> split_ifs at h <;> simp_all
  rcases hinner with hinner | hdot
  · simp only [isInner, Bool.or_eq_true, beq_iff_eq] at hinner
    tauto
  · exact .inr (.inr (.inl hdot))

/-- The segments of what a scan reads up to its end, the first as the rest of one. -/
theorem segments_of_run (h : run s cs = some .file) :
    ∃ w ws, List.splitOnP (· == '/') cs = w :: ws ∧ Completes s w ∧
      (∀ v ∈ ws, Completes .start v) ∧
      ∀ v ∈ w :: ws, ∀ c ∈ v, c.isAlphanum = true ∨ c = '_' ∨ c = '.' ∨ c = '-' := by
  induction cs generalizing s with
  | nil =>
    obtain rfl : s = .file := Option.some.inj h
    exact ⟨[], [], rfl, trivial, by simp, by simp⟩
  | cons c cs ih =>
    rw [run_cons] at h
    obtain ⟨t, hstep, hrun⟩ := Option.bind_eq_some_iff.1 h
    obtain ⟨w, ws, hcs, hw, hws, hchars⟩ := ih hrun
    by_cases hslash : c = '/'
    · subst hslash
      obtain ⟨rfl, rfl⟩ := eq_of_step_slash hstep
      refine ⟨[], w :: ws, ?_, trivial, List.forall_mem_cons.2 ⟨hw, hws⟩, ?_⟩
      · rw [List.splitOnP_cons_eq_if_modifyHead, if_pos (beq_self_eq_true _), hcs]
      · exact List.forall_mem_cons.2 ⟨by simp, hchars⟩
    · obtain ⟨w', ws', hcs', hcons⟩ :=
        Text.splitOnP_cons_of_neg (p := (· == '/')) (by simpa using hslash) cs
      obtain ⟨rfl, rfl⟩ := List.cons.inj (hcs.symm.trans hcs')
      obtain ⟨hw', hws'⟩ := List.forall_mem_cons.1 hchars
      refine ⟨c :: w, ws, hcons, hw.cons hstep, hws, List.forall_mem_cons.2 ⟨?_, hws'⟩⟩
      exact List.forall_mem_cons.2 ⟨safe_of_step hstep hslash, hw'⟩

end PathScan

open PathScan (Leads)

/-- Whether a path is one that generators give to files. -/
def IsFilePath (path : String) : Prop :=
  Leads .start path .file

namespace IsFilePath

variable {a b : String}

theorem isSafePath (h : IsFilePath a) : IsSafePath a where
  relative := by
    cases hchars : a.toList with
    | nil => rfl
    | cons c cs =>
      have hc : c ≠ '/' := by
        rintro rfl
        rw [IsFilePath, Leads, hchars] at h
        cases h
      unfold Path.startOf
      split <;> first | rfl | exact absurd (List.cons.inj ‹_›).1 hc
  segments := by
    obtain ⟨w, ws, hsplit, hw, hws, hchars⟩ := PathScan.segments_of_run h
    rw [hsplit]
    intro v hv
    obtain ⟨hempty, hdot, hdots⟩ := List.forall_mem_cons.2 ⟨hw, hws⟩ v hv
    exact ⟨hempty, hdot, hdots, hchars v hv⟩

theorem not_above (ha : IsFilePath a) (hb : IsFilePath b) : ¬ (a ++ "/").toList <+: b.toList := by
  rintro ⟨rest, hrest⟩
  rw [IsFilePath, Leads] at ha hb
  rw [← hrest, String.toList_append, List.append_assoc, PathScan.run_append, ha] at hb
  cases hb

end IsFilePath

/-! ### Generators -/

open Schema (Checked Fields patternText_eq_ok)

theorem Job.isPackageName_packageName (j : Job) :
    isPackageName ((j.options AndroidConfig.build).getD {}).packageName = true := by
  cases h : j.options AndroidConfig.build with
  | bad ps => exact (rfl : isPackageName defaultAppId = true)
  | ok c =>
    simp only [options, AndroidConfig.build, Checked.seq_eq_ok, Checked.map_eq_ok] at h
    obtain ⟨_, _, ⟨_, _, ⟨_, _, ⟨_, name, ⟨_, -, rfl⟩, hname, rfl⟩, -, rfl⟩, -, rfl⟩, -, rfl⟩ := h
    show isPackageName name = true
    rcases Fields.withDefault_eq_ok hname with rfl | ⟨v, hv⟩
    · rfl
    · exact patternText_eq_ok hv

/-- Whether what a step writes has the path of a file. -/
def HasFilePath (step : EmitStep) : Prop :=
  ∀ f, step = .ok f → IsFilePath f.path

namespace HasFilePath

theorem file {path content : String} {language : Option String} (h : IsFilePath path) :
    HasFilePath (emitFile path content language) := by
  rintro f hf
  obtain rfl := Except.ok.inj hf
  exact h

theorem unlessObstacle {o : Option Json.Obstacle} {step : EmitStep} (h : HasFilePath step) :
    HasFilePath (emitUnless o step) := by
  cases o with
  | none => exact h
  | some o => exact fun f hf => nomatch hf

end HasFilePath

theorem Emission.isFilePath_of_mem {steps : List EmitStep} (h : ∀ s ∈ steps, HasFilePath s) :
    ∀ f ∈ (ofSteps steps).files, IsFilePath f.path := by
  induction steps with
  | nil => exact fun f hf => absurd hf List.not_mem_nil
  | cons first steps ih =>
    obtain ⟨hfirst, hsteps⟩ := List.forall_mem_cons.1 h
    cases first with
    | error m => exact fun f hf => absurd hf List.not_mem_nil
    | ok f => exact List.forall_mem_cons.2 ⟨hfirst f rfl, ih hsteps⟩

section Steps

variable (j : Job)

theorem Web.hasFilePath_steps (c : WebConfig) (parts : Parts) :
    ∀ s ∈ steps c parts j, HasFilePath s := by
  have hextension : Leads .file c.extension .file := by
    unfold WebConfig.extension
    split_ifs <;> rfl
  have hplain : Leads .file c.plainExtension .file := by
    unfold WebConfig.plainExtension
    split_ifs <;> rfl
  have hcomponent : ∀ s ∈ componentSteps c j, HasFilePath s := by
    refine List.forall_mem_map.2 fun p _ => .file ?_
    have hname : Leads .start p.1.componentName .plain := .name p.1.isPlainName_componentName
    exact (((show Leads .start "src/components/" .start from rfl).append hname).append
      (show Leads .plain "." .file from rfl)).append hextension
  simp only [steps, List.forall_mem_append, List.forall_mem_cons, List.not_mem_nil, false_implies,
    implies_true, and_true]
  refine ⟨⟨⟨⟨⟨⟨.file rfl, ?_⟩, .file rfl⟩, ?_⟩, .file rfl, .file rfl, ?_⟩, hcomponent⟩, ?_⟩
  · split_ifs
    · exact List.forall_mem_cons.2 ⟨.file rfl, List.forall_mem_singleton.2 (.file rfl)⟩
    · exact List.forall_mem_nil _
  · split_ifs
    · exact List.forall_mem_cons.2 ⟨.file rfl, List.forall_mem_singleton.2 (.file rfl)⟩
    · exact List.forall_mem_nil _
  · exact ⟨.file (Leads.append rfl hextension), .file (Leads.append rfl hextension),
      .file (Leads.append rfl hextension), .file rfl⟩
  · exact ⟨.file (Leads.append rfl hplain),
      .unlessObstacle (.file (Leads.append rfl hextension)), .file rfl, .file rfl⟩

theorem Desktop.hasFilePath_steps (c : DesktopConfig) :
    ∀ s ∈ projectSteps c j, HasFilePath s := by
  refine List.forall_mem_append.2 ⟨Web.hasFilePath_steps j _ _, ?_⟩
  simp only [shellSteps, List.forall_mem_cons, List.not_mem_nil, false_implies, implies_true,
    and_true]
  exact ⟨.file rfl, .file rfl, .unlessObstacle (.file rfl), .file rfl, .file rfl, .file rfl,
    .file rfl⟩

theorem Ios.hasFilePath_steps (c : IosConfig) : ∀ s ∈ projectSteps c j, HasFilePath s := by
  have hroot : Leads .start (sources j.composition) .plain :=
    Leads.append rfl (.name j.composition.isPlainName_typeName)
  have hname : Leads .start j.composition.typeName .plain :=
    .name j.composition.isPlainName_typeName
  have hcomponent : ∀ p ∈ j.components, IsFilePath (componentPath j.composition p.1) := fun p _ =>
    ((hroot.append (show Leads .plain "/Components/" .start from rfl)).append
      (.name p.1.isPlainName_componentName)).append rfl
  unfold projectSteps
  split
  · exact List.forall_mem_singleton.2 fun f hf => nomatch hf
  · simp only [filesFor, List.forall_mem_append, List.forall_mem_cons, List.not_mem_nil,
      false_implies, implies_true, and_true, List.forall_mem_map]
    refine ⟨⟨⟨.file rfl, .file ?_, .unlessObstacle (.file (hroot.append rfl)),
      .file (hroot.append rfl), .file (hroot.append rfl)⟩, fun p hp => .file (hcomponent p hp)⟩,
      .file rfl, .file rfl⟩
    exact ((hroot.append (show Leads .plain "/" .start from rfl)).append hname).append rfl

theorem Android.hasFilePath_steps {c : AndroidConfig} (h : isPackageName c.packageName = true) :
    ∀ s ∈ projectSteps c j, HasFilePath s := by
  have hroot : Leads .start (sourceRoot c.packageName) .plain := Leads.append rfl (.package h)
  have hcomponent : ∀ p ∈ j.components, IsFilePath (componentPath c.packageName p.1) := fun p _ =>
    ((hroot.append (show Leads .plain "/ui/components/" .start from rfl)).append
      (.name p.1.isPlainName_componentName)).append rfl
  simp only [projectSteps, List.forall_mem_append, List.forall_mem_cons, List.not_mem_nil,
    false_implies, implies_true, and_true, List.forall_mem_map]
  exact ⟨⟨⟨.file rfl, .file rfl, .unlessObstacle (.file rfl), .file rfl, .file (hroot.append rfl),
    .unlessObstacle (.file (hroot.append rfl)), .file (hroot.append rfl),
    .file (hroot.append rfl)⟩, fun p hp => .file (hcomponent p hp)⟩, .file rfl⟩

end Steps

theorem Generator.isFilePath_of_mem (j : Job) {g : Generator}
    (hg : g ∈ [web, desktop, ios, android]) : ∀ f ∈ (g.compile j).files, IsFilePath f.path := by
  rw [files_compile]
  refine Emission.isFilePath_of_mem ?_
  simp only [List.mem_cons, List.not_mem_nil, or_false] at hg
  rcases hg with rfl | rfl | rfl | rfl
  · exact Web.hasFilePath_steps j _ _
  · exact Desktop.hasFilePath_steps j _
  · exact Ios.hasFilePath_steps j _
  · exact Android.hasFilePath_steps j j.isPackageName_packageName

/-! ### Writing -/

theorem Path.resolveFrom_eq (done : List String) {segments : List String} (h : ".." ∉ segments) :
    resolveFrom done segments = done.reverse ++ segments := by
  induction segments generalizing done with
  | nil => rw [resolveFrom, List.append_nil]
  | cons s rest ih =>
    obtain ⟨hs, hrest⟩ := List.ne_and_not_mem_of_not_mem_cons h
    rw [resolveFrom, if_neg hs.symm, ih _ hrest, List.reverse_cons, List.append_assoc]
    rfl

theorem IsSafePath.prefix_resolve {path : String} (h : IsSafePath path) (directory : List String) :
    directory <+: (Path.ofText path).resolve directory := by
  have hparent : ".." ∉ Path.segmentsOf path.toList := by
    intro hmem
    obtain ⟨s, hs, heq⟩ := List.mem_map.1 (List.mem_filter.1 hmem).1
    have hchars : s = ['.', '.'] := by
      rw [← String.toList_ofList (l := s), heq]
      rfl
    exact (h.segments s hs).2.2.1 hchars
  rw [Path.resolve, Path.ofText, h.relative]
  show directory <+: Path.resolveFrom directory.reverse _
  rw [Path.resolveFrom_eq _ hparent, List.reverse_reverse]
  exact List.prefix_append ..

namespace FileTree

variable {directory : List String}

theorem writeBelow_ne_reported (t : FileTree) {f : GeneratedFile} (h : IsSafePath f.path)
    (e : ProjectError) : t.writeBelow directory f ≠ .error (.reported e) := by
  have hbelow : directory.isPrefixOf ((Path.ofText f.path).resolve directory) = true :=
    List.isPrefixOf_iff_prefix.2 (h.prefix_resolve directory)
  unfold writeBelow
  split_ifs
  · exact nofun
  · simp only [hbelow, if_true]
    cases t.save ((Path.ofText f.path).resolve directory) f.content <;> exact nofun

theorem fault_writeAllBelow_ne_reported {files : List GeneratedFile}
    (h : ∀ f ∈ files, IsSafePath f.path) (e : ProjectError) {w : Written}
    (hw : w.fault ≠ some (.reported e)) :
    (writeAllBelow directory files w).fault ≠ some (.reported e) := by
  induction files generalizing w with
  | nil => exact hw
  | cons f files ih =>
    obtain ⟨hf, hfiles⟩ := List.forall_mem_cons.1 h
    rw [writeAllBelow]
    split
    · exact ih hfiles hw
    · rename_i fault hfault
      intro heq
      rw [Option.some.injEq] at heq
      exact writeBelow_ne_reported w.tree hf e (heq ▸ hfault)

end FileTree

/-- Generated paths are safe to write. Whatever capsules there are and whatever a composition asks
for, each file of a result, also of one that was cut short, has a path that stays below the
directory it is written to; no such path is a directory of another one; and writing the result
never refuses a path. -/
theorem generated_paths_safe (j : Job) (g : Generator)
    (hg : g ∈ [Generator.web, .desktop, .ios, .android]) :
    (∀ f ∈ (g.compile j).files, IsSafePath f.path) ∧
      (∀ f ∈ (g.compile j).files, ∀ f' ∈ (g.compile j).files,
        ¬ (f.path ++ "/").toList <+: f'.path.toList) ∧
      ∀ (t : FileTree) (output : Path) (e : ProjectError),
        (t.writeResult output (g.compile j)).fault ≠ some (.reported e) := by
  have hpath := Generator.isFilePath_of_mem j hg
  have hsafe : ∀ f ∈ (g.compile j).files, IsSafePath f.path := fun f hf => (hpath f hf).isSafePath
  refine ⟨hsafe, fun f hf f' hf' => (hpath f hf).not_above (hpath f' hf'), fun t output e => ?_⟩
  unfold FileTree.writeResult
  split
  · exact nofun
  · exact FileTree.fault_writeAllBelow_ne_reported hsafe e nofun

/-- Names that would lead out of the directory, and a package that does not fit. -/
theorem generated_paths_safe_hostile :
    let d : Definition :=
      { id := "../box", name := "../../Box"
        platforms := [("android", { framework := "compose" })] }
    let j : Job :=
      { registry := ⟨[d]⟩
        platform := "android"
        composition :=
          { name := "../..", root := some { id := "top", capsuleId := "../box" }
            platformConfig := [("android", [("packageName", .text "a/../b.c")])] } }
    Generator.android ∈ [Generator.web, .desktop, .ios, .android] ∧
      (Generator.android.compile j).files.map (·.path) =
        ["settings.gradle.kts", "build.gradle.kts", "app/build.gradle.kts",
         "app/src/main/AndroidManifest.xml",
         "app/src/main/java/com/capsuleforge/app/MainActivity.kt",
         "app/src/main/java/com/capsuleforge/app/ui/HomeScreen.kt",
         "app/src/main/java/com/capsuleforge/app/ui/theme/Color.kt",
         "app/src/main/java/com/capsuleforge/app/ui/theme/Dimens.kt",
         "app/src/main/java/com/capsuleforge/app/ui/components/Box.kt", "README.md"] ∧
      (∀ f ∈ (Generator.android.compile j).files, IsSafePath f.path) ∧
      ∀ (t : FileTree) (output : Path) (e : ProjectError),
        (t.writeResult output (Generator.android.compile j)).fault ≠ some (.reported e) := by
  intro d j
  have hg : Generator.android ∈ [Generator.web, .desktop, .ios, .android] :=
    .tail _ (.tail _ (.tail _ (.head _)))
  obtain ⟨hsafe, -, hwritten⟩ := generated_paths_safe j Generator.android hg
  exact ⟨hg, by decide +kernel, hsafe, hwritten⟩

end CapsuleKit
