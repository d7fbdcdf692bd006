import CapsuleKit.Project.Output
import CapsuleKit.Proofs.Fallible
import Mathlib.Data.List.Basic

/-!
# Writing below a directory

A path leads from a directory to a place, one segment after the other (`Path.destination`);
resolving a path finds that place (`Path.resolve_ofText`). Saving a file changes the file at one
place and no other (`FileTree.file?_save`), so after a run of files every place holds the last one
that leads there, and all else is as before (`FileTree.IsAfter`). A run stops at the first file that
cannot be written, with the files in front of it in their places; one that leads out of the
directory is refused, and nothing outside is ever touched: `writing_confined`.
-/

namespace CapsuleKit

namespace Path

/-! ### Where a path leads -/

/-- One segment further from a place: empty segments and `.` stay there, `..` goes back. -/
def enter (place : List String) (s : String) : List String :=
  if s = "" ∨ s = "." then place else if s = ".." then place.dropLast else place ++ [s]

/-- The place that a written path leads to from a directory. -/
def destination (directory : List String) (path : String) : List String :=
  ((List.splitOnP (· == '/') path.toList).map String.ofList).foldl enter
    (if path.toList.head? = some '/' then [] else directory)

theorem enter_of_isName {place : List String} {s : String} (h : s ≠ "" ∧ s ≠ ".") :
    enter place s = if s = ".." then place.dropLast else place ++ [s] := by
  rw [enter, if_neg (not_or.2 h)]

theorem resolveFrom_eq_foldl {segments : List String} (h : ∀ s ∈ segments, s ≠ "" ∧ s ≠ ".")
    (place : List String) : resolveFrom place.reverse segments = segments.foldl enter place := by
  -- what `resolveFrom` has gone through so far is the place, last segment first
  induction segments generalizing place with
  | nil => rw [resolveFrom, List.reverse_reverse, List.foldl_nil]
  | cons s rest ih =>
    obtain ⟨hs, hrest⟩ := List.forall_mem_cons.1 h
    rw [resolveFrom, List.foldl_cons, enter_of_isName hs]
    split
    · rw [List.tail_reverse, ih hrest]
    · rw [← ih hrest, List.reverse_append, List.reverse_singleton, List.singleton_append]

theorem foldl_enter_filter (segments place : List String) :
    (segments.filter fun s => s != "" && s != ".").foldl enter place =
      segments.foldl enter place := by
  induction segments generalizing place with
  | nil => rfl
  | cons s rest ih =>
    by_cases hs : s = "" ∨ s = "."
    · rw [List.filter_cons_of_neg (by simpa [or_iff_not_imp_left] using hs), ih, List.foldl_cons,
        enter, if_pos hs]
    · rw [List.filter_cons_of_pos (by simpa [not_or] using hs), List.foldl_cons, List.foldl_cons,
        ih]

theorem resolve_eq (p : Path) (directory : List String) :
    p.resolve directory =
      resolveFrom (if p.start = .here then directory else []).reverse p.segments := by
  obtain ⟨start, segments⟩ := p
  cases start <;> rfl

theorem startOf_eq_here {cs : List Char} : startOf cs = .here ↔ cs.head? ≠ some '/' := by
  unfold startOf
  split <;> simp_all [List.head?_eq_some_iff]

theorem foldl_segmentsOf (path : String) (place : List String) :
    resolveFrom place.reverse (segmentsOf path.toList) =
      ((List.splitOnP (· == '/') path.toList).map String.ofList).foldl enter place := by
  have hnames : ∀ s ∈ segmentsOf path.toList, s ≠ "" ∧ s ≠ "." := by
    intro s hs
    simpa using (List.mem_filter.1 hs).2
  rw [resolveFrom_eq_foldl hnames, segmentsOf, foldl_enter_filter]

theorem resolve_ofText (path : String) (directory : List String) :
    (ofText path).resolve directory = destination directory path := by
  rw [resolve_eq, destination, ofText, foldl_segmentsOf]
  simp only [startOf_eq_here, ite_not]

theorem resolveFrom_append (done first second : List String) :
    resolveFrom done (first ++ second) = resolveFrom (resolveFrom done first).reverse second := by
  induction first generalizing done with
  | nil => rw [List.nil_append, resolveFrom, List.reverse_reverse]
  | cons s first ih =>
    rw [List.cons_append, resolveFrom, resolveFrom]
    split <;> exact ih _

theorem resolve_append (p : Path) (path : String) (directory : List String) :
    (p ++ ofText path).resolve directory = destination (p.resolve directory) path := by
  rw [← resolve_ofText]
  show (append p (ofText path)).resolve directory = _
  cases hstart : (ofText path).start with
  | here =>
    rw [append, hstart, resolve_eq (ofText path), hstart, if_pos rfl, resolve_eq, resolve_eq p]
    exact resolveFrom_append _ _ _
  | root => rw [append, hstart, resolve_eq, resolve_eq, hstart]; rfl
  | doubleRoot => rw [append, hstart, resolve_eq, resolve_eq, hstart]; rfl

end Path

/-! ### Files -/

namespace FileTree

variable {t t' : FileTree}

def file? (t : FileTree) (place : List String) : Option (Option String) :=
  match t.entry? place with
  | some (.file text) => some text
  | _ => none

theorem lookup_placeEntry (segments place : List String) (e : FileEntry)
    (es : List (List String × FileEntry)) :
    (placeEntry segments e es).lookup place =
      if place = segments then some e else es.lookup place := by
  induction es with
  | nil =>
    by_cases h : place = segments
    · rw [placeEntry, h, List.lookup_cons_self, if_pos rfl]
    · rw [placeEntry, List.lookup_cons, beq_false_of_ne h, if_neg h]
  | cons f es ih =>
    obtain ⟨name, entry⟩ := f
    rw [placeEntry]
    by_cases hname : name = segments
    · subst hname
      rw [if_pos rfl]
      by_cases h : place = name
      · rw [h, List.lookup_cons_self, if_pos rfl]
      · rw [List.lookup_cons, List.lookup_cons, beq_false_of_ne h, if_neg h]
    · rw [if_neg hname]
      by_cases h : place = name
      · rw [h, List.lookup_cons_self, List.lookup_cons_self, if_neg hname]
      · rw [List.lookup_cons, List.lookup_cons, beq_false_of_ne h, ih]

theorem entry?_put (t : FileTree) (segments place : List String) (e : FileEntry) :
    entry? (t.put segments e) place =
      if place = segments ∧ ¬ segments <+: t.here then some e else t.entry? place := by
  unfold entry? put
  simp only [lookup_placeEntry, List.isPrefixOf_iff_prefix]
  -- the working directory and those around it are there whatever is put
  by_cases hhere : place <+: t.here
  · have hnot : ¬ (place = segments ∧ ¬ segments <+: t.here) := fun h => h.2 (h.1 ▸ hhere)
    rw [if_pos hhere, if_pos hhere, if_neg hnot]
  · rw [if_neg hhere, if_neg hhere]
    by_cases h : place = segments
    · subst h
      rw [if_pos rfl, if_pos ⟨rfl, hhere⟩]
    · rw [if_neg h, if_neg fun h' => h h'.1]

theorem file?_put_directory {segments : List String} (h : t.entry? segments = none)
    (place : List String) : (t.put segments .directory).file? place = t.file? place := by
  rw [file?, file?, entry?_put]
  by_cases hplace : place = segments ∧ ¬ segments <+: t.here
  · rw [if_pos hplace, hplace.1, h]
  · rw [if_neg hplace]

theorem file?_put_file {segments : List String} (h : t.entry? segments ≠ some .directory)
    (text : String) (place : List String) :
    (t.put segments (.file (some text))).file? place =
      if place = segments then some (some text) else t.file? place := by
  have houtside : ¬ segments <+: t.here := by
    intro hhere
    exact h (if_pos (List.isPrefixOf_iff_prefix.2 hhere))
  rw [file?, file?, entry?_put]
  by_cases hplace : place = segments
  · rw [if_pos ⟨hplace, houtside⟩, if_pos hplace]
  · rw [if_neg fun h => hplace h.1, if_neg hplace]

theorem file?_makeDirectories {start names : List String}
    (h : t.makeDirectories start names = .ok t') (place : List String) :
    t'.file? place = t.file? place := by
  induction names generalizing t start with
  | nil =>
    obtain rfl := Except.ok.inj h
    rfl
  | cons s rest ih =>
    rw [makeDirectories] at h
    split at h
    · cases h
    · split at h
      · exact ih h
      · cases h
      · rename_i hnone
        rw [ih h, file?_put_directory hnone]

/-- Saving a file puts it at its place, and every other file stays as it is. -/
theorem file?_save {segments : List String} {text : String}
    (h : t.save segments text = .ok t') (place : List String) :
    t'.file? place = if place = segments then some (some text) else t.file? place := by
  rw [save] at h
  split at h
  · cases h
  obtain ⟨made, hmade, h⟩ := bind_eq_ok.1 h
  split at h
  · cases h
  rw [writeFile] at h
  split at h
  · cases h
  split at h
  · cases h
  · rename_i hdirectory
    obtain rfl := Except.ok.inj h
    rw [file?_put_file hdirectory, file?_makeDirectories hmade]

/-! ### One file after the other -/

variable {directory : List String} {f : GeneratedFile} {files before after : List GeneratedFile}
  {w : Written}

/-- The files of a tree after some files were written below a directory: at each place that one of
them leads to stands the last that does, and every other file is as it was. -/
def IsAfter (t : FileTree) (directory : List String) (files : List GeneratedFile)
    (t' : FileTree) : Prop :=
  ∀ place, t'.file? place =
    ((files.filter fun f => Path.destination directory f.path = place).getLast?.map
      fun f => some f.content).or (t.file? place)

theorem writeBelow_eq (t : FileTree) (directory : List String) (f : GeneratedFile) :
    t.writeBelow directory f =
      if hasNull f.path then .error (.file .embeddedNull)
      else if directory <+: Path.destination directory f.path then
        (t.save (Path.destination directory f.path) f.content).mapError .file
      else .error (.reported (refusal f.path directory)) := by
  simp only [writeBelow, Path.resolve_ofText, List.isPrefixOf_iff_prefix]

theorem writeBelow_eq_ok (h : t.writeBelow directory f = .ok t') :
    directory <+: Path.destination directory f.path ∧
      t.save (Path.destination directory f.path) f.content = .ok t' := by
  rw [writeBelow_eq] at h
  split at h
  · cases h
  split at h
  · rename_i hbelow
    exact ⟨hbelow, mapError_eq_ok.1 h⟩
  · cases h

theorem writeBelow_of_hasNull (h : hasNull f.path = true) :
    t.writeBelow directory f = .error (.file .embeddedNull) := by
  rw [writeBelow_eq, if_pos h]

theorem writeBelow_eq_reported {e : ProjectError} :
    t.writeBelow directory f = .error (.reported e) ↔
      ¬ directory <+: Path.destination directory f.path ∧ hasNull f.path = false ∧
        e = refusal f.path directory := by
  rw [writeBelow_eq]
  by_cases hnull : hasNull f.path = true
  · simp [hnull]
  · rw [if_neg hnull]
    by_cases hbelow : directory <+: Path.destination directory f.path
    · rw [if_pos hbelow]
      cases t.save (Path.destination directory f.path) f.content <;> simp [Except.mapError, hbelow]
    · simp [hbelow, hnull, eq_comm]

theorem writeAllBelow_cons_ok (h : w.tree.writeBelow directory f = .ok t') :
    writeAllBelow directory (f :: files) w =
      writeAllBelow directory files { w with tree := t', count := w.count + 1 } := by
  rw [writeAllBelow, h]

theorem writeAllBelow_cons_error {e : ProjectFault} (h : w.tree.writeBelow directory f = .error e) :
    writeAllBelow directory (f :: files) w = { w with fault := some e } := by
  rw [writeAllBelow, h]

theorem IsAfter.nil (t : FileTree) (directory : List String) : t.IsAfter directory [] t :=
  fun _ => rfl

theorem IsAfter.cons {made : FileTree}
    (hsave : t.save (Path.destination directory f.path) f.content = .ok made)
    (h : made.IsAfter directory files t') : t.IsAfter directory (f :: files) t' := by
  intro place
  rw [h place, file?_save hsave]
  by_cases hplace : Path.destination directory f.path = place
  · rw [if_pos hplace.symm, List.filter_cons_of_pos (by simpa using hplace), List.getLast?_cons]
    cases (files.filter fun f => Path.destination directory f.path = place).getLast? <;> rfl
  · rw [if_neg (Ne.symm hplace), List.filter_cons_of_neg (by simpa using hplace)]

theorem IsAfter.file?_eq (h : t.IsAfter directory files t') {place : List String}
    (hplace : ∀ f ∈ files, Path.destination directory f.path ≠ place) :
    t'.file? place = t.file? place := by
  have hnone : (files.filter fun f => Path.destination directory f.path = place) = [] :=
    List.filter_eq_nil_iff.2 fun f hf => by simpa using hplace f hf
  rw [h place, hnone]
  rfl

theorem isAfter_writeAllBelow (h : (writeAllBelow directory files w).fault = none) :
    (writeAllBelow directory files w).count = w.count + files.length ∧
      (∀ f ∈ files, directory <+: Path.destination directory f.path) ∧
      w.tree.IsAfter directory files (writeAllBelow directory files w).tree := by
  induction files generalizing w with
  | nil => exact ⟨rfl, List.forall_mem_nil _, .nil _ _⟩
  | cons f files ih =>
    cases hf : w.tree.writeBelow directory f with
    | error e =>
      rw [writeAllBelow_cons_error hf] at h
      cases h
    | ok made =>
      rw [writeAllBelow_cons_ok hf] at h ⊢
      obtain ⟨hbelow, hsave⟩ := writeBelow_eq_ok hf
      obtain ⟨hcount, hfiles, hafter⟩ := ih h
      refine ⟨?_, List.forall_mem_cons.2 ⟨hbelow, hfiles⟩, .cons hsave hafter⟩
      rw [hcount, List.length_cons]
      show w.count + 1 + files.length = _
      omega

theorem writeAllBelow_append (h : (writeAllBelow directory before w).fault = none) :
    writeAllBelow directory (before ++ after) w =
      writeAllBelow directory after (writeAllBelow directory before w) := by
  induction before generalizing w with
  | nil => rfl
  | cons f before ih =>
    cases hf : w.tree.writeBelow directory f with
    | error e =>
      rw [writeAllBelow_cons_error hf] at h
      cases h
    | ok made =>
      rw [writeAllBelow_cons_ok hf] at h
      rw [List.cons_append, writeAllBelow_cons_ok hf, writeAllBelow_cons_ok hf, ih h]

theorem exists_stop {e : ProjectFault} (hw : w.fault = none)
    (h : (writeAllBelow directory files w).fault = some e) :
    ∃ before f after, files = before ++ f :: after ∧
      (writeAllBelow directory before w).fault = none ∧
      (writeAllBelow directory before w).tree.writeBelow directory f = .error e := by
  induction files generalizing w with
  | nil =>
    rw [writeAllBelow, hw] at h
    cases h
  | cons f files ih =>
    cases hf : w.tree.writeBelow directory f with
    | error e' =>
      rw [writeAllBelow_cons_error hf] at h
      obtain rfl := Option.some.inj h
      exact ⟨[], f, files, rfl, hw, hf⟩
    | ok made =>
      rw [writeAllBelow_cons_ok hf] at h
      obtain ⟨before, g, after, rfl, hbefore, hg⟩ :=
        ih (w := { w with tree := made, count := w.count + 1 }) hw h
      refine ⟨f :: before, g, after, rfl, ?_, ?_⟩
      · rw [writeAllBelow_cons_ok hf]
        exact hbefore
      · rw [writeAllBelow_cons_ok hf]
        exact hg

theorem writeAllBelow_stop {e : ProjectFault} (h : (writeAllBelow directory before w).fault = none)
    (hf : (writeAllBelow directory before w).tree.writeBelow directory f = .error e) :
    writeAllBelow directory (before ++ f :: after) w =
      { writeAllBelow directory before w with fault := some e } := by
  rw [writeAllBelow_append h, writeAllBelow_cons_error hf]

theorem file?_writeAllBelow (hw : w.fault = none) {place : List String}
    (hplace : ¬ directory <+: place) :
    (writeAllBelow directory files w).tree.file? place = w.tree.file? place := by
  -- a run that is stopped has changed as much as the run of the files in front
  have hunmoved : ∀ {gs : List GeneratedFile}, (writeAllBelow directory gs w).fault = none →
      (writeAllBelow directory gs w).tree.file? place = w.tree.file? place := by
    intro gs hgs
    obtain ⟨-, hbelow, hafter⟩ := isAfter_writeAllBelow hgs
    exact hafter.file?_eq fun g hg heq => hplace (heq ▸ hbelow g hg)
  cases hfault : (writeAllBelow directory files w).fault with
  | none => exact hunmoved hfault
  | some e =>
    obtain ⟨before, f, after, rfl, hbefore, hf⟩ := exists_stop hw hfault
    rw [writeAllBelow_stop hbefore hf]
    exact hunmoved hbefore

/-! ### Results -/

/-- Writing a result gets as far as a file: those in front of it can all be written. -/
def Reaches (t : FileTree) (output : Path) (r : CompileResult) (before : List GeneratedFile)
    (f : GeneratedFile) : Prop :=
  (∃ after, r.files = before ++ f :: after) ∧
    (t.writeResult output { r with files := before }).fault = none

def directoryOf (t : FileTree) (output : Path) (r : CompileResult) : List String :=
  Path.destination (output.resolve t.here) r.platform

section Results

variable {output : Path} {r : CompileResult}

/-- A directory with a null character in its path cannot be resolved; otherwise the files are
written one after the other. -/
theorem writeResult_cases (t : FileTree) (output : Path) (r : CompileResult) :
    (∀ files, t.writeResult output { r with files := files } =
        ⟨t, 0, some (.file .embeddedNull)⟩) ∨
      ∀ files, t.writeResult output { r with files := files } =
        writeAllBelow (t.directoryOf output r) files ⟨t, 0, none⟩ := by
  by_cases hnull : (output ++ Path.ofText r.platform).segments.any hasNull = true
  · refine .inl fun files => ?_
    rw [writeResult, resolve, if_pos hnull]
  · refine .inr fun files => ?_
    rw [writeResult, resolve, if_neg hnull, Path.resolve_append]
    rfl

theorem file?_writeResult {place : List String} (hplace : ¬ t.directoryOf output r <+: place) :
    (t.writeResult output r).tree.file? place = t.file? place := by
  rcases writeResult_cases t output r with h | h
  · rw [h r.files]
  · rw [h r.files]
    exact file?_writeAllBelow rfl hplace

theorem isAfter_writeResult (h : (t.writeResult output r).fault = none) :
    (t.writeResult output r).count = r.files.length ∧
      t.IsAfter (t.directoryOf output r) r.files (t.writeResult output r).tree := by
  rcases writeResult_cases t output r with hr | hr
  · rw [hr r.files] at h
    cases h
  · rw [hr r.files] at h ⊢
    obtain ⟨hcount, -, hafter⟩ := isAfter_writeAllBelow h
    exact ⟨hcount.trans (Nat.zero_add _), hafter⟩

theorem Reaches.writeResult_eq (h : t.Reaches output r before f) {e : ProjectFault}
    (hf : ∀ made, FileTree.writeBelow made (t.directoryOf output r) f = .error e) :
    (t.writeResult output r).fault = some e ∧
      t.IsAfter (t.directoryOf output r) before (t.writeResult output r).tree := by
  obtain ⟨⟨after, hfiles⟩, hbefore⟩ := h
  rcases writeResult_cases t output r with hr | hr
  · rw [hr] at hbefore
    cases hbefore
  · rw [hr] at hbefore
    rw [hr r.files, hfiles, writeAllBelow_stop hbefore (hf _)]
    exact ⟨rfl, (isAfter_writeAllBelow hbefore).2.2⟩

theorem exists_reaches {e : ProjectError}
    (h : (t.writeResult output r).fault = some (.reported e)) :
    ∃ before f, t.Reaches output r before f ∧
      ∃ made : FileTree, made.writeBelow (t.directoryOf output r) f = .error (.reported e) := by
  rcases writeResult_cases t output r with hr | hr
  · rw [hr r.files] at h
    cases h
  · rw [hr r.files] at h
    obtain ⟨before, f, after, hfiles, hbefore, hf⟩ := exists_stop rfl h
    refine ⟨before, f, ⟨⟨after, hfiles⟩, ?_⟩, _, hf⟩
    rw [hr before]
    exact hbefore

end Results

end FileTree

/-- Writing is confined to the directory of the platform below the output directory. Whatever is in
the tree and whatever the paths of a result are, no file outside that directory is created or
changed. A result is refused exactly if writing reaches a file whose path, one without null
characters, leads out of the directory. Where it reaches a file that leads out, those in front of it
have been written and nothing else, and a path with a null character cannot be resolved. If all is
written, every place that a file leads to holds the last one that does, every other file is as
before, and the count is the number of files. -/
theorem writing_confined (t : FileTree) (output : Path) (r : CompileResult) :
    let directory := Path.destination (output.resolve t.here) r.platform
    let w := t.writeResult output r
    (∀ place, ¬ directory <+: place → w.tree.file? place = t.file? place) ∧
      (∀ e, w.fault = some (.reported e) ↔
        ∃ before f, t.Reaches output r before f ∧
          ¬ directory <+: Path.destination directory f.path ∧ FileTree.hasNull f.path = false ∧
          e = FileTree.refusal f.path directory) ∧
      (∀ before f, t.Reaches output r before f →
        ¬ directory <+: Path.destination directory f.path →
        t.IsAfter directory before w.tree ∧
          (FileTree.hasNull f.path = true → w.fault = some (.file .embeddedNull))) ∧
      (w.fault = none → w.count = r.files.length ∧ t.IsAfter directory r.files w.tree) := by
  intro directory w
  refine ⟨fun place => FileTree.file?_writeResult, fun e => ⟨fun h => ?_, ?_⟩, ?_,
    FileTree.isAfter_writeResult⟩
  · obtain ⟨before, f, hreaches, made, hf⟩ := FileTree.exists_reaches h
    exact ⟨before, f, hreaches, FileTree.writeBelow_eq_reported.1 hf⟩
  · rintro ⟨before, f, hreaches, hrefused⟩
    exact (hreaches.writeResult_eq fun made => FileTree.writeBelow_eq_reported.2 hrefused).1
  · intro before f hreaches houtside
    cases hnull : FileTree.hasNull f.path with
    | false =>
      have hrefused := hreaches.writeResult_eq fun made =>
        FileTree.writeBelow_eq_reported.2 ⟨houtside, hnull, rfl⟩
      exact ⟨hrefused.2, fun h => by cases h⟩
    | true =>
      have hstopped := hreaches.writeResult_eq fun made => FileTree.writeBelow_of_hasNull hnull
      exact ⟨hstopped.2, fun _ => hstopped.1⟩

/-- A file that is reached and leads out of the directory, and is not refused: its path has a null
character in it. -/
theorem null_path_not_refused :
    let t : FileTree := ⟨["work"], []⟩
    let output := Path.ofText "out"
    let f : GeneratedFile := { path := "../a\x00b", content := "x" }
    let r : CompileResult := { success := true, platform := "web", files := [f] }
    let directory := Path.destination (output.resolve t.here) r.platform
    t.Reaches output r [] f ∧ ¬ directory <+: Path.destination directory f.path ∧
      ∀ e, (t.writeResult output r).fault ≠ some (.reported e) := by
  refine ⟨⟨⟨[], rfl⟩, rfl⟩, by decide, fun e he => ?_⟩
  have hnull : some (ProjectFault.file .embeddedNull) = some (.reported e) := he
  cases hnull

end CapsuleKit
