import CapsuleKit.Project.Manifest
import CapsuleKit.Proofs.Fallible

/-!
# The checks of a manifest

What a manifest has to be is a list of checks on its document, each with the key that it is about
(`Manifest.checks`). A reader performs some checks if it breaks off at the first that fails, with
its key, and gives a value if there is none (`Performs`). Readers one after the other perform their
checks one after the other (`Performs.bind`), so the whole manifest is read if all checks pass, and
then every field is the value of the document or its default (`Manifest.fromDocument`); else the
error has the key of the first check that fails: `manifest_checked_in_order`.
-/

namespace CapsuleKit.Manifest

/-! ### Checks -/

/-- A key of a document, and whether what stands there is as it has to be. -/
structure Check where
  key : String
  passes : Bool

def isTable : Value → Bool
  | .map _ => true
  | _ => false

def isList : Value → Bool
  | .list _ => true
  | _ => false

def isText : Value → Bool
  | .text _ => true
  | _ => false

def isFlag : Value → Bool
  | .bool _ => true
  | _ => false

/-- A number, no truth value, that is not zero or less. -/
def isDuration : Value → Bool
  | .int n => decide (0 < n)
  | .float x => !x.isNonPositive
  | _ => false

/-- The fields of a table; none if there is no table. -/
def fields : Option Value → List (Scalar × Value)
  | some (.map es) => es
  | _ => []

variable (document : List (Scalar × Value))

/-- The fields of a table of a document. -/
def fieldsOf (table : String) : List (Scalar × Value) :=
  fields (Value.field? table document)

def valueAt (table name : String) : Option Value :=
  Value.field? name (fieldsOf document table)

def tableCheck (table : String) : Check :=
  ⟨table, (Value.field? table document).all isTable⟩

/-- What stands under a name of a table has to be of a kind, if there is something. -/
def check (kind : Value → Bool) (table name : String) : Check :=
  ⟨table ++ "." ++ name, (valueAt document table name).all kind⟩

/-- The items of a list have to be texts; their keys are their positions below that of the list. -/
def itemChecks (key : String) (i : Nat) (items : List Value) : List Check :=
  (items.zipIdx i).map fun p => ⟨key ++ "." ++ decimalText p.2, isText p.1⟩

/-- What stands under a name of a table has to be a list, and then its items have to be texts. -/
def listChecks (table name : String) : List Check :=
  check document isList table name ::
    match valueAt document table name with
    | some (.list items) => itemChecks (table ++ "." ++ name) 0 items
    | _ => []

/-- The checks up to that of the time limit. -/
def frontChecks : List Check :=
  [tableCheck document "project", tableCheck document "compiler", tableCheck document "capsules",
    tableCheck document "logging"] ++
  listChecks document "compiler" "targets" ++
  [check document isDuration "compiler" "timeout_seconds"]

/-- The checks behind that of the time limit. -/
def backChecks : List Check :=
  [check document isText "compiler" "output_dir"] ++
  listChecks document "capsules" "paths" ++
  [check document isFlag "capsules" "include_builtin", check document isText "logging" "level",
    check document isText "project" "theme", check document isText "project" "name",
    check document isText "project" "version", check document isText "project" "composition"]

/-- All checks of a manifest in their order. -/
def checks : List Check :=
  frontChecks document ++ backChecks document

/-! ### Values -/

def textOr (default : String) : Option Value → String
  | some (.text s) => s
  | _ => default

def textsOr (default : List String) : Option Value → List String
  | some (.list items) => items.map fun v => textOr "" (some v)
  | _ => default

def flagOr (default : Bool) : Option Value → Bool
  | some (.bool b) => b
  | _ => default

/-- A number of seconds, if there is one. -/
def duration? : Option Value → Option Binary64
  | some (.int n) => some (Binary64.ofInt n)
  | some (.float x) => some x
  | _ => none

def text? : Option Value → Option String
  | some (.text s) => some s
  | _ => none

/-- The manifest with the values of a document, and with the fields of an absent manifest where the
document has none. -/
def fromDocument (root : List String) : Manifest :=
  let absent : Manifest := { root }
  { name := textOr absent.name (valueAt document "project" "name")
    version := textOr absent.version (valueAt document "project" "version")
    composition := textOr absent.composition (valueAt document "project" "composition")
    theme := text? (valueAt document "project" "theme")
    targets := textsOr absent.targets (valueAt document "compiler" "targets")
    timeout := duration? (valueAt document "compiler" "timeout_seconds")
    outputDir := textOr absent.outputDir (valueAt document "compiler" "output_dir")
    capsulePaths := textsOr absent.capsulePaths (valueAt document "capsules" "paths")
    includeBuiltin := flagOr absent.includeBuiltin (valueAt document "capsules" "include_builtin")
    logLevel := Text.toUpper (textOr absent.logLevel (valueAt document "logging" "level"))
    root }

/-! ### Readers -/

/-- The first check that fails. -/
def firstFailure (cs : List Check) : Option Check :=
  cs.find? fun c => !c.passes

theorem firstFailure_eq_none {cs : List Check} :
    firstFailure cs = none ↔ ∀ c ∈ cs, c.passes = true := by
  simp [firstFailure]

theorem firstFailure_eq_some {cs : List Check} {c : Check} (h : firstFailure cs = some c) :
    c ∈ cs ∧ c.passes = false :=
  ⟨List.mem_of_find?_eq_some h, by simpa using List.find?_some h⟩

theorem firstFailure_append (cs ds : List Check) :
    firstFailure (cs ++ ds) = (firstFailure cs).or (firstFailure ds) :=
  List.find?_append

/-- A reader that goes through some checks: it gives a value if all of them pass, and otherwise
breaks off with the key of the first that does not. -/
structure Performs {α : Type} (cs : List Check) (x : Except Mismatch α) (a : α) : Prop where
  ok : firstFailure cs = none → x = .ok a
  error : ∀ c, firstFailure cs = some c → ∃ message, x = .error ⟨c.key, message⟩

namespace Performs

variable {α β : Type} {cs ds : List Check} {x : Except Mismatch α} {a : α} {key : String}

theorem nil (a : α) : Performs [] (.ok a) a where
  ok _ := rfl
  error c hc := by cases hc

theorem passed {passes : Bool} (hpasses : passes = true) (hx : x = .ok a) :
    Performs [⟨key, passes⟩] x a where
  ok _ := hx
  error c hc := by
    subst hpasses
    cases hc

theorem failed {passes : Bool} (hpasses : passes = false) {message : String}
    (hx : x = .error ⟨key, message⟩) : Performs [⟨key, passes⟩] x a where
  ok h := by
    subst hpasses
    cases h
  error c hc := by
    subst hpasses
    obtain rfl := Option.some.inj hc
    exact ⟨message, hx⟩

theorem bind {f : α → Except Mismatch β} {b : β} (hx : Performs cs x a) (hf : Performs ds (f a) b) :
    Performs (cs ++ ds) (x >>= f) b := by
  cases hfirst : firstFailure cs with
  | some c =>
    have happend : firstFailure (cs ++ ds) = some c := by
      rw [firstFailure_append, hfirst, Option.some_or]
    obtain ⟨message, hmessage⟩ := hx.error c hfirst
    rw [hmessage]
    refine ⟨fun h => ?_, fun d hd => ⟨message, ?_⟩⟩
    · rw [happend] at h
      cases h
    · rw [happend] at hd
      rw [Option.some.inj hd]
      rfl
  | none =>
    have happend : firstFailure (cs ++ ds) = firstFailure ds := by
      rw [firstFailure_append, hfirst, Option.none_or]
    rw [hx.ok hfirst]
    exact ⟨fun h => hf.ok (happend ▸ h), fun d hd => hf.error d (happend ▸ hd)⟩

end Performs

/-- The reader of a value that has to be of a kind, if there is one. -/
def readField {α : Type} (kind : Value → Bool) (expected key : String) (value : Option Value → α)
    (v : Option Value) : Except Mismatch α :=
  if v.all kind then .ok (value v) else mismatch expected key (v.getD .null)

theorem performs_of_eq {α : Type} {kind : Value → Bool} {key : String} {v : Option Value}
    {x : Except Mismatch α} (expected : String) (value : Option Value → α)
    (h : x = readField kind expected key value v) :
    Performs [⟨key, v.all kind⟩] x (value v) := by
  rw [h]
  cases hkind : v.all kind with
  | true => exact .passed rfl (by rw [readField, hkind, if_pos rfl])
  | false => exact .failed rfl (by rw [readField, hkind]; rfl)

theorem performs_tableAt (table : String) :
    Performs [tableCheck document table] (tableAt document table) (fieldsOf document table) := by
  refine performs_of_eq "dict" fields ?_
  unfold tableAt readField
  rcases Value.field? table document with _ | ((_ | _ | _ | _ | _ | _ | _) | _ | _ | _ | _) <;> rfl

theorem performs_textAt (table name default : String) :
    Performs [check document isText table name]
      (textAt (fieldsOf document table) table name default)
      (textOr default (valueAt document table name)) := by
  refine performs_of_eq "str" (textOr default) ?_
  unfold textAt readField valueAt
  rcases Value.field? name (fieldsOf document table) with
    _ | ((_ | _ | _ | _ | _ | _ | _) | _ | _ | _ | _) <;> rfl

theorem performs_boolAt (table name : String) (default : Bool) :
    Performs [check document isFlag table name]
      (boolAt (fieldsOf document table) table name default)
      (flagOr default (valueAt document table name)) := by
  refine performs_of_eq "bool" (flagOr default) ?_
  unfold boolAt readField valueAt
  rcases Value.field? name (fieldsOf document table) with
    _ | ((_ | _ | _ | _ | _ | _ | _) | _ | _ | _ | _) <;> rfl

theorem performs_themeAt :
    Performs [check document isText "project" "theme"] (themeAt (fieldsOf document "project"))
      (text? (valueAt document "project" "theme")) := by
  refine performs_of_eq "str" text? ?_
  unfold themeAt readField valueAt
  rcases Value.field? "theme" (fieldsOf document "project") with
    _ | ((_ | _ | _ | _ | _ | _ | _) | _ | _ | _ | _) <;> rfl

theorem performs_timeoutAt :
    Performs [check document isDuration "compiler" "timeout_seconds"]
      (timeoutAt (fieldsOf document "compiler"))
      (valueAt document "compiler" "timeout_seconds") := by
  unfold timeoutAt check valueAt
  -- a number that is not positive and a value of another kind have different messages under one key
  rcases Value.field? "timeout_seconds" (fieldsOf document "compiler") with
    _ | ((_ | b | n | x | _ | _ | _) | _ | _ | _ | _)
  case none => exact .passed rfl rfl
  case some.scalar.int =>
    by_cases hn : n ≤ 0
    · exact .failed (by simpa [isDuration] using hn) (if_pos hn)
    · exact .passed (by simpa [isDuration] using hn) (if_neg hn)
  case some.scalar.float =>
    by_cases hx : x.isNonPositive = true
    · exact .failed (by simpa [isDuration] using hx) (if_pos hx)
    · exact .passed (by simpa [isDuration] using hx) (if_neg hx)
  all_goals exact .failed rfl rfl

theorem performs_textItems (key : String) (i : Nat) (items : List Value) :
    Performs (itemChecks key i items) (textItems key i items)
      (items.map fun v => textOr "" (some v)) := by
  induction items generalizing i with
  | nil => exact .nil []
  | cons v items ih =>
    have hread : textItems key i (v :: items) =
        readField isText "str" (key ++ "." ++ decimalText i) (textOr "") (some v) >>= fun s =>
          textItems key (i + 1) items >>= fun ss => .ok (s :: ss) := by
      rcases v with (_ | _ | _ | _ | _ | _ | _) | _ | _ | _ | _ <;> rfl
    have hitems : itemChecks key i (v :: items) =
        [⟨key ++ "." ++ decimalText i, (some v).all isText⟩] ++
          (itemChecks key (i + 1) items ++ []) := by
      rw [List.append_nil]
      rfl
    rw [hread, hitems]
    exact (performs_of_eq "str" (textOr "") rfl).bind ((ih (i + 1)).bind (.nil _))

theorem performs_textsAt (table name : String) (default : List String) :
    Performs (listChecks document table name)
      (textsAt (fieldsOf document table) table name default)
      (textsOr default (valueAt document table name)) := by
  unfold textsAt listChecks check valueAt
  rcases Value.field? name (fieldsOf document table) with
    _ | ((_ | _ | _ | _ | _ | _ | _) | items | _ | _ | _)
  case none => exact .passed rfl rfl
  case some.list =>
    exact Performs.bind (f := fun _ => textItems (table ++ "." ++ name) 0 items)
      (.passed (a := ()) rfl rfl) (performs_textItems ..)
  all_goals exact .failed rfl rfl

/-! ### Manifests -/

/-- The time limit is a whole number beyond all floating-point numbers. -/
def TimeoutOverflows : Prop :=
  ∃ n, valueAt document "compiler" "timeout_seconds" = some (.int n) ∧ 0 < n ∧
    (Binary64.ofInt n).isInfinite = true

theorem seconds_eq {document : List (Scalar × Value)} (h : ¬ TimeoutOverflows document)
    (hfront : firstFailure (frontChecks document) = none) :
    seconds (valueAt document "compiler" "timeout_seconds") =
      .ok (duration? (valueAt document "compiler" "timeout_seconds")) := by
  have hcheck : (check document isDuration "compiler" "timeout_seconds").passes = true :=
    firstFailure_eq_none.1 hfront _ (List.mem_append_right _ List.mem_cons_self)
  rcases hv : valueAt document "compiler" "timeout_seconds" with
    _ | ((_ | b | n | x | _ | _ | _) | _ | _ | _ | _)
  case some.scalar.int =>
    -- the check has refused zero and less, so only a limit that is too large could fail
    have hpositive : 0 < n := by simpa [check, hv, isDuration] using hcheck
    exact if_neg fun hinfinite => h ⟨n, hv, hpositive, hinfinite⟩
  all_goals rfl

theorem performs_front :
    Performs (frontChecks document)
      (do
        let project ← tableAt document "project"
        let compiler ← tableAt document "compiler"
        let capsules ← tableAt document "capsules"
        let logging ← tableAt document "logging"
        let targets ← textsAt compiler "compiler" "targets" ["web"]
        let timeout ← timeoutAt compiler
        return (project, compiler, capsules, logging, targets, timeout))
      (fieldsOf document "project", fieldsOf document "compiler", fieldsOf document "capsules",
        fieldsOf document "logging", textsOr ["web"] (valueAt document "compiler" "targets"),
        valueAt document "compiler" "timeout_seconds") :=
  (performs_tableAt ..).bind <| (performs_tableAt ..).bind <| (performs_tableAt ..).bind <|
    (performs_tableAt ..).bind <| (performs_textsAt ..).bind <|
    (performs_timeoutAt ..).bind (.nil _)

theorem performs_rest (root : List String) :
    Performs (backChecks document)
      (rest root (fieldsOf document "project") (fieldsOf document "compiler")
        (fieldsOf document "capsules") (fieldsOf document "logging")
        (textsOr ["web"] (valueAt document "compiler" "targets"))
        (duration? (valueAt document "compiler" "timeout_seconds")))
      (fromDocument document root) :=
  (performs_textAt ..).bind <| (performs_textsAt ..).bind <| (performs_boolAt ..).bind <|
    (performs_textAt ..).bind <| (performs_themeAt ..).bind <| (performs_textAt ..).bind <|
    (performs_textAt ..).bind <| (performs_textAt ..).bind (.nil _)

variable {document}

theorem ofDocument_eq_ok (htimeout : ¬ TimeoutOverflows document)
    (h : firstFailure (checks document) = none) (root : List String) :
    ofDocument root document = .ok (fromDocument document root) := by
  rw [checks, firstFailure_append, Option.or_eq_none_iff] at h
  unfold ofDocument
  dsimp only
  rw [(performs_front document).ok h.1]
  dsimp only
  rw [seconds_eq htimeout h.1]
  dsimp only
  rw [(performs_rest document root).ok h.2]

theorem exists_ofDocument_eq_error (htimeout : ¬ TimeoutOverflows document) {c : Check}
    (h : firstFailure (checks document) = some c) (root : List String) :
    ∃ message, ofDocument root document = .error (.mismatch ⟨c.key, message⟩) := by
  rw [checks, firstFailure_append] at h
  unfold ofDocument
  dsimp only
  cases hfront : firstFailure (frontChecks document) with
  | some d =>
    rw [hfront, Option.some_or, Option.some.injEq] at h
    obtain ⟨message, hmessage⟩ := (performs_front document).error d hfront
    exact ⟨message, by rw [hmessage, h]⟩
  | none =>
    rw [hfront, Option.none_or] at h
    rw [(performs_front document).ok hfront]
    dsimp only
    rw [seconds_eq htimeout hfront]
    dsimp only
    obtain ⟨message, hmessage⟩ := (performs_rest document root).error c h
    exact ⟨message, by rw [hmessage]⟩

/-! ### Files -/

theorem hasEntry_of_read {t : FileTree} {path : Path} {text : String} (h : t.read path = .ok text) :
    t.hasEntry path = .ok true := by
  rw [FileTree.read] at h
  rw [FileTree.hasEntry]
  cases hlookup : t.lookup path with
  | ok e => rfl
  | error f =>
    rw [hlookup] at h
    cases h

theorem exists_map_of_read {text : String} {v : Value} (h : Toml.read text = .ok v) :
    ∃ document, v = .map document := by
  obtain ⟨d, -, hd⟩ := bind_eq_ok.1 h
  exact ⟨d.table, (Except.ok.inj hd).symm⟩

/-- The fault that ends the reading of a manifest when its document is refused. -/
def Refusal.toFault (path : Path) : Refusal → ProjectFault
  | .mismatch m => .reported (.inConfig m.message path m.key)
  | .timeoutOverflow => .overflow

theorem load_eq {t : FileTree} {path : Path} {text : String} (hread : t.read path = .ok text)
    (hdocument : Toml.read text = .ok (.map document)) :
    load t path = ((ofDocument (path.parent.resolve t.here) document).mapError
      (Refusal.toFault path)).map fun manifest => ⟨manifest, true⟩ := by
  rw [load, hasEntry_of_read hread]
  dsimp only
  rw [hread]
  dsimp only
  rw [hdocument]
  dsimp only
  rcases ofDocument (path.parent.resolve t.here) document with (m | _) | manifest <;> rfl

/-- The documents that are refused are those of which a check fails. Whatever document is read from
the file of a manifest, unless its time limit is beyond all floating-point numbers, the manifest is
refused exactly if one of the checks fails, and the error has the key of the first one that does.
Otherwise every field is the value of the document or its default, with the level in capitals. -/
theorem manifest_checked_in_order {t : FileTree} {path : Path} {text : String}
    (hread : t.read path = .ok text) (hdocument : Toml.read text = .ok (.map document))
    (htimeout : ¬ TimeoutOverflows document) :
    ((∃ e, load t path = .error (.reported e) ∧ e.kind = .config) ↔
        ∃ c ∈ checks document, c.passes = false) ∧
      (∀ f, load t path = .error f →
        ∃ e c, f = .reported e ∧ e.kind = .config ∧ firstFailure (checks document) = some c ∧
          e.key? = some c.key) ∧
      ((∀ c ∈ checks document, c.passes = true) →
        load t path = .ok ⟨fromDocument document (path.parent.resolve t.here), true⟩) := by
  cases hfirst : firstFailure (checks document) with
  | none =>
    have hload : load t path =
        .ok ⟨fromDocument document (path.parent.resolve t.here), true⟩ := by
      rw [load_eq hread hdocument, ofDocument_eq_ok htimeout hfirst]
      rfl
    have hpass := firstFailure_eq_none.1 hfirst
    refine ⟨iff_of_false ?_ ?_, fun f hf => ?_, fun _ => hload⟩
    · rintro ⟨e, he, -⟩
      rw [hload] at he
      cases he
    · rintro ⟨c, hc, hfails⟩
      rw [hpass c hc] at hfails
      cases hfails
    · rw [hload] at hf
      cases hf
  | some c =>
    obtain ⟨message, hmismatch⟩ :=
      exists_ofDocument_eq_error htimeout hfirst (path.parent.resolve t.here)
    have hload : load t path = .error (.reported (.inConfig message path c.key)) := by
      rw [load_eq hread hdocument, hmismatch]
      rfl
    have hfails := firstFailure_eq_some hfirst
    refine ⟨iff_of_true ⟨_, hload, rfl⟩ ⟨c, hfails⟩, fun f hf => ?_, fun hpass => ?_⟩
    · rw [hload] at hf
      exact ⟨_, c, (Except.error.inj hf).symm, rfl, rfl, rfl⟩
    · rw [hpass c hfails.1] at hfails
      cases hfails.2

/-- Two values of a wrong kind: the item of a list comes before the time limit. -/
theorem manifest_checked_in_order_item :
    let t : FileTree := ⟨["work"], [(["work", "capsuleforge.toml"],
      .file (some "[compiler]\ntimeout_seconds = true\ntargets = [\"web\", 3]\n"))]⟩
    let path := Path.ofText "capsuleforge.toml"
    ∃ text document e, t.read path = .ok text ∧ Toml.read text = .ok (.map document) ∧
      ¬ TimeoutOverflows document ∧ load t path = .error (.reported e) ∧
      e.key? = some "compiler.targets.1" := by
  have hchecked : (FileTree.read ⟨["work"], [(["work", "capsuleforge.toml"],
      .file (some "[compiler]\ntimeout_seconds = true\ntargets = [\"web\", 3]\n"))]⟩
      (Path.ofText "capsuleforge.toml")).toOption.any (fun text => (Toml.read text).toOption.any
        fun v => (firstFailure (checks (fields (some v)))).any (·.key == "compiler.targets.1") &&
          (valueAt (fields (some v)) "compiler" "timeout_seconds").all isFlag) = true := by
    decide +kernel
  obtain ⟨text, hread, htext⟩ := Gives.of_any hchecked
  obtain ⟨v, hdocument, hv⟩ := Gives.of_any htext
  obtain ⟨document, rfl⟩ := exists_map_of_read hdocument
  obtain ⟨hkey, hflag⟩ := Bool.and_eq_true_iff.1 hv
  obtain ⟨c, hfirst, hc⟩ := (Option.any_eq_true _ _).1 hkey
  have htimeout : ¬ TimeoutOverflows document := by
    rintro ⟨n, hn, -⟩
    rw [fields, hn] at hflag
    cases hflag
  obtain ⟨hiff, hkeys, -⟩ := manifest_checked_in_order hread hdocument htimeout
  obtain ⟨e, hload, -⟩ := hiff.2 ⟨c, firstFailure_eq_some hfirst⟩
  obtain ⟨_, d, heq, -, hd, he⟩ := hkeys _ hload
  obtain rfl := ProjectFault.reported.inj heq
  obtain rfl := Option.some.inj (hd.symm.trans hfirst)
  exact ⟨text, document, e, hread, hdocument, htimeout, hload, by rw [he, beq_iff_eq.1 hc]⟩

end CapsuleKit.Manifest
