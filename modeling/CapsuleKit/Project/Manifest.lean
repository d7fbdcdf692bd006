import CapsuleKit.Document.Value
import CapsuleKit.Files.Tree
import CapsuleKit.Number.Reading
import CapsuleKit.Project.Error
import CapsuleKit.Text.Upper
import CapsuleKit.Toml.Reader

/-!
# Project manifests

A manifest names the composition of a project, its targets, its output directory and its capsule
files. Everything has a default, and so has an absent manifest. `Manifest.ofDocument` checks a
document in a fixed order and reports the first value of a wrong kind by its key.
-/

namespace CapsuleKit

structure Manifest where
  name : String := "app"
  version : String := "0.1.0"
  /-- The composition, relative to the manifest. -/
  composition : String := "composition.json"
  /-- A preset that replaces the theme of the composition. -/
  theme : Option String := none
  targets : List String := ["web"]
  /-- The time limit for a platform. -/
  timeout : Option Binary64 := none
  outputDir : String := "build"
  capsulePaths : List String := []
  includeBuiltin : Bool := true
  logLevel : String := "WARNING"
  /-- The segments from the root of the directory of the manifest. -/
  root : List String
  deriving DecidableEq

namespace Manifest

/-- The file name of a manifest. -/
def fileName : String := "capsuleforge.toml"

/-- The platforms that are known. -/
def knownPlatforms : List String :=
  ["web", "ios", "android", "desktop"]

/-- What a value should be and is not. -/
structure Mismatch where
  key : String
  message : String
  deriving DecidableEq

/-- A value of the wrong kind under a key. -/
def mismatch {α : Type} (expected key : String) (v : Value) : Except Mismatch α :=
  .error ⟨key, "Expected " ++ expected ++ ", got " ++ v.kindName⟩

/-- A table under a key of a document, empty if it is absent. -/
def tableAt (document : List (Scalar × Value)) (key : String) :
    Except Mismatch (List (Scalar × Value)) :=
  match Value.field? key document with
  | none => .ok []
  | some (.map es) => .ok es
  | some v => mismatch "dict" key v

/-- A text of a table. -/
def textAt (fields : List (Scalar × Value)) (table name default : String) :
    Except Mismatch String :=
  match Value.field? name fields with
  | none => .ok default
  | some (.text s) => .ok s
  | some v => mismatch "str" (table ++ "." ++ name) v

/-- The texts of a list from a position on. -/
def textItems (key : String) : Nat → List Value → Except Mismatch (List String)
  | _, [] => .ok []
  | i, .text s :: vs => do return s :: (← textItems key (i + 1) vs)
  | i, v :: _ => mismatch "str" (key ++ "." ++ decimalText i) v

/-- A list of texts of a table. -/
def textsAt (fields : List (Scalar × Value)) (table name : String) (default : List String) :
    Except Mismatch (List String) :=
  let key := table ++ "." ++ name
  match Value.field? name fields with
  | none => .ok default
  | some (.list vs) => textItems key 0 vs
  | some v => mismatch "list" key v

def boolAt (fields : List (Scalar × Value)) (table name : String) (default : Bool) :
    Except Mismatch Bool :=
  match Value.field? name fields with
  | none => .ok default
  | some (.bool b) => .ok b
  | some v => mismatch "bool" (table ++ "." ++ name) v

def timeoutKey : String := "compiler.timeout_seconds"

def notPositive {α : Type} : Except Mismatch α :=
  .error ⟨timeoutKey, "timeout_seconds must be a positive number"⟩

/-- The time limit of a table: a number above zero. -/
def timeoutAt (table : List (Scalar × Value)) : Except Mismatch (Option Value) :=
  match Value.field? "timeout_seconds" table with
  | none => .ok none
  | some (.bool _) => notPositive
  | some (.int n) => if n ≤ 0 then notPositive else .ok (some (.int n))
  | some (.float x) => if x.isNonPositive then notPositive else .ok (some (.float x))
  | some v => mismatch "int or float" timeoutKey v

/-- A theme by name, if one is given. -/
def themeAt (table : List (Scalar × Value)) : Except Mismatch (Option String) :=
  match Value.field? "theme" table with
  | none => .ok none
  | some (.text s) => .ok (some s)
  | some v => mismatch "str" "project.theme" v

/-- A number of seconds as a floating-point number, if it is not too large for one. -/
def seconds : Option Value → Except Unit (Option Binary64)
  | some (.int n) =>
    let x := Binary64.ofInt n
    if x.isInfinite then .error () else .ok (some x)
  | some (.float x) => .ok (some x)
  | _ => .ok none

/-- What is wrong with a document: a value of a wrong kind, or a time limit beyond all
floating-point numbers. -/
inductive Refusal where
  | mismatch (m : Mismatch)
  | timeoutOverflow
  deriving DecidableEq

/-- Checks what stands behind the time limit, in order. -/
def rest (root : List String) (project compiler capsules logging : List (Scalar × Value))
    (targets : List String) (timeout : Option Binary64) : Except Mismatch Manifest := do
  let outputDir ← textAt compiler "compiler" "output_dir" "build"
  let capsulePaths ← textsAt capsules "capsules" "paths" []
  let includeBuiltin ← boolAt capsules "capsules" "include_builtin" true
  let level ← textAt logging "logging" "level" "WARNING"
  let theme ← themeAt project
  let name ← textAt project "project" "name" "app"
  let version ← textAt project "project" "version" "0.1.0"
  let composition ← textAt project "project" "composition" "composition.json"
  return { name, version, composition, theme, targets, timeout, outputDir, capsulePaths,
           includeBuiltin, logLevel := Text.toUpper level, root }

/-- A manifest from a document; the first value of a wrong kind is reported. -/
def ofDocument (root : List String) (document : List (Scalar × Value)) :
    Except Refusal Manifest :=
  let head : Except Mismatch _ := do
    let project ← tableAt document "project"
    let compiler ← tableAt document "compiler"
    let capsules ← tableAt document "capsules"
    let logging ← tableAt document "logging"
    let targets ← textsAt compiler "compiler" "targets" ["web"]
    let timeout ← timeoutAt compiler
    return (project, compiler, capsules, logging, targets, timeout)
  match head with
  | .error m => .error (.mismatch m)
  | .ok (project, compiler, capsules, logging, targets, timeout) =>
    match seconds timeout with
    | .error _ => .error .timeoutOverflow
    | .ok limit =>
      match rest root project compiler capsules logging targets limit with
      | .error m => .error (.mismatch m)
      | .ok manifest => .ok manifest

/-- The warnings for targets that are not known. -/
def targetWarnings (path : Path) (targets : List String) : List String :=
  (targets.zipIdx.filter fun p => !knownPlatforms.contains p.1).map fun p =>
    "Unknown target '" ++ p.1 ++ "' in " ++ path.text ++ " (compiler.targets." ++ decimalText p.2 ++
      ")"

/-- The line that is logged when there is no manifest. -/
def absentMessage (path : Path) : String :=
  "No manifest at " ++ path.text ++ ", using defaults"

/-- A manifest and whether its file was there. -/
structure Loaded where
  manifest : Manifest
  isPresent : Bool
  deriving DecidableEq

/-- Reads the manifest under a path. -/
def load (t : FileTree) (path : Path) : Except ProjectFault Loaded :=
  match t.hasEntry path with
  | .error f => .error (.file f)
  | .ok false =>
    match t.resolve path.parent with
    | .error f => .error (.file f)
    | .ok root => .ok ⟨{ root }, false⟩
  | .ok true =>
    match t.read path with
    | .error f => .error (.file f)
    | .ok text =>
      match Toml.read text with
      | .error .malformed => .error (.reported (.inConfig "Invalid TOML" path none))
      | .error (.tooManyDigits n) => .error (.value (Number.tooManyDigits n))
      | .ok document =>
        match ofDocument (path.parent.resolve t.here) (match document with
          | .map es => es
          | _ => []) with
        | .error (.mismatch m) => .error (.reported (.inConfig m.message path m.key))
        | .error .timeoutOverflow => .error .overflow
        | .ok manifest => .ok ⟨manifest, true⟩

/-- A path of the manifest, seen from its directory. -/
def resolve (m : Manifest) (relative : String) : Except FileFault (List String) :=
  if FileTree.hasNull relative then .error .embeddedNull
  else .ok ((Path.ofText relative).resolve m.root)

end Manifest

end CapsuleKit
