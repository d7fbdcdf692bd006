import CapsuleKit.Capsule.Registry
import CapsuleKit.Composition.Basic
import CapsuleKit.Json.Reader
import CapsuleKit.Project.Error
import CapsuleKit.Yaml.Reader

/-!
# Documents of a project

Compositions and capsule definitions stand in files. The name of a file says how it is written: YAML
under `.yaml` and `.yml`, JSON under everything else.
-/

namespace CapsuleKit

/-- The dotted way to the first problem, if it is not at the top. -/
def Schema.firstKey? (problems : List Schema.Problem) : Option String :=
  match problems with
  | [] => none
  | p :: _ =>
    let key := String.intercalate "." (p.path.map fun
      | .key name => name
      | .index n => intText n)
    if key.isEmpty then none else some key

/-- The fault for a document that is not YAML, or a value in it that cannot be converted. -/
def Yaml.Fault.inFile (path : Path) : Yaml.Fault → ProjectFault
  | .malformed => .reported (.inDocument "Invalid YAML" path none)
  | .badValue message => .value message
  | .missingKey => .missingKey
  | .missingMatch => .missingMatch
  | .emptyNumber => .emptyNumber
  | .overflow => .overflow
  | .notText => .notText
  | .endless => .endless

/-- The fault for a document that is not JSON. -/
def Json.ReadError.inFile (path : Path) : Json.ReadError → ProjectFault
  | .malformed fault line =>
    .reported (.inDocument
      ("Invalid JSON: " ++ fault.message ++ " (line " ++ decimalText line ++ ")") path none)
  | .tooManyDigits n => .value (Number.tooManyDigits n)

namespace FileTree

/-- The text of a file of the project, which has to be there. -/
def projectText (t : FileTree) (path : Path) : Except ProjectFault String :=
  match t.hasEntry path with
  | .error f => .error (.file f)
  | .ok false => .error (.reported (.inDocument "File not found" path none))
  | .ok true => (t.read path).mapError .file

/-- Whether a file holds YAML. -/
def isYamlName (path : Path) : Bool :=
  [".yaml", ".yml"].contains (String.ofList (Number.lowerAscii path.suffix.toList))

/-- The value of a document. -/
def document (t : FileTree) (path : Path) : Except ProjectFault Value := do
  let text ← t.projectText path
  if isYamlName path then (Yaml.read text).mapError (·.inFile path)
  else (Json.read text).mapError (·.inFile path)

/-- A composition. -/
def composition (t : FileTree) (path : Path) : Except ProjectFault Composition := do
  match ← t.document path with
  | .map entries =>
    match Composition.decode (.map entries) with
    | .ok c => return c
    | .bad ps =>
      .error (.reported
        { ProjectError.inDocument
            ("Invalid composition: " ++ decimalText ps.length ++ " problem(s)") path
            (Schema.firstKey? ps) with
          problems := some ps })
  | _ => .error (.reported (.inDocument "Composition must be a mapping" path none))

/-- Definitions from a position of a list on. -/
def definitionsFrom (path : Path) : Nat → List Value → Except ProjectFault (List Definition)
  | _, [] => .ok []
  | i, v :: vs =>
    match Definition.decode v with
    | .ok d => do return d :: (← definitionsFrom path (i + 1) vs)
    | .bad ps =>
      let key := decimalText i ++ ((Schema.firstKey? ps).map ("." ++ ·)).getD ""
      .error (.reported
        { ProjectError.inDocument (Definition.invalidMessage ps) path (some key) with
          problems := some ps })

/-- The capsule definitions of a document: a list, or a map with the list under `capsules`. -/
def definitions (t : FileTree) (path : Path) : Except ProjectFault (List Definition) := do
  let entries :=
    match ← t.document path with
    | .list vs => some vs
    | .map fields =>
      match Value.field? "capsules" fields with
      | some (.list vs) => some vs
      | _ => none
    | _ => none
  match entries with
  | some vs => definitionsFrom path 0 vs
  | none => .error (.reported (.inDocument "Expected a list of capsule definitions" path none))

end FileTree

end CapsuleKit
