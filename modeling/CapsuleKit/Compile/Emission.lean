import CapsuleKit.Compile.Result
import CapsuleKit.Composition.Obstacle

/-!
# Emissions

What a generator writes for one job: its files in order and, if it could not finish, the reason. A
generator is a list of steps, each a file or a failure; the files before the first failure stay.
-/

namespace CapsuleKit

/-- A composition to be generated for a platform, with the capsules it may use. -/
structure Job where
  registry : Registry
  platform : String
  composition : Composition

/-- Files, and why no more were written. -/
structure Emission where
  files : List GeneratedFile
  failure : Option String := none

/-- One step of a generator. -/
abbrev EmitStep := Except String GeneratedFile

namespace Emission

/-- The files of the steps before the first failure, and that failure. -/
def ofSteps : List EmitStep → Emission
  | [] => { files := [] }
  | .error m :: _ => { files := [], failure := some m }
  | .ok f :: rest =>
    let e := ofSteps rest
    { e with files := f :: e.files }

end Emission

/-- A step that writes a file. -/
def emitFile (path content : String) (language : Option String) : EmitStep :=
  .ok { path, content, language }

/-- A step that writes a file unless something stands in the way. -/
def emitUnless (obstacle : Option Json.Obstacle) (step : EmitStep) : EmitStep :=
  match obstacle with
  | some o => .error o.message
  | none => step

namespace Job

/-- The definitions in use, with their templates for the platform. -/
def components (j : Job) : List (Definition × Template) :=
  j.composition.components j.registry j.platform

def dependencies (j : Job) : List String :=
  j.composition.dependencies j.registry j.platform

/-- What keeps the page of the composition from being written. -/
def pageObstacle? (j : Job) : Option Json.Obstacle :=
  Instance.listObstacle? j.registry j.platform j.composition.topLevel

end Job

end CapsuleKit
