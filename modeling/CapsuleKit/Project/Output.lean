import CapsuleKit.Compile.Result
import CapsuleKit.Project.Error
import CapsuleKit.Text.Display

/-!
# Writing what was generated

The files of a result go below a directory of its platform. A file whose path leads out of that
directory is refused; the files in front of it stay written.
-/

namespace CapsuleKit

/-- A tree after some writing, how many files were written, and what stopped it. -/
structure Written where
  tree : FileTree
  count : Nat
  fault : Option ProjectFault

/-- The text of an absolute path. -/
def absoluteText (segments : List String) : String :=
  (Path.absolute segments).text

namespace FileTree

/-- Refuses a path that leads out of a directory. -/
def refusal (path : String) (directory : List String) : ProjectError where
  kind := .general
  message := "Refusing to write " ++ Text.display path ++ ": outside " ++ absoluteText directory

/-- Writes one file below a directory. -/
def writeBelow (t : FileTree) (directory : List String) (f : GeneratedFile) :
    Except ProjectFault FileTree :=
  if hasNull f.path then .error (.file .embeddedNull)
  else
    let target := (Path.ofText f.path).resolve directory
    if directory.isPrefixOf target then (t.save target f.content).mapError .file
    else .error (.reported (refusal f.path directory))

/-- Writes files below a directory up to the first that cannot be. -/
def writeAllBelow (directory : List String) : List GeneratedFile → Written → Written
  | [], w => w
  | f :: fs, w =>
    match w.tree.writeBelow directory f with
    | .ok t => writeAllBelow directory fs { w with tree := t, count := w.count + 1 }
    | .error e => { w with fault := some e }

/-- Writes the files of a result below the directory of its platform. -/
def writeResult (t : FileTree) (output : Path) (r : CompileResult) : Written :=
  match t.resolve (output ++ Path.ofText r.platform) with
  | .error f => ⟨t, 0, some (.file f)⟩
  | .ok directory => writeAllBelow directory r.files ⟨t, 0, none⟩

end FileTree

end CapsuleKit
