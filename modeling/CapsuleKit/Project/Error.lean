import CapsuleKit.Files.Tree
import CapsuleKit.Schema.Problem

/-!
# Errors of a project

What can be wrong with the files of a project: its configuration, a document, a capsule definition
or a path that is to be written. An error may say where it was found.
-/

namespace CapsuleKit

/-- What part of a project an error is about. -/
inductive ErrorKind where
  | general
  | config
  | document
  | registration
  deriving DecidableEq

/-- A file and perhaps a key in it. -/
structure Location where
  file : Path
  key : Option String := none
  deriving DecidableEq

/-- `file`, or `file at key`. -/
def Location.text (l : Location) : String :=
  match l.key with
  | none => l.file.text
  | some key => if key.isEmpty then l.file.text else l.file.text ++ " at " ++ key

structure ProjectError where
  kind : ErrorKind
  message : String
  location : Option Location := none
  /-- The problems of the value that was refused. -/
  problems : Option (List Schema.Problem) := none
  deriving DecidableEq

namespace ProjectError

/-- The message, with the location in front. -/
def text (e : ProjectError) : String :=
  match e.location with
  | none => e.message
  | some l => l.text ++ ": " ++ e.message

/-- The key at which the error was found. -/
def key? (e : ProjectError) : Option String :=
  e.location.bind (·.key)

/-- An error in a document. -/
def inDocument (message : String) (file : Path) (key : Option String) : ProjectError where
  kind := .document
  message
  location := some ⟨file, key⟩

/-- An error in the configuration. -/
def inConfig (message : String) (file : Path) (key : Option String) : ProjectError where
  kind := .config
  message
  location := some ⟨file, key⟩

end ProjectError

/-- What goes wrong in a project: an error that is reported, a file that cannot be used, a value
that cannot be converted, or something that no report covers. -/
inductive ProjectFault where
  | reported (e : ProjectError)
  | file (f : FileFault)
  | value (message : String)
  | overflow
  | missingKey
  | missingMatch
  | emptyNumber
  | notText
  | endless

end CapsuleKit
