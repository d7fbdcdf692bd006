import CapsuleKit.Compile.Diagnostic

/-!
# Results of a compilation

The files that one platform's compilation gives, with its diagnostics and totals. A list of
diagnostics is absent, not empty, where there are none: `CompileResult.ofDiagnostics` and
`CompileResult.failure` keep to that, and `toReport` leaves absent members out.
-/

namespace CapsuleKit

open Schema

/-- A file with its path relative to the project of the platform. -/
structure GeneratedFile where
  path : String
  content : String
  language : Option String := none
  deriving DecidableEq

/-- Totals of the files, lengths in characters, and the time in milliseconds. -/
structure CompileStats where
  fileCount : Int := 0
  totalSize : Int := 0
  compilationTime : Binary64 := Binary64.zero
  deriving DecidableEq

structure CompileResult where
  success : Bool
  platform : String
  files : List GeneratedFile := []
  errors : Option (List Diagnostic) := none
  warnings : Option (List Diagnostic) := none
  stats : CompileStats := {}
  deriving DecidableEq

namespace GeneratedFile

def build (fs : Fields) : Checked GeneratedFile :=
  GeneratedFile.mk <$> fs.required (.plain "path") text <*> fs.required (.plain "content") text <*>
    fs.text? (.plain "language")

def decode : Decoder GeneratedFile := model build

def toValue (f : GeneratedFile) : Value :=
  .object [("path", .text f.path), ("content", .text f.content),
    ("language", .ofText? f.language)]

/-- The length of the content in characters. -/
def size (f : GeneratedFile) : Nat :=
  f.content.length

end GeneratedFile

namespace CompileStats

def build (fs : Fields) : Checked CompileStats :=
  CompileStats.mk <$> fs.withDefault ⟨"fileCount", "file_count"⟩ 0 int <*>
    fs.withDefault ⟨"totalSize", "total_size"⟩ 0 int <*>
    fs.withDefault ⟨"compilationTime", "compilation_time"⟩ Binary64.zero float

def decode : Decoder CompileStats := model build

def toValue (s : CompileStats) : Value :=
  .object [("fileCount", .int s.fileCount), ("totalSize", .int s.totalSize),
    ("compilationTime", .float s.compilationTime)]

end CompileStats

/-- A map without the members that are null. -/
def Value.withoutNulls : Value → Value
  | .map es => .map (es.filter fun e => !e.2.isNull)
  | v => v

namespace CompileResult

def build (fs : Fields) : Checked CompileResult :=
  CompileResult.mk <$> fs.required (.plain "success") bool <*>
    fs.required (.plain "platform") text <*>
    fs.withDefault (.plain "files") [] (list GeneratedFile.decode) <*>
    fs.withDefault (.plain "errors") none (nullable (list Diagnostic.decode)) <*>
    fs.withDefault (.plain "warnings") none (nullable (list Diagnostic.decode)) <*>
    fs.withDefault (.plain "stats") {} CompileStats.decode

def decode : Decoder CompileResult := model build

/-- Diagnostics as a value, null where there are none. -/
def diagnosticsValue (entry : Diagnostic → Value) : Option (List Diagnostic) → Value
  | some ds => .list (ds.map entry)
  | none => .null

/-- The document form with all members. -/
def toValue (r : CompileResult) : Value :=
  .object [("success", .bool r.success), ("platform", .text r.platform),
    ("files", .list (r.files.map (·.toValue))),
    ("errors", diagnosticsValue (·.toValue) r.errors),
    ("warnings", diagnosticsValue (·.toValue) r.warnings), ("stats", r.stats.toValue)]

/-- The document form that leaves absent members out at every level. -/
def toReport (r : CompileResult) : Value :=
  Value.withoutNulls <|
    .object [("success", .bool r.success), ("platform", .text r.platform),
      ("files", .list (r.files.map fun f => f.toValue.withoutNulls)),
      ("errors", diagnosticsValue (·.toValue.withoutNulls) r.errors),
      ("warnings", diagnosticsValue (·.toValue.withoutNulls) r.warnings),
      ("stats", r.stats.toValue)]

/-- The first file with a path. -/
def file? (r : CompileResult) (path : String) : Option GeneratedFile :=
  r.files.find? (·.path == path)

/-- A list that is absent when it is empty. -/
def present {α : Type} : List α → Option (List α)
  | [] => none
  | a :: as => some (a :: as)

/-- The totals of some files. -/
def statsOf (files : List GeneratedFile) (time : Binary64) : CompileStats where
  fileCount := files.length
  totalSize := ((files.map (·.size)).foldl (· + ·) 0 : Nat)
  compilationTime := time

/-- The result of a compilation that went through its files and diagnostics. -/
def make (platform : String) (success : Bool) (files : List GeneratedFile) (ds : Diagnostics)
    (time : Binary64) : CompileResult where
  success
  platform
  files
  errors := present ds.errors
  warnings := present ds.warnings
  stats := statsOf files time

/-- A result that is successful exactly if there are no errors. -/
def ofDiagnostics (platform : String) (files : List GeneratedFile) (ds : Diagnostics) :
    CompileResult :=
  make platform ds.errors.isEmpty files ds Binary64.zero

/-- A failure without files, with a single error. -/
def failure (platform code message : String) : CompileResult where
  success := false
  platform
  errors := some [{ code, message }]

end CompileResult

end CapsuleKit
