import CapsuleKit.Theme.Basic

/-!
# Diagnostics

An error or a warning of a compilation, with the instance that it is about. `Diagnostics` collects
both in the order in which they are found; only errors make a compilation fail.
-/

namespace CapsuleKit

open Schema

structure Diagnostic where
  code : String
  message : String
  capsuleId : Option String := none
  suggestion : Option String := none
  deriving DecidableEq

/-- The kinds of diagnostics that compiling gives. -/
inductive DiagnosticCode where
  | compilerNotFound
  | compilationFailed
  | compilationTimeout
  | unsupportedCapsule
  | duplicateInstanceId
  | missingRequiredProp
  | invalidPlatformConfig
  | invalidPropName
  | emptyComposition
  deriving DecidableEq

/-- The code as reports show it. -/
def DiagnosticCode.name : DiagnosticCode → String
  | .compilerNotFound => "COMPILER_NOT_FOUND"
  | .compilationFailed => "COMPILATION_FAILED"
  | .compilationTimeout => "COMPILATION_TIMEOUT"
  | .unsupportedCapsule => "UNSUPPORTED_CAPSULE"
  | .duplicateInstanceId => "DUPLICATE_INSTANCE_ID"
  | .missingRequiredProp => "MISSING_REQUIRED_PROP"
  | .invalidPlatformConfig => "INVALID_PLATFORM_CONFIG"
  | .invalidPropName => "INVALID_PROP_NAME"
  | .emptyComposition => "EMPTY_COMPOSITION"

namespace Diagnostic

def build (fs : Fields) : Checked Diagnostic :=
  Diagnostic.mk <$> fs.required (.plain "code") text <*> fs.required (.plain "message") text <*>
    fs.text? ⟨"capsuleId", "capsule_id"⟩ <*> fs.text? (.plain "suggestion")

def decode : Decoder Diagnostic := model build

def toValue (d : Diagnostic) : Value :=
  .object [("code", .text d.code), ("message", .text d.message),
    ("capsuleId", .ofText? d.capsuleId), ("suggestion", .ofText? d.suggestion)]

end Diagnostic

/-- Errors and warnings, each in the order in which they are found. -/
structure Diagnostics where
  errors : List Diagnostic := []
  warnings : List Diagnostic := []
  deriving DecidableEq

namespace Diagnostics

def error (code : DiagnosticCode) (message : String) (capsuleId : Option String) : Diagnostics :=
  { errors := [{ code := code.name, message, capsuleId }] }

def warning (code : DiagnosticCode) (message : String) (capsuleId suggestion : Option String) :
    Diagnostics :=
  { warnings := [{ code := code.name, message, capsuleId, suggestion }] }

def append (a b : Diagnostics) : Diagnostics :=
  ⟨a.errors ++ b.errors, a.warnings ++ b.warnings⟩

instance : Append Diagnostics := ⟨append⟩

/-- The diagnostics of several parts, in order. -/
def join (ds : List Diagnostics) : Diagnostics :=
  ⟨ds.flatMap (·.errors), ds.flatMap (·.warnings)⟩

end Diagnostics

end CapsuleKit
