import CapsuleKit.Compile.Check
import CapsuleKit.Compile.Emission
import CapsuleKit.Target.Android.Project
import CapsuleKit.Target.Desktop.Project
import CapsuleKit.Target.Ios.Project

/-!
# Generators

A generator knows the options of a platform and the files of its project. `Generator.compile` is the
same for all: the options are read, with a warning and the defaults where they do not fit, the
composition is checked, and the files are written as far as the generator gets.
-/

namespace CapsuleKit

open Schema

/-- The options for the platform, checked. -/
def Job.options {α : Type} (j : Job) (build : Fields → Checked α) : Checked α :=
  build ((j.composition.overlay j.platform).map fun e => (.text e.1, e.2))

structure Generator where
  /-- The word for the kind of generator in the log. -/
  kind : String
  /-- The name that is shown. -/
  name : String
  /-- What is wrong with the options for the platform. -/
  problems : Job → List Problem
  /-- The files of the project. -/
  steps : Job → List EmitStep

namespace Generator

/-- A generator with options: those that do not fit are replaced by the defaults. -/
def withOptions {α : Type} (kind name : String) (build : Fields → Checked α) (default : α)
    (steps : α → Job → List EmitStep) : Generator where
  kind
  name
  problems j := (j.options build).problems
  steps j := steps ((j.options build).getD default) j

def web : Generator :=
  withOptions "WebCompiler" "Web React/Vite Compiler" WebConfig.build {} Web.projectSteps

def ios : Generator :=
  withOptions "IOSCompiler" "iOS SwiftUI Compiler" IosConfig.build {} Ios.projectSteps

def android : Generator :=
  withOptions "AndroidCompiler" "Android Jetpack Compose Compiler" AndroidConfig.build {}
    Android.projectSteps

def desktop : Generator :=
  withOptions "DesktopCompiler" "Desktop Tauri Compiler" DesktopConfig.build {}
    Desktop.projectSteps

/-- The warning for options that do not fit. -/
def configDiagnostics (platform : String) (problems : List Problem) : Diagnostics :=
  if problems.isEmpty then {}
  else
    .warning .invalidPlatformConfig
      ("Invalid " ++ platform ++ " config ignored: " ++ decimalText problems.length ++ " problem(s)")
      none ("Check platformConfig." ++ platform ++ " against the documented options" : String)

/-- The error for a generator that could not finish. -/
def failureDiagnostics : Option String → Diagnostics
  | none => {}
  | some message => .error .compilationFailed message none

/-- What is to say before any file is written. -/
def diagnose (g : Generator) (j : Job) : Diagnostics :=
  configDiagnostics j.platform (g.problems j) ++ j.composition.check j.registry j.platform

/-- Compiles a composition for a platform. -/
def compile (g : Generator) (j : Job) : CompileResult :=
  let e := Emission.ofSteps (g.steps j)
  CompileResult.ofDiagnostics j.platform e.files (g.diagnose j ++ failureDiagnostics e.failure)

end Generator

end CapsuleKit
