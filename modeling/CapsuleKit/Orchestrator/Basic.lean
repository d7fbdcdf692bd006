import CapsuleKit.Compile.Generator

/-!
# Orchestrators

An orchestrator holds at most one compiler for a platform and compiles a composition for several
platforms under a common time limit. Whatever happens on one platform becomes its own result: a
missing compiler, a limit that is exceeded, or a compiler that breaks off.
-/

namespace CapsuleKit

/-- A limit in seconds, written as it was given. -/
inductive TimeLimit where
  | whole (n : Int)
  | real (x : Binary64)
  deriving DecidableEq

namespace TimeLimit

def text : TimeLimit → String
  | .whole n => intText n
  | .real x => x.text

/-- Whether there is no time at all. -/
def isSpent : TimeLimit → Bool
  | .whole n => n ≤ 0
  | .real x => x.isNonPositive

/-- Whether a compilation of some seconds ends in time; none does where the limit is no number. -/
def allows (limit : TimeLimit) (seconds : Nat) : Bool :=
  !limit.isSpent &&
    match limit with
    | .whole n => (seconds : Int) ≤ n
    | .real x => x.atLeast seconds

end TimeLimit

/-- What running a compiler comes to: how long it takes, and its result or the text with which it
breaks off. -/
structure Attempt where
  seconds : Nat := 0
  outcome : Except String CompileResult

/-- A compiler for a platform. -/
structure Compiler where
  platform : String
  /-- The word for the kind of compiler in the log. -/
  kind : String
  /-- The name that is shown. -/
  name : String
  /-- Tells compilers of one kind apart. -/
  identity : Nat
  run : Registry → Composition → Attempt

/-- A compiler that writes the files of a generator. -/
def Generator.toCompiler (g : Generator) (platform : String) (identity : Nat) : Compiler where
  platform
  kind := g.kind
  name := g.name
  identity
  run r c := { outcome := .ok (g.compile ⟨r, platform, c⟩) }

structure Orchestrator where
  limit : Option TimeLimit := none
  compilers : List Compiler := []

namespace Orchestrator

def find? (o : Orchestrator) (platform : String) : Option Compiler :=
  o.compilers.find? (·.platform == platform)

/-- The platforms with a compiler, in the order of their first registration. -/
def platforms (o : Orchestrator) : List String :=
  o.compilers.map (·.platform)

/-- Puts a compiler in the place of the one for its platform, or at the end. -/
def placeCompiler (k : Compiler) : List Compiler → List Compiler
  | [] => [k]
  | l :: ls => if l.platform = k.platform then k :: ls else l :: placeCompiler k ls

def register (o : Orchestrator) (k : Compiler) : Orchestrator :=
  { o with compilers := placeCompiler k o.compilers }

/-- The line that is logged when a compiler takes the place of another one. -/
def replacement? (o : Orchestrator) (k : Compiler) : Option String :=
  match o.find? k.platform with
  | none => none
  | some old =>
    if old.identity = k.identity then none
    else some ("Replacing " ++ k.platform ++ " compiler " ++ old.kind ++ " with " ++ k.kind)

/-- The compilers of every project: web, phones and desktop. -/
def standard (limit : Option TimeLimit) : Orchestrator where
  limit
  compilers :=
    [Generator.web.toCompiler "web" 0, Generator.ios.toCompiler "ios" 1,
     Generator.android.toCompiler "android" 2, Generator.desktop.toCompiler "desktop" 3]

def notFound (platform : String) : CompileResult :=
  .failure platform DiagnosticCode.compilerNotFound.name
    ("no compiler registered for platform: " ++ platform)

def timedOut (platform : String) (limit : TimeLimit) : CompileResult :=
  .failure platform DiagnosticCode.compilationTimeout.name
    ("compilation for " ++ platform ++ " exceeded " ++ limit.text ++ "s")

/-- The result of an attempt that was not cut short. -/
def conclude (platform : String) (a : Attempt) : CompileResult :=
  match a.outcome with
  | .ok result => result
  | .error message => .failure platform DiagnosticCode.compilationFailed.name message

/-- The result for one platform. -/
def compileOne (o : Orchestrator) (r : Registry) (c : Composition) (platform : String) :
    CompileResult :=
  match o.find? platform with
  | none => notFound platform
  | some k =>
    let attempt := k.run r c
    match o.limit with
    | none => conclude platform attempt
    | some limit =>
      if limit.allows attempt.seconds then conclude platform attempt
      else timedOut platform limit

/-- The platforms of a request, or the targets of the composition, each once. -/
def requested (c : Composition) (platforms : Option (List String)) : List String :=
  (platforms.getD c.targets).eraseDups

/-- The results for the platforms of a request, in order. -/
def compileAll (o : Orchestrator) (r : Registry) (c : Composition)
    (platforms : Option (List String)) : List (String × CompileResult) :=
  (requested c platforms).map fun p => (p, o.compileOne r c p)

end Orchestrator

end CapsuleKit
