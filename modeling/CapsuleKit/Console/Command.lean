import CapsuleKit.Capsule.Builtin
import CapsuleKit.Console.Request
import CapsuleKit.Console.Table
import CapsuleKit.Json.Writer
import CapsuleKit.Number.Shortest
import CapsuleKit.Orchestrator.Basic
import CapsuleKit.Orchestrator.Summary
import CapsuleKit.Project.Documents
import CapsuleKit.Project.LogLevel
import CapsuleKit.Project.Manifest
import CapsuleKit.Project.Output
import CapsuleKit.Theme.Preset

/-!
# Commands

What the commands do: compile a composition and write the files, or list platforms and capsules. A
command takes the file tree as it is and gives what it prints, its exit code and the tree after it.
-/

namespace CapsuleKit.Console

/-- The version of the program. -/
def programVersion : String := "0.3.0"

/-- What breaks a command off without a report. -/
inductive Crash where
  | fault (f : ProjectFault)
  | level (f : LevelFault)
  | markup (e : MarkupError)

/-- What came of a command. -/
structure Outcome where
  output : String
  exit : Nat := 0
  crash : Option Crash := none
  tree : FileTree

namespace Outcome

/-- Prints one more text; markup that does not fit breaks off. -/
def andPrint (o : Outcome) (text : Except MarkupError String) : Outcome :=
  match o.crash, text with
  | some _, _ => o
  | none, .ok s => { o with output := o.output ++ s }
  | none, .error e => { o with exit := 1, crash := some (.markup e) }

/-- Prints lines one by one. -/
def andPrintLines (o : Outcome) (ls : List String) : Outcome :=
  ls.foldl (fun o l => o.andPrint (printLine l)) o

/-- An exit code, unless the command broke off. -/
def withExit (o : Outcome) (code : Nat) : Outcome :=
  if o.crash.isSome then o else { o with exit := code }

/-- A command that ends with a fault: a reported one is printed. -/
def ofFault (t : FileTree) (f : ProjectFault) : Outcome :=
  match f with
  | .reported e =>
    ({ output := "", tree := t : Outcome }.andPrint
      (printLine ("[red]Error:[/red] " ++ e.text))).withExit 1
  | f => { output := "", exit := 1, crash := some (.fault f), tree := t }

end Outcome

/-- The built-in capsules, unless they are left out, those of the manifest and further ones. -/
def registryOf (t : FileTree) (m : Manifest) (files : List Path) :
    Except ProjectFault Registry := do
  let start := if m.includeBuiltin then Builtin.registry else Registry.empty
  let own ← (m.capsulePaths.mapM m.resolve).mapError .file
  (own.map Path.absolute ++ files).foldlM (fun r path => do
    return r.insertAll (← t.definitions path)) start

/-! ### Reports -/

/-- The table of results. -/
def resultsTable (results : List (String × CompileResult)) : Table where
  title := "Compilation Results"
  columns :=
    [{ head := "Platform" }, { head := "Status" }, { head := "Files", justify := .right },
      { head := "Size", justify := .right }, { head := "Errors", justify := .right },
      { head := "Warnings", justify := .right }, { head := "Time (ms)", justify := .right }]
  rows := results.map fun (platform, r) =>
    [platform, if r.success then "[green]ok[/green]" else "[red]failed[/red]",
      intText r.stats.fileCount, intText r.stats.totalSize,
      decimalText (Summary.count r.errors), decimalText (Summary.count r.warnings),
      r.stats.compilationTime.tenths]

/-- The id of a capsule in brackets, if a diagnostic has one. -/
def whereText (d : Diagnostic) : String :=
  match d.capsuleId with
  | some id => if id.isEmpty then "" else " [" ++ id ++ "]"
  | none => ""

def errorLine (platform : String) (d : Diagnostic) : String :=
  "  [red]✗[/red] " ++ platform ++ whereText d ++ " " ++ d.code ++ ": " ++ d.message

/-- A warning and, if there is one, what to do about it. -/
def warningLines (platform : String) (d : Diagnostic) : List String :=
  ("  [yellow]![/yellow] " ++ platform ++ whereText d ++ " " ++ d.code ++ ": " ++ d.message) ::
    (match d.suggestion with
      | some s => if s.isEmpty then [] else ["      [dim]" ++ s ++ "[/dim]"]
      | none => [])

/-- The lines for all errors and warnings, platform by platform. -/
def diagnosticLines (results : List (String × CompileResult)) : List String :=
  results.flatMap fun (platform, r) =>
    (r.errors.getD []).map (errorLine platform) ++
      (r.warnings.getD []).flatMap (warningLines platform)

/-- The summary and the results as a document. -/
def payload (results : List (String × CompileResult)) : Value :=
  .object [("summary", (Summary.ofResults results).toValue),
    ("results", .object (results.map fun (platform, r) => (platform, r.toReport)))]

/-! ### Compiling -/

/-- What ends a compilation before anything is written. -/
inductive Stop where
  | fault (f : ProjectFault)
  | level (f : LevelFault)
  | unknownTheme (name : String)

/-- A compilation before anything is written. -/
structure Compilation where
  composition : Composition
  results : List (String × CompileResult)
  output : Path

/-- The first list that is not empty, or the last one. -/
def firstGiven : List (List String) → List String
  | [] => []
  | [l] => l
  | l :: ls => if l.isEmpty then firstGiven ls else l

/-- The composition with the theme of a preset in place of its own, if one is named. -/
def withTheme (c : Composition) (option manifest : Option String) : Except Stop Composition :=
  match (option.filter (· ≠ "")).or (manifest.filter (· ≠ "")) with
  | none => .ok c
  | some name =>
    match Theme.preset? name with
    | some theme => .ok { c with theme }
    | none => .error (.unknownTheme name)

/-- A path of the manifest. -/
def manifestPath (m : Manifest) (relative : String) : Except Stop Path :=
  match m.resolve relative with
  | .ok segments => .ok (Path.absolute segments)
  | .error f => .error (.fault (.file f))

/-- Loads what the options and the manifest name and compiles it. -/
def compilation (t : FileTree) (o : CompileOptions) : Except Stop Compilation := do
  let m := (← (Manifest.load t (o.project ++ Path.ofText Manifest.fileName)).mapError .fault).manifest
  let _ ← (logLevel m.logLevel o.verbose).mapError .level
  let path ←
    match o.composition with
    | some p => pure p
    | none => manifestPath m m.composition
  let c ← withTheme (← (t.composition path).mapError .fault) o.theme m.theme
  let targets := firstGiven [o.platforms, c.targets, m.targets]
  let registry ← (registryOf t m o.capsuleFiles).mapError .fault
  let limit := (o.timeout.or m.timeout).map TimeLimit.real
  let results := (Orchestrator.standard limit).compileAll registry c (some targets)
  let output ←
    match o.output with
    | some p => pure p
    | none => manifestPath m m.outputDir
  return ⟨c, results, output⟩

/-- Writes the files of results one after the other, up to the first fault. -/
def writeAll (output : Path) : List CompileResult → FileTree → FileTree × Option ProjectFault
  | [], t => (t, none)
  | r :: rs, t =>
    if r.files.isEmpty then writeAll output rs t
    else
      let w := t.writeResult output r
      match w.fault with
      | some f => (w.tree, some f)
      | none => writeAll output rs w.tree

/-- What is printed about a compilation. -/
def report (t : FileTree) (o : CompileOptions) (c : Compilation) : Outcome :=
  let start : Outcome := { output := "", tree := t }
  let printed :=
    if o.asJson then start.andPrint (.ok (Json.pretty (payload c.results) ++ "\n"))
    else
      let heading := "\n[bold]" ++ c.composition.name ++ "[/bold] v" ++ c.composition.version ++ "\n"
      let ending :=
        if o.dryRun then "\n[dim]Dry run: no files written[/dim]"
        else "\nOutput: [cyan]" ++ c.output.text ++ "[/cyan]"
      ((start.andPrintLines [heading]).andPrint (resultsTable c.results).text).andPrintLines
        (diagnosticLines c.results ++ [ending])
  printed.withExit (if (Summary.ofResults c.results).success then 0 else 1)

/-- Compiles a composition and writes the files, unless it is a dry run. -/
def runCompile (t : FileTree) (o : CompileOptions) : Outcome :=
  match compilation t o with
  | .error (.fault f) => Outcome.ofFault t f
  | .error (.level f) => { output := "", exit := 1, crash := some (.level f), tree := t }
  | .error (.unknownTheme name) =>
    ({ output := "", tree := t : Outcome }.andPrint
      (printLine ("[red]Unknown theme '" ++ name ++ "'.[/red] Available: " ++
        String.intercalate ", " Theme.presetNames))).withExit 1
  | .ok c =>
    let (t, fault) := if o.dryRun then (t, none) else writeAll c.output (c.results.map (·.2)) t
    match fault with
    | some f => Outcome.ofFault t f
    | none => report t o c

/-! ### Lists -/

/-- The table of platforms and their compilers. -/
def platformsTable : Table where
  title := "Platforms"
  columns := [{ head := "Platform" }, { head := "Compiler" }]
  rows := (Orchestrator.standard none).compilers.map fun k => [k.platform, k.name]

/-- The table of capsules with the platforms that each supports. -/
def capsulesTable (r : Registry) : Table :=
  let platforms := (Orchestrator.standard none).platforms
  { title := "Capsules (" ++ decimalText r.size ++ ")"
    columns := [{ head := "ID" }, { head := "Name" }, { head := "Category" }] ++
      platforms.map fun p => { head := p, justify := .center }
    rows := r.definitions.map fun d =>
      [d.id, d.name, d.category] ++ platforms.map fun p => if r.supports d.id p then "✓" else "-" }

/-- Lists the capsules of a project. -/
def runCapsules (t : FileTree) (o : ProjectOptions) : Outcome :=
  let registry := do
    let m := (← Manifest.load t (o.project ++ Path.ofText Manifest.fileName)).manifest
    registryOf t m o.capsuleFiles
  match registry with
  | .error f => Outcome.ofFault t f
  | .ok r => { output := "", tree := t : Outcome }.andPrint (capsulesTable r).text

/-- A line for each command. -/
def helpText : String :=
  "Usage: capsuleforge [--version] COMMAND [ARGS]\n\n" ++
    "  compile    Compile a composition for one or more platforms\n" ++
    "  platforms  List available platform compilers\n" ++
    "  capsules   List registered capsules and their platform support\n"

/-- Does what is asked for. -/
def Request.run (t : FileTree) : Request → Outcome
  | .version => { output := "capsuleforge " ++ programVersion ++ "\n", tree := t }
  | .help => { output := helpText, tree := t }
  | .compile o => runCompile t o
  | .platforms => { output := "", tree := t : Outcome }.andPrint platformsTable.text
  | .capsules o => runCapsules t o

/-- Runs a command line. -/
def run (t : FileTree) (words : List String) : Outcome :=
  match Request.ofWords t words with
  | .ok request => request.run t
  | .error .usage => { output := "", exit := 2, tree := t }
  | .error .embeddedNull =>
    { output := "", exit := 1, crash := some (.fault (.file .embeddedNull)), tree := t }

end CapsuleKit.Console
