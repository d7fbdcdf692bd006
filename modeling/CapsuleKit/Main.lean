import CapsuleKit.Console.Command

/-!
# The program

Reads the files that a command line names, runs the command on them and writes what it wrote. The
names of some files stand in the manifest, so that files are read twice: first those that the
command line names, then those that the manifest does.
-/

namespace CapsuleKit.Console

/-- The manifest of a project and the capsule files of a command. -/
def ProjectOptions.inputs (o : ProjectOptions) : List Path :=
  o.project :: (o.project ++ Path.ofText Manifest.fileName) :: o.capsuleFiles

/-- The capsule files that the manifest of a project names, and its composition. -/
def ProjectOptions.manifestInputs (o : ProjectOptions) (t : FileTree) : List Path :=
  match Manifest.load t (o.project ++ Path.ofText Manifest.fileName) with
  | .error _ => []
  | .ok l =>
    (l.manifest.composition :: l.manifest.capsulePaths).filterMap fun relative =>
      (l.manifest.resolve relative).toOption.map Path.absolute

/-- The files that a request looks at, as far as they can be told from a tree. -/
def Request.inputs (t : FileTree) : Request → List Path
  | .compile o => o.inputs ++ o.composition.toList ++ o.manifestInputs t
  | .capsules o => o.inputs ++ o.manifestInputs t
  | _ => []

/-- A directory and those around it. -/
def withDirectories (t : FileTree) (segments : List String) : FileTree :=
  (t.makeDirectories [] segments).toOption.getD t

/-- Reads what stands under a path into a tree. -/
def readInto (t : FileTree) (p : Path) : IO FileTree := do
  if FileTree.hasNull p.text then return t
  let segments := p.resolve t.here
  let place := (← IO.currentDir) / p.text
  if !(← place.pathExists) then return t
  if ← place.isDir then return withDirectories t segments
  let bytes ← IO.FS.readBinFile place
  return (withDirectories t segments.dropLast).put segments (.file (String.fromUTF8? bytes))

/-- Writes the files that are new or changed. -/
def writeChanges (before after : FileTree) : IO Unit := do
  for (segments, e) in after.entries do
    if before.entry? segments != some e then
      let path := absoluteText segments
      match e with
      | .directory => IO.FS.createDirAll path
      | .file (some s) => IO.FS.writeFile path s
      | .file none => pure ()

end CapsuleKit.Console

open CapsuleKit Console in
/-- Runs a command line; the exit code is that of the command. -/
def main (words : List String) : IO UInt32 := do
  let here := (Path.ofText (← IO.currentDir).toString).segments
  let empty : FileTree := { here, entries := [] }
  let named := (words.map Path.ofText).filter fun p => !p.segments.any (·.startsWith "-")
  let start ← named.foldlM readInto empty
  let t ←
    match Request.ofWords start words with
    | .error _ => pure start
    | .ok r =>
      let first ← (r.inputs start).foldlM readInto start
      (r.inputs first).foldlM readInto first
  let o := run t words
  IO.print o.output
  (← IO.getStdout).flush
  writeChanges t o.tree
  if o.exit = 2 then IO.eprintln helpText
  if o.crash.isSome then IO.eprintln "The command broke off."
  return UInt32.ofNat o.exit
