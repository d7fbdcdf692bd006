import CapsuleKit.Files.Path
import CapsuleKit.Text.Basic

/-!
# File trees

A file tree is what a program sees of a file system: the directory it works in and, by their
segments from the root, the files and directories that are there. Looking a path up goes through its
segments one by one, so that every segment but the last has to be a directory. Writing gives a new
tree.
-/

namespace CapsuleKit

/-- A file with its text, or without one if its bytes are not UTF-8, or a directory. -/
inductive FileEntry where
  | file (text : Option String)
  | directory
  deriving DecidableEq

/-- Why a file cannot be used. -/
inductive FileFault where
  | notFound
  | notDirectory
  | isDirectory
  | alreadyExists
  | notText
  | nameTooLong
  | embeddedNull
  deriving DecidableEq

/-- The message for a path with a null character in it. -/
def FileFault.embeddedNullMessage : String := "embedded null byte"

structure FileTree where
  /-- The segments of the directory that relative paths are seen from. -/
  here : List String
  entries : List (List String × FileEntry)

namespace FileTree

/-- What is found under some segments. The working directory and all directories around it are
there. -/
def entry? (t : FileTree) (segments : List String) : Option FileEntry :=
  if segments.isPrefixOf t.here then some .directory else t.entries.lookup segments

/-- Puts an entry in the place of the one with its segments, or at the end. -/
def placeEntry (segments : List String) (e : FileEntry) :
    List (List String × FileEntry) → List (List String × FileEntry)
  | [] => [(segments, e)]
  | f :: fs => if f.1 = segments then (segments, e) :: fs else f :: placeEntry segments e fs

def put (t : FileTree) (segments : List String) (e : FileEntry) : FileTree :=
  { t with entries := placeEntry segments e t.entries }

/-- The longest name of a file in bytes. -/
def nameLimit : Nat := 255

def isTooLong (name : String) : Bool :=
  nameLimit < name.utf8ByteSize

/-- Paths of this many bytes or more are not looked up. -/
def pathLimit : Nat := 4096

def isTooLongPath (text : String) : Bool :=
  pathLimit ≤ text.utf8ByteSize

/-- Goes through segments from a place that is a directory. -/
def find (t : FileTree) (place : List String) : List String → Except FileFault FileEntry
  | [] =>
    match t.entry? place with
    | some e => .ok e
    | none => .error .notFound
  | s :: rest =>
    match t.entry? place with
    | none => .error .notFound
    | some (.file _) => .error .notDirectory
    | some .directory =>
      if s = ".." then t.find place.dropLast rest
      else if isTooLong s then .error .nameTooLong
      else t.find (place ++ [s]) rest

def hasNull (s : String) : Bool :=
  s.toList.contains '\x00'

/-- What stands under a path. -/
def lookup (t : FileTree) (p : Path) : Except FileFault FileEntry :=
  if p.segments.any hasNull then .error .embeddedNull
  else if isTooLongPath p.text then .error .nameTooLong
  else
    match p.start with
    | .here => t.find t.here p.segments
    | _ => t.find [] p.segments

/-- Whether something stands under a path. Only a path that is too long or has a name that is makes
the question fail. -/
def hasEntry (t : FileTree) (p : Path) : Except FileFault Bool :=
  match t.lookup p with
  | .ok _ => .ok true
  | .error .nameTooLong => .error .nameTooLong
  | .error _ => .ok false

/-- Whether a file, not a directory, stands under a path. -/
def hasFile (t : FileTree) (p : Path) : Bool :=
  match t.lookup p with
  | .ok (.file _) => true
  | _ => false

/-- Line feeds for all line ends. -/
def unixLines : List Char → List Char
  | '\r' :: '\n' :: cs => '\n' :: unixLines cs
  | '\r' :: cs => '\n' :: unixLines cs
  | c :: cs => c :: unixLines cs
  | [] => []

/-- The text of a file. -/
def read (t : FileTree) (p : Path) : Except FileFault String :=
  match t.lookup p with
  | .error e => .error e
  | .ok .directory => .error .isDirectory
  | .ok (.file none) => .error .notText
  | .ok (.file (some s)) => .ok (String.ofList (unixLines s.toList))

/-- The segments from the root of a path, which does not have to exist. -/
def resolve (t : FileTree) (p : Path) : Except FileFault (List String) :=
  if p.segments.any hasNull then .error .embeddedNull else .ok (p.resolve t.here)

/-- Makes a directory and those around it, from a place on that is one. -/
def makeDirectories (t : FileTree) (place : List String) : List String → Except FileFault FileTree
  | [] => .ok t
  | s :: rest =>
    let next := place ++ [s]
    if isTooLong s then .error .nameTooLong
    else
      match t.entry? next with
      | some .directory => t.makeDirectories next rest
      | some (.file _) => .error (if rest.isEmpty then .alreadyExists else .notDirectory)
      | none => (t.put next .directory).makeDirectories next rest

/-- Writes a file under segments from the root, whose directory is there. -/
def writeFile (t : FileTree) (segments : List String) (text : String) : Except FileFault FileTree :=
  if isTooLong (segments.getLast?.getD "") then .error .nameTooLong
  else
    match t.entry? segments with
    | some .directory => .error .isDirectory
    | _ => .ok (t.put segments (.file (some text)))

/-- Writes a file and makes the directories around it. -/
def save (t : FileTree) (segments : List String) (text : String) : Except FileFault FileTree := do
  let directory := segments.dropLast
  if isTooLongPath (Path.absolute directory).text then .error .nameTooLong
  else
    let t ← t.makeDirectories [] directory
    if isTooLongPath (Path.absolute segments).text then .error .nameTooLong
    else t.writeFile segments text

end FileTree

end CapsuleKit
