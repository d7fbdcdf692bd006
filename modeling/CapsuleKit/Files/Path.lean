import CapsuleKit.Text.Basic
import CapsuleKit.Text.Words

/-!
# Paths

A path is a start, relative or from a root, and its segments. Empty segments and `.` are left out
when a path is read, `..` stays until the path is resolved. Exactly two slashes in front are a root
of their own.
-/

namespace CapsuleKit

/-- Where a path starts. -/
inductive PathStart where
  | here
  | root
  | doubleRoot
  deriving DecidableEq

def PathStart.text : PathStart → String
  | .here => ""
  | .root => "/"
  | .doubleRoot => "//"

structure Path where
  start : PathStart
  segments : List String
  deriving DecidableEq

namespace Path

/-- The start of a written path. -/
def startOf : List Char → PathStart
  | '/' :: '/' :: '/' :: _ => .root
  | '/' :: '/' :: _ => .doubleRoot
  | '/' :: _ => .root
  | _ => .here

/-- The segments of a written path. -/
def segmentsOf (cs : List Char) : List String :=
  ((List.splitOnP (· == '/') cs).map String.ofList).filter fun s => s != "" && s != "."

def ofText (s : String) : Path :=
  ⟨startOf s.toList, segmentsOf s.toList⟩

/-- The written form; the empty path is `.`. -/
def text (p : Path) : String :=
  match p.start, p.segments with
  | .here, [] => "."
  | start, segments => start.text ++ String.intercalate "/" segments

/-- A path seen from another one; a path that starts at a root stands for itself. -/
def append (p q : Path) : Path :=
  match q.start with
  | .here => ⟨p.start, p.segments ++ q.segments⟩
  | _ => q

instance : Append Path := ⟨append⟩

/-- The last segment. -/
def name (p : Path) : String :=
  p.segments.getLast?.getD ""

/-- The path without its last segment. -/
def parent (p : Path) : Path :=
  { p with segments := p.segments.dropLast }

/-- The end of the name from its last point on, if the point is neither first nor last. -/
def suffix (p : Path) : String :=
  match Text.cutAtLast '.' p.name.toList with
  | some (_ :: _, c :: cs) => String.ofList ('.' :: c :: cs)
  | _ => ""

/-- The segments from the root, with every `..` taken back together with the segment before it.
`done` holds what is passed so far, the last segment first. -/
def resolveFrom : List String → List String → List String
  | done, [] => done.reverse
  | done, s :: rest => if s = ".." then resolveFrom done.tail rest else resolveFrom (s :: done) rest

/-- The segments from the root of a path seen from a directory. -/
def resolve (directory : List String) (p : Path) : List String :=
  match p.start with
  | .here => resolveFrom directory.reverse p.segments
  | _ => resolveFrom [] p.segments

/-- The path from the root with given segments. -/
def absolute (segments : List String) : Path :=
  ⟨.root, segments⟩

end Path

end CapsuleKit
