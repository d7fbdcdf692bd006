import CapsuleKit.Compile.Emission
import CapsuleKit.Text.Basic

/-!
# Packages of the web project

Capsules name their packages as `name@version` or `name:version`. `Job.packages` joins them with the
pinned packages of the framework, one version for a name, sorted by name.
-/

namespace CapsuleKit

/-- A package and its version. -/
abbrev Package := String × String

namespace Package

/-- The version of a package that names none. -/
def latest : String := "latest"

def versionOr (other : String) (cs : List Char) : String :=
  Text.nonEmptyOr (String.ofList cs) other

/-- Reads `name:version` or `name@version`; an `@` in front belongs to the name. -/
def ofText (s : String) : Package :=
  match Text.cutAtFirst ':' s.toList with
  | some (name, version) => (String.ofList name, versionOr latest version)
  | none =>
    match Text.cutAtLast '@' s.toList with
    | some (c :: name, version) => (String.ofList (c :: name), versionOr latest version)
    | _ => (s, latest)

/-- Adds a package unless one of its name is there. -/
def addNew (ps : List Package) (p : Package) : List Package :=
  if ps.any (·.1 == p.1) then ps else ps ++ [p]

/-- Puts a package in the place of the one with its name, or at the end. -/
def pin (ps : List Package) (p : Package) : List Package :=
  match ps with
  | [] => [p]
  | q :: qs => if q.1 = p.1 then p :: qs else q :: pin qs p

/-- Packages by name. -/
def sorted (ps : List Package) : List Package :=
  ps.mergeSort fun a b => a.1 ≤ b.1

/-- Packages as a member of a package file. -/
def toValue (ps : List Package) : Value :=
  .object (ps.map fun p => (p.1, .text p.2))

end Package

/-- The pinned packages of the framework. -/
def frameworkPackages : List Package :=
  [("react", "^18.2.0"), ("react-dom", "^18.2.0")]

/-- The packages of the framework and of the capsules in use, by name. -/
def Job.packages (j : Job) : List Package :=
  Package.sorted ((j.dependencies.map Package.ofText).foldl Package.addNew frameworkPackages)

end CapsuleKit
