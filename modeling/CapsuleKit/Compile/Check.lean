import CapsuleKit.Compile.Diagnostic
import CapsuleKit.Composition.Walk

/-!
# Checking a composition

`Composition.check` reports, for one platform, the capsules that are not supported, ids that are
used twice, required props that are not set, and props whose names cannot be labels. The root tree
is checked first; an instance of the flat list whose id occurs in the root tree is checked there
only.
-/

namespace CapsuleKit

/-- An app without instances. -/
def emptyWarning (c : Composition) : Diagnostics :=
  .warning .emptyComposition ("Composition '" ++ c.name ++ "' has no capsules") none
    "Add a root capsule or a capsule list"

/-- An id that an earlier instance has as well. -/
def duplicateWarning (i : Instance) : Diagnostics :=
  .warning .duplicateInstanceId ("Instance id '" ++ i.id ++ "' is used more than once") i.id
    "Give every capsule instance a unique id"

/-- A capsule that is unknown or has no template for the platform. -/
def unsupportedError (r : Registry) (platform : String) (i : Instance) : Diagnostics :=
  .error .unsupportedCapsule
    (if r.contains i.capsuleId then
      "Capsule '" ++ i.capsuleId ++ "' is not supported on " ++ platform
    else "Unknown capsule '" ++ i.capsuleId ++ "'")
    i.id

/-- A required prop without a value. -/
def missingWarning (d : Definition) (i : Instance) (p : PropSchema) : Diagnostics :=
  .warning .missingRequiredProp ("Required prop '" ++ p.name ++ "' is not set on '" ++ i.id ++ "'")
    i.id ("Set '" ++ p.name ++ "' on " ++ d.name : String)

/-- A prop that no target can take as a label. -/
def propNameWarning (i : Instance) (key : String) : Diagnostics :=
  .warning .invalidPropName
    ("Prop '" ++ key ++ "' on '" ++ i.id ++ "' is not a valid name and was dropped") i.id none

/-- Whether a prop is set to anything but null. -/
def Instance.hasProp (i : Instance) (name : String) : Bool :=
  match i.prop? name with
  | some v => !v.isNull
  | none => false

/-- The required props of a capsule that an instance leaves out; actions need no value. -/
def Instance.missingProps (i : Instance) (d : Definition) : List PropSchema :=
  d.requiredProps.filter fun p => !p.isAction && !i.hasProp p.name

/-- The prop names of an instance that cannot be labels. -/
def Instance.invalidProps (i : Instance) : List String :=
  (i.props.map (·.1)).filter fun key => !Text.isPlainName key

/-- What is to say about one instance by itself. -/
def Instance.check (r : Registry) (platform : String) (i : Instance) : Diagnostics :=
  match r.supported platform i.capsuleId with
  | none => unsupportedError r platform i
  | some d =>
    Diagnostics.join ((i.missingProps d).map (missingWarning d i)) ++
      Diagnostics.join (i.invalidProps.map (propNameWarning i))

/-- One pass over instances in their order. `seen` are the ids of this pass so far, `before` those
of an earlier pass, whose instances are not checked again. -/
def checkPass (r : Registry) (platform : String) (before : List String) :
    List String → List Instance → Diagnostics
  | _, [] => {}
  | seen, i :: is =>
    if seen.contains i.id then
      duplicateWarning i ++ i.check r platform ++ checkPass r platform before seen is
    else if before.contains i.id then checkPass r platform before seen is
    else i.check r platform ++ checkPass r platform before (i.id :: seen) is

namespace Composition

/-- All diagnostics of a composition for a platform. -/
def check (c : Composition) (r : Registry) (platform : String) : Diagnostics :=
  if c.root.isNone && c.capsules.isEmpty then emptyWarning c
  else
    let rootWalk := Instance.forest c.root.toList
    checkPass r platform [] [] rootWalk ++
      checkPass r platform (rootWalk.map (·.id)) [] (Instance.forest c.capsules)

end Composition

end CapsuleKit
