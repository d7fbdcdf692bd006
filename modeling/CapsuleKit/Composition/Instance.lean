import CapsuleKit.Schema.Decode
import CapsuleKit.Text.Words
import CapsuleKit.Theme.Basic

/-!
# Capsule instances

An instance is one placed capsule: its props, the instances nested in it and, slot by slot, those
that stand in its named slots. A document gives the capsule of an instance as `capsuleId` or, where
that is absent, as `type`.
-/

namespace CapsuleKit

open Schema

/-- A placed capsule with all that is nested in it. -/
structure Instance where
  id : String
  capsuleId : String
  name : Option String := none
  props : List (String × Value) := []
  children : List Instance := []
  slots : List (String × List Instance) := []

namespace Instance

/-- The spellings of the capsule of an instance. -/
def capsuleSpelling : Spelling := ⟨"capsuleId", "capsule_id"⟩

/-- The capsule of an instance; a `type` stands in for it and counts as spelled by the alias. -/
def capsuleField (fs : Fields) : Checked String :=
  match fs.find? capsuleSpelling, Value.field? "type" fs with
  | none, some v => (text v).under [.key capsuleSpelling.short]
  | _, _ => fs.required capsuleSpelling text

/-- A member of a set is no instance. -/
def decodeScalar : Decoder Instance := fun _ => .fail .modelType

mutual

/-- Reads an instance with all that is nested in it. An instance may not be nested in itself. -/
def decode : Value → Checked Instance
  | .scalar _ => .fail .modelType
  | .list _ => .fail .modelType
  | .set _ => .fail .modelType
  | .again (.map _) => .fail .recursionLoop
  | .again _ => .fail .modelType
  | .map es =>
    Instance.mk <$> Fields.required es (.plain "id") text <*> capsuleField es <*>
      Fields.text? es (.plain "name") <*> Fields.withDefault es (.plain "props") [] (dict any) <*>
      childrenField es <*> slotsField es

/-- The member with the nested instances. -/
def childrenField : List (Scalar × Value) → Checked (List Instance)
  | [] => .ok []
  | (k, v) :: es =>
    if k = .text "children" then (decodeList v).under [.key "children"] else childrenField es

/-- The member with the slots. -/
def slotsField : List (Scalar × Value) → Checked (List (String × List Instance))
  | [] => .ok []
  | (k, v) :: es =>
    if k = .text "slots" then (decodeSlots v).under [.key "slots"] else slotsField es

def decodeList : Value → Checked (List Instance)
  | .scalar _ => .fail .listType
  | .list vs => decodeItems 0 vs
  | .map _ => .fail .listType
  | .set members => items decodeScalar 0 (members.map .scalar)
  | .again (.list vs) => decodeItems 0 vs
  | .again _ => .fail .listType

def decodeItems : Nat → List Value → Checked (List Instance)
  | _, [] => .ok []
  | i, v :: vs => List.cons <$> ((decode v).under [.index (Int.ofNat i)]) <*> decodeItems (i + 1) vs

def decodeSlots : Value → Checked (List (String × List Instance))
  | .scalar _ => .fail .dictType
  | .list _ => .fail .dictType
  | .map es => decodeSlotEntries es
  | .set _ => .fail .dictType
  | .again (.map es) => decodeSlotEntries es
  | .again _ => .fail .dictType

def decodeSlotEntries : List (Scalar × Value) → Checked (List (String × List Instance))
  | [] => .ok []
  | (k, v) :: es =>
    (fun name is rest => (name, is) :: rest) <$> textKey k <*> ((decodeList v).under [keyStep k]) <*>
      decodeSlotEntries es

end

mutual

/-- The document form of an instance. -/
def toValue : Instance → Value
  | ⟨id, capsuleId, name, props, children, slots⟩ =>
    .object [("id", .text id), ("capsuleId", .text capsuleId), ("name", .ofText? name),
      ("props", .object props), ("children", .list (listToValues children)),
      ("slots", .object (slotsToValues slots))]

def listToValues : List Instance → List Value
  | [] => []
  | i :: is => toValue i :: listToValues is

def slotsToValues : List (String × List Instance) → List (String × Value)
  | [] => []
  | (name, is) :: ss => (name, .list (listToValues is)) :: slotsToValues ss

end

/-- The value of a prop. -/
def prop? (i : Instance) (name : String) : Option Value :=
  i.props.lookup name

/-- The props with a usable name and a value other than null, in the order given. -/
def usable (props : List (String × Value)) : List (String × Value) :=
  props.filter fun p => !p.2.isNull && Text.isPlainName p.1

/-- The usable props of an instance. -/
def validProps (i : Instance) : List (String × Value) :=
  usable i.props

end Instance

end CapsuleKit
