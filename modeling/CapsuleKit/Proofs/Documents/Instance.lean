import CapsuleKit.Composition.Instance

/-!
# Instances as models

`Instance.decode` goes down a document by a recursion of its own. `Instance.decode_map` brings it into
the form that all other models have: the members of an object are read one by one, nested instances
with `list` and `dict`.
-/

namespace CapsuleKit

open Schema

/-- A search through the members for a name reads the member with that name. -/
theorem Schema.Fields.eq_withDefault_plain {α : Type} {f : Fields → Checked α} {name : String}
    {default : α} {d : Decoder α} (hnil : f [] = .ok default)
    (hcons : ∀ k v fs,
      f ((k, v) :: fs) = if k = .text name then (d v).under [.key name] else f fs)
    (fs : Fields) : f fs = fs.withDefault (.plain name) default d := by
  have hplain : ∀ fs : Fields, fs.withDefault (.plain name) default d =
      (Value.field? name fs).elim (.ok default) fun v => (d v).under [.key name] := by
    intro fs
    unfold withDefault find? Spelling.plain
    cases Value.field? name fs <;> rfl
  rw [hplain]
  induction fs with
  | nil => exact hnil
  | cons e fs ih =>
    obtain ⟨k, v⟩ := e
    rw [hcons, Value.field?]
    split
    · rfl
    · exact ih

namespace Instance

def build (fs : Fields) : Checked Instance :=
  Instance.mk <$> fs.required (.plain "id") text <*> capsuleField fs <*>
    fs.text? (.plain "name") <*> fs.withDefault (.plain "props") [] (dict any) <*>
    fs.withDefault (.plain "children") [] (list decode) <*>
    fs.withDefault (.plain "slots") [] (dict (list decode))

theorem decodeItems_eq (vs : List Value) (n : Nat) : decodeItems n vs = items decode n vs := by
  induction vs generalizing n with
  | nil => rfl
  | cons v vs ih => rw [decodeItems, items, ih]

theorem items_decodeScalar (members : List Scalar) (n : Nat) :
    items decodeScalar n (members.map .scalar) = items decode n (members.map .scalar) := by
  induction members generalizing n with
  | nil => rfl
  | cons s members ih =>
    rw [List.map_cons, items, items, ih]
    rfl

theorem decodeList_eq (v : Value) : decodeList v = list decode v := by
  cases v with
  | scalar s => rfl
  | list vs => exact decodeItems_eq vs 0
  | map es => rfl
  | set members => exact items_decodeScalar members 0
  | again v =>
    cases v with
    | list vs => exact decodeItems_eq vs 0
    | scalar s => rfl
    | map es => rfl
    | set members => rfl
    | again v => rfl

theorem decodeSlotEntries_eq (es : List (Scalar × Value)) :
    decodeSlotEntries es = entries (list decode) es := by
  induction es with
  | nil => rfl
  | cons e es ih =>
    obtain ⟨k, v⟩ := e
    rw [decodeSlotEntries, entries, ih, decodeList_eq]

theorem decodeSlots_eq (v : Value) : decodeSlots v = dict (list decode) v := by
  cases v with
  | scalar s => rfl
  | list vs => rfl
  | map es => exact decodeSlotEntries_eq es
  | set members => rfl
  | again v =>
    cases v with
    | map es => exact decodeSlotEntries_eq es
    | scalar s => rfl
    | list vs => rfl
    | set members => rfl
    | again v => rfl

theorem childrenField_eq (fs : Fields) :
    childrenField fs = fs.withDefault (.plain "children") [] (list decode) :=
  Fields.eq_withDefault_plain (f := childrenField) rfl
    (fun k v fs => by rw [childrenField, decodeList_eq]) fs

theorem slotsField_eq (fs : Fields) :
    slotsField fs = fs.withDefault (.plain "slots") [] (dict (list decode)) :=
  Fields.eq_withDefault_plain (f := slotsField) rfl
    (fun k v fs => by rw [slotsField, decodeSlots_eq]) fs

theorem decode_map (es : List (Scalar × Value)) : decode (.map es) = build es := by
  rw [decode, build, childrenField_eq, slotsField_eq]

end Instance

end CapsuleKit
