import CapsuleKit.Capsule.Definition
import CapsuleKit.Composition.Basic
import CapsuleKit.Proofs.Decode
import CapsuleKit.Proofs.Documents.Instance

/-!
# Written documents are read back

A model is written with all its members, each spelled by its alias. Reading what is written gives the
model back, whatever it holds: `Composition.decode_toValue` and, below it, a lemma for each model that
is nested in a composition. A definition has to have an id, and one that was read has one
(`Definition.decode_toValue`).
-/

namespace CapsuleKit

open Schema

/-! ### Written parts -/

namespace Schema

section

variable {α β : Type}

@[simp] theorem Checked.map_ok (f : α → β) (a : α) : f <$> Checked.ok a = .ok (f a) := rfl

@[simp] theorem Checked.seq_ok (f : α → β) (a : α) : Checked.ok f <*> Checked.ok a = .ok (f a) := rfl

@[simp] theorem Checked.under_ok (steps : List Step) (a : α) : (Checked.ok a).under steps = .ok a := rfl

@[simp] theorem text_text (s : String) : text (.text s) = .ok s := rfl

@[simp] theorem bool_bool (b : Bool) : bool (.bool b) = .ok b := rfl

@[simp] theorem any_eq_ok (v : Value) : any v = .ok v := rfl

@[simp] theorem nullable_ofText? (s : Option String) : nullable text (.ofText? s) = .ok s := by
  cases s <;> rfl

theorem items_map {d : Decoder α} {write : α → Value} {as : List α}
    (h : ∀ a ∈ as, d (write a) = .ok a) (n : Nat) : items d n (as.map write) = .ok as := by
  induction as generalizing n with
  | nil => rfl
  | cons a as ih =>
    obtain ⟨ha, has⟩ := List.forall_mem_cons.1 h
    rw [List.map_cons, items, ha, ih has]
    rfl

theorem list_map {d : Decoder α} {write : α → Value} {as : List α}
    (h : ∀ a ∈ as, d (write a) = .ok a) : list d (.list (as.map write)) = .ok as :=
  items_map h 0

@[simp] theorem list_ofTexts (ss : List String) : list text (.ofTexts ss) = .ok ss :=
  list_map fun _ _ => rfl

theorem dict_object {d : Decoder α} {write : α → Value} {ps : List (String × α)}
    (h : ∀ p ∈ ps, d (write p.2) = .ok p.2) :
    dict d (.object (ps.map fun p => (p.1, write p.2))) = .ok ps := by
  simp only [dict, Value.object, entries?, List.map_map]
  induction ps with
  | nil => rfl
  | cons p ps ih =>
    obtain ⟨hp, hps⟩ := List.forall_mem_cons.1 h
    rw [List.map_cons, Function.comp_apply, entries, hp, ih hps]
    rfl

@[simp] theorem dict_any_object (ps : List (String × Value)) : dict any (.object ps) = .ok ps := by
  have h : dict any (.object (ps.map fun p => (p.1, id p.2))) = .ok ps := dict_object fun _ _ => rfl
  rwa [show (fun p : String × Value => (p.1, id p.2)) = id from rfl, List.map_id] at h

@[simp] theorem model_object (build : Fields → Checked α) (ps : List (String × Value)) :
    model build (.object ps) = build (ps.map fun p => (.text p.1, p.2)) := rfl

end

theorem nonEmptyText_text {s : String} (h : s.isEmpty = false) : nonEmptyText (.text s) = .ok s := by
  rw [nonEmptyText, also, text_text]
  simp only [h, Bool.not_false, if_true]

theorem isEmpty_of_nonEmptyText {v : Value} {s : String} (h : nonEmptyText v = .ok s) :
    s.isEmpty = false := by
  unfold nonEmptyText also at h
  split at h
  · split at h
    case isTrue hne =>
      obtain rfl := Checked.ok.inj h
      rwa [Bool.not_eq_true'] at hne
    case isFalse => cases h
  · cases h

end Schema

/-! ### Themes -/

theorem TextColors.decode_toValue (c : TextColors) : decode c.toValue = .ok c := by
  simp [decode, toValue, build, Fields.text?, Fields.withDefault, Fields.find?, Value.field?,
    Spelling.plain]

theorem ThemeColors.decode_toValue (c : ThemeColors) : decode c.toValue = .ok c := by
  simp [decode, toValue, build, Fields.text?, Fields.withDefault, Fields.find?, Value.field?,
    Spelling.plain, TextColors.decode_toValue]

theorem Typography.decode_toValue (t : Typography) : decode t.toValue = .ok t := by
  simp [decode, toValue, build, Fields.text?, Fields.withDefault, Fields.find?, Value.field?,
    Spelling.plain]

theorem Theme.decode_toValue (t : Theme) : decode t.toValue = .ok t := by
  simp [decode, toValue, build, Fields.text?, Fields.withDefault, Fields.find?, Value.field?,
    Spelling.plain, ThemeColors.decode_toValue, Typography.decode_toValue]

/-! ### Definitions -/

theorem PropSchema.decode_toValue (p : PropSchema) : decode p.toValue = .ok p := by
  simp [decode, toValue, build, Fields.text?, Fields.withDefault, Fields.required, Fields.find?,
    Value.field?, Spelling.plain]

theorem Template.decode_toValue (t : Template) : decode t.toValue = .ok t := by
  have hnone : nullable int .null = .ok none := rfl
  have hsome : ∀ n, nullable int (.int n) = .ok (some n) := fun _ => rfl
  obtain ⟨framework, code, dependencies, imports, minVersion, _ | minSdk⟩ := t <;>
    simp [decode, toValue, build, Fields.text?, Fields.withDefault, Fields.required, Fields.find?,
      Value.field?, Spelling.plain, hnone, hsome]

namespace Definition

theorem decode_toValue {d : Definition} (h : d.id.isEmpty = false) : decode d.toValue = .ok d := by
  have hprops : list PropSchema.decode (.list (d.props.map (·.toValue))) = .ok d.props :=
    list_map fun p _ => p.decode_toValue
  have hplatforms : dict Template.decode (.object (d.platforms.map fun p => (p.1, p.2.toValue))) =
      .ok d.platforms := dict_object fun p _ => p.2.decode_toValue
  simp [decode, toValue, build, Fields.withDefault, Fields.required, Fields.find?, Value.field?,
    Spelling.plain, nonEmptyText_text h, hprops, hplatforms]

theorem isEmpty_id_of_decode {v : Value} {d : Definition} (h : decode v = .ok d) :
    d.id.isEmpty = false := by
  unfold decode model at h
  split at h
  · simp only [build, Checked.seq_eq_ok, Checked.map_eq_ok] at h
    obtain ⟨_, _, ⟨_, _, ⟨_, _, ⟨_, _, ⟨_, _, ⟨_, _, ⟨_, _, ⟨_, _, ⟨_, _, ⟨id, hid, rfl⟩, -, rfl⟩, -, rfl⟩,
      -, rfl⟩, -, rfl⟩, -, rfl⟩, -, rfl⟩, -, rfl⟩, -, rfl⟩, -, rfl⟩ := h
    obtain ⟨v, hv⟩ := Fields.required_eq_ok hid
    exact isEmpty_of_nonEmptyText hv
  · cases h

end Definition

/-! ### Instances -/

namespace Instance

mutual

theorem decode_toValue : ∀ i : Instance, decode (toValue i) = .ok i
  | ⟨id, capsuleId, name, props, children, slots⟩ => by
    have hchildren : list decode (.list (listToValues children)) = .ok children :=
      items_listToValues children 0
    have hslots : dict (list decode) (.object (slotsToValues slots)) = .ok slots :=
      entries_slotsToValues slots
    rw [toValue, Value.object, decode_map]
    simp [build, capsuleField, capsuleSpelling, Fields.text?, Fields.withDefault, Fields.required,
      Fields.find?, Value.field?, Spelling.plain, hchildren, hslots]

theorem items_listToValues :
    ∀ (is : List Instance) (n : Nat), items decode n (listToValues is) = .ok is
  | [], _ => rfl
  | i :: is, n => by
    rw [listToValues, items, decode_toValue i, items_listToValues is (n + 1)]
    rfl

theorem entries_slotsToValues : ∀ ss : List (String × List Instance),
    entries (list decode) ((slotsToValues ss).map fun p => (.text p.1, p.2)) = .ok ss
  | [] => rfl
  | (name, is) :: ss => by
    have his : list decode (.list (listToValues is)) = .ok is := items_listToValues is 0
    rw [slotsToValues, List.map_cons, entries, his, entries_slotsToValues ss]
    rfl

end

theorem nullable_toValue (i : Instance) : nullable decode i.toValue = .ok (some i) := by
  have hi := i.decode_toValue
  obtain ⟨id, capsuleId, name, props, children, slots⟩ := i
  rw [toValue] at hi ⊢
  exact congrArg (Checked.map some) hi

end Instance

/-! ### Compositions -/

theorem Composition.decode_toValue (c : Composition) : decode c.toValue = .ok c := by
  have hcapsules : list Instance.decode (.list (c.capsules.map (·.toValue))) = .ok c.capsules :=
    list_map fun i _ => i.decode_toValue
  have hconfig : dict (dict any) (.object (c.platformConfig.map fun p => (p.1, .object p.2))) =
      .ok c.platformConfig := dict_object fun p _ => dict_any_object p.2
  have hnone : nullable Instance.decode .null = .ok none := rfl
  obtain ⟨name, description, version, targets, _ | root, capsules, theme, platformConfig⟩ := c <;>
    simp [decode, toValue, build, Fields.withDefault, Fields.required, Fields.find?, Value.field?,
      Spelling.plain, hnone, Instance.nullable_toValue, hcapsules, Theme.decode_toValue, hconfig]

/-- A composition or a definition that was read from any document is read again, unchanged, from what
is written for it. -/
theorem decode_toValue_of_decode :
    (∀ v c, Composition.decode v = .ok c → Composition.decode c.toValue = .ok c) ∧
      ∀ v d, Definition.decode v = .ok d → Definition.decode d.toValue = .ok d :=
  ⟨fun _ c _ => c.decode_toValue,
    fun _ _ hd => Definition.decode_toValue (Definition.isEmpty_id_of_decode hd)⟩

/-- Long names, a `type` in place of the capsule, and truth values and numbers that stand in texts. -/
theorem decode_toValue_of_decode_coerced :
    let v : Value := .object
      [("name", .text "App"),
       ("theme", .object [("border_radius", .text "sm"), ("shadows", .text "Off")]),
       ("root", .object
        [("type", .text "card"), ("id", .text "top"),
         ("slots", .object [("side", .list [.object
          [("id", .text "leaf"), ("capsule_id", .text "text"),
           ("props", .object [("size", .int 2)])]])])]),
       ("platform_config", .object [("ios", .object [("bundle_id", .text "a.b")])])]
    let c : Composition :=
      { name := "App"
        theme := { borderRadius := some "sm", shadows := false }
        root := some { id := "top", capsuleId := "card", slots :=
          [("side", [{ id := "leaf", capsuleId := "text", props := [("size", .int 2)] }])] }
        platformConfig := [("ios", [("bundle_id", .text "a.b")])] }
    let w : Value := .object
      [("id", .text "card"), ("name", .text "Card"), ("accepts_children", .int 1),
       ("platforms", .object [("android", .object
        [("framework", .text "compose"), ("min_sdk", .text " 24.0 ")])])]
    let d : Definition :=
      { id := "card", name := "Card", acceptsChildren := true
        platforms := [("android", { framework := "compose", minSdk := some 24 })] }
    (Composition.decode v = .ok c ∧ Composition.decode c.toValue = .ok c) ∧
      Definition.decode w = .ok d ∧ Definition.decode d.toValue = .ok d := by
  intro v c w d
  have hc : Composition.decode v = .ok c := by rfl
  have hd : Definition.decode w = .ok d := by rfl
  exact ⟨⟨hc, decode_toValue_of_decode.1 v c hc⟩, hd, decode_toValue_of_decode.2 w d hd⟩

end CapsuleKit
