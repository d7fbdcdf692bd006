import CapsuleKit.Compile.Check
import CapsuleKit.Proofs.Walk

/-!
# What a check reports

`Composition.check` threads the ids that it has met through two passes. This file says what comes
out without them: the reports on an instance depend on the instance, on the instances in front of it
in its own pass, and, in the flat list, on the ids of the root tree. Errors and warnings stand in
the order of the walk: the root tree (`rootPass`), then what is left of the flat list (`flatPass`).
`Seen` is the invariant that ties the ids met so far to the instances that were visited.
-/

namespace CapsuleKit

namespace Diagnostics

@[simp] theorem errors_append (a b : Diagnostics) : (a ++ b).errors = a.errors ++ b.errors := rfl

@[simp] theorem warnings_append (a b : Diagnostics) :
    (a ++ b).warnings = a.warnings ++ b.warnings := rfl

theorem join_map_warning {α : Type} (f : α → Diagnostics) (g : α → Diagnostic)
    (h : ∀ a, f a = { warnings := [g a] }) (as : List α) :
    join (as.map f) = { warnings := as.map g } := by
  induction as with
  | nil => rfl
  | cons a as ih =>
    have hj : join (f a :: as.map f) = f a ++ join (as.map f) := by
      simp only [join, List.flatMap_cons]
      rfl
    rw [List.map_cons, hj, ih, h, List.map_cons]
    rfl

end Diagnostics

/-! ### Reports -/

namespace Report

def emptyComposition (c : Composition) : Diagnostic where
  code := "EMPTY_COMPOSITION"
  message := "Composition '" ++ c.name ++ "' has no capsules"
  suggestion := some "Add a root capsule or a capsule list"

def unsupported (r : Registry) (platform : String) (i : Instance) : Diagnostic where
  code := "UNSUPPORTED_CAPSULE"
  message :=
    match r.lookup i.capsuleId with
    | none => "Unknown capsule '" ++ i.capsuleId ++ "'"
    | some _ => "Capsule '" ++ i.capsuleId ++ "' is not supported on " ++ platform
  capsuleId := some i.id

def duplicateId (i : Instance) : Diagnostic where
  code := "DUPLICATE_INSTANCE_ID"
  message := "Instance id '" ++ i.id ++ "' is used more than once"
  capsuleId := some i.id
  suggestion := some "Give every capsule instance a unique id"

def missingProp (d : Definition) (i : Instance) (p : PropSchema) : Diagnostic where
  code := "MISSING_REQUIRED_PROP"
  message := "Required prop '" ++ p.name ++ "' is not set on '" ++ i.id ++ "'"
  capsuleId := some i.id
  suggestion := some ("Set '" ++ p.name ++ "' on " ++ d.name)

def invalidPropName (i : Instance) (key : String) : Diagnostic where
  code := "INVALID_PROP_NAME"
  message := "Prop '" ++ key ++ "' on '" ++ i.id ++ "' is not a valid name and was dropped"
  capsuleId := some i.id

end Report

/-! ### One instance -/

namespace Instance

variable (r : Registry) (platform : String)

/-- Whether the capsule of an instance has a template for the platform. -/
def isSupported (i : Instance) : Bool :=
  (r.template i.capsuleId platform).isSome

/-- The required props, actions apart, whose value is absent or null. -/
def unsetProps (i : Instance) (d : Definition) : List PropSchema :=
  d.props.filter fun p =>
    p.required && p.type != "action" && ((i.props.lookup p.name).getD .null).isNull

def ownErrors (i : Instance) : List Diagnostic :=
  if i.isSupported r platform then [] else [Report.unsupported r platform i]

/-- The warnings that concern an instance by itself: none unless its capsule is supported. -/
def ownWarnings (i : Instance) : List Diagnostic :=
  match r.lookup i.capsuleId with
  | none => []
  | some d =>
    if i.isSupported r platform then
      (i.unsetProps d).map (Report.missingProp d i) ++
        ((i.props.map (·.1)).filter fun key => !Text.isPlainName key).map (Report.invalidPropName i)
    else []

variable {r platform} {i : Instance}

theorem supported_eq_none (h : i.isSupported r platform = false) :
    r.supported platform i.capsuleId = none := by
  rw [Registry.supported, Registry.supports, ← isSupported, h]
  rfl

theorem supported_eq_lookup (h : i.isSupported r platform = true) :
    r.supported platform i.capsuleId = r.lookup i.capsuleId := by
  rw [Registry.supported, Registry.supports, ← isSupported, h]
  rfl

theorem isSome_supported (r : Registry) (platform : String) (i : Instance) :
    (r.supported platform i.capsuleId).isSome = i.isSupported r platform := by
  cases h : i.isSupported r platform with
  | false => rw [supported_eq_none h]; rfl
  | true =>
    rw [supported_eq_lookup h]
    rw [isSupported, Registry.template, Option.isSome_bind] at h
    exact Option.isSome_of_any h

theorem missingProps_eq (i : Instance) (d : Definition) : i.missingProps d = i.unsetProps d := by
  simp only [missingProps, unsetProps, Definition.requiredProps, List.filter_filter]
  refine List.filter_congr fun p _ => ?_
  have hset : (!i.hasProp p.name) = ((i.props.lookup p.name).getD .null).isNull := by
    rw [hasProp, prop?]
    cases i.props.lookup p.name with
    | none => rfl
    | some v => simp
  rw [hset, PropSchema.isAction]
  cases p.required <;> simp [bne]

theorem check_of_unsupported (h : i.isSupported r platform = false) :
    i.check r platform = { errors := [Report.unsupported r platform i] } := by
  rw [check, supported_eq_none h]
  cases hl : r.lookup i.capsuleId <;>
    simp [unsupportedError, Diagnostics.error, Report.unsupported, Registry.contains, hl,
      DiagnosticCode.name]

theorem check_of_supported (h : i.isSupported r platform = true) :
    i.check r platform = { warnings := i.ownWarnings r platform } := by
  rw [check, supported_eq_lookup h, ownWarnings]
  cases hl : r.lookup i.capsuleId with
  | none => simp [isSupported, Registry.template, hl] at h
  | some d =>
    simp only [h, ↓reduceIte, missingProps_eq]
    rw [Diagnostics.join_map_warning (missingWarning d i) (Report.missingProp d i) fun _ => rfl,
      Diagnostics.join_map_warning (propNameWarning i) (Report.invalidPropName i) fun _ => rfl]
    rfl

theorem ownWarnings_of_unsupported (h : i.isSupported r platform = false) :
    i.ownWarnings r platform = [] := by
  rw [ownWarnings]
  cases r.lookup i.capsuleId with
  | none => rfl
  | some d => simp [h]

theorem check_eq (i : Instance) :
    i.check r platform = ⟨i.ownErrors r platform, i.ownWarnings r platform⟩ := by
  rw [ownErrors]
  cases h : i.isSupported r platform with
  | false => rw [check_of_unsupported h, ownWarnings_of_unsupported h]; rfl
  | true => rw [check_of_supported h]; rfl

end Instance

/-! ### One pass -/

section Pass

variable (r : Registry) (platform : String)

def passErrors (pass : List Instance) : List Diagnostic :=
  (pass.filter fun i => !i.isSupported r platform).map (Report.unsupported r platform)

/-- The warnings on the instance at a place of a pass; the instances in front of it count. -/
def warningsAt (pass : List Instance) (v : Instance × Nat) : List Diagnostic :=
  (if (pass.take v.2).any (·.id == v.1.id) then [Report.duplicateId v.1] else []) ++
    v.1.ownWarnings r platform

def passWarnings (pass : List Instance) : List Diagnostic :=
  pass.zipIdx.flatMap (warningsAt r platform pass)

/-- The instances of a list whose ids are none of `before`. -/
def outside (before : List String) (is : List Instance) : List Instance :=
  is.filter fun i => !before.contains i.id

theorem passErrors_cons (i : Instance) (is : List Instance) :
    passErrors r platform (i :: is) =
      i.ownErrors r platform ++ passErrors r platform is := by
  cases h : i.isSupported r platform <;> simp [passErrors, Instance.ownErrors, h]

theorem passErrors_append (is js : List Instance) :
    passErrors r platform (is ++ js) = passErrors r platform is ++ passErrors r platform js := by
  simp [passErrors]

theorem warningsAt_length (pre rest : List Instance) (i : Instance) :
    warningsAt r platform (pre ++ i :: rest) (i, pre.length) =
      (if i.id ∈ pre.map (·.id) then [Report.duplicateId i] else []) ++
        i.ownWarnings r platform := by
  have hany : pre.any (·.id == i.id) = true ↔ i.id ∈ pre.map (·.id) := by simp
  simp only [warningsAt, List.take_left, hany]

/-- The invariant of a pass: `seen` are the ids of the instances `pre` that it has been through, and
none of them is one of `before`. -/
structure Seen (before : List String) (pre : List Instance) (seen : List String) : Prop where
  ids : ∀ id, id ∈ seen ↔ id ∈ pre.map (·.id)
  fresh : ∀ id ∈ seen, id ∉ before

namespace Seen
variable {before : List String} {pre : List Instance} {seen : List String} {i : Instance}

theorem nil (before : List String) : Seen before [] [] :=
  ⟨fun _ => Iff.rfl, fun _ h => absurd h List.not_mem_nil⟩

theorem cons (h : Seen before pre seen) (hi : i.id ∉ before) :
    Seen before (pre ++ [i]) (i.id :: seen) := by
  refine ⟨fun id => ?_, fun id hid => ?_⟩
  · simp [h.ids id, or_comm]
  · rcases List.mem_cons.1 hid with rfl | hid
    · exact hi
    · exact h.fresh id hid

theorem again (h : Seen before pre seen) (hi : i.id ∈ seen) : Seen before (pre ++ [i]) seen := by
  refine ⟨fun id => ⟨fun hid => ?_, fun hid => ?_⟩, h.fresh⟩
  · simp [(h.ids id).1 hid]
  · rw [List.map_append, List.mem_append] at hid
    rcases hid with hid | hid
    · exact (h.ids id).2 hid
    · rw [List.mem_singleton.1 hid]; exact hi

end Seen

variable {r platform} {before : List String} {pre : List Instance} {seen : List String}
  {i : Instance}

theorem checkPass_cons_skip (h : Seen before pre seen) (hi : i.id ∈ before) (is : List Instance) :
    checkPass r platform before seen (i :: is) = checkPass r platform before seen is := by
  have hs : i.id ∉ seen := fun hs => h.fresh _ hs hi
  simp [checkPass, hs, hi]

theorem checkPass_cons_visit (h : Seen before pre seen) (hi : i.id ∉ before)
    (is rest : List Instance) :
    ∃ seen', Seen before (pre ++ [i]) seen' ∧
      checkPass r platform before seen (i :: is) =
        ⟨i.ownErrors r platform, warningsAt r platform (pre ++ i :: rest) (i, pre.length)⟩ ++
          checkPass r platform before seen' is := by
  rw [warningsAt_length, checkPass, Instance.check_eq]
  by_cases hs : i.id ∈ seen
  · refine ⟨seen, h.again hs, ?_⟩
    rw [if_pos (by simpa using hs), if_pos ((h.ids _).1 hs)]
    rfl
  · refine ⟨i.id :: seen, h.cons hi, ?_⟩
    rw [if_neg (by simpa using hs), if_neg (by simpa using hi),
      if_neg fun hp => hs ((h.ids _).2 hp)]
    rfl

/-- A pass that goes on after the instances `pre`. -/
theorem checkPass_eq (is : List Instance) (h : Seen before pre seen) :
    checkPass r platform before seen is =
      ⟨passErrors r platform (outside before is),
        ((outside before is).zipIdx pre.length).flatMap
          (warningsAt r platform (pre ++ outside before is))⟩ := by
  induction is generalizing pre seen with
  | nil => rfl
  | cons i is ih =>
    by_cases hi : i.id ∈ before
    · have hout : outside before (i :: is) = outside before is :=
        List.filter_cons_of_neg (by simpa using hi)
      rw [checkPass_cons_skip h hi, ih h, hout]
    · have hout : outside before (i :: is) = i :: outside before is :=
        List.filter_cons_of_pos (by simpa using hi)
      obtain ⟨seen', h', hstep⟩ := checkPass_cons_visit h hi is (outside before is)
      rw [hstep, ih h', hout, passErrors_cons, List.zipIdx_cons, List.flatMap_cons,
        List.length_append, List.append_assoc]
      rfl

theorem checkPass_nil_eq (before : List String) (is : List Instance) :
    checkPass r platform before [] is =
      ⟨passErrors r platform (outside before is), passWarnings r platform (outside before is)⟩ :=
  checkPass_eq is (Seen.nil before)

end Pass

/-! ### Both passes -/

namespace Composition

def rootPass (c : Composition) : List Instance :=
  Instance.forest c.root.toList

/-- The instances of the flat list, at any depth, without those whose id occurs in the root tree. -/
def flatPass (c : Composition) : List Instance :=
  outside (c.rootPass.map (·.id)) (Instance.forest c.capsules)

theorem check_of_isEmpty {c : Composition} (r : Registry) (platform : String)
    (h : (c.root.isNone && c.capsules.isEmpty) = true) :
    c.check r platform = ⟨[], [Report.emptyComposition c]⟩ := by
  rw [check, if_pos h]
  rfl

theorem check_of_not_isEmpty {c : Composition} (r : Registry) (platform : String)
    (h : ¬ (c.root.isNone && c.capsules.isEmpty) = true) :
    c.check r platform =
      ⟨passErrors r platform (c.rootPass ++ c.flatPass),
        passWarnings r platform c.rootPass ++ passWarnings r platform c.flatPass⟩ := by
  have hroot : outside [] c.rootPass = c.rootPass := by simp [outside]
  rw [check, if_neg h]
  show checkPass r platform [] [] c.rootPass ++
    checkPass r platform (c.rootPass.map (·.id)) [] (Instance.forest c.capsules) = _
  rw [checkPass_nil_eq, checkPass_nil_eq, hroot, passErrors_append]
  rfl

theorem errors_check (c : Composition) (r : Registry) (platform : String) :
    (c.check r platform).errors = passErrors r platform (c.rootPass ++ c.flatPass) := by
  by_cases h : (c.root.isNone && c.capsules.isEmpty) = true
  · rw [check_of_isEmpty r platform h]
    simp only [Bool.and_eq_true, Option.isNone_iff_eq_none, List.isEmpty_iff] at h
    simp [rootPass, flatPass, h, outside, passErrors]
  · rw [check_of_not_isEmpty r platform h]

/-- The exact reports on a composition: a single warning if it has no instances, and otherwise an
error for every instance of the two passes that is not supported, and the warnings of each pass. -/
theorem check_eq_reports (r : Registry) (platform : String) (c : Composition) :
    c.check r platform =
      if c.root.isNone && c.capsules.isEmpty then ⟨[], [Report.emptyComposition c]⟩
      else
        ⟨passErrors r platform (c.rootPass ++ c.flatPass),
          passWarnings r platform c.rootPass ++ passWarnings r platform c.flatPass⟩ := by
  split
  · exact check_of_isEmpty r platform ‹_›
  · exact check_of_not_isEmpty r platform ‹_›

end Composition

end CapsuleKit
