import CapsuleKit.Schema.Decode

/-!
# Accepted documents

What is known of a value that a decoder has given: all its parts were accepted
(`Checked.seq_eq_ok`), a member is its default or was decoded from one of the values
(`Fields.exists_mem_of_withDefault`), and a text with a pattern fits it (`patternText_eq_ok`).
-/

namespace CapsuleKit.Schema

namespace Checked

variable {α β : Type}

theorem map_eq_ok {f : α → β} {x : Checked α} {b : β} :
    f <$> x = .ok b ↔ ∃ a, x = .ok a ∧ f a = b := by
  cases x with
  | ok a => exact ⟨fun h => ⟨a, rfl, Checked.ok.inj h⟩, by rintro ⟨_, ⟨⟩, rfl⟩; rfl⟩
  | bad ps => exact ⟨nofun, nofun⟩

theorem seq_eq_ok {f : Checked (α → β)} {x : Checked α} {b : β} :
    f <*> x = .ok b ↔ ∃ g a, f = .ok g ∧ x = .ok a ∧ g a = b := by
  cases f with
  | ok g =>
    cases x with
    | ok a =>
      exact ⟨fun h => ⟨g, a, rfl, rfl, Checked.ok.inj h⟩, by rintro ⟨_, _, ⟨⟩, ⟨⟩, rfl⟩; rfl⟩
    | bad ps => exact ⟨nofun, nofun⟩
  | bad ps => cases x <;> exact ⟨nofun, nofun⟩

theorem under_eq_ok {steps : List Step} {x : Checked α} {a : α} :
    x.under steps = .ok a ↔ x = .ok a := by
  cases x with
  | ok b => exact Iff.rfl
  | bad ps => exact ⟨nofun, nofun⟩

end Checked

theorem Fields.required_eq_ok {α : Type} {fs : Fields} {s : Spelling} {a : α} {d : Decoder α}
    (h : fs.required s d = .ok a) : ∃ v, d v = .ok a := by
  unfold required at h
  split at h
  · exact ⟨_, Checked.under_eq_ok.1 h⟩
  · cases h

theorem mem_of_field? {key : String} {fs : Fields} {v : Value} (h : Value.field? key fs = some v) :
    (.text key, v) ∈ fs := by
  induction fs with
  | nil => cases h
  | cons e fs ih =>
    obtain ⟨k, u⟩ := e
    by_cases hk : k = .text key
    · rw [Value.field?, if_pos hk, Option.some.injEq] at h
      rw [hk, h]
      exact List.mem_cons_self
    · rw [Value.field?, if_neg hk] at h
      exact List.mem_cons_of_mem _ (ih h)

theorem Fields.mem_of_find? {fs : Fields} {s : Spelling} {name : String} {v : Value}
    (h : fs.find? s = some (name, v)) : (.text name, v) ∈ fs := by
  unfold find? at h
  split at h
  · rename_i u hshort
    obtain ⟨rfl, rfl⟩ := Prod.mk.inj (Option.some.inj h)
    exact mem_of_field? hshort
  · obtain ⟨u, hlong, heq⟩ := Option.map_eq_some_iff.1 h
    obtain ⟨rfl, rfl⟩ := Prod.mk.inj heq
    exact mem_of_field? hlong

theorem Fields.exists_mem_of_withDefault {α : Type} {fs : Fields} {s : Spelling} {default a : α}
    {d : Decoder α} (h : fs.withDefault s default d = .ok a) :
    a = default ∨ ∃ e ∈ fs, d e.2 = .ok a := by
  unfold withDefault at h
  split at h
  · rename_i hfind
    exact .inr ⟨_, mem_of_find? hfind, Checked.under_eq_ok.1 h⟩
  · exact .inl (Checked.ok.inj h).symm

theorem Fields.withDefault_eq_ok {α : Type} {fs : Fields} {s : Spelling} {default a : α}
    {d : Decoder α} (h : fs.withDefault s default d = .ok a) : a = default ∨ ∃ v, d v = .ok a := by
  rcases exists_mem_of_withDefault h with hdefault | ⟨e, -, hread⟩
  · exact .inl hdefault
  · exact .inr ⟨e.2, hread⟩

theorem patternText_eq_ok {pattern : String → Bool} {v : Value} {s : String}
    (h : patternText pattern v = .ok s) : pattern s = true := by
  unfold patternText also at h
  split at h
  · split at h
    · obtain rfl := Checked.ok.inj h
      assumption
    · cases h
  · cases h

end CapsuleKit.Schema
