/-!
# Computations that may fail

`Gives x Q` says that a computation succeeds with a result of some kind, `Fails x` that it does not
succeed. Sequences and lists of computations are taken apart by `Gives.bind` and `Gives.mapM`, and
by `fails_bind` and `fails_mapM`.
-/

namespace CapsuleKit

variable {ε α β : Type}

/-- A computation that succeeds, with a result of some kind. -/
def Gives (x : Except ε α) (Q : α → Prop) : Prop :=
  ∃ a, x = .ok a ∧ Q a

namespace Gives

variable {Q : α → Prop} {R : β → Prop}

theorem ok {a : α} (h : Q a) : Gives (.ok a : Except ε α) Q := ⟨a, rfl, h⟩

theorem bind {x : Except ε α} {f : α → Except ε β} (hx : Gives x Q)
    (hf : ∀ a, Q a → Gives (f a) R) : Gives (x >>= f) R := by
  obtain ⟨a, rfl, ha⟩ := hx
  exact hf a ha

theorem mapM {f : α → Except ε β} {as : List α} (h : ∀ a ∈ as, Gives (f a) R) :
    Gives (as.mapM f) fun bs => ∀ b ∈ bs, R b := by
  induction as with
  | nil => exact .ok (by simp)
  | cons a as ih =>
    rw [List.forall_mem_cons] at h
    rw [List.mapM_cons]
    refine .bind h.1 fun b hb => .bind (ih h.2) fun bs hbs => ?_
    exact .ok (List.forall_mem_cons.2 ⟨hb, hbs⟩)

theorem of_any {x : Except ε α} {p : α → Bool} (h : x.toOption.any p = true) :
    Gives x fun a => p a = true := by
  cases x with
  | ok a => exact .ok h
  | error e => cases h

theorem of_map {x : Except ε α} {f : α → β} {b : β} (h : x.map f = .ok b) :
    Gives x fun a => f a = b := by
  cases x with
  | ok a => exact .ok (Except.ok.inj h)
  | error e => cases h

end Gives

/-- A computation that breaks off. -/
def Fails (x : Except ε α) : Prop :=
  ∃ e, x = .error e

@[simp] theorem not_fails_ok (a : α) : ¬ Fails (.ok a : Except ε α) := by
  rintro ⟨e, he⟩
  cases he

theorem exists_ok_of_not_fails {x : Except ε α} (h : ¬ Fails x) : ∃ a, x = .ok a := by
  cases x with
  | ok a => exact ⟨a, rfl⟩
  | error e => exact absurd ⟨e, rfl⟩ h

theorem bind_eq_ok {x : Except ε α} {f : α → Except ε β} {b : β} :
    x >>= f = .ok b ↔ ∃ a, x = .ok a ∧ f a = .ok b := by
  cases x with
  | ok a => exact ⟨fun h => ⟨a, rfl, h⟩, by rintro ⟨_, ⟨⟩, h⟩; exact h⟩
  | error e =>
    constructor
    · intro h
      cases h
    · rintro ⟨a, ha, -⟩
      cases ha

theorem mapError_eq_ok {δ : Type} {x : Except ε α} {f : ε → δ} {a : α} :
    x.mapError f = .ok a ↔ x = .ok a := by
  cases x with
  | ok b =>
    constructor
    · intro h
      rw [← Except.ok.inj h]
    · intro h
      rw [← Except.ok.inj h]
      rfl
  | error e =>
    constructor
    · intro h
      cases h
    · intro h
      cases h

theorem fails_bind {x : Except ε α} {f : α → Except ε β} :
    Fails (x >>= f) ↔ Fails x ∨ ∃ a, x = .ok a ∧ Fails (f a) := by
  cases x with
  | error e => exact ⟨fun _ => .inl ⟨e, rfl⟩, fun _ => ⟨e, rfl⟩⟩
  | ok a =>
    constructor
    · exact fun h => .inr ⟨a, rfl, h⟩
    · rintro (h | ⟨b, hb, h⟩)
      · exact absurd h (not_fails_ok a)
      · obtain rfl := Except.ok.inj hb
        exact h

theorem fails_mapM {f : α → Except ε β} {as : List α} :
    Fails (as.mapM f) ↔ ∃ a ∈ as, Fails (f a) := by
  induction as with
  | nil => simp [Pure.pure, Except.pure]
  | cons a as ih =>
    rw [List.mapM_cons, fails_bind]
    by_cases ha : Fails (f a)
    · simp [ha]
    · obtain ⟨b, hb⟩ := exists_ok_of_not_fails ha
      simp [hb, fails_bind, ih, Pure.pure, Except.pure]

end CapsuleKit
