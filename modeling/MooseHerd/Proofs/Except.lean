/-! # Results of operations that may fail

A sequence of operations has a result only if each of them has one. -/

namespace MooseHerd

variable {ε α β : Type}

theorem ok_bind (a : α) (next : α → Except ε β) : (Except.ok a >>= next) = next a := rfl

theorem map_bind_eq {γ : Type} (g : α → γ) (first : Except ε α) (next : γ → Except ε β) :
    (first.map g >>= next) = first >>= fun a => next (g a) := by
  cases first <;> rfl

/-- The first operation and those after it have results. -/
theorem bind_eq_ok {first : Except ε α} {next : α → Except ε β} {b : β} :
    (first >>= next) = .ok b ↔ ∃ a, first = .ok a ∧ next a = .ok b := by
  cases first with
  | error e =>
    constructor
    · intro h
      cases h
    · rintro ⟨a, h, -⟩
      cases h
  | ok a =>
    constructor
    · intro h
      exact ⟨a, rfl, h⟩
    · rintro ⟨_, h, hnext⟩
      cases h
      exact hnext

theorem map_eq_ok_iff {f : α → β} {x : Except ε α} {b : β} :
    x.map f = .ok b ↔ ∃ a, x = .ok a ∧ f a = b := by
  cases x with
  | error e => exact ⟨nofun, nofun⟩
  | ok a =>
    constructor
    · intro h
      cases h
      exact ⟨a, rfl, rfl⟩
    · rintro ⟨_, h, rfl⟩
      cases h
      rfl

theorem mapError_eq_ok {ε' : Type} {f : ε → ε'} {x : Except ε α} {a : α} :
    x.mapError f = .ok a ↔ x = .ok a := by
  cases x with
  | error e => exact ⟨nofun, nofun⟩
  | ok b => exact ⟨fun h => congrArg _ (Except.ok.inj h), fun h => congrArg _ (Except.ok.inj h)⟩

/-- What comes after a check is reached only if the check passes. -/
theorem eq_ok_of_unless {refused : Prop} [Decidable refused] {e : ε} {next : Except ε α} {a : α}
    (h : (if refused then Except.error e >>= fun _ : PUnit => next else next) = .ok a) :
    ¬ refused ∧ next = .ok a := by
  split at h
  · cases h
  · rename_i hpassed
    exact ⟨hpassed, h⟩

end MooseHerd
