/-! When a reading succeeds, and what becomes of its errors. -/

namespace Almanac

variable {ε ε' α β : Type}

theorem eq_ok_get {e : Except ε α} (h : e.toOption.isSome = true) :
    e = .ok (e.toOption.get h) := by
  cases e with
  | error e => simp [Except.toOption] at h
  | ok a => rfl

theorem exists_ok_of_map_toOption {e : Except ε α} {g : α → β} {b : β}
    (h : e.toOption.map g = some b) : ∃ a, e = .ok a ∧ g a = b := by
  cases e with
  | error e => simp [Except.toOption] at h
  | ok a => exact ⟨a, rfl, Option.some.inj h⟩

theorem bind_eq_ok_iff {x : Except ε α} {g : α → Except ε β} {b : β} :
    x >>= g = .ok b ↔ ∃ a, x = .ok a ∧ g a = .ok b := by
  cases x with
  | error e => simp [bind, Except.bind]
  | ok a => simp [bind, Except.bind]

theorem bind_eq_error_iff {x : Except ε α} {g : α → Except ε β} {e : ε} :
    x >>= g = .error e ↔ x = .error e ∨ ∃ a, x = .ok a ∧ g a = .error e := by
  cases x with
  | error e => simp [bind, Except.bind]
  | ok a => simp [bind, Except.bind]

theorem map_eq_ok_iff {x : Except ε α} {g : α → β} {b : β} :
    x.map g = .ok b ↔ ∃ a, x = .ok a ∧ g a = b := by
  cases x with
  | error e => simp [Except.map]
  | ok a => simp [Except.map]

theorem map_eq_error_iff {x : Except ε α} {g : α → β} {e : ε} :
    x.map g = .error e ↔ x = .error e := by
  cases x with
  | error e => simp [Except.map]
  | ok a => simp [Except.map]

theorem eq_error_iff_of_forall {x : Except ε α} {e e' : ε} (h : ∀ e, x = .error e → e = e') :
    x = .error e ↔ (∀ a, x ≠ .ok a) ∧ e = e' := by
  cases x with
  | error found => simp [h found rfl, eq_comm]
  | ok a => simp

theorem map_bind {γ : Type} (x : Except ε α) (g : α → Except ε β) (f : β → γ) :
    (x >>= g).map f = x >>= fun a => (g a).map f := by
  cases x with
  | error e => rfl
  | ok a => rfl

theorem mapError_ok (g : ε → ε') (a : α) : (Except.ok a : Except ε α).mapError g = .ok a :=
  rfl

theorem mapError_bind (g : ε → ε') (x : Except ε α) (f : α → Except ε β) :
    (x >>= f).mapError g = x.mapError g >>= fun a => (f a).mapError g := by
  cases x with
  | error e => rfl
  | ok a => rfl

theorem map_mapError (g : ε → ε') (f : α → β) (x : Except ε α) :
    (x.mapError g).map f = (x.map f).mapError g := by
  cases x with
  | error e => rfl
  | ok a => rfl

end Almanac
