/-!
# Attempts

A computation on a state that may fail. The state behind it is the state at its end or at its failure: what has been
changed stays changed.

* `Attempt`: such a computation.
* `pure_apply`, `throw_apply`, `bind_apply`, `map_apply`: what a computation comes to from a state.
* `bind_eq_ok`: if one after another succeed, both do.
* `eq_error_of_map`, `eq_ok_of_map`: a computation fails or succeeds as its image under a map does.
-/

namespace DiceNotation

/-- A computation on a state that may fail. -/
abbrev Attempt (ε σ : Type) := ExceptT ε (StateM σ)

namespace Attempt

variable {ε σ α β : Type} {x : Attempt ε σ α} {f : α → Attempt ε σ β} {s s' : σ}

theorem pure_apply (a : α) (s : σ) : (pure a : Attempt ε σ α) s = (.ok a, s) := rfl

theorem throw_apply (e : ε) (s : σ) : (throw e : Attempt ε σ α) s = (.error e, s) := rfl

theorem get_apply (s : σ) : (get : Attempt ε σ σ) s = (.ok s, s) := rfl

theorem modify_apply (g : σ → σ) (s : σ) : (modify g : Attempt ε σ Unit) s = (.ok (), g s) := rfl

theorem lift_apply (x : StateM σ α) (s : σ) : (liftM x : Attempt ε σ α) s = (.ok (x s).1, (x s).2) := rfl

/-- A computation goes on from the state that the one before it leaves, unless that one failed. -/
theorem bind_apply (x : Attempt ε σ α) (f : α → Attempt ε σ β) (s : σ) :
    (x >>= f) s = match x s with
      | (.ok a, s) => f a s
      | (.error e, s) => (.error e, s) := by
  simp only [bind, ExceptT.bind, ExceptT.mk, StateT.bind]
  rcases x s with ⟨r, after⟩
  cases r <;> rfl

theorem bind_of_ok {a : α} (h : x s = (.ok a, s')) (f : α → Attempt ε σ β) : (x >>= f) s = f a s' := by
  rw [bind_apply, h]

theorem bind_of_error {e : ε} (h : x s = (.error e, s')) (f : α → Attempt ε σ β) : (x >>= f) s = (.error e, s') := by
  rw [bind_apply, h]

/-- If two computations one after the other succeed, both do. -/
theorem bind_eq_ok {b : β} (h : (x >>= f) s = (.ok b, s')) : ∃ a mid, x s = (.ok a, mid) ∧ f a mid = (.ok b, s') := by
  rw [bind_apply] at h
  rcases hx : x s with ⟨r, mid⟩
  rw [hx] at h
  cases r with
  | error e => cases h
  | ok a => exact ⟨a, mid, rfl, h⟩

theorem map_apply (g : α → β) (x : Attempt ε σ α) (s : σ) : (g <$> x) s = ((x s).1.map g, (x s).2) := by
  rw [map_eq_pure_bind, bind_apply]
  rcases x s with ⟨r, after⟩
  cases r <;> rfl

section

variable {g : α → β} {y : Attempt ε σ β}

/-- A computation fails when its image under a map does. -/
theorem eq_error_of_map (h : g <$> x = y) {e : ε} (hy : y s = (.error e, s')) : x s = (.error e, s') := by
  rw [← h, map_apply] at hy
  rcases hx : x s with ⟨r, after⟩
  rw [hx] at hy
  cases r <;> cases hy
  rfl

/-- A computation succeeds when its image under a map does. -/
theorem eq_ok_of_map (h : g <$> x = y) {b : β} (hy : y s = (.ok b, s')) : ∃ a, g a = b ∧ x s = (.ok a, s') := by
  rw [← h, map_apply] at hy
  rcases hx : x s with ⟨r, after⟩
  rw [hx] at hy
  cases r with
  | error e => cases hy
  | ok a =>
    cases hy
    exact ⟨a, rfl, rfl⟩

end

end Attempt

end DiceNotation
