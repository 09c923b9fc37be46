import Mathlib.Logic.Basic

/-! # Computations that update a state and may stop with an error

`ExceptT ε (StateM σ)` is the shape of code that mutates a receiver in place and returns an
error: the writes made before the error stay. A computation is evaluated on a state by
`x.run.run s`, which gives the result and the final state.

The lemmas evaluate a computation one step at a time: the primitives (`pure`, `throw`, `get`,
`set`, `modify`, a lifted `Except`), and a bind whose first part is already evaluated
(`run_bind_of_ok`, `run_bind_of_error`). A proof about a program then follows the program's
sequence of steps, each closed by the specification lemma of the step.

Backwards, a run that succeeded is taken apart the same way: `run_bind_eq_ok` splits a successful
bind into its two successful halves, and `run_guard_eq_ok` says a guard `if c then throw e` it
passed had `c` false; `run_bind_eq_error` and `run_guard_eq_error` say where a failed run
failed. The checks that read no state are computations in `Except ε`, evaluated by `simp` with
`except_throw` and its companions, and taken apart one check at a time by
`except_bind_unit_eq_ok`, `except_ite_eq_ok`, `except_guard_eq_ok` and `except_ite_error_eq_ok`. -/

namespace ExceptStateM

variable {ε σ α β : Type}

@[simp] theorem run_pure (a : α) (s : σ) :
    (pure a : ExceptT ε (StateM σ) α).run.run s = (.ok a, s) := rfl

@[simp] theorem run_throw (e : ε) (s : σ) :
    (throw e : ExceptT ε (StateM σ) α).run.run s = (.error e, s) := rfl

@[simp] theorem run_get (s : σ) : (get : ExceptT ε (StateM σ) σ).run.run s = (.ok s, s) := rfl

@[simp] theorem run_set (s' s : σ) :
    (set s' : ExceptT ε (StateM σ) PUnit).run.run s = (.ok PUnit.unit, s') := rfl

@[simp] theorem run_modify (f : σ → σ) (s : σ) :
    (modify f : ExceptT ε (StateM σ) PUnit).run.run s = (.ok PUnit.unit, f s) := rfl

@[simp] theorem run_liftExcept_ok (a : α) (s : σ) :
    (liftExcept (Except.ok a : Except ε α) : ExceptT ε (StateM σ) α).run.run s = (.ok a, s) := rfl

@[simp] theorem run_liftExcept_error (e : ε) (s : σ) :
    (liftExcept (Except.error e : Except ε α) : ExceptT ε (StateM σ) α).run.run s =
      (.error e, s) := rfl

/-- A bind runs its first part, and on success its continuation from the state reached. -/
theorem run_bind (x : ExceptT ε (StateM σ) α) (f : α → ExceptT ε (StateM σ) β) (s : σ) :
    (x >>= f).run.run s =
      match x.run.run s with
      | (.ok a, s') => (f a).run.run s'
      | (.error e, s') => (.error e, s') := by
  rw [ExceptT.run_bind, StateT.run_bind]
  rcases x.run.run s with ⟨_ | a, s'⟩ <;> rfl

theorem run_bind_of_ok {x : ExceptT ε (StateM σ) α} {f : α → ExceptT ε (StateM σ) β} {s s' : σ}
    {a : α} (h : x.run.run s = (.ok a, s')) : (x >>= f).run.run s = (f a).run.run s' := by
  rw [run_bind, h]

theorem run_bind_of_error {x : ExceptT ε (StateM σ) α} {f : α → ExceptT ε (StateM σ) β}
    {s s' : σ} {e : ε} (h : x.run.run s = (.error e, s')) :
    (x >>= f).run.run s = (.error e, s') := by
  rw [run_bind, h]

theorem run_get_bind (f : σ → ExceptT ε (StateM σ) β) (s : σ) :
    (get >>= f).run.run s = (f s).run.run s :=
  run_bind_of_ok (run_get s)

theorem run_ite (c : Prop) [Decidable c] (x y : ExceptT ε (StateM σ) α) (s : σ) :
    (if c then x else y).run.run s = if c then x.run.run s else y.run.run s := by
  split <;> rfl

/-- **A bind that succeeded**: its first part succeeded, and the continuation succeeded from the
state it reached. -/
theorem run_bind_eq_ok {x : ExceptT ε (StateM σ) α} {f : α → ExceptT ε (StateM σ) β} {s s'' : σ}
    {b : β} (h : (x >>= f).run.run s = (.ok b, s'')) :
    ∃ a s', x.run.run s = (.ok a, s') ∧ (f a).run.run s' = (.ok b, s'') := by
  rw [run_bind] at h
  rcases hx : x.run.run s with ⟨_ | a, s'⟩ <;> rw [hx] at h
  · cases h
  · exact ⟨a, s', rfl, h⟩

/-- **A guard that let the run through**: `if c then throw e` desugars to a branch on `c`, and a
successful run took the branch where `c` is false. -/
theorem run_guard_eq_ok {c : Prop} [Decidable c] {e : ε} {k : Unit → ExceptT ε (StateM σ) β}
    {s s' : σ} {b : β} (h : (if c then throw e >>= k else k ()).run.run s = (.ok b, s')) :
    ¬ c ∧ (k ()).run.run s = (.ok b, s') := by
  rw [run_ite] at h
  by_cases hc : c
  · rw [if_pos hc, run_bind, run_throw] at h
    cases h
  · rw [if_neg hc] at h
    exact ⟨hc, h⟩

/-- **A bind that failed**: its first part failed, or it succeeded and the continuation failed. -/
theorem run_bind_eq_error {x : ExceptT ε (StateM σ) α} {f : α → ExceptT ε (StateM σ) β}
    {s s'' : σ} {e : ε} (h : (x >>= f).run.run s = (.error e, s'')) :
    x.run.run s = (.error e, s'') ∨ ∃ a s', x.run.run s = (.ok a, s') ∧ (f a).run.run s' = (.error e, s'') := by
  rw [run_bind] at h
  rcases hx : x.run.run s with ⟨_ | a, s'⟩ <;> rw [hx] at h
  · simp only at h
    cases h
    exact .inl rfl
  · exact .inr ⟨a, s', rfl, h⟩

/-- **A guard on a failed run**: the guard threw its error, or let the run through to a failure
after it. -/
theorem run_guard_eq_error {c : Prop} [Decidable c] {e' e : ε} {k : Unit → ExceptT ε (StateM σ) β}
    {s s' : σ} (h : (if c then throw e' >>= k else k ()).run.run s = (.error e, s')) :
    (c ∧ e = e') ∨ (¬ c ∧ (k ()).run.run s = (.error e, s')) := by
  rw [run_ite] at h
  by_cases hc : c
  · rw [if_pos hc, run_bind, run_throw] at h
    cases h
    exact .inl ⟨hc, rfl⟩
  · rw [if_neg hc] at h
    exact .inr ⟨hc, h⟩

theorem run_throw_ne_ok (e : ε) (s s' : σ) (a : α) :
    (throw e : ExceptT ε (StateM σ) α).run.run s ≠ (.ok a, s') := by
  rw [run_throw]
  intro h
  cases h

/-! Checks that read no state are computations in `Except ε`; a thrown error ends them. -/

@[simp] theorem except_throw (e : ε) : (throw e : Except ε α) = .error e := rfl

@[simp] theorem except_pure (a : α) : (pure a : Except ε α) = .ok a := rfl

@[simp] theorem except_error_bind (e : ε) (f : α → Except ε β) :
    (Except.error e >>= f) = .error e := rfl

@[simp] theorem except_ok_bind (a : α) (f : α → Except ε β) : (Except.ok a >>= f) = f a := rfl

/-- A check followed by the rest passes when both do. -/
theorem except_bind_unit_eq_ok {x : Except ε Unit} {f : Unit → Except ε β} {b : β} :
    (x >>= f) = .ok b ↔ x = .ok () ∧ f () = .ok b := by
  cases x with
  | error e => simp
  | ok u => simp

/-- A check made only when `c` holds passes when `c` fails or the check passes. -/
theorem except_ite_eq_ok {c : Prop} [Decidable c] {x : Except ε Unit} :
    (if c then x else pure ()) = .ok () ↔ (c → x = .ok ()) := by
  by_cases hc : c <;> simp [hc]

/-- A guard passes when its condition fails. -/
theorem except_guard_eq_ok {c : Prop} [Decidable c] {e : ε} :
    (if c then throw e else pure () : Except ε Unit) = .ok () ↔ ¬ c := by
  by_cases hc : c <;> simp [hc]

/-- A guard followed by the rest passes when its condition fails and the rest passes. Once
`except_throw` and `except_error_bind` have cut off what follows each `throw`, a block of guards
is a chain of these. -/
theorem except_ite_error_eq_ok {c : Prop} [Decidable c] {e : ε} {y : Except ε β} {b : β} :
    (if c then .error e else y) = .ok b ↔ ¬ c ∧ y = .ok b := by
  by_cases hc : c <;> simp [hc]

end ExceptStateM
