import Mathlib.Data.List.Basic
import Mathlib.Data.List.Count

/-! # Runs with reverted steps against a partial abstract machine

A machine whose steps either take effect or, when they fail, are reverted: a run of it is the
`foldl` of its step. Which steps were kept depends on the states the run passes through
(`kept`). A partial abstract machine, whose step may refuse (`Option`), runs the kept steps with
`List.foldlM`.

`run_simulates` is forward simulation with stuttering: if a relation between the two machines is
kept by every kept step, which the abstract machine accepts, and a step that is not kept leaves
the state as it was, then the run is related to the abstract run of its kept steps, which
succeeds. `foldlM_count` counts along an abstract run that adds one for each step of a kind,
modulo a bound. -/

namespace Simulation

variable {σ α ι : Type}

/-- The steps of a run that `keep` accepts, each from the state the run has reached. -/
def kept (step : σ → ι → σ) (keep : σ → ι → Bool) : σ → List ι → List ι
  | _, [] => []
  | s, i :: is => if keep s i then i :: kept step keep (step s i) is else kept step keep (step s i) is

@[simp] theorem kept_nil (step : σ → ι → σ) (keep : σ → ι → Bool) (s : σ) :
    kept step keep s [] = [] := rfl

theorem kept_cons (step : σ → ι → σ) (keep : σ → ι → Bool) (s : σ) (i : ι) (is : List ι) :
    kept step keep s (i :: is) =
      if keep s i then i :: kept step keep (step s i) is else kept step keep (step s i) is := rfl

/-- The kept steps of a run in two parts: those of the first part, then those of the second from
where the first ends. -/
theorem kept_append (step : σ → ι → σ) (keep : σ → ι → Bool) (s : σ) (is js : List ι) :
    kept step keep s (is ++ js) = kept step keep s is ++ kept step keep (is.foldl step s) js := by
  induction is generalizing s with
  | nil => rfl
  | cons i is ih =>
    rw [List.cons_append, kept_cons, kept_cons, ih]
    split <;> rfl

/-- The kept steps are among the run's steps. -/
theorem kept_sublist (step : σ → ι → σ) (keep : σ → ι → Bool) (s : σ) (is : List ι) :
    (kept step keep s is).Sublist is := by
  induction is generalizing s with
  | nil => exact List.Sublist.slnil
  | cons i is ih =>
    rw [kept_cons]
    split
    · exact (ih (step s i)).cons_cons i
    · exact (ih (step s i)).cons i

section Run

variable (step : σ → ι → σ) (keep : σ → ι → Bool) (astep : ι → α → Option α) (R : σ → α → Prop)

/-- **Forward simulation with stuttering.** Each kept step of the run, from related states, is
accepted by the abstract machine and ends related; each other step leaves the state. Then the
abstract machine runs the kept steps to the end, in a state related to the run's. -/
theorem run_simulates (is : List ι)
    (hkeep : ∀ i ∈ is, ∀ s r, R s r → keep s i = true → ∃ r', astep i r = some r' ∧ R (step s i) r')
    (hrevert : ∀ i ∈ is, ∀ s, keep s i = false → step s i = s) {s : σ} {r : α} (hR : R s r) :
    ∃ r', (kept step keep s is).foldlM (fun r i => astep i r) r = some r' ∧ R (is.foldl step s) r' := by
  induction is generalizing s r with
  | nil => exact ⟨r, rfl, hR⟩
  | cons i is ih =>
    have hkeep' : ∀ j ∈ is, ∀ s r, R s r → keep s j = true →
        ∃ r', astep j r = some r' ∧ R (step s j) r' :=
      fun j hj => hkeep j (List.mem_cons_of_mem i hj)
    have hrevert' : ∀ j ∈ is, ∀ s, keep s j = false → step s j = s :=
      fun j hj => hrevert j (List.mem_cons_of_mem i hj)
    rw [kept_cons, List.foldl_cons]
    cases hk : keep s i
    case true =>
      -- the kept step is matched by one abstract step, and the rest of the run by induction
      obtain ⟨r₁, hstep, hR₁⟩ := hkeep i List.mem_cons_self s r hR hk
      obtain ⟨r', hrun, hR'⟩ := ih hkeep' hrevert' hR₁
      refine ⟨r', ?_, hR'⟩
      rw [if_pos rfl, List.foldlM_cons, hstep]
      exact hrun
    case false =>
      -- the reverted step is a stutter: the abstract machine does nothing
      rw [if_neg Bool.false_ne_true, hrevert i List.mem_cons_self s hk]
      exact ih hkeep' hrevert' hR

end Run

/-- **A counter along an abstract run.** If each accepted step adds one to the count when `p`
holds of it and leaves it otherwise, modulo `n`, a run adds, modulo `n`, the number of its steps
where `p` holds. -/
theorem foldlM_count {astep : ι → α → Option α} (count : α → ℕ) (p : ι → Bool) (n : ℕ)
    (hstep : ∀ i r r', astep i r = some r' → count r' % n = (count r + if p i then 1 else 0) % n) :
    ∀ (is : List ι) {r r'}, is.foldlM (fun r i => astep i r) r = some r' →
      count r' % n = (count r + is.countP p) % n := by
  intro is
  induction is with
  | nil =>
    intro r r' h
    cases h
    rfl
  | cons i is ih =>
    intro r r' h
    rw [List.foldlM_cons] at h
    cases hi : astep i r with
    | none => simp [hi] at h
    | some r₁ =>
      simp only [hi, Option.bind_eq_bind, Option.bind_some] at h
      -- the first step adds its one, and the rest of the run the ones of the rest
      calc count r' % n = (count r₁ + is.countP p) % n := ih h
        _ = (count r₁ % n + is.countP p) % n := by rw [Nat.mod_add_mod]
        _ = ((count r + if p i then 1 else 0) % n + is.countP p) % n := by rw [hstep i r r₁ hi]
        _ = (count r + (i :: is).countP p) % n := by
          rw [Nat.mod_add_mod, List.countP_cons, Nat.add_assoc, Nat.add_comm _ (is.countP p)]

end Simulation
