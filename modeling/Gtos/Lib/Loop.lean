import Mathlib.Logic.Basic
import Mathlib.Order.Basic

/-! # Counted loops that may return early

A loop `for i := a; i < a+n; i++ { …; if done { return } }` that threads a state is, in a model,
a left fold over `List.range' a n` in `Except γ`: an iteration either goes on with the new state
(`.ok`) or stops the whole loop with what its early return leaves behind (`.error`). Nested loops
are folds whose body runs an inner fold.

* **`Except.Post Q P x`** — `P` of the value a computation ends with, or `Q` of the value it
  stopped with.
* **`foldlM_range'_post`** — the invariant rule: an invariant `P i` of the state before iteration
  `i`, that every iteration which goes on keeps and every early stop turns into `Q`, holds after
  the last iteration.
* **`foldlM_range'_congr`** — two loop bodies that agree on every state where the invariant holds
  give the same loop.
-/

namespace Except

variable {ε α : Type*}

/-- The postcondition of a computation that may stop early: `Q` of what it stopped with, `P` of
what it ended with. -/
def Post (Q : ε → Prop) (P : α → Prop) : Except ε α → Prop
  | .error e => Q e
  | .ok a => P a

@[simp] theorem post_ok {Q : ε → Prop} {P : α → Prop} {a : α} :
    (Except.ok a : Except ε α).Post Q P ↔ P a := Iff.rfl

@[simp] theorem post_error {Q : ε → Prop} {P : α → Prop} {e : ε} :
    (Except.error e : Except ε α).Post Q P ↔ Q e := Iff.rfl

theorem Post.imp {Q Q' : ε → Prop} {P P' : α → Prop} {x : Except ε α} (hQ : ∀ e, Q e → Q' e)
    (hP : ∀ a, P a → P' a) (h : x.Post Q P) : x.Post Q' P' := by
  cases x with
  | error e => exact hQ e h
  | ok a => exact hP a h

end Except

namespace List

variable {β γ : Type*}

/-- **The loop invariant rule.** -/
theorem foldlM_range'_post {f : β → ℕ → Except γ β} (P : ℕ → β → Prop) (Q : γ → Prop)
    {a n : ℕ} {b : β} (hb : P a b)
    (hstep : ∀ i b, a ≤ i → i < a + n → P i b → (f b i).Post Q (P (i + 1))) :
    ((List.range' a n).foldlM f b).Post Q (P (a + n)) := by
  induction n generalizing a b with
  | zero => exact hb
  | succ n ih =>
    rw [List.range'_succ, List.foldlM_cons]
    have hfirst := hstep a b (Nat.le_refl a) (by omega) hb
    cases hf : f b a with
    | error c =>
      rw [hf] at hfirst
      exact hfirst
    | ok b' =>
      rw [hf] at hfirst
      -- the remaining iterations start at `a + 1` from the state the first one left
      have hrest := ih (a := a + 1) hfirst fun i b hi hi' => hstep i b (by omega) (by omega)
      rwa [show a + 1 + n = a + (n + 1) by omega] at hrest

/-- **Loop congruence.** Two bodies that agree on the states where the invariant holds, the
invariant being kept by the first body, give the same loop. -/
theorem foldlM_range'_congr {f g : β → ℕ → Except γ β} (P : ℕ → β → Prop) {a n : ℕ} {b : β}
    (hb : P a b) (hfg : ∀ i b, a ≤ i → i < a + n → P i b → f b i = g b i)
    (hstep : ∀ i b, a ≤ i → i < a + n → P i b → (f b i).Post (fun _ => True) (P (i + 1))) :
    (List.range' a n).foldlM f b = (List.range' a n).foldlM g b := by
  induction n generalizing a b with
  | zero => rfl
  | succ n ih =>
    rw [List.range'_succ, List.foldlM_cons, List.foldlM_cons,
      ← hfg a b (Nat.le_refl a) (by omega) hb]
    have hfirst := hstep a b (Nat.le_refl a) (by omega) hb
    cases hf : f b a with
    | error c => rfl
    | ok b' =>
      rw [hf] at hfirst
      exact ih (a := a + 1) hfirst (fun i b hi hi' => hfg i b (by omega) (by omega))
        fun i b hi hi' => hstep i b (by omega) (by omega)

end List
