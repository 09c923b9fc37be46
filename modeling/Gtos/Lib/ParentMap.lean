import Mathlib.Logic.Function.Basic
import Mathlib.Logic.Relation
import Mathlib.Data.Nat.Notation

/-! # Parent maps

A map `p : α → α` with a distinguished value `z` is a parent map: `p a = z` says that `a` has no
parent, and otherwise `p a` is the parent of `a`. Following parents from `a` gives its ancestors.

* **`Up z p a b`** — one step: `a` has a parent and it is `b`.
* **`Above z p a b`** — `b` is a proper ancestor of `a`: the transitive closure of `Up`.
* **`upN`**, **`findUp`**, **`upList`** — the ancestor `n` steps up, a search for a given
  ancestor among the first `n`, and the list of the first `n`; `findUp_eq_true_iff`,
  `mem_upList_iff` and `above_iff_upN` relate them to one another and to `Above`. -/

namespace ParentMap

open Relation

variable {α : Type*} (z : α)

/-- One step up: `a` has a parent, and it is `b`. -/
def Up (p : α → α) (a b : α) : Prop := p a ≠ z ∧ p a = b

/-- `b` is a proper ancestor of `a`. -/
def Above (p : α → α) (a b : α) : Prop := TransGen (Up z p) a b

section Walks

variable [DecidableEq α]

/-- The ancestor `n` steps up from `a`, or `none` when the chain stops before. -/
def upN (p : α → α) : ℕ → α → Option α
  | 0, a => some a
  | n + 1, a => if p a = z then none else upN p n (p a)

/-- Whether `b` is among the first `n` ancestors of `a`. -/
def findUp (p : α → α) (b : α) : ℕ → α → Bool
  | 0, _ => false
  | n + 1, a => if p a = z then false else if p a = b then true else findUp p b n (p a)

/-- The first `n` ancestors of `a`, nearest first, as far as the chain goes. -/
def upList (p : α → α) : ℕ → α → List α
  | 0, _ => []
  | n + 1, a => if p a = z then [] else p a :: upList p n (p a)

theorem upN_succ_of_up {p : α → α} {a : α} (h : p a ≠ z) (n : ℕ) :
    upN z p (n + 1) a = upN z p n (p a) := by
  simp [upN, h]

theorem upN_succ_of_root {p : α → α} {a : α} (h : p a = z) (n : ℕ) :
    upN z p (n + 1) a = none := by
  simp [upN, h]

/-- `b` is a proper ancestor of `a` exactly when it is reached in some positive number of
steps. -/
theorem above_iff_upN {p : α → α} {a b : α} : Above z p a b ↔ ∃ n, upN z p (n + 1) a = some b := by
  constructor
  · intro h
    induction h using TransGen.head_induction_on with
    | single hab => exact ⟨0, by rw [upN_succ_of_up z hab.1, hab.2]; rfl⟩
    | head hac _ ih =>
      obtain ⟨n, hn⟩ := ih
      exact ⟨n + 1, by rw [upN_succ_of_up z hac.1, hac.2, hn]⟩
  · rintro ⟨n, hn⟩
    induction n generalizing a with
    | zero =>
      by_cases ha : p a = z
      · simp [upN_succ_of_root z ha] at hn
      · rw [upN_succ_of_up z ha] at hn
        exact TransGen.single ⟨ha, Option.some.inj hn⟩
    | succ n ih =>
      by_cases ha : p a = z
      · simp [upN_succ_of_root z ha] at hn
      · rw [upN_succ_of_up z ha] at hn
        exact TransGen.head ⟨ha, rfl⟩ (ih hn)

/-- The search finds `b` exactly when `b` is reached in at most `n` steps. -/
theorem findUp_eq_true_iff {p : α → α} {b : α} {n : ℕ} {a : α} :
    findUp z p b n a = true ↔ ∃ k < n, upN z p (k + 1) a = some b := by
  induction n generalizing a with
  | zero => simp [findUp]
  | succ n ih =>
    by_cases ha : p a = z
    · simp [findUp, ha, upN_succ_of_root z ha]
    · by_cases hb : p a = b
      · rw [findUp, if_neg ha, if_pos hb]
        exact ⟨fun _ => ⟨0, Nat.zero_lt_succ n, by rw [upN_succ_of_up z ha, hb]; rfl⟩,
          fun _ => rfl⟩
      · rw [findUp, if_neg ha, if_neg hb, ih]
        constructor
        · rintro ⟨k, hk, hup⟩
          exact ⟨k + 1, by omega, by rw [upN_succ_of_up z ha, hup]⟩
        · rintro ⟨k, hk, hup⟩
          rw [upN_succ_of_up z ha] at hup
          cases k with
          | zero => exact absurd (Option.some.inj hup) hb
          | succ k => exact ⟨k, by omega, hup⟩

/-- **The listed ancestors are those the search finds.** -/
theorem mem_upList_iff {p : α → α} {b : α} {n : ℕ} {a : α} :
    b ∈ upList z p n a ↔ findUp z p b n a = true := by
  -- on the number of steps, both walks climbing in step
  induction n generalizing a with
  | zero => simp [upList, findUp]
  | succ n ih =>
    by_cases ha : p a = z
    · simp [upList, findUp, ha]
    · by_cases hb : p a = b
      · simp [upList, findUp, hb]
      · rw [upList, findUp, if_neg ha, if_neg ha, if_neg hb, List.mem_cons, ih]
        exact or_iff_right (Ne.symm hb)

/-- `p` sends every element of `S` to `z` or into `S`: walks from `S` stay in `S`. -/
def Closed (S : Set α) (p : α → α) : Prop := ∀ a ∈ S, p a = z ∨ p a ∈ S

/-- Walks from a closed set read the map on that set only. -/
theorem upN_congr {S : Set α} {p q : α → α} (hpq : ∀ a ∈ S, p a = q a) (hS : Closed z S p) :
    ∀ n, ∀ a ∈ S, upN z p n a = upN z q n a
  | 0, _, _ => rfl
  | n + 1, a, ha => by
    simp only [upN, ← hpq a ha]
    rcases hS a ha with h | h
    · simp [h]
    · rw [upN_congr hpq hS n (p a) h]

theorem findUp_congr {S : Set α} {p q : α → α} (hpq : ∀ a ∈ S, p a = q a) (hS : Closed z S p)
    (b : α) : ∀ n, ∀ a ∈ S, findUp z p b n a = findUp z q b n a
  | 0, _, _ => rfl
  | n + 1, a, ha => by
    simp only [findUp, ← hpq a ha]
    rcases hS a ha with h | h
    · simp [h]
    · rw [findUp_congr hpq hS b n (p a) h]

end Walks

end ParentMap
