import Mathlib.Algebra.BigOperators.Group.List.Basic
import Mathlib.Algebra.Order.BigOperators.Group.List
import Mathlib.Algebra.Order.Group.Nat
import Mathlib.Algebra.GroupWithZero.Nat

/-! # Sums of a function over a list of distinct elements

A ledger that keeps one amount per account and the list of its accounts has the total of the
list as its aggregate. These are the facts about that total that a single update needs: a change
at one account of a list without repetitions changes the total by exactly the change there
(`sum_map_add_eq_of_eq_off`), accounts that hold nothing can be left out of the total
(`sum_map_filter_eq`), and the total over part of the accounts is at most the whole
(`sum_map_le_of_subperm`). -/

namespace ListSum

variable {α M : Type*}

/-- **A change at one element.** When `g` and `f` agree on a list without repetitions except at
`a`, the totals differ by `g a - f a`, written without subtraction. -/
theorem sum_map_add_eq_of_eq_off [AddCommMonoid M] [DecidableEq α] {l : List α} {a : α}
    (hl : l.Nodup) (ha : a ∈ l) {f g : α → M} (hoff : ∀ b ∈ l, b ≠ a → g b = f b) :
    (l.map g).sum + f a = (l.map f).sum + g a := by
  -- both totals split into the value at `a` and the total over the rest, where `f` and `g` agree
  have hrest : (l.erase a).map g = (l.erase a).map f :=
    List.map_congr_left fun b hb => hoff b (List.mem_of_mem_erase hb) ((hl.mem_erase_iff).mp hb).1
  rw [← List.sum_map_erase g ha, ← List.sum_map_erase f ha, hrest, add_comm (g a), add_comm (f a),
    add_assoc, add_assoc, add_comm (g a)]

/-- Elements where `f` vanishes can be dropped from the total. -/
theorem sum_map_filter_eq [AddCommMonoid M] (p : α → Bool) (l : List α) {f : α → M}
    (hzero : ∀ b ∈ l, p b = false → f b = 0) : ((l.filter p).map f).sum = (l.map f).sum := by
  have hnot : ((l.filter fun b => !p b).map f).sum = 0 := by
    refine List.sum_eq_zero fun x hx => ?_
    obtain ⟨b, hb, rfl⟩ := List.mem_map.mp hx
    have hb' := List.mem_filter.mp hb
    exact hzero b hb'.1 (by simpa using hb'.2)
  have h := List.sum_map_filter_add_sum_map_filter_not (fun b => p b = true) f l
  simp only [Bool.decide_eq_true, Bool.not_eq_true] at h
  rw [← h]
  simp [hnot]

/-- The total over a sub-multiset is at most the total, for natural amounts. -/
theorem sum_map_le_of_subperm {l₁ l₂ : List α} (h : l₁.Subperm l₂) (f : α → ℕ) :
    (l₁.map f).sum ≤ (l₂.map f).sum := by
  obtain ⟨l, hperm, hsub⟩ := h
  rw [← (hperm.map f).sum_eq]
  exact (hsub.map f).sum_le_sum fun _ _ => Nat.zero_le _

end ListSum
