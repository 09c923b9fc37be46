import Mathlib.Algebra.BigOperators.Group.Finset.Basic
import Mathlib.Data.Finset.Card

/-! # Counted and numbered members of a finite set

Two kinds of bookkeeping that a registry keeps beside its records:

* **a count per property** of the members that have it, which has to move by exactly one when
  one member gains or loses the property (`card_filter_eq_add_one`), and a sum over the members,
  which moves by the change of the one term that changed (`sum_add_eq_of_eq_off`);
* **a numbering** of the members it hands numbers to, in order: one-to-one and onto
  `0, …, k - 1`, the next number being `k` (`Numbering`). Numbering one more member with `k`
  keeps it so (`Numbering.next`), and only the members' numbers matter (`Numbering.congr`). -/

namespace Tally

variable {α : Type*}

/-- **A count that moves by one.** When `q` holds of a member `a` and `p` does not, and the two
agree on the other members of `s`, one more member of `s` has `q` than has `p`. -/
theorem card_filter_eq_add_one [DecidableEq α] {s : Finset α} {p q : α → Prop} [DecidablePred p]
    [DecidablePred q] {a : α} (ha : a ∈ s) (hpa : ¬ p a) (hqa : q a)
    (hoff : ∀ x ∈ s, x ≠ a → (q x ↔ p x)) :
    (s.filter q).card = (s.filter p).card + 1 := by
  have hinsert : s.filter q = insert a (s.filter p) := by
    ext x
    simp only [Finset.mem_filter, Finset.mem_insert]
    by_cases hx : x = a
    · subst hx
      simp only [ha, hqa, and_self, true_or]
    · simp only [hx, false_or]
      exact and_congr_right fun hxs => hoff x hxs hx
  rw [hinsert, Finset.card_insert_of_notMem fun h => hpa (Finset.mem_filter.mp h).2]

/-- **A sum that moves by one term.** When `g` agrees with `f` on the members of `s` other than
`a`, the two sums differ by the change at `a`. -/
theorem sum_add_eq_of_eq_off {M : Type*} [DecidableEq α] [AddCommMonoid M] {s : Finset α}
    {f g : α → M} {a : α} (ha : a ∈ s) (hfg : ∀ x ∈ s, x ≠ a → g x = f x) :
    ∑ x ∈ s, g x + f a = ∑ x ∈ s, f x + g a := by
  rw [← Finset.add_sum_erase s g ha, ← Finset.add_sum_erase s f ha,
    Finset.sum_congr rfl fun x hx => hfg x (Finset.mem_of_mem_erase hx) (Finset.ne_of_mem_erase hx)]
  rw [add_comm (g a), add_assoc, add_comm (g a), ← add_assoc, add_comm (f a)]

/-- `f` numbers the members of `s` it is defined on with `0, …, k - 1`, each number once. -/
structure Numbering (s : Finset α) (f : α → Option ℕ) (k : ℕ) : Prop where
  /-- Every number handed out is below `k`. -/
  lt : ∀ a ∈ s, ∀ i, f a = some i → i < k
  /-- No number is handed out twice. -/
  inj : ∀ a ∈ s, ∀ b ∈ s, ∀ i, f a = some i → f b = some i → a = b
  /-- Every number below `k` is handed out. -/
  onto : ∀ i < k, ∃ a ∈ s, f a = some i

namespace Numbering

variable {s : Finset α} {f g : α → Option ℕ} {k : ℕ}

/-- Only the numbers of the members count. -/
theorem congr (h : Numbering s f k) (hfg : ∀ a ∈ s, g a = f a) : Numbering s g k where
  lt a ha i hi := h.lt a ha i ((hfg a ha).symm.trans hi)
  inj a ha b hb i hai hbi := h.inj a ha b hb i ((hfg a ha).symm.trans hai) ((hfg b hb).symm.trans hbi)
  onto i hi := by
    obtain ⟨a, ha, hai⟩ := h.onto i hi
    exact ⟨a, ha, (hfg a ha).trans hai⟩

/-- What the numbering with `a` numbered `k` gives a member. -/
theorem update_eq_some [DecidableEq α] {a b : α} {i : ℕ}
    (h : Function.update f a (some k) b = some i) : (b = a ∧ i = k) ∨ (b ≠ a ∧ f b = some i) := by
  by_cases hba : b = a
  · subst hba
    rw [Function.update_self, Option.some_inj] at h
    exact .inl ⟨rfl, h.symm⟩
  · rw [Function.update_of_ne hba] at h
    exact .inr ⟨hba, h⟩

/-- **Numbering the next member.** A member without a number takes the next one, `k`. -/
theorem next [DecidableEq α] (h : Numbering s f k) {a : α} (ha : a ∈ s) (hnone : f a = none) :
    Numbering s (Function.update f a (some k)) (k + 1) where
  lt b hb i hi := by
    rcases update_eq_some hi with ⟨-, hik⟩ | ⟨-, hbi⟩
    · rw [hik]
      exact Nat.lt_succ_self k
    · exact Nat.lt_succ_of_lt (h.lt b hb i hbi)
  inj b hb c hc i hbi hci := by
    -- `a` alone has the number `k`, which is above every number handed out before
    rcases update_eq_some hbi with ⟨hba, hbk⟩ | ⟨-, hbi⟩ <;>
      rcases update_eq_some hci with ⟨hca, hck⟩ | ⟨-, hci⟩
    · rw [hba, hca]
    · exact absurd (h.lt c hc i hci) (by rw [hbk]; exact lt_irrefl k)
    · exact absurd (h.lt b hb i hbi) (by rw [hck]; exact lt_irrefl k)
    · exact h.inj b hb c hc i hbi hci
  onto i hi := by
    rcases Nat.lt_succ_iff_lt_or_eq.mp hi with hlt | rfl
    · obtain ⟨b, hb, hbi⟩ := h.onto i hlt
      have hba : b ≠ a := by
        rintro rfl
        rw [hnone] at hbi
        cases hbi
      exact ⟨b, hb, by rw [Function.update_of_ne hba, hbi]⟩
    · exact ⟨a, ha, Function.update_self a (some i) f⟩

end Numbering

end Tally
