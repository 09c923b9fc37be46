import Mathlib.Data.Finset.Card
import Mathlib.Order.Interval.Finset.Nat

/-! # Quorum intersection

Two sets of members of an `N`-member committee, each of size at least `q`, share at least
`2q - N` members; with the two-thirds quorum `⌈2N/3⌉ = (2N + 2) / 3` that is at least
`⌈N/3⌉`, and in particular two quorums of a non-empty committee always meet.

* **`card_inter_ge`** — the counting bound `|A| + |B| - N ≤ |A ∩ B|` for `A, B ⊆ {0, …, N-1}`.
* **`twoThirds`** — `(2N + 2) / 3`, with `ceil_third_le_two_mul_twoThirds_sub`,
  `lt_two_mul_twoThirds` and `not_disjoint_of_twoThirds_le` (no two disjoint quorums).
-/

namespace Quorum

/-- **Counting bound.** Two subsets of `{0, …, N - 1}` share at least `|A| + |B| - N` elements. -/
theorem card_inter_ge {A B : Finset ℕ} {N : ℕ} (hA : A ⊆ Finset.range N) (hB : B ⊆ Finset.range N) :
    A.card + B.card - N ≤ (A ∩ B).card := by
  have hunion : (A ∪ B).card ≤ N := by
    simpa using Finset.card_le_card (Finset.union_subset hA hB)
  have := Finset.card_union_add_card_inter A B
  omega

/-- The two-thirds quorum `⌈2N/3⌉`, written `(2N + 2) / 3` in integer arithmetic. -/
def twoThirds (N : ℕ) : ℕ := (2 * N + 2) / 3

/-- `twoThirds N` is at least two thirds of `N`. -/
theorem two_mul_le_three_mul_twoThirds (N : ℕ) : 2 * N ≤ 3 * twoThirds N := by
  unfold twoThirds
  omega

/-- **Two two-thirds quorums overlap in a third**: `⌈N/3⌉ ≤ 2⌈2N/3⌉ - N`. -/
theorem ceil_third_le_two_mul_twoThirds_sub (N : ℕ) : (N + 2) / 3 ≤ 2 * twoThirds N - N := by
  unfold twoThirds
  omega

/-- Two two-thirds quorums of a non-empty committee cannot be disjoint: `N < 2⌈2N/3⌉`. -/
theorem lt_two_mul_twoThirds {N : ℕ} (hN : 0 < N) : N < 2 * twoThirds N := by
  unfold twoThirds
  omega

/-- **Quorum intersection.** Two subsets of `{0, …, N - 1}` of size at least `q` share at least
`2q - N` elements. -/
theorem two_mul_sub_le_card_inter {A B : Finset ℕ} {N q : ℕ} (hA : A ⊆ Finset.range N)
    (hB : B ⊆ Finset.range N) (hqA : q ≤ A.card) (hqB : q ≤ B.card) :
    2 * q - N ≤ (A ∩ B).card := by
  have := card_inter_ge hA hB
  omega

/-- **No two disjoint quorums.** Two disjoint subsets of a non-empty committee `C` cannot both
reach the two-thirds quorum of `C`. -/
theorem not_disjoint_of_twoThirds_le {α : Type*} [DecidableEq α] {A B C : Finset α}
    (hA : A ⊆ C) (hB : B ⊆ C) (hC : 0 < C.card) (hqA : twoThirds C.card ≤ A.card)
    (hqB : twoThirds C.card ≤ B.card) : ¬Disjoint A B := by
  intro hdisj
  have hunion : (A ∪ B).card ≤ C.card := Finset.card_le_card (Finset.union_subset hA hB)
  rw [Finset.card_union_of_disjoint hdisj] at hunion
  have := lt_two_mul_twoThirds hC
  omega

end Quorum
