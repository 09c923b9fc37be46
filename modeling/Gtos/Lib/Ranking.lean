import Mathlib.Order.Basic
import Mathlib.Data.List.Perm.Basic
import Mathlib.Data.List.Sort

/-! # Sorting by a strict comparator, and the first `k` of a sorted list

Go's `sort.SliceStable` and `sort.Sort` order a slice by a `Less` function. When `Less` is the
strict order of a key into a linear order and the keys of the slice are distinct, every sort
gives one result: the list strictly increasing by key. This module states that result, and
characterises the prefixes of such a list by rank: the first `k` elements are the elements with
fewer than `k` elements of smaller key.

* **`sortByLess less l`** — the stable merge sort that keeps `a` before `b` unless `less b a`.
* **`pairwise_sortByLess`** — sorting by the strict order of a key that is injective on the list
  gives the list strictly increasing by key.
* **`mem_take_iff_countP_lt`** — in a list strictly increasing by key, `take k` keeps exactly the
  elements of rank below `k`. -/

namespace Ranking

variable {α β : Type*}

/-- The stable sort of a list by a strict comparator: `a` stays before `b` unless `less b a`. -/
def sortByLess (less : α → α → Bool) (l : List α) : List α :=
  l.mergeSort fun a b => !less b a

theorem sortByLess_perm (less : α → α → Bool) (l : List α) : (sortByLess less l).Perm l :=
  List.mergeSort_perm _ _

theorem mem_sortByLess {less : α → α → Bool} {l : List α} {x : α} :
    x ∈ sortByLess less l ↔ x ∈ l :=
  (sortByLess_perm less l).mem_iff

section Key

variable [LinearOrder β] (key : α → β)

/-- **Sorting by the order of a key.** When `less` is the strict order of `key` and the keys of
the list are distinct, the sorted list is strictly increasing by key. -/
theorem pairwise_sortByLess {less : α → α → Bool}
    (hless : ∀ a b, less a b = decide (key a < key b)) {l : List α} (hl : (l.map key).Nodup) :
    (sortByLess less l).Pairwise fun a b => key a < key b := by
  -- the merge sort orders by `!less b a`, which is `key a ≤ key b`, a total preorder
  have hle : (sortByLess less l).Pairwise fun a b => key a ≤ key b := by
    have h := @List.pairwise_mergeSort _ (fun a b => !less b a)
      (fun a b c hab hbc => by simp only [hless, not_lt, Bool.not_eq_eq_eq_not, Bool.not_true,
        decide_eq_false_iff_not] at hab hbc ⊢; exact hab.trans hbc)
      (fun a b => by simpa [hless] using le_total (key a) (key b)) l
    exact h.imp fun hab => by simpa [hless] using hab
  -- the keys stay distinct, being those of `l` in another order
  have hne : (sortByLess less l).Pairwise fun a b => key a ≠ key b :=
    List.pairwise_map.mp (((sortByLess_perm less l).map key).nodup_iff.mpr hl)
  exact (hle.and hne).imp fun h => lt_of_le_of_ne h.1 h.2

/-- **The first `k` by rank.** In a list strictly increasing by key, `x` is among the first `k`
elements iff it is in the list and fewer than `k` elements of the list have a smaller key. -/
theorem mem_take_iff_countP_lt {l : List α} (hl : l.Pairwise fun a b => key a < key b)
    (k : ℕ) (x : α) : x ∈ l.take k ↔ x ∈ l ∧ l.countP (fun y => key y < key x) < k := by
  induction l generalizing k with
  | nil => simp
  | cons y l ih =>
    obtain ⟨hy, hl⟩ := List.pairwise_cons.mp hl
    cases k with
    | zero => simp
    | succ k =>
      rw [List.take_succ_cons, List.mem_cons, List.mem_cons, List.countP_cons]
      by_cases hxy : x = y
      · subst hxy
        -- the head has the smallest key: nothing after it ranks before it
        have hzero : l.countP (fun z => key z < key x) = 0 :=
          List.countP_eq_zero.mpr fun z hz => by simpa using (hy z hz).le
        simp [hzero]
      · rw [ih hl k]
        by_cases hx : x ∈ l
        · -- the head ranks before `x`, and is counted once more on each side
          simp [hxy, hx, hy x hx]
        · simp [hxy, hx]

end Key

end Ranking
