import Mathlib.Data.List.Sort

/-! # Bitmaps of indices

A word `x : BitVec w` read as the set of indices of its set bits. This file relates the word
operations programs use to test and build such bitmaps (`x &&& (1 <<< i) = 0`,
`x ||| (1 <<< i)`) to the list of set bits in increasing order.

* **`setBits x`** — the indices `i < w` with bit `i` set, increasing; its length is the number
  of set bits, `onesCount x`.
* **`getLsbD_or_one_shiftLeft`**, **`getLsbD_and_not_one_shiftLeft`** — what every bit reads
  after one bit is set or cleared.
* **`ofIndices is`** — the word with the bits of `is` set; for an increasing list of indices
  below `w`, `setBits (ofIndices is) = is` (`setBits_ofIndices`); an index at or above `w` shifts
  out of the word (`onesCount_ofIndices_lt`).
-/

namespace Bitmap

variable {w : ℕ}

/-- The indices of the set bits of `x`, in increasing order. -/
def setBits (x : BitVec w) : List ℕ := (List.range w).filter fun i => x.getLsbD i

/-- The number of set bits of `x`. -/
def onesCount (x : BitVec w) : ℕ := (List.range w).countP fun i => x.getLsbD i

theorem mem_setBits {x : BitVec w} {i : ℕ} : i ∈ setBits x ↔ i < w ∧ x.getLsbD i = true := by
  rw [setBits, List.mem_filter, List.mem_range]

theorem setBits_pairwise (x : BitVec w) : (setBits x).Pairwise (· < ·) :=
  List.pairwise_lt_range.filter _

theorem setBits_nodup (x : BitVec w) : (setBits x).Nodup :=
  (setBits_pairwise x).imp ne_of_lt

theorem length_setBits (x : BitVec w) : (setBits x).length = onesCount x := by
  rw [setBits, onesCount, List.countP_eq_length_filter]

/-- **Testing one bit**: `x &&& (1 <<< i)` vanishes exactly when bit `i` of `x` is clear. -/
theorem and_one_shiftLeft_eq_zero_iff (x : BitVec w) {i : ℕ} (hi : i < w) :
    x &&& (1#w <<< i) = 0#w ↔ x.getLsbD i = false := by
  constructor
  · intro h
    have := congrArg (fun y => y.getLsbD i) h
    simpa [BitVec.getLsbD_and, BitVec.getLsbD_shiftLeft, hi, show 0 < w by omega] using this
  · intro h
    apply BitVec.eq_of_getLsbD_eq
    intro j hj
    simp only [BitVec.getLsbD_and, BitVec.getLsbD_shiftLeft, BitVec.getLsbD_one,
      BitVec.getLsbD_zero]
    by_cases hji : j = i
    · subst hji
      simp [h]
    · simp [Nat.sub_eq_zero_iff_le]
      omega

/-- **Setting a bit**: `x ||| (1 <<< i)` has bit `i` set, when it is below the width, and every
bit of `x`. -/
theorem getLsbD_or_one_shiftLeft (x : BitVec w) (i j : ℕ) :
    (x ||| (1#w <<< i)).getLsbD j = (x.getLsbD j || (decide (j = i) && decide (j < w))) := by
  rw [BitVec.getLsbD_or, BitVec.getLsbD_shiftLeft, BitVec.getLsbD_one]
  by_cases hji : j = i
  · subst hji
    by_cases hj : j < w
    · simp [hj, show 0 < w by omega]
    · simp [hj]
  · rcases Nat.lt_or_gt_of_ne hji with h | h
    · simp [hji, h]
    · simp [hji, Nat.sub_eq_zero_iff_le, Nat.not_le.2 h]

/-- **Clearing a bit**: `x &&& ~~~(1 <<< i)` has every bit of `x` but bit `i`. -/
theorem getLsbD_and_not_one_shiftLeft (x : BitVec w) (i j : ℕ) :
    (x &&& ~~~(1#w <<< i)).getLsbD j = (x.getLsbD j && !decide (j = i)) := by
  rw [BitVec.getLsbD_and, BitVec.getLsbD_not, BitVec.getLsbD_shiftLeft, BitVec.getLsbD_one]
  by_cases hj : j < w
  · by_cases hji : j = i
    · subst hji
      simp [hj, show 0 < w by omega]
    · rcases Nat.lt_or_gt_of_ne hji with h | h
      · simp [hji, hj, h]
      · simp [hji, hj, Nat.sub_eq_zero_iff_le, Nat.not_le.2 h]
  · -- bits at or above the width are clear in every word
    simp [hj, BitVec.getLsbD_of_ge x j (Nat.le_of_not_lt hj)]

/-- **Building a bitmap**: set bit `i` for every index `i ∈ is`, from the empty word. -/
def ofIndices (is : List ℕ) : BitVec w :=
  is.foldl (fun b i => b ||| (1#w <<< i)) 0#w

/-- The bits of `ofIndices is` are the indices of `is` below the width; larger indices shift
out of the word. -/
theorem getLsbD_ofIndices (is : List ℕ) (j : ℕ) :
    (ofIndices (w := w) is).getLsbD j = (decide (j < w) && decide (j ∈ is)) := by
  -- the fold from an arbitrary start `b`
  have key : ∀ b : BitVec w, (is.foldl (fun b i => b ||| (1#w <<< i)) b).getLsbD j
      = (b.getLsbD j || (decide (j < w) && decide (j ∈ is))) := by
    induction is with
    | nil => intro b; simp
    | cons i is ih =>
      intro b
      rw [List.foldl_cons, ih, BitVec.getLsbD_or, BitVec.getLsbD_shiftLeft, BitVec.getLsbD_one]
      by_cases hji : j = i
      · subst hji
        by_cases hj : j < w
        · simp [hj, show 0 < w by omega]
        · simp [hj]
      · by_cases hj : j < w
        · -- bit `i` of `1 <<< i` is the only one, and `j ≠ i`
          rcases Nat.lt_or_gt_of_ne hji with h | h
          · simp [hji, hj, h]
          · simp [hji, hj, Nat.sub_eq_zero_iff_le, Nat.not_le.2 h]
        · simp [hj]
  rw [ofIndices, key]
  simp

/-- **Round trip**: the set bits of the bitmap of an increasing list of indices below `w` are that
list. -/
theorem setBits_ofIndices {is : List ℕ} (hsorted : is.Pairwise (· < ·)) (hlt : ∀ i ∈ is, i < w) :
    setBits (ofIndices (w := w) is) = is := by
  apply List.Perm.eq_of_pairwise (fun a b _ _ hab hba => absurd (hab.trans hba) (lt_irrefl a))
    (setBits_pairwise _) hsorted
  refine (List.perm_ext_iff_of_nodup (setBits_nodup _) (hsorted.imp ne_of_lt)).2 fun j => ?_
  rw [mem_setBits, getLsbD_ofIndices]
  constructor
  · rintro ⟨-, h⟩
    exact (by simpa using h : j < w ∧ j ∈ is).2
  · intro hj
    exact ⟨hlt j hj, by simp [hlt j hj, hj]⟩

/-- **An index at or above the width is lost**: the bitmap of a list with such an index has fewer
set bits than the list has indices. -/
theorem onesCount_ofIndices_lt {is : List ℕ} {i : ℕ} (hi : i ∈ is) (hw : w ≤ i) :
    onesCount (ofIndices (w := w) is) < is.length := by
  -- every set bit is an index of the list other than `i`
  have hsub : setBits (ofIndices (w := w) is) ⊆ is.erase i := fun j hj => by
    obtain ⟨hjw, hj⟩ := mem_setBits.mp hj
    rw [getLsbD_ofIndices] at hj
    exact (List.mem_erase_of_ne (by omega)).mpr (by simpa using hj : j < w ∧ j ∈ is).2
  calc onesCount (ofIndices (w := w) is)
      = (setBits (ofIndices (w := w) is)).length := (length_setBits _).symm
    _ ≤ (is.erase i).length := (List.subperm_of_subset (setBits_nodup _) hsub).length_le
    _ < is.length := by
      rw [List.length_erase_of_mem hi]
      exact Nat.sub_lt (List.length_pos_of_mem hi) Nat.one_pos

/-- **Sorting by distinct indices.** Sorting a list by a key that takes distinct values on it
lists the keys in strictly increasing order, as `setBits_ofIndices` needs. -/
theorem pairwise_lt_map_mergeSort {α : Type*} (f : α → ℕ) {l : List α} (h : (l.map f).Nodup) :
    ((l.mergeSort fun a b => decide (f a ≤ f b)).map f).Pairwise (· < ·) := by
  have hsorted := @List.pairwise_mergeSort _ (fun a b => decide (f a ≤ f b))
    (fun a b c hab hbc => by simp only [decide_eq_true_eq] at *; omega)
    (fun a b => by simp only [Bool.or_eq_true, decide_eq_true_eq]; omega) l
  have hne : ((l.mergeSort fun a b => decide (f a ≤ f b)).map f).Nodup :=
    ((List.mergeSort_perm l _).map f).nodup_iff.2 h
  rw [List.Nodup, List.pairwise_map] at hne
  rw [List.pairwise_map]
  exact (hsorted.and hne).imp fun hab => lt_of_le_of_ne (of_decide_eq_true hab.1) hab.2

end Bitmap
