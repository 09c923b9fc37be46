import Gtos.Parallel.AccessSet
import Gtos.Lib.LevelSchedule

/-! # Execution levels (`core/parallel/dag.go`)

`BuildLevels` gives transaction `i` the level `levels[i]`: one above every earlier transaction it
conflicts with (the inner loop), then raised to `levels[i-1]` so that levels never decrease along
the transaction order (the clamp). The indices are then grouped by level.

The model follows the three loops of the source: `assignLevels` (the nested loops, one
`assignLevel` per row), `maxLevel` and `groupLevels`. The main result,
`buildLevels_isLevelSchedule`, shows that the output is a valid level schedule in the sense of
`LevelSchedule.IsLevelSchedule`: it is proved by an invariant of the outer loop (`AssignInv`),
which makes the level array a `LevelSchedule.LevelFunction`, and by identifying the grouping loop
with `LevelSchedule.groupByLevel`. -/

namespace Gtos.Parallel

open LevelSchedule

/-- The inner loop of `BuildLevels` at row `i`: raise `levels[i]` to `levels[j] + 1` for every
earlier `j` whose access set conflicts with that of `i`. -/
def raiseLevel (accessSets : List AccessSet) (levels : List ℕ) (i : ℕ) : ℕ :=
  raiseMax (fun j => accessSets[i]!.conflicts accessSets[j]!) (fun j => levels[j]!)
    (List.range i) levels[i]!

/-- One row `i` of `BuildLevels`'s outer loop: the inner loop, then the clamp
`if levels[i] < levels[i-1] { levels[i] = levels[i-1] }`. -/
def assignLevel (accessSets : List AccessSet) (levels : List ℕ) (i : ℕ) : List ℕ :=
  let li := raiseLevel accessSets levels i
  let li := if li < levels[i - 1]! then levels[i - 1]! else li
  levels.set i li

/-- The level array after `for i := 1; i < n; i++ { … }`, from `make([]int, n)`. -/
def assignLevels (accessSets : List AccessSet) : List ℕ :=
  (List.range' 1 (accessSets.length - 1)).foldl (assignLevel accessSets)
    (List.replicate accessSets.length 0)

/-- `maxLevel` of `BuildLevels`: the largest entry of the level array. -/
def maxLevel (levels : List ℕ) : ℕ :=
  levels.foldl (fun m l => if l > m then l else m) 0

/-- The grouping loop of `BuildLevels`: `result[l] = append(result[l], i)` for each `i, l` of the
level array, from `make([][]int, maxLevel+1)`. -/
def groupLevels (levels : List ℕ) (maxLevel : ℕ) : List (List ℕ) :=
  (List.range levels.length).foldl (fun result i => result.modify levels[i]! (· ++ [i]))
    (List.replicate (maxLevel + 1) [])

/-- `BuildLevels`: the execution levels of a block's transactions, `nil` for an empty block. -/
def buildLevels (accessSets : List AccessSet) : List (List ℕ) :=
  if accessSets.length = 0 then []
  else
    let levels := assignLevels accessSets
    groupLevels levels (maxLevel levels)

/-! ## The level array -/

/-- Reading a list after `set`: the new value at the position set, the old one elsewhere. -/
theorem getElem!_set_of_lt (l : List ℕ) {k : ℕ} (v i : ℕ) (hk : k < l.length) :
    (l.set k v)[i]! = if i = k then v else l[i]! := by
  rw [List.getElem!_eq_getElem?_getD, List.getElem!_eq_getElem?_getD, List.getElem?_set]
  by_cases hik : i = k
  · subst hik
    simp [hk]
  · simp [Ne.symm hik, hik]

/-- Every entry of the zero array `make([]int, n)` reads `0`. -/
theorem getElem!_replicate_zero (n i : ℕ) : (List.replicate n 0)[i]! = 0 := by
  rw [List.getElem!_eq_getElem?_getD, List.getElem?_replicate]
  split <;> rfl

/-- **The invariant of `BuildLevels`'s outer loop** once rows `1, …, k - 1` are done: rows from
`k` on still hold `0`, and the finished prefix starts at `0`, never decreases, climbs by at most
one per row, and puts every row above the earlier rows it conflicts with. -/
structure AssignInv (accessSets : List AccessSet) (k : ℕ) (levels : List ℕ) : Prop where
  length_eq : levels.length = accessSets.length
  untouched : ∀ i, k ≤ i → levels[i]! = 0
  zero : levels[0]! = 0
  mono : ∀ i j, i ≤ j → j < k → levels[i]! ≤ levels[j]!
  step : ∀ i, i + 1 < k → levels[i + 1]! ≤ levels[i]! + 1
  sep : ∀ i j, j < i → i < k → accessSets[i]!.conflicts accessSets[j]! → levels[j]! < levels[i]!

/-- The zero array satisfies the invariant before the first row. -/
theorem assignInv_replicate (accessSets : List AccessSet) :
    AssignInv accessSets 1 (List.replicate accessSets.length 0) where
  length_eq := List.length_replicate
  untouched := fun i _ => getElem!_replicate_zero _ i
  zero := getElem!_replicate_zero _ 0
  mono := by
    intro i j _ _
    rw [getElem!_replicate_zero, getElem!_replicate_zero]
  step := by intro i hi; omega
  sep := by intro i j hji hi; omega

/-- **One row keeps the invariant.** The raised level is at least every conflicting earlier
level plus one, and at most `levels[k-1] + 1` because the prefix never decreases; the clamp
then keeps it between `levels[k-1]` and `levels[k-1] + 1`. -/
theorem AssignInv.next {accessSets : List AccessSet} {k : ℕ} {levels : List ℕ}
    (hinv : AssignInv accessSets k levels) (hk₁ : 1 ≤ k) (hk : k < accessSets.length) :
    AssignInv accessSets (k + 1) (assignLevel accessSets levels k) := by
  obtain ⟨hlen, hun, hzero, hmono, hstep, hsep⟩ := hinv
  obtain ⟨hge, hconf, hval⟩ := raiseMax_spec (fun j => accessSets[k]!.conflicts accessSets[j]!)
    (fun j => levels[j]!) (List.range k) levels[k]!
  -- the inner loop starts from the untouched `levels[k] = 0`
  have hstart : levels[k]! = 0 := hun k le_rfl
  set li := raiseLevel accessSets levels k with hli
  have hli_le : li ≤ levels[k - 1]! + 1 := by
    rcases hval with h | ⟨j, hj, -, h⟩
    · simp only [raiseLevel] at hli
      omega
    · have := hmono j (k - 1) (by simp at hj; omega) (by omega)
      simp only [raiseLevel] at hli
      omega
  have hset (i : ℕ) : (assignLevel accessSets levels k)[i]!
      = if i = k then (if li < levels[k - 1]! then levels[k - 1]! else li) else levels[i]! :=
    getElem!_set_of_lt levels (if li < levels[k - 1]! then levels[k - 1]! else li) i (by omega)
  refine ⟨by simp [assignLevel, hlen], ?_, ?_, ?_, ?_, ?_⟩
  · intro i hi
    rw [hset, if_neg (by omega)]
    exact hun i (by omega)
  · rw [hset, if_neg (by omega)]
    exact hzero
  · intro i j hij hj
    rw [hset, hset]
    by_cases hjk : j = k
    · have := hmono (min i (k - 1)) (k - 1) (by omega) (by omega)
      by_cases hik : i = k
      · simp [hik, hjk]
      · rw [if_neg hik, if_pos hjk, show min i (k - 1) = i by omega] at *
        split_ifs <;> omega
    · rw [if_neg hjk, if_neg (by omega)]
      exact hmono i j hij (by omega)
  · intro i hi
    rw [hset, hset]
    by_cases hik : i + 1 = k
    · rw [if_pos hik, if_neg (show ¬ i = k by omega), show i = k - 1 by omega]
      split_ifs <;> omega
    · rw [if_neg hik, if_neg (by omega)]
      exact hstep i (by omega)
  · intro i j hji hi hc
    rw [hset, hset, if_neg (by omega)]
    by_cases hik : i = k
    · subst hik
      have := hconf j (List.mem_range.2 hji) hc
      simp only [raiseLevel] at hli
      rw [if_pos rfl]
      split_ifs <;> omega
    · rw [if_neg hik]
      exact hsep i j hji (by omega) hc

/-- **The outer loop keeps the invariant**: after rows `1, …, t` it holds at `t + 1`. -/
theorem assignInv_foldl (accessSets : List AccessSet) (t : ℕ) (ht : t < accessSets.length) :
    AssignInv accessSets (t + 1)
      ((List.range' 1 t).foldl (assignLevel accessSets) (List.replicate accessSets.length 0)) := by
  induction t with
  | zero => exact assignInv_replicate accessSets
  | succ t ih =>
    rw [List.range'_concat, List.foldl_concat, show 1 + 1 * t = t + 1 by omega]
    exact (ih (by omega)).next (by omega) (by omega)

/-- **The level array of `BuildLevels`** satisfies the invariant for all rows. -/
theorem assignInv_assignLevels (accessSets : List AccessSet) (hn : 0 < accessSets.length) :
    AssignInv accessSets accessSets.length (assignLevels accessSets) := by
  have := assignInv_foldl accessSets (accessSets.length - 1) (by omega)
  rwa [Nat.sub_add_cancel hn] at this

/-! ## The largest level -/

/-- `maxLevel` bounds every entry and, on a non-empty array, is one of them. -/
theorem maxLevel_spec (levels : List ℕ) :
    (∀ l ∈ levels, l ≤ maxLevel levels) ∧ (levels ≠ [] → maxLevel levels ∈ levels) := by
  -- the fold from an arbitrary start `a`: at least `a` and every entry, and `a` or an entry
  have key : ∀ a, a ≤ levels.foldl (fun m l => if l > m then l else m) a ∧
      (∀ l ∈ levels, l ≤ levels.foldl (fun m l => if l > m then l else m) a) ∧
      (levels.foldl (fun m l => if l > m then l else m) a = a ∨
        levels.foldl (fun m l => if l > m then l else m) a ∈ levels) := by
    induction levels with
    | nil => simp
    | cons x xs ih =>
      intro a
      obtain ⟨hle, hall, hval⟩ := ih (if x > a then x else a)
      simp only [List.foldl_cons, List.mem_cons, forall_eq_or_imp]
      refine ⟨le_trans (by split_ifs <;> omega) hle, ⟨le_trans (by split_ifs <;> omega) hle, hall⟩,
        ?_⟩
      rcases hval with h | h
      · rw [h]
        split_ifs
        · exact Or.inr (Or.inl rfl)
        · exact Or.inl rfl
      · exact Or.inr (Or.inr h)
  obtain ⟨-, hall, hval⟩ := key 0
  refine ⟨hall, fun hne => ?_⟩
  rcases hval with h | h
  · obtain ⟨x, xs, rfl⟩ := List.exists_cons_of_ne_nil hne
    have := hall x List.mem_cons_self
    simp only [maxLevel] at h ⊢
    rw [h] at this ⊢
    exact (Nat.le_zero.1 this) ▸ List.mem_cons_self
  · exact h

/-! ## The grouping loop -/

/-- **The grouping loop is `groupByLevel`** of the level array: by induction on the loop, the
first `k` iterations fill exactly the indices below `k` (`modify_groupByLevel`). -/
theorem groupLevels_eq (levels : List ℕ) (M : ℕ) :
    groupLevels levels M = groupByLevel (fun i => levels[i]!) levels.length (M + 1) := by
  have key : ∀ k, (List.range k).foldl (fun result i => result.modify levels[i]! (· ++ [i]))
      (List.replicate (M + 1) []) = groupByLevel (fun i => levels[i]!) k (M + 1) := by
    intro k
    induction k with
    | zero => simp [groupByLevel]
    | succ k ih =>
      rw [List.range_succ, List.foldl_concat, ih]
      exact modify_groupByLevel (f := fun i => levels[i]!)
  exact key levels.length

/-! ## Correctness of `BuildLevels` -/

/-- The level array of `BuildLevels` is a level function with `maxLevel + 1` levels. -/
theorem levelFunction_assignLevels (accessSets : List AccessSet) (hn : 0 < accessSets.length) :
    LevelFunction (fun i => (assignLevels accessSets)[i]!) accessSets.length
      (maxLevel (assignLevels accessSets) + 1) := by
  have hinv := assignInv_assignLevels accessSets hn
  obtain ⟨hall, hmem⟩ := maxLevel_spec (assignLevels accessSets)
  have hlen := hinv.length_eq
  -- reading an in-range entry as a list member
  have hget : ∀ i < accessSets.length, (assignLevels accessSets)[i]! ∈ assignLevels accessSets := by
    intro i hi
    rw [List.getElem!_eq_getElem?_getD, List.getElem?_eq_getElem (by omega)]
    exact List.getElem_mem _
  refine ⟨fun _ => hinv.zero, fun i j hij hj => hinv.mono i j hij hj,
    fun i hi => hinv.step i hi, fun i hi => Nat.lt_succ_of_le (hall _ (hget i hi)), ?_⟩
  intro l hl
  obtain ⟨i, hi, hieq⟩ := List.getElem_of_mem (hmem (List.ne_nil_of_length_pos (by omega)))
  refine ⟨i, by omega, ?_⟩
  rw [List.getElem!_eq_getElem?_getD, List.getElem?_eq_getElem hi, Option.getD_some, hieq]
  omega

/-- **`BuildLevels` is a correct level schedule**: its levels list `0, …, n - 1` in order, each
index lies in exactly one non-empty level, no two members of a level conflict, and of two
conflicting transactions the earlier one runs at a strictly lower level; moreover `Conflicts`
is symmetric. -/
theorem buildLevels_isLevelSchedule (accessSets : List AccessSet) :
    IsLevelSchedule (fun i j => accessSets[i]!.conflicts accessSets[j]! = true)
      accessSets.length (buildLevels accessSets) ∧
    ∀ a b : AccessSet, a.conflicts b = b.conflicts a := by
  refine ⟨?_, AccessSet.conflicts_comm⟩
  by_cases hn : accessSets.length = 0
  · rw [buildLevels, if_pos hn, hn]
    exact ⟨rfl, fun i hi => absurd hi (Nat.not_lt_zero i), by simp, by simp,
      fun a _ ha => absurd ha (Nat.not_lt_zero a)⟩
  · have hinv := assignInv_assignLevels accessSets (by omega)
    rw [buildLevels, if_neg hn]
    simp only
    rw [groupLevels_eq, hinv.length_eq]
    refine isLevelSchedule_groupByLevel _ (levelFunction_assignLevels accessSets (by omega)) ?_
    -- a conflict in either order separates the levels, by symmetry of `Conflicts`
    intro i j hij hj hc
    rw [AccessSet.conflicts_comm accessSets[i]!] at hc
    exact hinv.sep j i hij hj (by simpa using hc)

end Gtos.Parallel
