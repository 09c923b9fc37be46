import Mathlib.Data.List.Sort

/-! # Level schedules of an indexed conflict relation

A *level schedule* of the indices `0, …, n - 1` under a conflict relation `conf` is a list of
levels, each a list of indices; the levels run one after another and the members of one level
side by side. This file says what makes such a schedule valid and proves that grouping the
indices by a suitable level function yields one.

* **`IsLevelSchedule conf n L`** — the levels list `0, …, n - 1` in order, none is empty, no two
  members of one level conflict, and a conflicting pair lands in strictly increasing levels.
* **`LevelFunction f n m`** — `f` starts at `0`, never decreases, climbs by at most one per index,
  and its values below `n` are exactly the levels `0, …, m - 1`.
* **`groupByLevel f n m`** — the levels `{i < n | f i = l}` for `l < m`;
  `isLevelSchedule_groupByLevel` is the main result.
* **`raiseMax`** — the conditional running maximum that computes one level from the levels
  before it.
-/

namespace LevelSchedule

/-- **A valid level schedule** of the indices `0, …, n - 1` under the conflict relation `conf`. -/
structure IsLevelSchedule (conf : ℕ → ℕ → Prop) (n : ℕ) (L : List (List ℕ)) : Prop where
  /-- Concatenating the levels in order lists `0, …, n - 1` in order. -/
  flatten_eq : L.flatten = List.range n
  /-- Every index below `n` lies in exactly one level. -/
  existsUnique_level : ∀ i < n, ∃! a, ∃ h : a < L.length, i ∈ L[a]
  /-- No level is empty. -/
  ne_nil : ∀ l ∈ L, l ≠ []
  /-- No two distinct members of one level conflict. -/
  not_conf : ∀ l ∈ L, ∀ i ∈ l, ∀ j ∈ l, i ≠ j → ¬ conf i j
  /-- A conflicting pair `i < j` is scheduled in strictly increasing levels. -/
  level_lt : ∀ a b (ha : a < L.length) (hb : b < L.length), ∀ i ∈ L[a], ∀ j ∈ L[b],
    i < j → conf i j → a < b

/-! ## The conditional running maximum -/

/-- **The conditional running maximum**: starting from `a`, raise the accumulator to `g j + 1`
for each `j ∈ js` with `p j` whenever that is larger. -/
def raiseMax (p : ℕ → Bool) (g : ℕ → ℕ) (js : List ℕ) (a : ℕ) : ℕ :=
  js.foldl (fun acc j => if p j then (if g j + 1 > acc then g j + 1 else acc) else acc) a

@[simp] theorem raiseMax_nil (p : ℕ → Bool) (g : ℕ → ℕ) (a : ℕ) : raiseMax p g [] a = a := rfl

theorem raiseMax_cons (p : ℕ → Bool) (g : ℕ → ℕ) (j : ℕ) (js : List ℕ) (a : ℕ) :
    raiseMax p g (j :: js) a
      = raiseMax p g js (if p j then (if g j + 1 > a then g j + 1 else a) else a) := rfl

/-- **What the running maximum is**: at least the start and every selected `g j + 1`, and equal
to the start or to one of those. -/
theorem raiseMax_spec (p : ℕ → Bool) (g : ℕ → ℕ) (js : List ℕ) (a : ℕ) :
    a ≤ raiseMax p g js a ∧ (∀ j ∈ js, p j → g j + 1 ≤ raiseMax p g js a) ∧
      (raiseMax p g js a = a ∨ ∃ j ∈ js, p j ∧ raiseMax p g js a = g j + 1) := by
  induction js generalizing a with
  | nil => simp
  | cons j js ih =>
    simp only [raiseMax_cons, List.mem_cons, forall_eq_or_imp, exists_eq_or_imp]
    -- the accumulator after the head step
    set a' := if p j then (if g j + 1 > a then g j + 1 else a) else a with ha'
    obtain ⟨hle, hsel, hval⟩ := ih a'
    have ha_le : a ≤ a' := by
      rw [ha']
      split_ifs <;> omega
    refine ⟨ha_le.trans hle, ⟨fun hj => ?_, hsel⟩, ?_⟩
    · have : g j + 1 ≤ a' := by
        rw [ha', if_pos hj]
        split_ifs <;> omega
      exact this.trans hle
    · rcases hval with h | h
      · rw [h, ha']
        by_cases hj : p j
        · by_cases hg : g j + 1 > a
          · exact Or.inr (Or.inl ⟨hj, by rw [if_pos hj, if_pos hg]⟩)
          · exact Or.inl (by rw [if_pos hj, if_neg hg])
        · exact Or.inl (by rw [if_neg hj])
      · exact Or.inr (Or.inr h)

/-! ## Grouping indices by a level function -/

/-- **The hypotheses on a level function** `f` over the indices below `n` with `m` levels. -/
structure LevelFunction (f : ℕ → ℕ) (n m : ℕ) : Prop where
  /-- The first index is on level `0`. -/
  zero : 0 < n → f 0 = 0
  /-- Levels never decrease along the indices. -/
  mono : ∀ i j, i ≤ j → j < n → f i ≤ f j
  /-- Levels climb by at most one from one index to the next. -/
  step : ∀ i, i + 1 < n → f (i + 1) ≤ f i + 1
  /-- Every level is below `m`. -/
  lt_bound : ∀ i < n, f i < m
  /-- No level below `m` lies above all the levels. -/
  top : ∀ l < m, ∃ i < n, l ≤ f i

/-- **Group the indices below `n` by level**: level `l < m` holds the `i < n` with `f i = l`, in
increasing order. -/
def groupByLevel (f : ℕ → ℕ) (n m : ℕ) : List (List ℕ) :=
  (List.range m).map fun l => (List.range n).filter fun i => f i = l

variable {f : ℕ → ℕ} {n m : ℕ}

@[simp] theorem length_groupByLevel : (groupByLevel f n m).length = m := by
  simp [groupByLevel]

theorem getElem_groupByLevel (l : ℕ) (h : l < (groupByLevel f n m).length) :
    (groupByLevel f n m)[l] = (List.range n).filter fun i => f i = l := by
  simp [groupByLevel]

/-- Membership in a level of `groupByLevel`: index below `n`, with exactly that level. -/
theorem mem_getElem_groupByLevel (l i : ℕ) (h : l < (groupByLevel f n m).length) :
    i ∈ (groupByLevel f n m)[l] ↔ i < n ∧ f i = l := by
  rw [getElem_groupByLevel, List.mem_filter, List.mem_range, decide_eq_true_iff]

/-- **Appending the next index to its level** extends the grouping by one index: this is one
iteration of a loop that fills the levels in index order. -/
theorem modify_groupByLevel :
    (groupByLevel f n m).modify (f n) (· ++ [n]) = groupByLevel f (n + 1) m := by
  apply List.ext_getElem (by simp)
  intro l h₁ h₂
  rw [List.getElem_modify, getElem_groupByLevel, getElem_groupByLevel, List.range_succ,
    List.filter_append]
  by_cases hl : f n = l <;> simp [hl]

/-- **Discrete intermediate values.** A level function reaches every level up to `f k` at some
index up to `k`. -/
theorem LevelFunction.exists_eq_of_le (hf : LevelFunction f n m) :
    ∀ k < n, ∀ l ≤ f k, ∃ i ≤ k, f i = l := by
  intro k
  induction k with
  | zero =>
    intro hn l hl
    exact ⟨0, le_rfl, by rw [hf.zero hn] at hl ⊢; omega⟩
  | succ k ih =>
    intro hk l hl
    by_cases hlk : l ≤ f k
    · obtain ⟨i, hi, hfi⟩ := ih (by omega) l hlk
      exact ⟨i, by omega, hfi⟩
    · have hstep := hf.step k hk
      exact ⟨k + 1, le_rfl, by omega⟩

/-- Every level below `m` is reached by some index below `n`. -/
theorem LevelFunction.exists_eq (hf : LevelFunction f n m) (l : ℕ) (hl : l < m) :
    ∃ i < n, f i = l := by
  obtain ⟨k, hk, hlk⟩ := hf.top l hl
  obtain ⟨i, hi, hfi⟩ := hf.exists_eq_of_le k hk l hlk
  exact ⟨i, by omega, hfi⟩

/-- A lower level only holds lower indices. -/
theorem LevelFunction.lt_of_level_lt (hf : LevelFunction f n m) {i j : ℕ} (hi : i < n)
    (hlt : f i < f j) : i < j := by
  by_contra hji
  have := hf.mono j i (by omega) hi
  omega

/-- The levels of `groupByLevel`, concatenated, are strictly increasing. -/
theorem LevelFunction.pairwise_flatten (hf : LevelFunction f n m) :
    (groupByLevel f n m).flatten.Pairwise (· < ·) := by
  rw [List.pairwise_flatten]
  refine ⟨fun l hl => ?_, ?_⟩
  · obtain ⟨a, -, rfl⟩ := List.mem_map.1 hl
    exact List.pairwise_lt_range.filter _
  · rw [groupByLevel, List.pairwise_map]
    refine List.pairwise_lt_range.imp fun {a b} hab x hx y hy => ?_
    rw [List.mem_filter, List.mem_range, decide_eq_true_iff] at hx hy
    exact hf.lt_of_level_lt hx.1 (by omega)

/-- **Concatenating the levels gives `0, …, n - 1`.** -/
theorem LevelFunction.flatten_groupByLevel (hf : LevelFunction f n m) :
    (groupByLevel f n m).flatten = List.range n := by
  have hsorted := hf.pairwise_flatten
  have hperm : (groupByLevel f n m).flatten.Perm (List.range n) := by
    refine (List.perm_ext_iff_of_nodup (hsorted.imp ne_of_lt) List.nodup_range).2 fun i => ?_
    simp only [groupByLevel, List.mem_flatten, List.mem_map, List.mem_range]
    constructor
    · rintro ⟨-, ⟨l, -, rfl⟩, hi⟩
      exact (List.mem_filter.1 hi).1 |> List.mem_range.1
    · intro hi
      exact ⟨_, ⟨f i, hf.lt_bound i hi, rfl⟩, by simpa using hi⟩
  exact hperm.eq_of_pairwise (fun a b _ _ hab hba => absurd (hab.trans hba) (lt_irrefl a))
    hsorted List.pairwise_lt_range

/-- **Grouping by a level function is a valid schedule** whenever conflicting pairs (in either
order) get strictly increasing levels. -/
theorem isLevelSchedule_groupByLevel (conf : ℕ → ℕ → Prop) (hf : LevelFunction f n m)
    (hsep : ∀ i j, i < j → j < n → conf i j ∨ conf j i → f i < f j) :
    IsLevelSchedule conf n (groupByLevel f n m) where
  flatten_eq := hf.flatten_groupByLevel
  existsUnique_level := by
    intro i hi
    refine ⟨f i, ⟨by simpa using hf.lt_bound i hi, ?_⟩, ?_⟩
    · rw [mem_getElem_groupByLevel]
      exact ⟨hi, rfl⟩
    · rintro a ⟨ha, hia⟩
      exact ((mem_getElem_groupByLevel a i ha).1 hia).2.symm
  ne_nil := by
    intro l hl
    obtain ⟨a, ha, rfl⟩ := List.mem_map.1 hl
    obtain ⟨i, hi, hfi⟩ := hf.exists_eq a (List.mem_range.1 ha)
    exact List.ne_nil_of_mem (a := i) (by simpa using ⟨hi, hfi⟩)
  not_conf := by
    intro l hl i hi j hj hij hc
    obtain ⟨a, -, rfl⟩ := List.mem_map.1 hl
    simp only [List.mem_filter, List.mem_range, decide_eq_true_iff] at hi hj
    rcases Nat.lt_or_gt_of_ne hij with h | h
    · have := hsep i j h hj.1 (Or.inl hc)
      omega
    · have := hsep j i h hi.1 (Or.inr hc)
      omega
  level_lt := by
    intro a b ha hb i hi j hj hij hc
    rw [mem_getElem_groupByLevel] at hi hj
    have := hsep i j hij hj.1 (Or.inl hc)
    omega

end LevelSchedule
