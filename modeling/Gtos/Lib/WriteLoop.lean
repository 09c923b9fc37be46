import Mathlib.Logic.Function.Basic
import Mathlib.Data.List.Basic

/-! # Loops that write a map

`for i in is { m[key i] = val i }`: a loop that writes, for each index of a list, a value at a
key computed from the index. Storage layouts write a record this way, one slot per chunk.

A key that no index names keeps its old value (`run_apply_of_forall_ne`), the key of an
index that no other index shares holds that index's value (`run_apply_key`), and the value at a
key depends on the starting map only at that key (`run_apply_congr`). Writing through a
re-keying that keeps the keys apart is writing the keys themselves (`run_comp_apply`). -/

namespace WriteLoop

variable {ι κ β : Type} [DecidableEq κ]

/-- The loop over `is` that writes `val i` at `key i`, starting from `m`. -/
def run (key : ι → κ) (val : ι → β) (is : List ι) (m : κ → β) : κ → β :=
  is.foldl (fun m i => Function.update m (key i) (val i)) m

@[simp] theorem run_nil (key : ι → κ) (val : ι → β) (m : κ → β) : run key val [] m = m := rfl

@[simp] theorem run_cons (key : ι → κ) (val : ι → β) (i : ι) (is : List ι) (m : κ → β) :
    run key val (i :: is) m = run key val is (Function.update m (key i) (val i)) := rfl

/-- A key the loop never writes keeps its value. -/
theorem run_apply_of_forall_ne (key : ι → κ) (val : ι → β) (is : List ι) (m : κ → β) (k : κ)
    (hk : ∀ i ∈ is, key i ≠ k) : run key val is m k = m k := by
  induction is generalizing m with
  | nil => rfl
  | cons i is ih =>
    rw [run_cons, ih _ fun j hj => hk j (List.mem_cons_of_mem i hj)]
    exact Function.update_of_ne (hk i List.mem_cons_self).symm _ _

/-- The loop's value at a key depends on the map only through the map's value at that key. -/
theorem run_apply_congr (key : ι → κ) (val : ι → β) (is : List ι) {m m' : κ → β} {k : κ}
    (hk : m k = m' k) : run key val is m k = run key val is m' k := by
  induction is generalizing m m' with
  | nil => exact hk
  | cons i is ih =>
    rw [run_cons, run_cons]
    apply ih
    by_cases hi : k = key i
    · rw [hi, Function.update_self, Function.update_self]
    · rw [Function.update_of_ne hi, Function.update_of_ne hi, hk]

/-- The key of a written index that no other written index shares holds the index's value. -/
theorem run_apply_key (key : ι → κ) (val : ι → β) (is : List ι) (m : κ → β) (i : ι)
    (hi : i ∈ is) (hinj : ∀ j ∈ is, key j = key i → j = i) : run key val is m (key i) = val i := by
  induction is generalizing m with
  | nil => simp at hi
  | cons a is ih =>
    rw [run_cons]
    by_cases hrest : i ∈ is
    · exact ih _ hrest fun j hj => hinj j (List.mem_cons_of_mem a hj)
    · -- `i` is written last at the head of the loop, and no later index hits its key
      have hia : i = a := (List.mem_cons.mp hi).resolve_right hrest
      subst hia
      have hne : ∀ j ∈ is, key j ≠ key i := fun j hj hkey =>
        hrest (hinj j (List.mem_cons_of_mem i hj) hkey ▸ hj)
      rw [run_apply_of_forall_ne key val is _ _ hne, Function.update_self]

/-- **A loop through a re-keying** `f` that keeps the written keys apart from the key read: read
at `f k`, it is the loop over the keys themselves, read at `k` in the map pulled back by `f`. -/
theorem run_comp_apply {κ' : Type} [DecidableEq κ'] (f : κ → κ') (key : ι → κ) (val : ι → β)
    (is : List ι) (m : κ' → β) (k : κ) (hinj : ∀ i ∈ is, f (key i) = f k → key i = k) :
    run (fun i => f (key i)) val is m (f k) = run key val is (fun x => m (f x)) k := by
  induction is generalizing m with
  | nil => rfl
  | cons i is ih =>
    rw [run_cons, run_cons, ih _ fun j hj => hinj j (List.mem_cons_of_mem i hj)]
    apply run_apply_congr
    -- the two maps differ at most at `key i`, where `f` tells the keys apart
    by_cases hk : key i = k
    · rw [← hk, Function.update_self, Function.update_self]
    · have hf : f k ≠ f (key i) := fun h => hk (hinj i List.mem_cons_self h.symm)
      rw [Function.update_of_ne hf, Function.update_of_ne (Ne.symm hk)]

/-- A value written over the chunks `0 .. c - 1`, followed by zeros over the chunks `c .. c' - 1`
of an older, longer value: a chunk at or beyond `c` holds zero if the older value had it and
keeps its word otherwise, as long as the keys of the chunks below `n` are distinct. -/
theorem run_clear_tail_apply {n c c' i : ℕ} (key : ℕ → κ) (val : ℕ → β) (z : β) (m : κ → β)
    (hinj : ∀ j < n, ∀ k < n, key j = key k → j = k) (hci : c ≤ i) (hin : i < n)
    (hc' : c' ≤ n) :
    run key (fun _ => z) (List.range' c (c' - c)) (run key val (List.range c) m) (key i) =
      if i < c' then z else m (key i) := by
  split
  case isTrue hic' =>
    apply run_apply_key _ _ _ _ i (List.mem_range'_1.mpr (by omega))
    intro j hj heq
    rw [List.mem_range'_1] at hj
    exact hinj j (by omega) i hin heq
  case isFalse hic' =>
    -- neither loop reaches chunk `i`
    rw [run_apply_of_forall_ne, run_apply_of_forall_ne]
    · intro j hj heq
      rw [List.mem_range] at hj
      have := hinj j (by omega) i hin heq
      omega
    · intro j hj heq
      rw [List.mem_range'_1] at hj
      have := hinj j (by omega) i hin heq
      omega

end WriteLoop
