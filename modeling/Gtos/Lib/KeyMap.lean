import Mathlib.Data.List.AList

/-! # Maps and maps of maps

Programs keep state in hash maps, and often in maps whose values are maps again
(`map[K]map[K']V`). Both are `AList`s here; this file adds the operations such state needs and
one lemma for each of them about the double lookup `m[a][b]`.

* **`filterKeys p s`** — the entries whose key satisfies `p`: a loop that deletes the other keys.
* **`lookup_foldl_insert`** — what a loop of writes `m[f x] = g x` leaves in the map.
* **`lookup₂ a b m`** — the inner value `m[a][b]`, `none` when either map lacks its key.
* **`insertNested a b v m`** — `m[a][b] = v`, creating the inner map `m[a]` when it is missing.
* **`findOuter q b m`** — the first outer entry whose key satisfies `q` and whose inner map holds
  `b`: a scan `for a, inner := range m { if q(a) && inner has b … }`.
-/

namespace AList

section FilterKeys

variable {α : Type*} {β : α → Type*} [DecidableEq α]

/-- The entries of `s` whose key satisfies `p`. -/
def filterKeys (p : α → Bool) (s : AList β) : AList β :=
  ⟨s.entries.filter fun e => p e.1, s.nodupKeys.sublist List.filter_sublist⟩

theorem lookup_filterKeys (p : α → Bool) (s : AList β) (a : α) :
    (s.filterKeys p).lookup a = if p a then s.lookup a else none := by
  apply Option.ext
  intro b
  rw [← Option.mem_def, mem_lookup_iff]
  split_ifs with h
  · rw [← Option.mem_def, mem_lookup_iff]
    simp [filterKeys, h]
  · simp [filterKeys, h]

/-- **A map built by a loop of writes**: each key of the result was written by some iteration,
or was there before the loop. -/
theorem lookup_foldl_insert {δ γ : Type*} {f : δ → α} {g : δ → γ} {l : List δ}
    {m : AList fun _ : α => γ} {a : α} {v : γ}
    (h : (l.foldl (fun m x => m.insert (f x) (g x)) m).lookup a = some v) :
    (∃ x ∈ l, f x = a ∧ g x = v) ∨ m.lookup a = some v := by
  induction l generalizing m with
  | nil => exact Or.inr h
  | cons x l ih =>
    rcases ih h with ⟨y, hy, hya, hyv⟩ | hm
    · exact Or.inl ⟨y, List.mem_cons_of_mem x hy, hya, hyv⟩
    · by_cases hax : a = f x
      · subst hax
        rw [lookup_insert] at hm
        exact Or.inl ⟨x, List.mem_cons_self, rfl, Option.some_inj.1 hm⟩
      · rw [lookup_insert_ne hax] at hm
        exact Or.inr hm

end FilterKeys

section Nested

variable {α β γ : Type*} [DecidableEq α] [DecidableEq β]

/-- The double lookup `m[a][b]`. -/
def lookup₂ (a : α) (b : β) (m : AList fun _ : α => AList fun _ : β => γ) : Option γ :=
  (m.lookup a).bind fun inner => inner.lookup b

/-- `m[a][b] = v`, with `m[a]` created empty when absent. -/
def insertNested (a : α) (b : β) (v : γ) (m : AList fun _ : α => AList fun _ : β => γ) :
    AList fun _ : α => AList fun _ : β => γ :=
  m.insert a (((m.lookup a).getD ∅).insert b v)

/-- The first entry of `m`, in list order, whose key satisfies `q` and whose inner map has the
key `b`. -/
def findOuter (q : α → Bool) (b : β) (m : AList fun _ : α => AList fun _ : β => γ) :
    Option (Σ _ : α, AList fun _ : β => γ) :=
  m.entries.find? fun e => q e.1 && decide (b ∈ e.2)

variable {m : AList fun _ : α => AList fun _ : β => γ}

@[simp] theorem lookup₂_empty (a : α) (b : β) :
    lookup₂ a b (∅ : AList fun _ : α => AList fun _ : β => γ) = none := by
  simp [lookup₂, lookup_empty]

theorem lookup₂_insertNested (a a' : α) (b b' : β) (v : γ) :
    lookup₂ a' b' (insertNested a b v m) =
      if a' = a ∧ b' = b then some v else lookup₂ a' b' m := by
  unfold lookup₂ insertNested
  by_cases ha : a' = a
  · subst ha
    rw [lookup_insert, Option.bind_some]
    by_cases hb : b' = b
    · subst hb
      simp [lookup_insert]
    · rw [lookup_insert_ne hb]
      cases m.lookup a' <;> simp [hb, lookup_empty]
  · simp [lookup_insert_ne ha, ha]

theorem lookup₂_filterKeys (p : α → Bool) (a : α) (b : β) :
    lookup₂ a b (m.filterKeys p) = if p a then lookup₂ a b m else none := by
  unfold lookup₂
  rw [lookup_filterKeys]
  split_ifs <;> rfl

/-- An entry of the outer map gives the double lookups of its inner keys. -/
theorem lookup₂_of_mem_entries {e : Σ _ : α, AList fun _ : β => γ} (he : e ∈ m.entries) (b : β) :
    lookup₂ e.1 b m = e.2.lookup b := by
  have : m.lookup e.1 = some e.2 := by
    rw [← Option.mem_def, mem_lookup_iff]
    exact he
  rw [lookup₂, this, Option.bind_some]

/-- A scan that finds nothing leaves no double lookup at `b` under a key satisfying `q`. -/
theorem lookup₂_eq_none_of_findOuter_eq_none {q : α → Bool} {b : β}
    (h : findOuter q b m = none) {a : α} (ha : q a = true) : lookup₂ a b m = none := by
  cases hl : m.lookup a with
  | none => simp [lookup₂, hl]
  | some inner =>
    have hmem : (⟨a, inner⟩ : Σ _ : α, AList fun _ : β => γ) ∈ m.entries := by
      rw [← mem_lookup_iff]
      exact hl
    have hnot := List.find?_eq_none.1 h _ hmem
    simp only [ha, Bool.true_and, decide_eq_true_eq] at hnot
    simpa [lookup₂, hl, lookup_eq_none] using hnot

/-- The entry a scan finds has a key satisfying `q` and an inner map holding `b`. -/
theorem findOuter_eq_some {q : α → Bool} {b : β} {e : Σ _ : α, AList fun _ : β => γ}
    (h : findOuter q b m = some e) : q e.1 = true ∧ (lookup₂ e.1 b m).isSome := by
  have hq := List.find?_some h
  simp only [Bool.and_eq_true, decide_eq_true_eq] at hq
  refine ⟨hq.1, ?_⟩
  rw [lookup₂_of_mem_entries (List.mem_of_find?_eq_some h), lookup_isSome]
  exact hq.2

end Nested

end AList
