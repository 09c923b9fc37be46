import Mathlib.Data.List.Sigma

/-! # Insertion-ordered maps

A map that remembers the order in which its keys arrived, kept as a list of key-value pairs with
distinct keys (`List.NodupKeys`). Writing a present key changes its value where it stands;
writing an absent key appends it (`insert`). Removing a key is `List.kerase` and reading one is
`List.dlookup`, as Mathlib has them.

* `nodupKeys_insert`, `keys_insert`, `dlookup_insert` — what `insert` keeps and what it changes.
* `kreplace_append_cons` — a present key's value is replaced in its place.
* `forEachWhile` — a loop over the pairs in order that may stop early. -/

namespace InsertionOrder

variable {K V σ : Type}

section Insert

variable [DecidableEq K]

/-- Write `v` at `k`: in place if `k` is present, at the end otherwise. -/
def insert (k : K) (v : V) (l : List (Σ _ : K, V)) : List (Σ _ : K, V) :=
  if k ∈ l.keys then l.kreplace k v else l ++ [⟨k, v⟩]

theorem insert_of_mem {k : K} {v : V} {l : List (Σ _ : K, V)} (h : k ∈ l.keys) :
    insert k v l = l.kreplace k v :=
  if_pos h

theorem insert_of_notMem {k : K} {v : V} {l : List (Σ _ : K, V)} (h : k ∉ l.keys) :
    insert k v l = l ++ [⟨k, v⟩] :=
  if_neg h

/-- The pair of a present key is replaced where it stands. -/
theorem kreplace_append_cons {k : K} {v v₀ : V} {l₁ l₂ : List (Σ _ : K, V)} (h : k ∉ l₁.keys) :
    (l₁ ++ ⟨k, v₀⟩ :: l₂).kreplace k v = l₁ ++ ⟨k, v⟩ :: l₂ := by
  induction l₁ with
  | nil => exact List.lookmap_cons_some _ _ (if_pos rfl)
  | cons s l₁ ih =>
    rw [List.keys_cons, List.mem_cons, not_or] at h
    have hs : (fun s : Σ _ : K, V => if k = s.1 then some (⟨k, v⟩ : Σ _ : K, V) else none) s =
        none := if_neg h.1
    rw [List.cons_append, List.kreplace, List.lookmap_cons_none _ _ hs, ← List.kreplace, ih h.2,
      List.cons_append]

theorem keys_insert (k : K) (v : V) (l : List (Σ _ : K, V)) :
    (insert k v l).keys = if k ∈ l.keys then l.keys else l.keys ++ [k] := by
  unfold insert
  split
  case isTrue => exact List.keys_kreplace _ _ _
  case isFalse => simp only [List.keys_append, List.keys_cons, List.keys_nil]

theorem nodupKeys_insert (k : K) (v : V) {l : List (Σ _ : K, V)} (h : l.NodupKeys) :
    (insert k v l).NodupKeys := by
  unfold List.NodupKeys
  rw [keys_insert]
  split
  case isTrue => exact h
  case isFalse hk => exact h.append (List.nodup_singleton k) (List.disjoint_singleton.mpr hk)

/-- **Reading after a write**: the key written reads back its new value, every other key its old
one. -/
theorem dlookup_insert (k k' : K) (v : V) {l : List (Σ _ : K, V)} (h : l.NodupKeys) :
    (insert k v l).dlookup k' = if k' = k then some v else l.dlookup k' := by
  by_cases hk : k ∈ l.keys
  case pos =>
    obtain ⟨v₀, l₁, l₂, hk₁, rfl, -⟩ := List.exists_of_kerase hk
    have hk₂ : k ∉ l₂.keys := by
      rw [List.NodupKeys, List.keys_append, List.keys_cons] at h
      exact fun hk₂ => (List.nodup_middle.mp h).notMem (List.mem_append_right _ hk₂)
    rw [insert_of_mem hk, kreplace_append_cons hk₁, List.dlookup_append, List.dlookup_append]
    split
    case isTrue heq =>
      subst heq
      rw [List.dlookup_eq_none.mpr hk₁, List.dlookup_cons_eq]
      rfl
    case isFalse hne => rw [List.dlookup_cons_ne _ _ hne, List.dlookup_cons_ne _ _ hne]
  case neg =>
    rw [insert_of_notMem hk, List.dlookup_append]
    split
    case isTrue heq =>
      subst heq
      rw [List.dlookup_eq_none.mpr hk, List.dlookup_cons_eq]
      rfl
    case isFalse hne =>
      rw [List.dlookup_cons_ne _ _ hne, List.dlookup_nil]
      cases l.dlookup k' <;> rfl

end Insert

/-- `for k, v in l { if !fn(k, v) { break } }`, threading a state through the calls. -/
def forEachWhile (fn : K → V → σ → σ × Bool) : List (Σ _ : K, V) → σ → σ
  | [], s => s
  | ⟨k, v⟩ :: l, s => if (fn k v s).2 then forEachWhile fn l (fn k v s).1 else (fn k v s).1

/-- A loop that collects the keys lists them in order. -/
theorem forEachWhile_keys (l : List (Σ _ : K, V)) (acc : List K) :
    forEachWhile (fun k _ out => (out ++ [k], true)) l acc = acc ++ l.keys := by
  induction l generalizing acc with
  | nil => simp only [forEachWhile, List.keys_nil, List.append_nil]
  | cons s l ih =>
    simp only [forEachWhile, if_true, ih, List.keys_cons, List.append_assoc, List.singleton_append]

/-- A loop that collects the values lists them in order. -/
theorem forEachWhile_values (l : List (Σ _ : K, V)) (acc : List V) :
    forEachWhile (fun _ v out => (out ++ [v], true)) l acc = acc ++ l.map Sigma.snd := by
  induction l generalizing acc with
  | nil => simp only [forEachWhile, List.map_nil, List.append_nil]
  | cons s l ih =>
    simp only [forEachWhile, if_true, ih, List.map_cons, List.append_assoc, List.singleton_append]

end InsertionOrder
