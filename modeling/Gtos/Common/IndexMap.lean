import Mathlib.Data.List.Sigma
import Gtos.Lib.InsertionOrder

/-! # The insertion-ordered map (`common/indexmap/indexmap.go`)

`IndexMap[K, V]` keeps a Go map from each key to an entry and threads the entries on an
intrusive doubly linked list, from `head` to `tail`, in the order the keys arrived. `Set` on a
present key writes the entry's value; on an absent key it allocates an entry, links it after the
tail and indexes it. `Delete` unlinks the entry and drops it from the index. `Range`, `Keys` and
`Values` walk the list from the head.

The entries live in a store addressed by number (`entries`); `Set` allocates the address
`fresh`, which no entry has used. The walks of the list are run with fuel, since the source loop
has no bound; a list that is well formed ends within its length.

* **`Layout`** — the representation invariant: the list from `head` links exactly the entries of
  a list of cells with distinct keys, `prev` and `next` agreeing, `tail` its last entry, and the
  index sends each key of a cell to the cell's entry and no other key anywhere.
* **`Layout.set`**, **`Layout.delete`** — both writes keep the invariant, and change the list of
  pairs as `InsertionOrder.insert` and `List.kerase` do; `unlink_entries` is the unlinking of one
  entry, address by address.
* **`Layout.get_eq`**, **`Layout.has_eq`**, **`Layout.len_eq`**, **`rangeFrom_linked`** — the
  reads of a map that keeps the invariant are those of its list of pairs.
* **`runOps_refines`** — from `New` or the zero value, every run of writes refines the run of
  the abstract writes (`Refines.runOps`), and every read agrees with the abstract list. -/

namespace Gtos

/-- `entry[K, V]`: a node of the list, with the pair it carries. -/
structure Entry (K V : Type) where
  /-- `key`. -/
  key : K
  /-- `value`. -/
  value : V
  /-- `prev`: the address of the entry before, if any. -/
  prev : Option ℕ
  /-- `next`: the address of the entry after, if any. -/
  next : Option ℕ

/-- `IndexMap[K, V]`, with the entries it allocated. -/
structure IndexMap (K V : Type) where
  /-- `m`: the index from a key to the address of its entry; `none` for a nil Go map. -/
  m : Option (K → Option ℕ)
  /-- `head`. -/
  head : Option ℕ
  /-- `tail`. -/
  tail : Option ℕ
  /-- `length`. -/
  length : ℤ
  /-- The entries, by address. -/
  entries : ℕ → Option (Entry K V)
  /-- The next address to allocate. -/
  fresh : ℕ

namespace IndexMap

variable {K V : Type}

/-- A write through the address of an entry, `e.f = x`; an address of no entry is left alone. -/
def modifyEntry (entries : ℕ → Option (Entry K V)) (p : ℕ) (f : Entry K V → Entry K V) :
    ℕ → Option (Entry K V) :=
  Function.update entries p ((entries p).map f)

/-- `New(cap)`: the capacity is a hint only. -/
def new (_cap : ℤ) : IndexMap K V :=
  ⟨some fun _ => none, none, none, 0, fun _ => none, 0⟩

/-- The zero value, whose Go map is nil. -/
def zero : IndexMap K V :=
  ⟨none, none, none, 0, fun _ => none, 0⟩

/-- The index as the source reads it: a nil Go map finds no key. -/
def index (om : IndexMap K V) : K → Option ℕ :=
  om.m.getD fun _ => none

/-- `init`: allocate the Go map on the first write. -/
def init (om : IndexMap K V) : IndexMap K V :=
  match om.m with
  | none => { om with m := some fun _ => none }
  | some _ => om

/-- `Len()`. -/
def len (om : IndexMap K V) : ℤ :=
  om.length

/-- `Has(key)`. -/
def has (om : IndexMap K V) (key : K) : Bool :=
  match om.m with
  | none => false
  | some m => (m key).isSome

/-- `Get(key)`; `none` stands for the zero value with `false`. -/
def get (om : IndexMap K V) (key : K) : Option V :=
  match om.m with
  | none => none
  | some m =>
    match m key with
    | some e => (om.entries e).map Entry.value
    | none => none

/-- `e.prev`, read from the entries. -/
def prevOf (om : IndexMap K V) (e : ℕ) : Option ℕ :=
  (om.entries e).bind Entry.prev

/-- `e.next`, read from the entries. -/
def nextOf (om : IndexMap K V) (e : ℕ) : Option ℕ :=
  (om.entries e).bind Entry.next

/-- `unlink(e)`: each field of `e` is read when the source reads it. -/
def unlink (om : IndexMap K V) (e : ℕ) : IndexMap K V :=
  let om := match om.prevOf e with
    | some p => { om with entries := modifyEntry om.entries p fun en => { en with next := om.nextOf e } }
    | none => { om with head := om.nextOf e }
  let om := match om.nextOf e with
    | some n => { om with entries := modifyEntry om.entries n fun en => { en with prev := om.prevOf e } }
    | none => { om with tail := om.prevOf e }
  { om with entries := modifyEntry om.entries e fun en => { en with prev := none, next := none } }

/-- The loop `for e := from; e != nil; e = e.next` of `Range`, `Keys` and `Values`: each turn
runs `fn` on the entry's pair and a state and stops when `fn` answers false. Out of fuel, or at
an address of no entry, it is `none`. -/
def rangeFrom {σ : Type} (entries : ℕ → Option (Entry K V)) (fn : K → V → σ → σ × Bool) :
    ℕ → Option ℕ → σ → Option σ
  | _, none, s => some s
  | 0, some _, _ => none
  | fuel + 1, some p, s =>
    match entries p with
    | none => none
    | some e =>
      if (fn e.key e.value s).2 then rangeFrom entries fn fuel e.next (fn e.key e.value s).1
      else some (fn e.key e.value s).1

/-- `Range(fn)`, the calls of `fn` threading a state. -/
def range {σ : Type} (fuel : ℕ) (om : IndexMap K V) (fn : K → V → σ → σ × Bool) (s : σ) :
    Option σ :=
  rangeFrom om.entries fn fuel om.head s

/-- `Keys()`. -/
def keys (fuel : ℕ) (om : IndexMap K V) : Option (List K) :=
  rangeFrom om.entries (fun k _ out => (out ++ [k], true)) fuel om.head []

/-- `Values()`. -/
def values (fuel : ℕ) (om : IndexMap K V) : Option (List V) :=
  rangeFrom om.entries (fun _ v out => (out ++ [v], true)) fuel om.head []

@[simp] theorem modifyEntry_apply (E : ℕ → Option (Entry K V)) (p : ℕ) (f : Entry K V → Entry K V)
    (q : ℕ) : modifyEntry E p f q = if q = p then (E p).map f else E q := by
  simp only [modifyEntry, Function.update_apply]

theorem modifyEntry_eq_none {E : ℕ → Option (Entry K V)} {p q : ℕ} {f : Entry K V → Entry K V}
    (h : E q = none) : modifyEntry E p f q = none := by
  rw [modifyEntry_apply]
  split
  case isTrue heq => rw [← heq, h, Option.map_none]
  case isFalse => exact h

theorem get_eq_index (om : IndexMap K V) (key : K) :
    om.get key = (om.index key).bind fun e => (om.entries e).map Entry.value := by
  unfold get index
  rcases om.m with _ | m
  · rfl
  · dsimp only [Option.getD_some]
    cases m key <;> rfl

theorem has_eq_index (om : IndexMap K V) (key : K) : om.has key = (om.index key).isSome := by
  unfold has index
  rcases om.m with _ | m <;> rfl

@[simp] theorem index_init (om : IndexMap K V) : (init om).index = om.index := by
  unfold init index
  rcases om with ⟨_ | m, head, tail, length, entries, fresh⟩ <;> rfl

theorem m_init (om : IndexMap K V) : (init om).m = some om.index := by
  unfold init index
  rcases om with ⟨_ | m, head, tail, length, entries, fresh⟩ <;> rfl

@[simp] theorem entries_init (om : IndexMap K V) : (init om).entries = om.entries := by
  unfold init; split <;> rfl

@[simp] theorem head_init (om : IndexMap K V) : (init om).head = om.head := by
  unfold init; split <;> rfl

@[simp] theorem tail_init (om : IndexMap K V) : (init om).tail = om.tail := by
  unfold init; split <;> rfl

@[simp] theorem length_init (om : IndexMap K V) : (init om).length = om.length := by
  unfold init; split <;> rfl

@[simp] theorem fresh_init (om : IndexMap K V) : (init om).fresh = om.fresh := by
  unfold init; split <;> rfl

/-! ## Linked cells -/

/-- The address of a cell: a key, the address of its entry and its value. -/
def addr (c : Σ _ : K, ℕ × V) : ℕ :=
  c.2.1

/-- The key-value pair of a cell. -/
def pair : (Σ _ : K, ℕ × V) → Σ _ : K, V :=
  Sigma.map id fun _ => Prod.snd

/-- The entries of `cells` are linked in order, the first back to `prev` and the last on to
`next`: each holds its pair and the addresses of its neighbours. -/
def Linked (entries : ℕ → Option (Entry K V)) : Option ℕ → List (Σ _ : K, ℕ × V) → Option ℕ → Prop
  | _, [], _ => True
  | prev, c :: cs, next =>
    entries c.2.1 = some ⟨c.1, c.2.2, prev, ((cs.map addr).head?).or next⟩ ∧
      Linked entries (some c.2.1) cs next

section Linked

variable {E E' : ℕ → Option (Entry K V)}

@[simp] theorem linked_nil (prev next : Option ℕ) : Linked E prev [] next := trivial

theorem linked_cons {prev next : Option ℕ} {c : Σ _ : K, ℕ × V} {cs : List (Σ _ : K, ℕ × V)} :
    Linked E prev (c :: cs) next ↔
      E (addr c) = some ⟨c.1, c.2.2, prev, ((cs.map addr).head?).or next⟩ ∧
        Linked E (some (addr c)) cs next :=
  Iff.rfl

/-- **Splitting a linked list**: the first part links on to the head of the second, and the
second back to the last of the first. -/
theorem linked_append {prev next : Option ℕ} (cs ds : List (Σ _ : K, ℕ × V)) :
    Linked E prev (cs ++ ds) next ↔
      Linked E prev cs (((ds.map addr).head?).or next) ∧
        Linked E (((cs.map addr).getLast?).or prev) ds next := by
  induction cs generalizing prev with
  | nil => simp only [List.nil_append, linked_nil, List.map_nil, List.getLast?_nil,
      Option.none_or, true_and]
  | cons c cs ih =>
    have hhead : (((cs ++ ds).map addr).head?).or next =
        ((cs.map addr).head?).or (((ds.map addr).head?).or next) := by
      rw [List.map_append, List.head?_append, Option.or_assoc]
    have hlast : (((c :: cs).map addr).getLast?).or prev =
        ((cs.map addr).getLast?).or (some (addr c)) := by
      rw [List.map_cons, List.getLast?_cons]
      cases (cs.map addr).getLast? <;> rfl
    rw [List.cons_append, linked_cons, ih, hhead, hlast, linked_cons, and_assoc]

/-- Entries at addresses outside the list do not matter. -/
theorem Linked.frame {prev next : Option ℕ} {cs : List (Σ _ : K, ℕ × V)}
    (h : Linked E prev cs next) (hE : ∀ q ∈ cs.map addr, E' q = E q) : Linked E' prev cs next := by
  induction cs generalizing prev with
  | nil => trivial
  | cons c cs ih =>
    rw [linked_cons] at h ⊢
    rw [List.map_cons, List.forall_mem_cons] at hE
    exact ⟨hE.1.trans h.1, ih h.2 hE.2⟩

/-- Each cell's entry holds the cell's pair. -/
theorem Linked.entry_of_mem {prev next : Option ℕ} {cs : List (Σ _ : K, ℕ × V)}
    (h : Linked E prev cs next) {c : Σ _ : K, ℕ × V} (hc : c ∈ cs) :
    ∃ en, E (addr c) = some en ∧ en.key = c.1 ∧ en.value = c.2.2 := by
  induction cs generalizing prev with
  | nil => cases hc
  | cons d cs ih =>
    rw [linked_cons] at h
    rcases List.mem_cons.mp hc with rfl | hc
    · exact ⟨_, h.1, rfl, rfl⟩
    · exact ih h.2 hc

/-- Cells with distinct keys have distinct entries. -/
theorem Linked.nodup_addr {prev next : Option ℕ} {cs : List (Σ _ : K, ℕ × V)}
    (h : Linked E prev cs next) (hk : cs.NodupKeys) : (cs.map addr).Nodup := by
  apply hk.nodup.map_on
  intro c hc d hd heq
  obtain ⟨en, hen, hkey, -⟩ := h.entry_of_mem hc
  obtain ⟨en', hen', hkey', -⟩ := h.entry_of_mem hd
  rw [heq, hen'] at hen
  cases hen
  exact hk.eq_of_fst_eq hc hd (hkey.symm.trans hkey')

/-- Pointing the last entry on to another address. -/
theorem Linked.setLastNext {prev next next' : Option ℕ} {cs : List (Σ _ : K, ℕ × V)}
    (h : Linked E prev cs next) (hE : ∀ q ∈ (cs.map addr).dropLast, E' q = E q)
    (hlast : ∀ q ∈ (cs.map addr).getLast?, E' q = (E q).map fun en => { en with next := next' }) :
    Linked E' prev cs next' := by
  induction cs generalizing prev with
  | nil => trivial
  | cons c cs ih =>
    rw [linked_cons] at h ⊢
    cases cs with
    | nil =>
      refine ⟨?_, trivial⟩
      rw [hlast (addr c) rfl, h.1]
      rfl
    | cons d ds =>
      -- `c` is not the last entry: it keeps its entry, which points on to `d`
      rw [List.map_cons, List.map_cons, List.dropLast_cons_cons, List.forall_mem_cons] at hE
      rw [List.map_cons, List.map_cons, List.getLast?_cons_cons] at hlast
      refine ⟨?_, ih h.2 (by rw [List.map_cons]; exact hE.2) (by rwa [List.map_cons])⟩
      rw [hE.1, h.1]
      rfl

/-- Pointing the first entry back to another address. -/
theorem Linked.setFirstPrev {prev prev' next : Option ℕ} {cs : List (Σ _ : K, ℕ × V)}
    (h : Linked E prev cs next) (hE : ∀ q ∈ (cs.map addr).tail, E' q = E q)
    (hfirst : ∀ q ∈ (cs.map addr).head?, E' q = (E q).map fun en => { en with prev := prev' }) :
    Linked E' prev' cs next := by
  cases cs with
  | nil => trivial
  | cons c cs =>
    rw [linked_cons] at h ⊢
    refine ⟨?_, h.2.frame hE⟩
    rw [hfirst (addr c) rfl, h.1]
    rfl

/-- **The walk of the list** visits the cells in order, and ends within as many turns as there
are cells. -/
theorem rangeFrom_linked {σ : Type} {E : ℕ → Option (Entry K V)} {prev : Option ℕ}
    {cs : List (Σ _ : K, ℕ × V)} (h : Linked E prev cs none) (fn : K → V → σ → σ × Bool)
    (fuel : ℕ) (hfuel : cs.length ≤ fuel) (s : σ) :
    rangeFrom E fn fuel (cs.map addr).head? s =
      some (InsertionOrder.forEachWhile fn (cs.map pair) s) := by
  induction cs generalizing prev fuel s with
  | nil => cases fuel <;> rfl
  | cons c cs ih =>
    obtain ⟨fuel, rfl⟩ : ∃ f, fuel = f + 1 := ⟨fuel - 1, by simp at hfuel; omega⟩
    rw [linked_cons, Option.or_none] at h
    simp only [List.map_cons, List.head?_cons, rangeFrom, addr] at h ⊢
    rw [h.1]
    dsimp only
    split
    case isTrue hgo =>
      rw [ih h.2 fuel (by simp at hfuel; omega)]
      simp only [pair, Sigma.map, id, InsertionOrder.forEachWhile, hgo, if_true]
    case isFalse hstop =>
      simp only [pair, Sigma.map, id, InsertionOrder.forEachWhile, hstop]
      rfl

end Linked

/-! ## Unlinking an entry -/

/-- **`unlink`**, address by address: the entry unlinked loses its links, the entry before it
points on to the entry after, and that one back to the entry before. -/
theorem unlink_entries (om : IndexMap K V) (e q : ℕ) (hP : om.prevOf e ≠ some e)
    (hN : om.nextOf e ≠ some e) (hPN : ∀ p, om.prevOf e = some p → om.nextOf e ≠ some p) :
    (om.unlink e).entries q =
      if q = e then (om.entries e).map fun en => { en with prev := none, next := none }
      else if some q = om.prevOf e then (om.entries q).map fun en => { en with next := om.nextOf e }
      else if some q = om.nextOf e then (om.entries q).map fun en => { en with prev := om.prevOf e }
      else om.entries q := by
  unfold unlink
  simp only [prevOf, nextOf] at hP hN hPN ⊢
  rcases Option.eq_none_or_eq_some ((om.entries e).bind Entry.prev) with hp | ⟨p, hp⟩ <;>
    rcases Option.eq_none_or_eq_some ((om.entries e).bind Entry.next) with hn | ⟨n, hn⟩
  · simp only [hp, hn, modifyEntry_apply, reduceCtorEq, if_false]
  · have hne : e ≠ n := fun h => hN (h ▸ hn)
    simp only [hp, hn, modifyEntry_apply, hne, if_false, reduceCtorEq, Option.some.injEq]
    clear hP hN hPN hp hn
    split_ifs <;> simp_all
  · have hpe : e ≠ p := fun h => hP (h ▸ hp)
    simp only [hp, hn, modifyEntry_apply, hpe, if_false, reduceCtorEq, Option.some.injEq]
    clear hP hN hPN hp hn
    split_ifs <;> simp_all
  · have hpe : e ≠ p := fun h => hP (h ▸ hp)
    have hne : e ≠ n := fun h => hN (h ▸ hn)
    have hnp : n ≠ p := fun h => hPN p hp (h ▸ hn)
    simp only [hp, hn, modifyEntry_apply, hpe, hne, hnp, if_false, Option.some.injEq]
    clear hP hN hPN hp hn
    split_ifs <;> simp_all

theorem unlink_head (om : IndexMap K V) (e : ℕ) :
    (om.unlink e).head = if om.prevOf e = none then om.nextOf e else om.head := by
  unfold unlink
  simp only [prevOf, nextOf]
  rcases Option.eq_none_or_eq_some ((om.entries e).bind Entry.prev) with hp | ⟨p, hp⟩
  · simp only [hp, if_true]
    split <;> rfl
  · simp only [hp, reduceCtorEq, if_false]
    split <;> rfl

theorem unlink_tail (om : IndexMap K V) (e : ℕ) (hP : om.prevOf e ≠ some e) :
    (om.unlink e).tail = if om.nextOf e = none then om.prevOf e else om.tail := by
  unfold unlink
  simp only [prevOf, nextOf] at hP ⊢
  rcases Option.eq_none_or_eq_some ((om.entries e).bind Entry.prev) with hp | ⟨p, hp⟩ <;>
    rcases Option.eq_none_or_eq_some ((om.entries e).bind Entry.next) with hn | ⟨n, hn⟩
  · simp only [hp, hn, if_true]
  · simp only [hp, hn, reduceCtorEq, if_false]
  · have hpe : e ≠ p := fun h => hP (h ▸ hp)
    simp only [hp, hn, modifyEntry_apply, hpe, if_false, if_true]
  · have hpe : e ≠ p := fun h => hP (h ▸ hp)
    simp only [hp, hn, modifyEntry_apply, hpe, if_false, reduceCtorEq]

theorem unlink_m (om : IndexMap K V) (e : ℕ) : (om.unlink e).m = om.m := by
  unfold unlink
  split <;> dsimp only <;> split <;> rfl

theorem unlink_length (om : IndexMap K V) (e : ℕ) : (om.unlink e).length = om.length := by
  unfold unlink
  split <;> dsimp only <;> split <;> rfl

theorem unlink_fresh (om : IndexMap K V) (e : ℕ) : (om.unlink e).fresh = om.fresh := by
  unfold unlink
  split <;> dsimp only <;> split <;> rfl

/-! ## Writes -/

variable [DecidableEq K]

/-- `Set(key, value)`. -/
def set (om : IndexMap K V) (key : K) (value : V) : IndexMap K V :=
  let om := init om
  match om.index key with
  | some e => { om with entries := modifyEntry om.entries e fun en => { en with value := value } }
  | none =>
    let e := om.fresh
    let om := { om with
      entries := Function.update om.entries e (some ⟨key, value, om.tail, none⟩)
      fresh := om.fresh + 1 }
    let om := match om.tail with
      | some t => { om with entries := modifyEntry om.entries t fun en => { en with next := some e } }
      | none => { om with head := some e }
    { om with
      tail := some e
      m := some (Function.update om.index key (some e))
      length := om.length + 1 }

/-- `Delete(key)`: the map after it, and whether the key was there. -/
def delete (om : IndexMap K V) (key : K) : IndexMap K V × Bool :=
  match om.m with
  | none => (om, false)
  | some m =>
    match m key with
    | none => (om, false)
    | some e =>
      let om := unlink om e
      ({ om with m := some (Function.update m key none), length := om.length - 1 }, true)

section SetSpec

variable (om : IndexMap K V) (key : K) (value : V)

/-- `Set` on a present key writes the value of its entry. -/
theorem set_of_index_eq_some {e : ℕ} (he : om.index key = some e) :
    om.set key value = ⟨some om.index, om.head, om.tail, om.length,
      modifyEntry om.entries e fun en => { en with value := value }, om.fresh⟩ := by
  unfold set
  simp only [index_init, he, m_init, head_init, tail_init, length_init, entries_init, fresh_init]

variable {om key} (he : om.index key = none)
include he

/-- `Set` on an absent key writes the new entry at `fresh` and points the old tail on to it. -/
theorem entries_set_of_index_eq_none (htail : om.tail ≠ some om.fresh) (q : ℕ) :
    (om.set key value).entries q =
      if q = om.fresh then some ⟨key, value, om.tail, none⟩
      else if om.tail = some q then (om.entries q).map fun en => { en with next := some om.fresh }
      else om.entries q := by
  unfold set
  simp only [index_init, he, tail_init, entries_init, fresh_init]
  rcases ht : om.tail with _ | t
  · simp only [Function.update_apply, reduceCtorEq, if_false]
  · -- the old tail is not the new entry, which is linked after it
    rw [ht] at htail
    have hne : t ≠ om.fresh := fun h => htail (h ▸ rfl)
    simp only [modifyEntry_apply, Function.update_apply, Option.some.injEq]
    by_cases hq : q = om.fresh
    · simp [hq, Ne.symm hne]
    · by_cases hqt : q = t
      · simp [hqt, hne]
      · simp [hq, hqt, Ne.symm hqt]

theorem head_set_of_index_eq_none :
    (om.set key value).head = if om.tail = none then some om.fresh else om.head := by
  unfold set
  simp only [index_init, he, tail_init, head_init, fresh_init]
  rcases om.tail with _ | t <;> rfl

theorem tail_set_of_index_eq_none : (om.set key value).tail = some om.fresh := by
  unfold set
  simp only [index_init, he, fresh_init]

theorem index_set_of_index_eq_none :
    (om.set key value).index = Function.update om.index key (some om.fresh) := by
  unfold set
  simp only [index_init, he, fresh_init]
  rcases om.init.tail with _ | t <;> simp only [index, m_init, Option.getD_some]

theorem length_set_of_index_eq_none : (om.set key value).length = om.length + 1 := by
  unfold set
  simp only [index_init, he, length_init]
  rcases om.init.tail with _ | t <;> rfl

theorem fresh_set_of_index_eq_none : (om.set key value).fresh = om.fresh + 1 := by
  unfold set
  simp only [index_init, he, fresh_init]
  rcases om.init.tail with _ | t <;> rfl

end SetSpec

theorem delete_of_index_eq_none {om : IndexMap K V} {key : K} (he : om.index key = none) :
    om.delete key = (om, false) := by
  unfold delete
  unfold index at he
  rcases hm : om.m with _ | m
  · rfl
  · rw [hm, Option.getD_some] at he
    simp only [he]

/-- `Delete` of a present key unlinks its entry and drops the key from the index. -/
theorem delete_of_index_eq_some {om : IndexMap K V} {key : K} {e : ℕ}
    (he : om.index key = some e) :
    om.delete key = (⟨some (Function.update om.index key none), (om.unlink e).head,
      (om.unlink e).tail, (om.unlink e).length - 1, (om.unlink e).entries, (om.unlink e).fresh⟩,
      true) := by
  unfold delete
  unfold index at he ⊢
  rcases hm : om.m with _ | m
  · rw [hm] at he
    cases he
  · rw [hm, Option.getD_some] at he
    simp only [he, Option.getD_some]

/-! ## The representation invariant -/

theorem ne_of_mem_dropLast {α : Type} {xs : List α} (h : xs.Nodup) {p q : α}
    (hp : p ∈ xs.getLast?) (hq : q ∈ xs.dropLast) : q ≠ p := by
  rintro rfl
  rw [← List.dropLast_append_getLast? _ hp] at h
  exact List.disjoint_of_nodup_append h hq (List.mem_singleton_self _)

theorem ne_of_mem_tail {α : Type} {xs : List α} (h : xs.Nodup) {p q : α}
    (hp : p ∈ xs.head?) (hq : q ∈ xs.tail) : q ≠ p := by
  rintro rfl
  rw [List.eq_cons_of_mem_head? hp] at h
  exact (List.nodup_cons.mp h).1 hq

/-- **The representation invariant**, over the list of cells the map stands for: the list from
`head` to `tail` links the cells' entries, the index sends each key of a cell to the cell's
entry and no other key anywhere, the keys are distinct, and no entry lies at or beyond
`fresh`. -/
structure Layout (om : IndexMap K V) (cells : List (Σ _ : K, ℕ × V)) : Prop where
  linked : Linked om.entries none cells none
  head : om.head = (cells.map addr).head?
  tail : om.tail = (cells.map addr).getLast?
  length : om.length = cells.length
  index : ∀ k, om.index k = (cells.dlookup k).map Prod.fst
  nodupKeys : cells.NodupKeys
  fresh : ∀ p, om.fresh ≤ p → om.entries p = none

section Layout

variable {om : IndexMap K V} {cells : List (Σ _ : K, ℕ × V)}

theorem Layout.addr_lt_fresh (h : Layout om cells) {c : Σ _ : K, ℕ × V} (hc : c ∈ cells) :
    addr c < om.fresh := by
  obtain ⟨en, hen, -⟩ := h.linked.entry_of_mem hc
  by_contra hge
  rw [h.fresh _ (Nat.le_of_not_lt hge)] at hen
  cases hen

theorem Layout.nodup_addr (h : Layout om cells) : (cells.map addr).Nodup :=
  h.linked.nodup_addr h.nodupKeys

/-- `Get` reads the value of the key's cell. -/
theorem Layout.get_eq (h : Layout om cells) (key : K) :
    om.get key = (cells.dlookup key).map Prod.snd := by
  rw [get_eq_index, h.index]
  rcases hfound : cells.dlookup key with _ | ⟨e, v⟩
  · rfl
  · obtain ⟨en, hen, -, hvalue⟩ := h.linked.entry_of_mem (List.of_mem_dlookup hfound)
    simp only [Option.map_some, Option.bind_some, addr] at hen ⊢
    rw [hen, Option.map_some, hvalue]

/-- `Has` finds the keys of the cells. -/
theorem Layout.has_eq (h : Layout om cells) (key : K) : om.has key = decide (key ∈ cells.keys) := by
  rw [has_eq_index, h.index, Option.isSome_map, Bool.eq_iff_iff, decide_eq_true_iff]
  exact List.dlookup_isSome

theorem Layout.len_eq (h : Layout om cells) : om.len = cells.length :=
  h.length

theorem Layout.range_eq {σ : Type} (h : Layout om cells) (fuel : ℕ) (hfuel : cells.length ≤ fuel)
    (fn : K → V → σ → σ × Bool) (s : σ) :
    om.range fuel fn s = some (InsertionOrder.forEachWhile fn (cells.map pair) s) := by
  rw [range, h.head]
  exact rangeFrom_linked h.linked fn fuel hfuel s

omit [DecidableEq K] in
theorem keys_map_pair (cs : List (Σ _ : K, ℕ × V)) : (cs.map pair).keys = cs.keys :=
  List.map₂_keys _ _

/-- The cell of an indexed key, and the cells before and after it. -/
theorem Layout.split_of_index (h : Layout om cells) {key : K} {e : ℕ}
    (he : om.index key = some e) :
    ∃ v₀ cs₁ cs₂, cells = cs₁ ++ ⟨key, (e, v₀)⟩ :: cs₂ ∧ key ∉ cs₁.keys ∧ key ∉ cs₂.keys := by
  rw [h.index, Option.map_eq_some_iff] at he
  obtain ⟨⟨e', v₀⟩, hfound, rfl⟩ := he
  obtain ⟨b, cs₁, cs₂, hk₁, hcells, -⟩ :=
    List.exists_of_kerase (List.dlookup_isSome.mp (Option.isSome_of_eq_some hfound))
  have hb : b = (e', v₀) := by
    rw [hcells, List.dlookup_append, List.dlookup_eq_none.mpr hk₁, Option.none_or,
      List.dlookup_cons_eq] at hfound
    exact Option.some.inj hfound
  have hnodup := h.nodupKeys
  rw [hcells, List.NodupKeys, List.keys_append, List.keys_cons] at hnodup
  exact ⟨v₀, cs₁, cs₂, hb ▸ hcells, hk₁,
    fun hk₂ => (List.nodup_middle.mp hnodup).notMem (List.mem_append_right _ hk₂)⟩

/-- **`Set` on a present key** keeps the invariant, with the key's value replaced in place. -/
theorem Layout.set_of_index_eq_some (h : Layout om cells) {key : K} {e : ℕ}
    (he : om.index key = some e) (value : V) :
    ∃ cells', Layout (om.set key value) cells' ∧
      cells'.map pair = InsertionOrder.insert key value (cells.map pair) := by
  obtain ⟨v₀, cs₁, cs₂, rfl, hk₁, hk₂⟩ := h.split_of_index he
  -- the entry at `e` is the only one written
  have hne : ∀ q ∈ cs₁.map addr ++ cs₂.map addr, q ≠ e := by
    have hnodup := h.nodup_addr
    rw [List.map_append, List.map_cons] at hnodup
    exact fun q hq hqe => (List.nodup_middle.mp hnodup).notMem (hqe ▸ hq)
  have haddrs : (cs₁ ++ ⟨key, (e, value)⟩ :: cs₂).map addr =
      (cs₁ ++ ⟨key, (e, v₀)⟩ :: cs₂).map addr := by
    simp only [List.map_append, List.map_cons, addr]
  rw [set_of_index_eq_some _ _ _ he]
  refine ⟨cs₁ ++ ⟨key, (e, value)⟩ :: cs₂, ⟨?_, ?_, ?_, ?_, ?_, ?_, ?_⟩, ?_⟩
  case refine_1 =>
    dsimp only
    have hl := h.linked
    rw [linked_append, linked_cons] at hl ⊢
    obtain ⟨hl₁, hl₂, hl₃⟩ := hl
    refine ⟨hl₁.frame fun q hq => ?_, ?_, hl₃.frame fun q hq => ?_⟩
    · rw [modifyEntry_apply, if_neg (hne q (List.mem_append_left _ hq))]
    · show modifyEntry om.entries e _ e = _
      rw [modifyEntry_apply, if_pos rfl]
      change Option.map _ (om.entries (addr ⟨key, (e, v₀)⟩)) = _
      rw [hl₂]
      rfl
    · rw [modifyEntry_apply, if_neg (hne q (List.mem_append_right _ hq))]
  case refine_2 => rw [haddrs]; exact h.head
  case refine_3 => rw [haddrs]; exact h.tail
  case refine_4 => show om.length = _; rw [h.length]; simp
  case refine_5 =>
    intro k
    show om.index k = _
    rw [h.index, List.dlookup_append, List.dlookup_append]
    by_cases hk : k = key
    · subst hk
      rw [List.dlookup_cons_eq, List.dlookup_cons_eq]
      cases (cs₁.dlookup k) <;> rfl
    · rw [List.dlookup_cons_ne _ _ hk, List.dlookup_cons_ne _ _ hk]
  case refine_6 =>
    have hnodup := h.nodupKeys
    simp only [List.NodupKeys, List.keys_append, List.keys_cons] at hnodup ⊢
    exact hnodup
  case refine_7 => exact fun p hp => modifyEntry_eq_none (h.fresh p hp)
  case refine_8 =>
    have hkeys : key ∈ (List.map pair (cs₁ ++ ⟨key, (e, v₀)⟩ :: cs₂)).keys := by
      rw [keys_map_pair]
      simp [List.keys_append, List.keys_cons]
    rw [InsertionOrder.insert_of_mem hkeys, List.map_append, List.map_cons, List.map_append,
      List.map_cons]
    exact (InsertionOrder.kreplace_append_cons (by rwa [keys_map_pair])).symm

/-- **`Set` on an absent key** keeps the invariant, with the key appended. -/
theorem Layout.set_of_index_eq_none (h : Layout om cells) {key : K} (he : om.index key = none)
    (value : V) : Layout (om.set key value) (cells ++ [⟨key, (om.fresh, value)⟩]) := by
  have hk : key ∉ cells.keys := by
    rw [h.index, Option.map_eq_none_iff] at he
    exact List.dlookup_eq_none.mp he
  have hlt : ∀ q ∈ cells.map addr, q < om.fresh := by
    intro q hq
    obtain ⟨c, hc, rfl⟩ := List.mem_map.mp hq
    exact h.addr_lt_fresh hc
  have htail : om.tail ≠ some om.fresh := fun ht =>
    lt_irrefl _ (hlt _ (List.mem_of_getLast? (h.tail ▸ ht)))
  have hentries := entries_set_of_index_eq_none value he htail
  refine ⟨?linked, ?head, ?tail, ?length, ?index, ?nodupKeys, ?fresh⟩
  case linked =>
    rw [linked_append]
    refine ⟨h.linked.setLastNext (fun q hq => ?_) (fun q hq => ?_), ?_⟩
    · -- an entry before the old tail is left alone
      have hq' := hlt q ((List.dropLast_sublist _).subset hq)
      have hnot : om.tail ≠ some q := by
        rw [h.tail]
        intro hlast
        exact ne_of_mem_dropLast h.nodup_addr hlast hq rfl
      rw [hentries, if_neg (by omega), if_neg hnot]
    · -- the old tail points on to the new entry
      have hq' := hlt q (List.mem_of_getLast? hq)
      rw [hentries, if_neg (by omega), if_pos (h.tail ▸ hq)]
      rfl
    · rw [linked_cons]
      refine ⟨?_, trivial⟩
      show (om.set key value).entries om.fresh = _
      rw [hentries, if_pos rfl, h.tail, Option.or_none]
      rfl
  case head =>
    rw [head_set_of_index_eq_none value he]
    split
    case isTrue hnone =>
      rw [h.tail, List.getLast?_eq_none_iff, List.map_eq_nil_iff] at hnone
      subst hnone
      rfl
    case isFalse hsome =>
      rw [h.tail, List.getLast?_eq_none_iff] at hsome
      rw [h.head, List.map_append, List.head?_append_of_ne_nil _ hsome]
  case tail =>
    rw [tail_set_of_index_eq_none value he, List.map_append, List.getLast?_append]
    rfl
  case length =>
    rw [length_set_of_index_eq_none value he, h.length, List.length_append, List.length_singleton]
    push_cast
    rfl
  case index =>
    intro k
    rw [index_set_of_index_eq_none value he, List.dlookup_append]
    by_cases hkk : k = key
    · subst hkk
      rw [Function.update_self, List.dlookup_eq_none.mpr hk, Option.none_or, List.dlookup_cons_eq]
      rfl
    · rw [Function.update_of_ne hkk, h.index, List.dlookup_cons_ne _ _ hkk, List.dlookup_nil,
        Option.or_none]
  case nodupKeys =>
    unfold List.NodupKeys
    rw [List.keys_append, List.keys_cons, List.keys_nil]
    exact h.nodupKeys.append (List.nodup_singleton key) (List.disjoint_singleton.mpr hk)
  case fresh =>
    intro p hp
    rw [fresh_set_of_index_eq_none value he] at hp
    have hnot : om.tail ≠ some p := fun ht => by
      have := hlt p (List.mem_of_getLast? (h.tail ▸ ht))
      omega
    rw [hentries, if_neg (by omega), if_neg hnot, h.fresh p (by omega)]

/-- **`Set` keeps the invariant**, and writes its pair into the list as `insert` does. -/
theorem Layout.set (h : Layout om cells) (key : K) (value : V) :
    ∃ cells', Layout (om.set key value) cells' ∧
      cells'.map pair = InsertionOrder.insert key value (cells.map pair) := by
  rcases he : om.index key with _ | e
  · refine ⟨_, h.set_of_index_eq_none he value, ?_⟩
    have hk : key ∉ (cells.map pair).keys := by
      rw [keys_map_pair, ← List.dlookup_eq_none]
      rw [h.index, Option.map_eq_none_iff] at he
      exact he
    rw [InsertionOrder.insert_of_notMem hk, List.map_append]
    rfl
  · exact h.set_of_index_eq_some he value

/-- **`Delete` of a present key** keeps the invariant, with the key's cell taken out. -/
theorem Layout.delete_of_index_eq_some (h : Layout om cells) {key : K} {e : ℕ}
    (he : om.index key = some e) : Layout (om.delete key).1 (cells.kerase key) := by
  obtain ⟨v₀, cs₁, cs₂, rfl, hk₁, -⟩ := h.split_of_index he
  have hkerase : (cs₁ ++ ⟨key, (e, v₀)⟩ :: cs₂).kerase key = cs₁ ++ cs₂ := by
    rw [List.kerase_append_right hk₁,
      List.kerase_cons_eq (rfl : key = (⟨key, (e, v₀)⟩ : Σ _ : K, ℕ × V).1)]
  rw [delete_of_index_eq_some he, hkerase]
  have hl := h.linked
  rw [linked_append, linked_cons] at hl
  obtain ⟨hl₁, hl₂, hl₃⟩ := hl
  -- the neighbours of `e` are the last entry before it and the first after it
  have hprev : om.prevOf e = (cs₁.map addr).getLast? := by
    rw [prevOf, show e = addr ⟨key, (e, v₀)⟩ from rfl, hl₂, Option.bind_some, Option.or_none]
  have hnext : om.nextOf e = (cs₂.map addr).head? := by
    rw [nextOf, show e = addr ⟨key, (e, v₀)⟩ from rfl, hl₂, Option.bind_some]
    exact Option.or_none
  have hnd := h.nodup_addr
  rw [List.map_append, List.map_cons, List.nodup_middle, List.nodup_cons, List.nodup_append]
    at hnd
  obtain ⟨he_notin, hnd₁, hnd₂, hdisj⟩ := hnd
  have he₁ : ∀ q ∈ cs₁.map addr, q ≠ e := fun q hq hqe =>
    he_notin (List.mem_append_left _ (hqe ▸ hq))
  have he₂ : ∀ q ∈ cs₂.map addr, q ≠ e := fun q hq hqe =>
    he_notin (List.mem_append_right _ (hqe ▸ hq))
  have hP : om.prevOf e ≠ some e := fun hp =>
    he₁ e (List.mem_of_getLast? (hprev ▸ hp)) rfl
  have hN : om.nextOf e ≠ some e := fun hn =>
    he₂ e (List.mem_of_mem_head? (hnext ▸ hn)) rfl
  have hPN : ∀ p, om.prevOf e = some p → om.nextOf e ≠ some p := fun p hp hn =>
    hdisj p (List.mem_of_getLast? (hprev ▸ hp)) p (List.mem_of_mem_head? (hnext ▸ hn)) rfl
  have hentries := fun q => unlink_entries om e q hP hN hPN
  refine ⟨?linked, ?head, ?tail, ?length, ?index, ?nodupKeys, ?fresh⟩
  case linked =>
    rw [linked_append]
    refine ⟨hl₁.setLastNext (fun q hq => ?_) (fun q hq => ?_),
      hl₃.setFirstPrev (fun q hq => ?_) (fun q hq => ?_)⟩
    · -- an entry before the last one of the first part is left alone
      have hq₁ := (List.dropLast_sublist _).subset hq
      have hnotprev : some q ≠ om.prevOf e := by
        rw [hprev]
        exact fun hp => ne_of_mem_dropLast hnd₁ hp.symm hq rfl
      have hnotnext : some q ≠ om.nextOf e := by
        rw [hnext]
        exact fun hn => hdisj q hq₁ q (List.mem_of_mem_head? hn.symm) rfl
      rw [hentries, if_neg (he₁ q hq₁), if_neg hnotprev, if_neg hnotnext]
    · -- the last entry of the first part points on to the first of the second
      rw [hentries, if_neg (he₁ q (List.mem_of_getLast? hq)), if_pos (hprev ▸ hq).symm, hnext,
        Option.or_none]
    · -- an entry after the first one of the second part is left alone
      have hq₂ := List.mem_of_mem_tail hq
      have hnotprev : some q ≠ om.prevOf e := by
        rw [hprev]
        exact fun hp => hdisj q (List.mem_of_getLast? hp.symm) q hq₂ rfl
      have hnotnext : some q ≠ om.nextOf e := by
        rw [hnext]
        exact fun hn => ne_of_mem_tail hnd₂ hn.symm hq rfl
      rw [hentries, if_neg (he₂ q hq₂), if_neg hnotprev, if_neg hnotnext]
    · -- the first entry of the second part points back to the last of the first
      have hq₂ := List.mem_of_mem_head? hq
      have hnotprev : some q ≠ om.prevOf e := by
        rw [hprev]
        exact fun hp => hdisj q (List.mem_of_getLast? hp.symm) q hq₂ rfl
      rw [hentries, if_neg (he₂ q hq₂), if_neg hnotprev, if_pos (hnext ▸ hq).symm, hprev,
        Option.or_none]
  case head =>
    show (om.unlink e).head = _
    rw [unlink_head, hprev, List.map_append]
    split
    case isTrue hnone =>
      rw [List.getLast?_eq_none_iff] at hnone
      rw [hnone, hnext, List.nil_append]
    case isFalse hsome =>
      rw [List.getLast?_eq_none_iff] at hsome
      rw [h.head, List.map_append, List.head?_append_of_ne_nil _ hsome,
        List.head?_append_of_ne_nil _ hsome]
  case tail =>
    show (om.unlink e).tail = _
    rw [unlink_tail om e hP, hnext, List.map_append]
    split
    case isTrue hnone =>
      rw [List.head?_eq_none_iff] at hnone
      rw [hnone, hprev, List.append_nil]
    case isFalse hsome =>
      rw [List.head?_eq_none_iff] at hsome
      rw [h.tail, List.map_append, List.map_cons, List.getLast?_append_of_ne_nil _ hsome,
        List.getLast?_append_of_ne_nil _ (List.cons_ne_nil _ _), List.getLast?_cons]
      cases hlast : (cs₂.map addr).getLast? with
      | none => exact absurd (List.getLast?_eq_none_iff.mp hlast) hsome
      | some x => rfl
  case length =>
    show (om.unlink e).length - 1 = _
    rw [unlink_length, h.length]
    simp only [List.length_append, List.length_cons]
    push_cast
    omega
  case index =>
    intro k
    show Function.update om.index key none k = _
    rw [← hkerase]
    by_cases hkk : k = key
    · subst hkk
      rw [Function.update_self, List.dlookup_kerase _ h.nodupKeys, Option.map_none]
    · rw [Function.update_of_ne hkk, h.index, List.dlookup_kerase_ne hkk]
  case nodupKeys => exact hkerase ▸ h.nodupKeys.kerase key
  case fresh =>
    intro p hp
    rw [unlink_fresh] at hp
    have hnone := h.fresh p hp
    show (om.unlink e).entries p = none
    rw [hentries]
    split_ifs with hpe
    · rw [← hpe, hnone, Option.map_none]
    all_goals simp only [hnone, Option.map_none]

/-- **`Delete` keeps the invariant**, takes the key's pair out of the list, and answers whether
the key was there. -/
theorem Layout.delete (h : Layout om cells) (key : K) :
    Layout (om.delete key).1 (cells.kerase key) ∧ (om.delete key).2 = decide (key ∈ cells.keys) := by
  rcases he : om.index key with _ | e
  · have hk : key ∉ cells.keys := by
      rw [h.index, Option.map_eq_none_iff] at he
      exact List.dlookup_eq_none.mp he
    rw [delete_of_index_eq_none he, List.kerase_of_notMem_keys hk]
    exact ⟨h, by simp [hk]⟩
  · refine ⟨h.delete_of_index_eq_some he, ?_⟩
    have hk : key ∈ cells.keys := by
      rw [h.index, Option.map_eq_some_iff] at he
      obtain ⟨_, hfound, -⟩ := he
      exact List.dlookup_isSome.mp (Option.isSome_of_eq_some hfound)
    rw [IndexMap.delete_of_index_eq_some he]
    simp [hk]

theorem Layout.keys_eq (h : Layout om cells) (fuel : ℕ) (hfuel : cells.length ≤ fuel) :
    om.keys fuel = some cells.keys := by
  rw [keys, h.head, rangeFrom_linked h.linked _ fuel hfuel, InsertionOrder.forEachWhile_keys,
    List.nil_append, keys_map_pair]

theorem Layout.values_eq (h : Layout om cells) (fuel : ℕ) (hfuel : cells.length ≤ fuel) :
    om.values fuel = some ((cells.map pair).map Sigma.snd) := by
  rw [values, h.head, rangeFrom_linked h.linked _ fuel hfuel, InsertionOrder.forEachWhile_values,
    List.nil_append]

theorem layout_zero : Layout (zero : IndexMap K V) [] :=
  ⟨trivial, rfl, rfl, rfl, fun _ => rfl, List.nodupKeys_nil, fun _ _ => rfl⟩

theorem layout_new (cap : ℤ) : Layout (new cap : IndexMap K V) [] :=
  ⟨trivial, rfl, rfl, rfl, fun _ => rfl, List.nodupKeys_nil, fun _ _ => rfl⟩

end Layout

theorem kerase_map_pair (k : K) (cs : List (Σ _ : K, ℕ × V)) :
    (cs.kerase k).map pair = (cs.map pair).kerase k := by
  induction cs with
  | nil => rfl
  | cons c cs ih =>
    by_cases hk : k = c.1
    · have hk' : k = (pair c).1 := hk
      rw [List.kerase_cons_eq hk, List.map_cons, List.kerase_cons_eq hk']
    · have hk' : k ≠ (pair c).1 := hk
      rw [List.kerase_cons_ne hk, List.map_cons, List.map_cons, List.kerase_cons_ne hk', ih]

/-! ## Runs of writes -/

/-- The writes of an `IndexMap`. -/
inductive Op (K V : Type) where
  /-- `Set(key, value)`. -/
  | set (key : K) (value : V)
  /-- `Delete(key)`. -/
  | delete (key : K)

/-- A write on the map. -/
def Op.apply : Op K V → IndexMap K V → IndexMap K V
  | .set key value, om => om.set key value
  | .delete key, om => (om.delete key).1

/-- What a write does to the list of pairs the map stands for. -/
def Op.applySpec : Op K V → List (Σ _ : K, V) → List (Σ _ : K, V)
  | .set key value, l => InsertionOrder.insert key value l
  | .delete key, l => l.kerase key

/-- The writes run one after the other. -/
def runOps (ops : List (Op K V)) (om : IndexMap K V) : IndexMap K V :=
  ops.foldl (fun om op => op.apply om) om

/-- The list of pairs the writes leave, from no pairs. -/
def specRun (ops : List (Op K V)) : List (Σ _ : K, V) :=
  ops.foldl (fun l op => op.applySpec l) []

/-- The map keeps its invariant and stands for the list `l`. -/
def Refines (om : IndexMap K V) (l : List (Σ _ : K, V)) : Prop :=
  ∃ cells, Layout om cells ∧ cells.map pair = l

/-- **One write refines its abstract step.** -/
theorem Refines.apply {om : IndexMap K V} {l : List (Σ _ : K, V)} (h : Refines om l)
    (op : Op K V) : Refines (op.apply om) (op.applySpec l) := by
  obtain ⟨cells, hlayout, rfl⟩ := h
  cases op with
  | set key value => exact hlayout.set key value
  | delete key => exact ⟨_, (hlayout.delete key).1, kerase_map_pair key cells⟩

/-- **A run of writes refines the abstract run.** -/
theorem Refines.runOps {om : IndexMap K V} {l : List (Σ _ : K, V)} (h : Refines om l)
    (ops : List (Op K V)) : Refines (runOps ops om) (ops.foldl (fun l op => op.applySpec l) l) := by
  induction ops generalizing om l with
  | nil => exact h
  | cons op ops ih => exact ih (h.apply op)

section Reads

variable {om : IndexMap K V} {l : List (Σ _ : K, V)}

theorem Refines.nodupKeys (h : Refines om l) : l.NodupKeys := by
  obtain ⟨cells, hlayout, rfl⟩ := h
  exact hlayout.nodupKeys.map₂ _

theorem Refines.get_eq (h : Refines om l) (key : K) : om.get key = l.dlookup key := by
  obtain ⟨cells, hlayout, rfl⟩ := h
  rw [hlayout.get_eq, pair, List.dlookup_map₂]

theorem Refines.has_eq (h : Refines om l) (key : K) : om.has key = decide (key ∈ l.keys) := by
  obtain ⟨cells, hlayout, rfl⟩ := h
  rw [hlayout.has_eq, keys_map_pair]

theorem Refines.len_eq (h : Refines om l) : om.len = l.length := by
  obtain ⟨cells, hlayout, rfl⟩ := h
  rw [hlayout.len_eq, List.length_map]

theorem Refines.delete_found (h : Refines om l) (key : K) :
    (om.delete key).2 = decide (key ∈ l.keys) := by
  obtain ⟨cells, hlayout, rfl⟩ := h
  rw [(hlayout.delete key).2, keys_map_pair]

theorem Refines.keys_eq (h : Refines om l) (fuel : ℕ) (hfuel : l.length ≤ fuel) :
    om.keys fuel = some l.keys := by
  obtain ⟨cells, hlayout, rfl⟩ := h
  rw [List.length_map] at hfuel
  rw [hlayout.keys_eq fuel hfuel, keys_map_pair]

theorem Refines.values_eq (h : Refines om l) (fuel : ℕ) (hfuel : l.length ≤ fuel) :
    om.values fuel = some (l.map Sigma.snd) := by
  obtain ⟨cells, hlayout, rfl⟩ := h
  rw [List.length_map] at hfuel
  exact hlayout.values_eq fuel hfuel

theorem Refines.range_eq {σ : Type} (h : Refines om l) (fuel : ℕ) (hfuel : l.length ≤ fuel)
    (fn : K → V → σ → σ × Bool) (s : σ) :
    om.range fuel fn s = some (InsertionOrder.forEachWhile fn l s) := by
  obtain ⟨cells, hlayout, rfl⟩ := h
  rw [List.length_map] at hfuel
  exact hlayout.range_eq fuel hfuel fn s

end Reads

/-- **`IndexMap` refines an insertion-ordered list of pairs.** After any run of `Set` and `Delete`
from `New` or the zero value, the map keeps its representation invariant over the list the
abstract writes leave, whose keys are distinct; `Get`, `Has`, `Len` and the answer of `Delete`
read that list; and `Keys`, `Values` and `Range` walk it in order, ending within its length. -/
theorem runOps_refines (ops : List (Op K V)) (om₀ : IndexMap K V)
    (h₀ : om₀ = zero ∨ ∃ cap, om₀ = new cap) :
    Refines (runOps ops om₀) (specRun ops) ∧ (specRun ops).NodupKeys ∧
      (∀ key, (runOps ops om₀).get key = (specRun ops).dlookup key) ∧
      (∀ key, (runOps ops om₀).has key = decide (key ∈ (specRun ops).keys)) ∧
      (runOps ops om₀).len = (specRun ops).length ∧
      (∀ key, ((runOps ops om₀).delete key).2 = decide (key ∈ (specRun ops).keys)) ∧
      ∀ fuel, (specRun ops).length ≤ fuel →
        (runOps ops om₀).keys fuel = some (specRun ops).keys ∧
        (runOps ops om₀).values fuel = some ((specRun ops).map Sigma.snd) ∧
        ∀ {σ : Type} (fn : K → V → σ → σ × Bool) (s : σ),
          (runOps ops om₀).range fuel fn s = some (InsertionOrder.forEachWhile fn (specRun ops) s) := by
  have hstart : Refines om₀ [] := by
    rcases h₀ with rfl | ⟨cap, rfl⟩
    · exact ⟨[], layout_zero, rfl⟩
    · exact ⟨[], layout_new cap, rfl⟩
  have h := hstart.runOps ops
  exact ⟨h, h.nodupKeys, h.get_eq, h.has_eq, h.len_eq, h.delete_found,
    fun fuel hfuel => ⟨h.keys_eq fuel hfuel, h.values_eq fuel hfuel,
      fun fn s => h.range_eq fuel hfuel fn s⟩⟩

/-- Two keys set, the first deleted and set again, the second overwritten. -/
def reinsertOps : List (Op ℕ ℕ) :=
  [.set 1 10, .set 2 20, .delete 1, .set 1 11, .set 2 21]

theorem runOps_refines_reinsert :
    Refines (runOps reinsertOps zero) (specRun reinsertOps) ∧ (specRun reinsertOps).NodupKeys ∧
      (∀ key, (runOps reinsertOps zero).get key = (specRun reinsertOps).dlookup key) ∧
      (∀ key, (runOps reinsertOps zero).has key = decide (key ∈ (specRun reinsertOps).keys)) ∧
      (runOps reinsertOps zero).len = (specRun reinsertOps).length ∧
      (∀ key, ((runOps reinsertOps zero).delete key).2 =
        decide (key ∈ (specRun reinsertOps).keys)) ∧
      ∀ fuel, (specRun reinsertOps).length ≤ fuel →
        (runOps reinsertOps zero).keys fuel = some (specRun reinsertOps).keys ∧
        (runOps reinsertOps zero).values fuel = some ((specRun reinsertOps).map Sigma.snd) ∧
        ∀ {σ : Type} (fn : ℕ → ℕ → σ → σ × Bool) (s : σ),
          (runOps reinsertOps zero).range fuel fn s =
            some (InsertionOrder.forEachWhile fn (specRun reinsertOps) s) :=
  runOps_refines reinsertOps zero (Or.inl rfl)

/-- The re-inserted key comes last; the overwritten one keeps its place. -/
example : (runOps reinsertOps zero).keys 2 = some [2, 1] ∧
    (runOps reinsertOps zero).values 2 = some [21, 11] := by
  decide

end IndexMap

end Gtos
