import Gtos.Lease.Solvency

/-! # The prune queue's invariant

Every live lease is queued: its metadata names the epoch after the one its grace window ends in
and a position of that epoch's queue, which holds the lease's address, lies below the epoch's
count and not below its cursor; the head epoch is set and lies at or before the lease's epoch
(`QueueInv`). The sweep walks the queue from the head, and a lease it reaches is prunable, so the
sweep leaves no live lease behind the position it stops at (`SweepAt`).

The invariant needs the prune epoch not to wrap: `PruneEpoch` adds one to `graceUntil / length`
in `uint64`, which wraps to epoch zero for a grace window that ends at `MaxUint64` with epochs of
one block. With such a configuration a lease is scheduled in epoch zero, behind any head, and the
sweep never reaches it (`prune_epoch_wraps`). The invariant holds over every run in which no prune
epoch wraps (`NoWrapRun`, `queueInv_runEvents`): with epochs of two blocks or more that is every run,
and with epochs of one block every run with no grace window and no sweep at `MaxUint64`.

The counts of the queues are `uint64`s that an append increments: the invariant carries a bound
`n` on every count, which a run of `k` events raises by at most `k`. -/

namespace Gtos.Lease

open Gtos.Core Gtos.Sysaction

section Defs

variable (keccak256 : List UInt8 → Hash) (dposEpoch : ℕ) (A : Finset Address)

/-- **The queue position of a live lease** with metadata `m`. -/
structure Queued (s : StateDB) (a : Address) (m : Meta) : Prop where
  /-- The lease is queued in the epoch its grace window schedules it in. -/
  epoch_eq : m.scheduledPruneEpoch = pruneEpoch m.graceUntilBlock (epochLength dposEpoch)
  /-- The position holds the lease's address. -/
  entry_eq : readPruneEntry keccak256 s m.scheduledPruneEpoch m.scheduledPruneSeq = a
  /-- The position is below the epoch's count. -/
  seq_lt : m.scheduledPruneSeq < readPruneEntryCount keccak256 s m.scheduledPruneEpoch
  /-- The sweep has not passed the position. -/
  cursor_le : readPruneCursor keccak256 s m.scheduledPruneEpoch ≤ m.scheduledPruneSeq

/-- The parts of the invariant about the queue's words alone, with every count at most `n`. -/
structure QueueFrame (n : ℕ) (s : StateDB) : Prop where
  cursor_le_count : ∀ e < 2 ^ 64, readPruneCursor keccak256 s e ≤ readPruneEntryCount keccak256 s e
  count_le : ∀ e < 2 ^ 64, readPruneEntryCount keccak256 s e ≤ n
  entries : EntriesWithin keccak256 A s
  /-- A tombstoned lease has no metadata. -/
  tombstone : ∀ a ∈ A, hasTombstone keccak256 s a = true → readMeta keccak256 s a = none

/-- **The prune queue's invariant** over the leases of `A`. -/
structure QueueInv (n : ℕ) (s : StateDB) : Prop extends QueueFrame keccak256 A n s where
  queued : ∀ a ∈ A, ∀ m, readMeta keccak256 s a = some m → Queued keccak256 dposEpoch s a m
  /-- The head is set, and lies at or before every live lease's epoch. -/
  pending : ∀ a ∈ A, ∀ m, readMeta keccak256 s a = some m →
    0 < readPruneHeadEpoch keccak256 s ∧ readPruneHeadEpoch keccak256 s ≤ m.scheduledPruneEpoch

/-- The `i`-th event of the run `evs` from `s` tombstones the lease at `a`. A sweep prunes a lease
by tombstoning it, clearing its metadata and destroying its contract at once. -/
def PrunedAt (s : StateDB) (evs : List LeaseEvent) (a : Address) (i : ℕ) : Prop :=
  hasTombstone keccak256 (runEvents keccak256 dposEpoch s (evs.take i)) a = false ∧
    hasTombstone keccak256 (runEvents keccak256 dposEpoch s (evs.take (i + 1))) a = true

/-- The lease's queue position `(e, q)` is not before the position `(ep, c)`. -/
def NotBefore (m : Meta) (ep c : ℕ) : Prop :=
  ep < m.scheduledPruneEpoch ∨ m.scheduledPruneEpoch = ep ∧ c ≤ m.scheduledPruneSeq

/-- **The sweep's invariant** at position `c` of epoch `ep`: every live lease is queued at or
after the position. -/
structure SweepAt (n ep c : ℕ) (t : StateDB) : Prop extends QueueFrame keccak256 A n t where
  ep_pos : 0 < ep
  queued : ∀ a ∈ A, ∀ m, readMeta keccak256 t a = some m →
    Queued keccak256 dposEpoch t a m ∧ NotBefore m ep c

end Defs

/-! ## States with the same registry storage -/

section Congr

variable {keccak256 : List UInt8 → Hash} {dposEpoch : ℕ} {A : Finset Address} {n : ℕ}
  {s s' : StateDB} (h : s'.storage leaseRegistryAddress = s.storage leaseRegistryAddress)
include h

theorem readMeta_congr (a : Address) : readMeta keccak256 s' a = readMeta keccak256 s a := by
  rw [readMeta_eq, readMeta_eq, keyed_eq_of_storage keccak256 h]

theorem readPruneEntry_congr (e q : ℕ) :
    readPruneEntry keccak256 s' e q = readPruneEntry keccak256 s e q := by
  rw [readPruneEntry_eq, readPruneEntry_eq, keyed_eq_of_storage keccak256 h]

theorem readPruneEntryCount_congr (e : ℕ) :
    readPruneEntryCount keccak256 s' e = readPruneEntryCount keccak256 s e := by
  rw [readPruneEntryCount_eq, readPruneEntryCount_eq, keyed_eq_of_storage keccak256 h]

theorem readPruneCursor_congr (e : ℕ) :
    readPruneCursor keccak256 s' e = readPruneCursor keccak256 s e := by
  rw [readPruneCursor_eq, readPruneCursor_eq, keyed_eq_of_storage keccak256 h]

theorem readPruneHeadEpoch_congr :
    readPruneHeadEpoch keccak256 s' = readPruneHeadEpoch keccak256 s := by
  rw [readPruneHeadEpoch_eq, readPruneHeadEpoch_eq, keyed_eq_of_storage keccak256 h]

theorem hasTombstone_congr (a : Address) :
    hasTombstone keccak256 s' a = hasTombstone keccak256 s a := by
  rw [hasTombstone_eq, hasTombstone_eq, keyed_eq_of_storage keccak256 h]

theorem QueueFrame.congr (hs : QueueFrame keccak256 A n s) : QueueFrame keccak256 A n s' where
  cursor_le_count e he := by
    rw [readPruneCursor_congr h, readPruneEntryCount_congr h]
    exact hs.cursor_le_count e he
  count_le e he := by
    rw [readPruneEntryCount_congr h]
    exact hs.count_le e he
  entries := hs.entries.congr keccak256 A h
  tombstone a ha ht := by
    rw [hasTombstone_congr h] at ht
    rw [readMeta_congr h]
    exact hs.tombstone a ha ht

theorem Queued.congr {a : Address} {m : Meta} (hq : Queued keccak256 dposEpoch s a m) :
    Queued keccak256 dposEpoch s' a m where
  epoch_eq := hq.epoch_eq
  entry_eq := by rw [readPruneEntry_congr h]; exact hq.entry_eq
  seq_lt := by rw [readPruneEntryCount_congr h]; exact hq.seq_lt
  cursor_le := by rw [readPruneCursor_congr h]; exact hq.cursor_le

/-- The invariant reads the registry's storage only. -/
theorem QueueInv.congr (hs : QueueInv keccak256 dposEpoch A n s) :
    QueueInv keccak256 dposEpoch A n s' where
  toQueueFrame := hs.toQueueFrame.congr h
  queued a ha m hm := by
    rw [readMeta_congr h] at hm
    exact (hs.queued a ha m hm).congr h
  pending a ha m hm := by
    rw [readMeta_congr h] at hm
    rw [readPruneHeadEpoch_congr h]
    exact hs.pending a ha m hm

end Congr

theorem QueueFrame.mono {keccak256 : List UInt8 → Hash} {A : Finset Address} {n n' : ℕ}
    {s : StateDB} (hn : n ≤ n') (hs : QueueFrame keccak256 A n s) : QueueFrame keccak256 A n' s :=
  { hs with count_le := fun e he => (hs.count_le e he).trans hn }

theorem QueueInv.mono {keccak256 : List UInt8 → Hash} {dposEpoch : ℕ} {A : Finset Address}
    {n n' : ℕ} {s : StateDB} (hn : n ≤ n') (hs : QueueInv keccak256 dposEpoch A n s) :
    QueueInv keccak256 dposEpoch A n' s :=
  { hs with toQueueFrame := hs.toQueueFrame.mono hn }

/-! ## Scheduling a lease -/

section Schedule

variable {keccak256 : List UInt8 → Hash} {dposEpoch : ℕ} {A : Finset Address}
  (hslots : LeaseSlotsDistinct keccak256 A)
include hslots

/-- **Scheduling a lease keeps the invariant**: the lease goes to the end of its epoch's queue,
the head moves back to that epoch if it lies after it, and no other lease's position changes. The
lease's prune epoch must not wrap to zero, which would put it behind the head. -/
theorem QueueInv.scheduleAndWrite {n : ℕ} (hn : n + 1 < 2 ^ 64) {t : StateDB} {a : Address}
    (ha : a ∈ A) {m : Meta} (hg : m.graceUntilBlock < 2 ^ 64)
    (hw : m.graceUntilBlock / epochLength dposEpoch + 1 < 2 ^ 64)
    (htomb : hasTombstone keccak256 t a = false) (ht : QueueInv keccak256 dposEpoch A n t) :
    QueueInv keccak256 dposEpoch A (n + 1) (Gtos.Lease.scheduleAndWrite keccak256 dposEpoch t a m) := by
  obtain ⟨E, hE⟩ : ∃ E, pruneEpoch m.graceUntilBlock (epochLength dposEpoch) = E := ⟨_, rfl⟩
  obtain ⟨S, hS⟩ : ∃ S, readPruneEntryCount keccak256 t E = S := ⟨_, rfl⟩
  set u := Gtos.Lease.scheduleAndWrite keccak256 dposEpoch t a m
  have hElt : E < 2 ^ 64 := hE ▸ pruneEpoch_lt _ _
  have hEpos : 0 < E := by
    rw [← hE, pruneEpoch_of_lt (epochLength_pos dposEpoch) hw]
    exact Nat.succ_pos _
  have hSn : S ≤ n := hS ▸ ht.count_le E hElt
  -- the words of the queue after the append
  have hentry : ∀ e q, e < 2 ^ 64 → q < 2 ^ 64 →
      readPruneEntry keccak256 u e q = if e = E ∧ q = S then a else readPruneEntry keccak256 t e q :=
    fun e q he hq => by rw [readPruneEntry_scheduleAndWrite dposEpoch hslots ha t m he hq, hE, hS]
  have hcount : ∀ e < 2 ^ 64,
      readPruneEntryCount keccak256 u e = if e = E then S + 1 else readPruneEntryCount keccak256 t e :=
    fun e he => by
      rw [readPruneEntryCount_scheduleAndWrite dposEpoch hslots ha t m he, hE, hS,
        Nat.mod_eq_of_lt (by omega)]
  have hcursor : ∀ e < 2 ^ 64, readPruneCursor keccak256 u e = readPruneCursor keccak256 t e :=
    fun e he => readPruneCursor_scheduleAndWrite dposEpoch hslots ha t m he
  have hhead : readPruneHeadEpoch keccak256 u =
      if readPruneHeadEpoch keccak256 t = 0 ∨ E < readPruneHeadEpoch keccak256 t then E
      else readPruneHeadEpoch keccak256 t := by
    rw [readPruneHeadEpoch_scheduleAndWrite dposEpoch hslots ha t m, hE]
  -- the metadata after the write: the lease's own, with its position, and the others'
  have hself : ∀ M, readMeta keccak256 u a = some M →
      M.scheduledPruneEpoch = E ∧ M.scheduledPruneSeq = S ∧ M.graceUntilBlock = m.graceUntilBlock := by
    intro M hM
    rw [readMeta_scheduleAndWrite dposEpoch hslots ha ha, if_pos rfl, scheduleMeta_snd] at hM
    cases hM
    simp only [Meta.stored, hE, hS]
    exact ⟨Nat.mod_eq_of_lt hElt, Nat.mod_eq_of_lt (by omega), Nat.mod_eq_of_lt hg⟩
  have hother : ∀ b ∈ A, b ≠ a → readMeta keccak256 u b = readMeta keccak256 t b :=
    fun b hb hba => by rw [readMeta_scheduleAndWrite dposEpoch hslots ha hb, if_neg hba]
  refine ⟨⟨fun e he => ?_, fun e he => ?_, EntriesWithin.scheduleAndWrite dposEpoch hslots ha m ht.entries,
    fun b hb hbt => ?_⟩, fun b hb M hM => ?_, fun b hb M hM => ?_⟩
  · -- cursors stay at most the counts, which only grow
    rw [hcursor e he, hcount e he]
    have := ht.cursor_le_count e he
    split_ifs with heE
    · subst heE
      omega
    · exact this
  · rw [hcount e he]
    have := ht.count_le e he
    split_ifs <;> omega
  · -- the written lease had no tombstone, and the others keep theirs
    rw [hasTombstone_scheduleAndWrite dposEpoch hslots ha hb] at hbt
    by_cases hba : b = a
    · subst hba
      rw [htomb] at hbt
      cases hbt
    · rw [hother b hb hba]
      exact ht.tombstone b hb hbt
  · by_cases hba : b = a
    · subst hba
      obtain ⟨hMe, hMs, hMg⟩ := hself M hM
      refine ⟨by rw [hMe, hMg, hE], ?_, ?_, ?_⟩
      · rw [hMe, hMs, hentry E S hElt (by omega), if_pos ⟨rfl, rfl⟩]
      · rw [hMe, hMs, hcount E hElt, if_pos rfl]
        omega
      · rw [hMe, hMs, hcursor E hElt, ← hS]
        exact ht.cursor_le_count E hElt
    · -- another lease's position is below the count, so the append is after it
      rw [hother b hb hba] at hM
      have hq := ht.queued b hb M hM
      obtain ⟨-, hMe, hMs⟩ := readMeta_lt keccak256 hM
      have hne : ¬(M.scheduledPruneEpoch = E ∧ M.scheduledPruneSeq = S) := by
        rintro ⟨he, hs⟩
        have := hq.seq_lt
        rw [he, hs, hS] at this
        omega
      refine ⟨hq.epoch_eq, ?_, ?_, ?_⟩
      · rw [hentry _ _ hMe hMs, if_neg hne]
        exact hq.entry_eq
      · rw [hcount _ hMe]
        have := hq.seq_lt
        split_ifs with heq
        · rw [heq, hS] at this
          omega
        · exact this
      · rw [hcursor _ hMe]
        exact hq.cursor_le
  · -- the head moves back to the lease's epoch at most
    have hlive : ∀ M', readMeta keccak256 t b = some M' → b ≠ a →
        0 < readPruneHeadEpoch keccak256 t ∧ readPruneHeadEpoch keccak256 t ≤ M'.scheduledPruneEpoch :=
      fun M' hM' _ => ht.pending b hb M' hM'
    rw [hhead]
    by_cases hba : b = a
    · subst hba
      obtain ⟨hMe, -, -⟩ := hself M hM
      rw [hMe]
      split_ifs with hmove
      · exact ⟨hEpos, le_rfl⟩
      · push Not at hmove
        omega
    · rw [hother b hb hba] at hM
      obtain ⟨hpos, hle⟩ := hlive M hM hba
      split_ifs with hmove
      · exact ⟨hEpos, by omega⟩
      · exact ⟨hpos, hle⟩

end Schedule

/-! ## The queue's control words

The sweep's bookkeeping writes the counts, the cursors and the head, and nothing a lease or an
entry is made of (`SameLeases`). -/

/-- Two states agree on the metadata and the tombstones of the leases of `A`, and on the queue's
entries. -/
structure SameLeases (keccak256 : List UInt8 → Hash) (A : Finset Address) (t u : StateDB) : Prop where
  meta_eq : ∀ b ∈ A, readMeta keccak256 u b = readMeta keccak256 t b
  tombstone_eq : ∀ b ∈ A, hasTombstone keccak256 u b = hasTombstone keccak256 t b
  entry_eq : ∀ e q, e < 2 ^ 64 → q < 2 ^ 64 →
    readPruneEntry keccak256 u e q = readPruneEntry keccak256 t e q

section Control

variable {keccak256 : List UInt8 → Hash} {A : Finset Address}

theorem SameLeases.trans {t u v : StateDB} (h : SameLeases keccak256 A t u)
    (h' : SameLeases keccak256 A u v) : SameLeases keccak256 A t v where
  meta_eq b hb := (h'.meta_eq b hb).trans (h.meta_eq b hb)
  tombstone_eq b hb := (h'.tombstone_eq b hb).trans (h.tombstone_eq b hb)
  entry_eq e q he hq := (h'.entry_eq e q he hq).trans (h.entry_eq e q he hq)

theorem SameLeases.entries {t u : StateDB} (h : SameLeases keccak256 A t u)
    (ht : EntriesWithin keccak256 A t) : EntriesWithin keccak256 A u := fun e q he hq => by
  rw [h.entry_eq e q he hq]
  exact ht e q he hq

variable (hslots : LeaseSlotsDistinct keccak256 A)
include hslots

theorem sameLeases_writeKeys (s : StateDB) {ws : List (LeaseKey × Hash)}
    (hws : ∀ w ∈ ws, w.1.Within A)
    (hne : ∀ w ∈ ws, (∀ b f, w.1 ≠ .leaseWord b f) ∧ (∀ b f, w.1 ≠ .tombstoneWord b f) ∧
      ∀ e q, w.1 ≠ .entry e q) :
    SameLeases keccak256 A s (writeKeys keccak256 s ws) where
  meta_eq b hb := by
    rw [readMeta_eq, readMeta_eq]
    congr 1
    funext f
    exact keyed_writeKeys_of_forall_ne hslots s hws hb fun w hw => (hne w hw).1 b f
  tombstone_eq b hb := by
    rw [hasTombstone_eq, hasTombstone_eq, keyed_writeKeys_of_forall_ne hslots s hws
      (k := .tombstoneWord b .marker) hb fun w hw => (hne w hw).2.1 b _]
  entry_eq e q he hq := by
    rw [readPruneEntry_eq, readPruneEntry_eq, keyed_writeKeys_of_forall_ne hslots s hws
      (k := .entry e q) ⟨he, hq⟩ fun w hw => (hne w hw).2.2 e q]

theorem sameLeases_writePruneCursor {E : ℕ} (hE : E < 2 ^ 64) (s : StateDB) (c : ℕ) :
    SameLeases keccak256 A s (writePruneCursor keccak256 s E c) := by
  rw [writePruneCursor_eq]
  exact sameLeases_writeKeys hslots s (cursorWrites_within hE _) (by simp)

theorem sameLeases_writePruneHeadEpoch (s : StateDB) (h : ℕ) :
    SameLeases keccak256 A s (writePruneHeadEpoch keccak256 s h) := by
  rw [writePruneHeadEpoch_eq]
  exact sameLeases_writeKeys hslots s (headWrites_within _) (by simp)

theorem sameLeases_clearPruneEpoch {E : ℕ} (hE : E < 2 ^ 64) (s : StateDB) :
    SameLeases keccak256 A s (clearPruneEpoch keccak256 s E) := by
  rw [clearPruneEpoch_eq]
  exact sameLeases_writeKeys hslots s (clearEpochWrites_within hE) (by simp)

end Control

/-! ## The sweep keeps the invariant -/

section Sweep

variable {keccak256 : List UInt8 → Hash} {dposEpoch : ℕ} {A : Finset Address} {n : ℕ}

theorem NotBefore.succ {m : Meta} {ep c : ℕ} (h : NotBefore m ep c)
    (hne : ¬(m.scheduledPruneEpoch = ep ∧ m.scheduledPruneSeq = c)) : NotBefore m ep (c + 1) := by
  unfold NotBefore at h ⊢
  omega

/-- A queued lease stays queued over a state whose words at its position agree, and whose cursor
has not passed it. -/
theorem Queued.of_words {t u : StateDB} {b : Address} {m : Meta}
    (hq : Queued keccak256 dposEpoch t b m)
    (hentry : readPruneEntry keccak256 u m.scheduledPruneEpoch m.scheduledPruneSeq =
      readPruneEntry keccak256 t m.scheduledPruneEpoch m.scheduledPruneSeq)
    (hcount : readPruneEntryCount keccak256 u m.scheduledPruneEpoch =
      readPruneEntryCount keccak256 t m.scheduledPruneEpoch)
    (hcursor : readPruneCursor keccak256 u m.scheduledPruneEpoch ≤ m.scheduledPruneSeq) :
    Queued keccak256 dposEpoch u b m where
  epoch_eq := hq.epoch_eq
  entry_eq := hentry.trans hq.entry_eq
  seq_lt := hcount ▸ hq.seq_lt
  cursor_le := hcursor

/-- Two leases queued at one position are the same lease. -/
theorem Queued.unique {t : StateDB} {a b : Address} {m m' : Meta}
    (ha : Queued keccak256 dposEpoch t a m) (hb : Queued keccak256 dposEpoch t b m')
    (he : m.scheduledPruneEpoch = m'.scheduledPruneEpoch)
    (hs : m.scheduledPruneSeq = m'.scheduledPruneSeq) : a = b := by
  rw [← ha.entry_eq, ← hb.entry_eq, he, hs]

/-- The inner loop starts at the cursor, which no live lease of the epoch lies before. -/
theorem SweepAt.resume {ep : ℕ} {t : StateDB} (ht : SweepAt keccak256 dposEpoch A n ep 0 t) :
    SweepAt keccak256 dposEpoch A n ep (readPruneCursor keccak256 t ep) t :=
  { ht with
    queued := fun b hb m hm => by
      obtain ⟨hq, hnb⟩ := ht.queued b hb m hm
      refine ⟨hq, ?_⟩
      rcases hnb with hlt | ⟨heq, -⟩
      · exact .inl hlt
      · exact .inr ⟨heq, heq ▸ hq.cursor_le⟩ }

/-- **A live lease queued at the position is due**: its epoch is at most the current one, so
its grace window is over, and the sweep prunes it. The epoch is not zero, so it has not wrapped. -/
theorem pruneEntryWith_due {currentBlock : ℕ}
    (hcb : currentBlock < 2 ^ 64) (pay : StateDB → Address → ℕ → StateDB) {t : StateDB}
    {b : Address} {m : Meta} (hb0 : b ≠ 0) (hm : readMeta keccak256 t b = some m)
    (hq : Queued keccak256 dposEpoch t b m) {ep c : ℕ} (hpos : 0 < ep) (he : m.scheduledPruneEpoch = ep)
    (hs : m.scheduledPruneSeq = c) (hep : ep ≤ currentBlock / epochLength dposEpoch) :
    pruneEntryWith keccak256 dposEpoch pay currentBlock t ep c =
      pruneLease keccak256 pay currentBlock t b m := by
  have hentry : readPruneEntry keccak256 t ep c = b := by
    rw [← he, ← hs]
    exact hq.entry_eq
  have hw : m.graceUntilBlock / epochLength dposEpoch + 1 < 2 ^ 64 :=
    div_add_one_lt_of_pruneEpoch_pos (epochLength_pos dposEpoch) (readMeta_lt keccak256 hm).1
      (hq.epoch_eq ▸ he ▸ hpos)
  have hprun : effectiveStatus dposEpoch m currentBlock = .prunable :=
    effectiveStatus_eq_prunable dposEpoch hw hq.epoch_eq hcb (he ▸ hep)
  unfold pruneEntryWith
  dsimp only
  rw [hentry, if_neg hb0, hm]
  dsimp only
  rw [if_neg (by simp [he, hs]), if_neg (by simp [hprun])]

variable (hslots : LeaseSlotsDistinct keccak256 A)
include hslots

/-- **Pruning the lease at the position** moves the sweep past it: the lease loses its metadata,
and every other live lease keeps its position, which is not the pruned one's. -/
theorem SweepAt.prune (hreg : leaseRegistryAddress ∉ A) {currentBlock ep c : ℕ} {t : StateDB}
    {b : Address} {m : Meta} (hb : b ∈ A) (hm : readMeta keccak256 t b = some m)
    (he : m.scheduledPruneEpoch = ep) (hs : m.scheduledPruneSeq = c)
    (ht : SweepAt keccak256 dposEpoch A n ep c t) :
    SweepAt keccak256 dposEpoch A n ep (c + 1) (pruneLease keccak256 payRefund currentBlock t b m) ∧
      readPruneEntryCount keccak256 (pruneLease keccak256 payRefund currentBlock t b m) ep =
        readPruneEntryCount keccak256 t ep := by
  have hne := ne_registry_of_mem hreg hb
  have hep : ep < 2 ^ 64 := he ▸ (readMeta_lt keccak256 hm).2.1
  -- the queue's words are not the lease's own
  have hentry := fun e q (he : e < 2 ^ 64) (hq : q < 2 ^ 64) =>
    readPruneEntry_pruneLease currentBlock hslots storage_payRefund hb hne t m he hq
  have hcount := fun e (he : e < 2 ^ 64) =>
    readPruneEntryCount_pruneLease currentBlock hslots storage_payRefund hb hne t m he
  have hcursor := fun e (he : e < 2 ^ 64) =>
    readPruneCursor_pruneLease currentBlock hslots storage_payRefund hb hne t m he
  have hmeta := fun d (hd : d ∈ A) =>
    readMeta_pruneLease currentBlock hslots storage_payRefund hb hne hd t m
  refine ⟨⟨⟨fun e he => ?_, fun e he => ?_, ?_, fun d hd hdt => ?_⟩, ht.ep_pos, fun d hd md hmd => ?_⟩,
    hcount ep hep⟩
  · rw [hcursor e he, hcount e he]
    exact ht.cursor_le_count e he
  · rw [hcount e he]
    exact ht.count_le e he
  · exact EntriesWithin.pruneLease hslots hb hne currentBlock m ht.entries
  · rw [hmeta d hd]
    split_ifs with hdb
    · rfl
    · rw [hasTombstone_pruneLease currentBlock hslots storage_payRefund hb hne hd, if_neg hdb] at hdt
      exact ht.tombstone d hd hdt
  · rw [hmeta d hd] at hmd
    split_ifs at hmd with hdb
    obtain ⟨hq, hnb⟩ := ht.queued d hd md hmd
    obtain ⟨-, hde, hds⟩ := readMeta_lt keccak256 hmd
    refine ⟨hq.of_words (hentry _ _ hde hds) (hcount _ hde) (by rw [hcursor _ hde]; exact hq.cursor_le),
      hnb.succ ?_⟩
    -- the pruned lease is the one queued at the position
    rintro ⟨hde', hds'⟩
    exact hdb (hq.unique (ht.queued b hb m hm).1 (hde'.trans he.symm) (hds'.trans hs.symm))

/-- **The work on an entry keeps the sweep's invariant**: a live lease queued at the position is
due and pruned; otherwise the entry is skipped or names a lease that is not live there. -/
theorem SweepAt.entry (hreg : leaseRegistryAddress ∉ A)
    (hzero : (0 : Address) ∉ A) {currentBlock : ℕ} (hcb : currentBlock < 2 ^ 64) {ep c : ℕ}
    {t : StateDB} (hep : ep ≤ currentBlock / epochLength dposEpoch)
    (hc : c < readPruneEntryCount keccak256 t ep) (ht : SweepAt keccak256 dposEpoch A n ep c t) :
    SweepAt keccak256 dposEpoch A n ep (c + 1)
        (pruneEntryWith keccak256 dposEpoch payRefund currentBlock t ep c) ∧
      readPruneEntryCount keccak256 (pruneEntryWith keccak256 dposEpoch payRefund currentBlock t ep c) ep =
        readPruneEntryCount keccak256 t ep := by
  have hep' : ep < 2 ^ 64 := lt_of_le_of_lt (hep.trans (Nat.div_le_self _ _)) hcb
  have hc' : c < 2 ^ 64 := hc.trans (readPruneEntryCount_lt keccak256 t ep)
  by_cases hdue : ∃ b ∈ A, ∃ m, readMeta keccak256 t b = some m ∧
      m.scheduledPruneEpoch = ep ∧ m.scheduledPruneSeq = c
  · obtain ⟨b, hb, m, hm, he, hs⟩ := hdue
    have hb0 : b ≠ 0 := fun h => hzero (h ▸ hb)
    rw [pruneEntryWith_due hcb payRefund hb0 hm (ht.queued b hb m hm).1 ht.ep_pos he hs hep]
    exact ht.prune hslots hreg hb hm he hs
  · rcases pruneEntryWith_cases t ep c with h | ⟨m, h0, hm, he, hs, -, -⟩
    · rw [h]
      refine ⟨{ ht with queued := fun b hb m hm => ?_ }, rfl⟩
      obtain ⟨hq, hnb⟩ := ht.queued b hb m hm
      exact ⟨hq, hnb.succ fun ⟨he, hs⟩ => hdue ⟨b, hb, m, hm, he, hs⟩⟩
    · -- the code prunes only a live lease queued at the position
      have haddr := (ht.entries ep c hep' hc').resolve_right h0
      exact absurd ⟨_, haddr, m, hm, he, hs⟩ hdue

/-- The early return persists the cursor, which no live lease of the epoch lies before. -/
theorem SweepAt.writeCursor {ep c : ℕ} {t : StateDB} (hep : ep < 2 ^ 64)
    (hc : c < readPruneEntryCount keccak256 t ep) (ht : SweepAt keccak256 dposEpoch A n ep c t) :
    SweepAt keccak256 dposEpoch A n ep c (writePruneCursor keccak256 t ep c) := by
  have hsame := sameLeases_writePruneCursor hslots hep t c
  have hcount : ∀ e < 2 ^ 64, readPruneEntryCount keccak256 (writePruneCursor keccak256 t ep c) e =
      readPruneEntryCount keccak256 t e := fun e he => by
    rw [readPruneEntryCount_eq, readPruneEntryCount_eq,
      keyed_writePruneCursor hslots hep t c (k := .count e) he (by simp)]
  have hcursor : ∀ e < 2 ^ 64, readPruneCursor keccak256 (writePruneCursor keccak256 t ep c) e =
      if e = ep then c else readPruneCursor keccak256 t e := fun e he => by
    rw [readPruneCursor_writePruneCursor hslots hep t c he,
      Nat.mod_eq_of_lt (hc.trans (readPruneEntryCount_lt keccak256 t ep))]
  refine ⟨⟨fun e he => ?_, fun e he => ?_, hsame.entries ht.entries, fun d hd hdt => ?_⟩, ht.ep_pos,
    fun d hd md hmd => ?_⟩
  · rw [hcursor e he, hcount e he]
    split_ifs with hee
    · exact hee ▸ hc.le
    · exact ht.cursor_le_count e he
  · rw [hcount e he]
    exact ht.count_le e he
  · rw [hsame.tombstone_eq d hd] at hdt
    rw [hsame.meta_eq d hd]
    exact ht.tombstone d hd hdt
  · rw [hsame.meta_eq d hd] at hmd
    obtain ⟨hq, hnb⟩ := ht.queued d hd md hmd
    obtain ⟨-, hde, hds⟩ := readMeta_lt keccak256 hmd
    refine ⟨hq.of_words (hsame.entry_eq _ _ hde hds) (hcount _ hde) ?_, hnb⟩
    rw [hcursor _ hde]
    split_ifs with hee
    · unfold NotBefore at hnb
      omega
    · exact hq.cursor_le

/-- **Making the sweep's epoch the head** gives the queue's invariant: no live lease lies before
the position, so none lies before the head. -/
theorem SweepAt.writeHead {ep c : ℕ} {t : StateDB} (hep : ep < 2 ^ 64)
    (ht : SweepAt keccak256 dposEpoch A n ep c t) :
    QueueInv keccak256 dposEpoch A n (writePruneHeadEpoch keccak256 t ep) := by
  have hsame := sameLeases_writePruneHeadEpoch hslots t ep
  have hcount : ∀ e < 2 ^ 64, readPruneEntryCount keccak256 (writePruneHeadEpoch keccak256 t ep) e =
      readPruneEntryCount keccak256 t e := fun e he => by
    rw [readPruneEntryCount_eq, readPruneEntryCount_eq,
      keyed_writePruneHeadEpoch hslots t ep (k := .count e) he (by simp)]
  have hcursor : ∀ e < 2 ^ 64, readPruneCursor keccak256 (writePruneHeadEpoch keccak256 t ep) e =
      readPruneCursor keccak256 t e := fun e he => by
    rw [readPruneCursor_eq, readPruneCursor_eq,
      keyed_writePruneHeadEpoch hslots t ep (k := .cursor e) he (by simp)]
  have hhead : readPruneHeadEpoch keccak256 (writePruneHeadEpoch keccak256 t ep) = ep := by
    rw [readPruneHeadEpoch_writePruneHeadEpoch hslots, Nat.mod_eq_of_lt hep]
  refine ⟨⟨fun e he => ?_, fun e he => ?_, hsame.entries ht.entries, fun d hd hdt => ?_⟩,
    fun d hd md hmd => ?_, fun d hd md hmd => ?_⟩
  · rw [hcursor e he, hcount e he]
    exact ht.cursor_le_count e he
  · rw [hcount e he]
    exact ht.count_le e he
  · rw [hsame.tombstone_eq d hd] at hdt
    rw [hsame.meta_eq d hd]
    exact ht.tombstone d hd hdt
  · rw [hsame.meta_eq d hd] at hmd
    obtain ⟨hq, -⟩ := ht.queued d hd md hmd
    obtain ⟨-, hde, hds⟩ := readMeta_lt keccak256 hmd
    exact hq.of_words (hsame.entry_eq _ _ hde hds) (hcount _ hde)
      (by rw [hcursor _ hde]; exact hq.cursor_le)
  · rw [hsame.meta_eq d hd] at hmd
    obtain ⟨-, hnb⟩ := ht.queued d hd md hmd
    rw [hhead]
    unfold NotBefore at hnb
    exact ⟨ht.ep_pos, by omega⟩

/-- **Clearing a swept epoch** moves the sweep to the start of the next: no live lease is queued
in the cleared epoch, since each lies below the count and at or after the position. -/
theorem SweepAt.clear {ep c : ℕ} {t : StateDB} (hep : ep < 2 ^ 64)
    (hc : readPruneEntryCount keccak256 t ep ≤ c) (ht : SweepAt keccak256 dposEpoch A n ep c t) :
    SweepAt keccak256 dposEpoch A n (ep + 1) 0 (clearPruneEpoch keccak256 t ep) := by
  have hsame := sameLeases_clearPruneEpoch hslots hep t
  have hcount := fun e (he : e < 2 ^ 64) => readPruneEntryCount_clearPruneEpoch hslots hep t he
  have hcursor := fun e (he : e < 2 ^ 64) => readPruneCursor_clearPruneEpoch hslots hep t he
  refine ⟨⟨fun e he => ?_, fun e he => ?_, hsame.entries ht.entries, fun d hd hdt => ?_⟩,
    Nat.succ_pos ep, fun d hd md hmd => ?_⟩
  · rw [hcursor e he, hcount e he]
    split_ifs
    · exact le_rfl
    · exact ht.cursor_le_count e he
  · rw [hcount e he]
    split_ifs
    · exact Nat.zero_le n
    · exact ht.count_le e he
  · rw [hsame.tombstone_eq d hd] at hdt
    rw [hsame.meta_eq d hd]
    exact ht.tombstone d hd hdt
  · rw [hsame.meta_eq d hd] at hmd
    obtain ⟨hq, hnb⟩ := ht.queued d hd md hmd
    obtain ⟨-, hde, hds⟩ := readMeta_lt keccak256 hmd
    have hne : md.scheduledPruneEpoch ≠ ep := by
      intro hee
      have hlt := hq.seq_lt
      rw [hee] at hlt
      unfold NotBefore at hnb
      omega
    refine ⟨hq.of_words (hsame.entry_eq _ _ hde hds) (by rw [hcount _ hde, if_neg hne])
      (by rw [hcursor _ hde, if_neg hne]; exact hq.cursor_le), ?_⟩
    unfold NotBefore at hnb ⊢
    omega

omit hslots in
theorem epoch_lt_of_le_div {currentBlock ep L : ℕ} (hcb : currentBlock < 2 ^ 64)
    (hep : ep ≤ currentBlock / L) : ep < 2 ^ 64 :=
  lt_of_le_of_lt (hep.trans (Nat.div_le_self _ _)) hcb

/-- **The sweep's invariant**, for a sweep at a `uint64` block whose next epoch does not wrap,
the registry and address zero outside `A`. -/
theorem queueInv_sweepInvariant (hreg : leaseRegistryAddress ∉ A)
    (hzero : (0 : Address) ∉ A) {currentBlock : ℕ} (hcb : currentBlock < 2 ^ 64)
    (hnext : currentBlock / epochLength dposEpoch + 1 < 2 ^ 64) :
    SweepInvariant keccak256 dposEpoch payRefund currentBlock (SweepAt keccak256 dposEpoch A n)
      (QueueInv keccak256 dposEpoch A n) where
  resume _ _ ht := ht.resume
  entry _ _ _ hep hc ht := ht.entry hslots hreg hzero hcb hep hc
  stop _ _ _ hep hc ht :=
    (ht.writeCursor hslots (epoch_lt_of_le_div hcb hep) hc).writeHead hslots
      (epoch_lt_of_le_div hcb hep)
  clear _ _ _ hep hc ht := ht.clear hslots (epoch_lt_of_le_div hcb hep) hc
  final _ ht := ht.writeHead hslots hnext

/-- **The sweep keeps the queue's invariant**: it starts at the head, before every live lease. -/
theorem queueInv_sweep (hreg : leaseRegistryAddress ∉ A)
    (hzero : (0 : Address) ∉ A) {s : StateDB} (hs : QueueInv keccak256 dposEpoch A n s)
    {currentBlock : ℕ} (hcb : currentBlock < 2 ^ 64)
    (hnext : currentBlock / epochLength dposEpoch + 1 < 2 ^ 64) (budget : ℕ) :
    QueueInv keccak256 dposEpoch A n (runPruneSweepAtBoundary keccak256 dposEpoch s currentBlock budget) := by
  unfold runPruneSweepAtBoundary runPruneSweep
  dsimp only
  split_ifs
  · exact hs
  refine (queueInv_sweepInvariant hslots hreg hzero hcb hnext).sweep s (fun _ => hs) fun hpos _ => ?_
  refine ⟨hs.toQueueFrame, hpos, fun b hb m hm => ⟨hs.queued b hb m hm, ?_⟩⟩
  have := (hs.pending b hb m hm).2
  unfold NotBefore
  omega

end Sweep

/-! ## The actions keep the invariant -/

section Actions

variable {keccak256 : List UInt8 → Hash} {dposEpoch : ℕ} {A : Finset Address} {n : ℕ}

variable (keccak256 dposEpoch) in
/-- What every successful action does: `s'` is `s` with the metadata of the lease at `a`, which has
no tombstone, written and scheduled, over payments that leave the registry's storage. -/
def SchedulesLease (s s' : StateDB) (a : Address) : Prop :=
  hasTombstone keccak256 s a = false ∧ ∃ t m,
    t.storage leaseRegistryAddress = s.storage leaseRegistryAddress ∧ m.graceUntilBlock < 2 ^ 64 ∧
      s' = scheduleAndWrite keccak256 dposEpoch t a m

theorem schedulesLease_deploy {ctx : Context} {p : DeployAction} {contractAddr : Address}
    {pkg : List UInt8} (hca : contractAddr ≠ leaseRegistryAddress) {s s' : StateDB} {u : Unit}
    (h : (executeLeaseDeploy keccak256 dposEpoch ctx p contractAddr pkg).run.run s = (.ok u, s')) :
    SchedulesLease keccak256 dposEpoch s s' contractAddr := by
  obtain ⟨d, s₁, -, -, hcl, hact⟩ := executeLeaseDeploy_ok h
  obtain ⟨m, hm, rfl⟩ := activate_ok hact
  obtain ⟨htomb, -, -, hstor, -⟩ := createLease_ok hcl
  -- the deposit's payment and the contract's creation leave the registry's storage
  have hpaid : (if 0 < d then payRegistry s ctx.sender d else s).storage leaseRegistryAddress =
      s.storage leaseRegistryAddress := by
    split_ifs <;> rfl
  refine ⟨?_, s₁, m, ?_, newMeta_graceUntil_lt dposEpoch hm, rfl⟩
  · rw [← hasTombstone_congr hpaid]
    exact htomb
  · rw [hstor _ (Ne.symm hca), hpaid]

theorem schedulesLease_renew {ctx : Context} {p : RenewAction} {s s' : StateDB} {u : Unit}
    (h : (handleRenew keccak256 dposEpoch ctx p).run.run s = (.ok u, s')) :
    SchedulesLease keccak256 dposEpoch s s' p.contractAddr := by
  obtain ⟨m, d, m', -, htomb, -, -, -, hren, rfl⟩ := handleRenew_ok h
  have hg := renewMeta_graceUntil_lt dposEpoch hren
  exact ⟨htomb, payRegistry s ctx.sender d, { m' with depositWei := m'.depositWei + d }, rfl, hg, rfl⟩

theorem schedulesLease_close {ctx : Context} {p : CloseAction} {s s' : StateDB} {u : Unit}
    (h : (handleClose keccak256 dposEpoch ctx p).run.run s = (.ok u, s')) :
    SchedulesLease keccak256 dposEpoch s s' p.contractAddr := by
  obtain ⟨m, -, htomb, -, -, rfl⟩ := handleClose_ok h
  refine ⟨htomb, _, _, ?_, ?_, rfl⟩
  · split_ifs <;> rfl
  · -- a closed lease's grace window ends at the block of the close
    exact Nat.mod_lt _ (by norm_num)

variable (hslots : LeaseSlotsDistinct keccak256 A)
include hslots

/-- An action keeps the invariant when the lease it schedules has a prune epoch that does not
wrap. -/
theorem QueueInv.schedulesLease (hn : n + 1 < 2 ^ 64)
    {s s' : StateDB} {a : Address} (ha : a ∈ A) (h : SchedulesLease keccak256 dposEpoch s s' a)
    (hw : ∀ M, readMeta keccak256 s' a = some M →
      M.graceUntilBlock / epochLength dposEpoch + 1 < 2 ^ 64)
    (hs : QueueInv keccak256 dposEpoch A n s) : QueueInv keccak256 dposEpoch A (n + 1) s' := by
  obtain ⟨htomb, t, m, hst, hg, rfl⟩ := h
  -- the written metadata keeps the lease's grace window
  have hwm : m.graceUntilBlock / epochLength dposEpoch + 1 < 2 ^ 64 := by
    have := hw _ (by rw [readMeta_scheduleAndWrite dposEpoch hslots ha ha, if_pos rfl])
    simpa only [scheduleMeta_snd, Meta.stored, Nat.mod_eq_of_lt hg] using this
  refine (hs.congr hst).scheduleAndWrite hslots hn ha hg hwm ?_
  rw [hasTombstone_congr hst]
  exact htomb

/-- A committed action that schedules a lease keeps the invariant; a failed one is reverted. -/
theorem QueueInv.commit_schedulesLease (hn : n + 1 < 2 ^ 64) {x : HandlerM StateDB Unit}
    {s : StateDB} {a : Address} (ha : a ∈ A)
    (hx : ∀ u s', x.run.run s = (.ok u, s') → SchedulesLease keccak256 dposEpoch s s' a)
    (hw : ∀ M, readMeta keccak256 (commit x s) a = some M →
      M.graceUntilBlock / epochLength dposEpoch + 1 < 2 ^ 64)
    (hs : QueueInv keccak256 dposEpoch A n s) :
    QueueInv keccak256 dposEpoch A (n + 1) (commit x s) := by
  refine commit_induction _ (hs.mono n.le_succ) fun u s' h => ?_
  rw [commit_of_ok h] at hw
  exact hs.schedulesLease hslots hn ha (hx u s' h) hw

/-- An action leaves every tombstone. -/
theorem hasTombstone_of_schedulesLease {s s' : StateDB} {a : Address} (ha : a ∈ A)
    (h : SchedulesLease keccak256 dposEpoch s s' a) {b : Address} (hb : b ∈ A) :
    hasTombstone keccak256 s' b = hasTombstone keccak256 s b := by
  obtain ⟨-, t, m, hst, -, rfl⟩ := h
  rw [hasTombstone_scheduleAndWrite dposEpoch hslots ha hb, hasTombstone_congr hst]

end Actions

/-! ## What the sweep prunes -/

section Trace

variable {keccak256 : List UInt8 → Hash} {dposEpoch : ℕ} {A : Finset Address}

variable (keccak256 dposEpoch A) in
/-- What the sweep at `currentBlock` from the state `t₀` has done to the leases of `A` by the state
`t`: it has only removed metadata, kept every tombstone, and tombstoned only leases whose
metadata in `t₀` is prunable at the block. -/
structure SweepTrace (currentBlock : ℕ) (t₀ t : StateDB) : Prop where
  entries : EntriesWithin keccak256 A t
  meta_of : ∀ a ∈ A, ∀ m, readMeta keccak256 t a = some m → readMeta keccak256 t₀ a = some m
  kept : ∀ a ∈ A, hasTombstone keccak256 t₀ a = true → hasTombstone keccak256 t a = true
  pruned : ∀ a ∈ A, hasTombstone keccak256 t₀ a = false → hasTombstone keccak256 t a = true →
    ∃ m, readMeta keccak256 t₀ a = some m ∧ effectiveStatus dposEpoch m currentBlock = .prunable

theorem SweepTrace.refl {currentBlock : ℕ} {t : StateDB} (h : EntriesWithin keccak256 A t) :
    SweepTrace keccak256 dposEpoch A currentBlock t t where
  entries := h
  meta_of _ _ _ hm := hm
  kept _ _ h := h
  pruned _ _ h0 h1 := by
    rw [h0] at h1
    cases h1

theorem SweepTrace.sameLeases {currentBlock : ℕ} {t₀ t u : StateDB} (h : SameLeases keccak256 A t u)
    (ht : SweepTrace keccak256 dposEpoch A currentBlock t₀ t) :
    SweepTrace keccak256 dposEpoch A currentBlock t₀ u where
  entries := h.entries ht.entries
  meta_of a ha m hm := ht.meta_of a ha m ((h.meta_eq a ha).symm.trans hm)
  kept a ha h0 := (h.tombstone_eq a ha).trans (ht.kept a ha h0)
  pruned a ha h0 h1 := ht.pruned a ha h0 ((h.tombstone_eq a ha).symm.trans h1)

variable (hslots : LeaseSlotsDistinct keccak256 A) (hreg : leaseRegistryAddress ∉ A)
include hslots hreg

/-- Pruning a lease whose metadata is prunable at the block extends the trace. -/
theorem SweepTrace.pruneLease {currentBlock : ℕ} {t₀ t : StateDB} {b : Address} {m : Meta}
    (hb : b ∈ A) (hm : readMeta keccak256 t b = some m)
    (hprun : effectiveStatus dposEpoch m currentBlock = .prunable)
    (ht : SweepTrace keccak256 dposEpoch A currentBlock t₀ t) :
    SweepTrace keccak256 dposEpoch A currentBlock t₀
      (Gtos.Lease.pruneLease keccak256 payRefund currentBlock t b m) := by
  have hne := ne_registry_of_mem hreg hb
  refine ⟨EntriesWithin.pruneLease hslots hb hne currentBlock m ht.entries,
    fun a ha ma hma => ?_, fun a ha h0 => ?_, fun a ha h0 h1 => ?_⟩
  · rw [readMeta_pruneLease currentBlock hslots storage_payRefund hb hne ha] at hma
    split_ifs at hma
    exact ht.meta_of a ha ma hma
  · rw [hasTombstone_pruneLease currentBlock hslots storage_payRefund hb hne ha]
    split_ifs
    · rfl
    · exact ht.kept a ha h0
  · rw [hasTombstone_pruneLease currentBlock hslots storage_payRefund hb hne ha] at h1
    split_ifs at h1 with hab
    · -- the lease the sweep prunes has the metadata it had before the sweep
      subst hab
      exact ⟨m, ht.meta_of a ha m hm, hprun⟩
    · exact ht.pruned a ha h0 h1

theorem sweepTrace_sweepInvariant {currentBlock : ℕ} (hcb : currentBlock < 2 ^ 64) (t₀ : StateDB) :
    SweepInvariant keccak256 dposEpoch payRefund currentBlock
      (fun _ _ => SweepTrace keccak256 dposEpoch A currentBlock t₀)
      (SweepTrace keccak256 dposEpoch A currentBlock t₀) where
  resume _ _ ht := ht
  entry ep c t hep hc ht := by
    have hep' := epoch_lt_of_le_div hcb hep
    have hc' : c < 2 ^ 64 := hc.trans (readPruneEntryCount_lt keccak256 t ep)
    rcases pruneEntryWith_cases t ep c with h | ⟨m, h0, hm, -, -, hprun, h⟩ <;> rw [h]
    · exact ⟨ht, rfl⟩
    have haddr := (ht.entries ep c hep' hc').resolve_right h0
    exact ⟨ht.pruneLease hslots hreg haddr hm hprun, readPruneEntryCount_pruneLease currentBlock
      hslots storage_payRefund haddr (ne_registry_of_mem hreg haddr) t m hep'⟩
  stop ep c t hep _ ht :=
    (ht.sameLeases (sameLeases_writePruneCursor hslots (epoch_lt_of_le_div hcb hep) t c)).sameLeases
      (sameLeases_writePruneHeadEpoch hslots _ ep)
  clear ep _ t hep _ ht := ht.sameLeases (sameLeases_clearPruneEpoch hslots (epoch_lt_of_le_div hcb hep) t)
  final t ht := ht.sameLeases (sameLeases_writePruneHeadEpoch hslots t _)

/-- **The sweep prunes only prunable leases**, and keeps every tombstone. -/
theorem sweepTrace_sweep {s : StateDB} (hs : EntriesWithin keccak256 A s) {currentBlock : ℕ}
    (hcb : currentBlock < 2 ^ 64) (budget : ℕ) :
    SweepTrace keccak256 dposEpoch A currentBlock s
      (runPruneSweepAtBoundary keccak256 dposEpoch s currentBlock budget) := by
  unfold runPruneSweepAtBoundary runPruneSweep
  dsimp only
  split_ifs
  · exact .refl hs
  exact (sweepTrace_sweepInvariant hslots hreg hcb s).sweep s (fun _ => .refl hs) fun _ _ => .refl hs

end Trace

/-! ## The invariant over a run -/

section Run

variable {keccak256 : List UInt8 → Hash} {dposEpoch : ℕ} {A : Finset Address} {n : ℕ}

variable (keccak256 dposEpoch A) in
/-- **No prune epoch of the run wraps**: in every state of the run from `s`, every live lease of
`A` has a grace window whose prune epoch fits a `uint64`, and every sweep's next epoch fits too.
With epochs of two blocks or more every run has this (`NoWrapRun.of_two_le`); with epochs of one
block it excludes exactly a grace window and a sweep block at `MaxUint64`. -/
structure NoWrapRun (s : StateDB) (evs : List LeaseEvent) : Prop where
  grace : ∀ i, ∀ a ∈ A, ∀ m, readMeta keccak256 (runEvents keccak256 dposEpoch s (evs.take i)) a = some m →
    m.graceUntilBlock / epochLength dposEpoch + 1 < 2 ^ 64
  sweep : ∀ currentBlock budget, LeaseEvent.sweep currentBlock budget ∈ evs →
    currentBlock / epochLength dposEpoch + 1 < 2 ^ 64

/-- With epochs of two blocks or more no prune epoch wraps. -/
theorem NoWrapRun.of_two_le (hlen : 2 ≤ epochLength dposEpoch) {s : StateDB} {evs : List LeaseEvent}
    (hevs : ∀ ev ∈ evs, ev.Within A) : NoWrapRun keccak256 dposEpoch A s evs where
  grace _ _ _ _ hm := div_add_one_lt_of_two_le hlen (readMeta_lt keccak256 hm).1
  sweep _ _ h := div_add_one_lt_of_two_le hlen (hevs _ h)

/-- The rest of a run after its first event. -/
theorem NoWrapRun.tail {s : StateDB} {ev : LeaseEvent} {evs : List LeaseEvent}
    (h : NoWrapRun keccak256 dposEpoch A s (ev :: evs)) :
    NoWrapRun keccak256 dposEpoch A (applyEvent keccak256 dposEpoch s ev) evs where
  grace i := h.grace (i + 1)
  sweep cb b hmem := h.sweep cb b (List.mem_cons_of_mem ev hmem)

/-- A prefix of a run. -/
theorem NoWrapRun.take {s : StateDB} {evs : List LeaseEvent}
    (h : NoWrapRun keccak256 dposEpoch A s evs) (i : ℕ) :
    NoWrapRun keccak256 dposEpoch A s (evs.take i) where
  grace j := by
    rw [List.take_take]
    exact h.grace (min j i)
  sweep cb b hmem := h.sweep cb b (List.mem_of_mem_take hmem)

variable (hslots : LeaseSlotsDistinct keccak256 A)
  (hreg : leaseRegistryAddress ∉ A) (hzero : (0 : Address) ∉ A)
include hslots hreg hzero

/-- **An event keeps the invariant**, with the bound on the counts raised by one, when the lease it
schedules and the sweep it runs have prune epochs that do not wrap. -/
theorem queueInv_applyEvent (hn : n + 1 < 2 ^ 64) {s : StateDB}
    (hs : QueueInv keccak256 dposEpoch A n s) {ev : LeaseEvent} (hev : ev.Within A)
    (hw : ∀ a ∈ A, ∀ m, readMeta keccak256 (applyEvent keccak256 dposEpoch s ev) a = some m →
      m.graceUntilBlock / epochLength dposEpoch + 1 < 2 ^ 64)
    (hnext : ∀ currentBlock budget, ev = .sweep currentBlock budget →
      currentBlock / epochLength dposEpoch + 1 < 2 ^ 64) :
    QueueInv keccak256 dposEpoch A (n + 1) (applyEvent keccak256 dposEpoch s ev) := by
  cases ev with
  | deploy ctx p contractAddr pkg =>
    exact hs.commit_schedulesLease hslots hn hev.1
      (fun _ _ h => schedulesLease_deploy (ne_registry_of_mem hreg hev.1) h) (hw _ hev.1)
  | renew ctx p =>
    exact hs.commit_schedulesLease hslots hn hev.1 (fun _ _ h => schedulesLease_renew h) (hw _ hev.1)
  | close ctx p =>
    exact hs.commit_schedulesLease hslots hn hev (fun _ _ h => schedulesLease_close h) (hw _ hev)
  | sweep currentBlock budget =>
    exact (queueInv_sweep hslots hreg hzero hs hev (hnext _ _ rfl) budget).mono n.le_succ

/-- **The queue's invariant over every run** of `k` events whose prune epochs do not wrap, with
the bound on the counts raised by `k`. -/
theorem queueInv_runEvents {s : StateDB} (hs : QueueInv keccak256 dposEpoch A n s)
    {evs : List LeaseEvent} (hevs : ∀ ev ∈ evs, ev.Within A) (hn : n + evs.length < 2 ^ 64)
    (hwrap : NoWrapRun keccak256 dposEpoch A s evs) :
    QueueInv keccak256 dposEpoch A (n + evs.length) (runEvents keccak256 dposEpoch s evs) := by
  -- induction on the run; the first event's state is the second state of the run
  induction evs generalizing s n with
  | nil => exact hs
  | cons ev evs ih =>
    rw [List.length_cons] at hn ⊢
    have hstep := queueInv_applyEvent hslots hreg hzero (by omega) hs (hevs ev List.mem_cons_self)
      (hwrap.grace 1) fun cb b hev => hwrap.sweep cb b (hev ▸ List.mem_cons_self)
    rw [show n + (evs.length + 1) = n + 1 + evs.length by omega]
    exact ih hstep (fun ev' h' => hevs ev' (List.mem_cons_of_mem ev h')) (by omega) hwrap.tail

theorem queueInv_runEvents_take {s : StateDB} (hs : QueueInv keccak256 dposEpoch A n s)
    {evs : List LeaseEvent} (hevs : ∀ ev ∈ evs, ev.Within A) (hn : n + evs.length < 2 ^ 64)
    (hwrap : NoWrapRun keccak256 dposEpoch A s evs) (i : ℕ) :
    QueueInv keccak256 dposEpoch A (n + (evs.take i).length)
      (runEvents keccak256 dposEpoch s (evs.take i)) :=
  queueInv_runEvents hslots hreg hzero hs (fun ev h => hevs ev (List.mem_of_mem_take h))
    (lt_of_le_of_lt (Nat.add_le_add_left (List.length_take_le' i evs) n) hn) (hwrap.take i)

omit hreg hzero in
theorem hasTombstone_commit {α : Type} {x : HandlerM StateDB α} {s : StateDB} {c : Address}
    (hc : c ∈ A) (hx : ∀ u s', x.run.run s = (.ok u, s') → SchedulesLease keccak256 dposEpoch s s' c)
    {a : Address} (ha : a ∈ A) :
    hasTombstone keccak256 (commit x s) a = hasTombstone keccak256 s a :=
  commit_induction (fun t => hasTombstone keccak256 t a = hasTombstone keccak256 s a) rfl
    fun u s' h => hasTombstone_of_schedulesLease hslots hc (hx u s' h) ha

omit hzero in
/-- **Only a sweep tombstones a lease**: an action leaves every tombstone, and a sweep is traced. -/
theorem hasTombstone_applyEvent {s : StateDB} (hs : EntriesWithin keccak256 A s) {ev : LeaseEvent}
    (hev : ev.Within A) {a : Address} (ha : a ∈ A) :
    hasTombstone keccak256 (applyEvent keccak256 dposEpoch s ev) a = hasTombstone keccak256 s a ∨
      ∃ currentBlock budget, ev = .sweep currentBlock budget ∧
        SweepTrace keccak256 dposEpoch A currentBlock s (applyEvent keccak256 dposEpoch s ev) := by
  cases ev with
  | deploy ctx p contractAddr pkg =>
    exact .inl (hasTombstone_commit hslots hev.1
      (fun _ _ h => schedulesLease_deploy (ne_registry_of_mem hreg hev.1) h) ha)
  | renew ctx p => exact .inl (hasTombstone_commit hslots hev.1 (fun _ _ h => schedulesLease_renew h) ha)
  | close ctx p => exact .inl (hasTombstone_commit hslots hev (fun _ _ h => schedulesLease_close h) ha)
  | sweep currentBlock budget => exact .inr ⟨currentBlock, budget, rfl, sweepTrace_sweep hslots hreg hs hev budget⟩

/-- The event at position `i` of a run keeps every tombstone, or is a sweep that tombstones only
prunable leases. -/
theorem hasTombstone_runEvents_succ {s : StateDB} (hs : QueueInv keccak256 dposEpoch A n s)
    {evs : List LeaseEvent} (hevs : ∀ ev ∈ evs, ev.Within A) (hn : n + evs.length < 2 ^ 64)
    (hwrap : NoWrapRun keccak256 dposEpoch A s evs) {a : Address} (ha : a ∈ A) (i : ℕ) :
    hasTombstone keccak256 (runEvents keccak256 dposEpoch s (evs.take (i + 1))) a =
        hasTombstone keccak256 (runEvents keccak256 dposEpoch s (evs.take i)) a ∨
      ∃ currentBlock budget, evs[i]? = some (.sweep currentBlock budget) ∧
        SweepTrace keccak256 dposEpoch A currentBlock (runEvents keccak256 dposEpoch s (evs.take i))
          (runEvents keccak256 dposEpoch s (evs.take (i + 1))) := by
  rw [runEvents_take_succ]
  cases hi : evs[i]? with
  | none => exact .inl rfl
  | some ev =>
    have hent := (queueInv_runEvents_take hslots hreg hzero hs hevs hn hwrap i).entries
    rcases hasTombstone_applyEvent hslots hreg hent (hevs ev (List.mem_of_getElem? hi)) ha with
      h | ⟨currentBlock, budget, rfl, ht⟩
    · exact .inl h
    · exact .inr ⟨currentBlock, budget, rfl, ht⟩

/-- **Tombstones persist** along a run. -/
theorem hasTombstone_runEvents_mono {s : StateDB} (hs : QueueInv keccak256 dposEpoch A n s)
    {evs : List LeaseEvent} (hevs : ∀ ev ∈ evs, ev.Within A) (hn : n + evs.length < 2 ^ 64)
    (hwrap : NoWrapRun keccak256 dposEpoch A s evs) {a : Address} (ha : a ∈ A) {i j : ℕ} (hij : i ≤ j)
    (h : hasTombstone keccak256 (runEvents keccak256 dposEpoch s (evs.take i)) a = true) :
    hasTombstone keccak256 (runEvents keccak256 dposEpoch s (evs.take j)) a = true := by
  induction j, hij using Nat.le_induction with
  | base => exact h
  | succ j _ ih =>
    rcases hasTombstone_runEvents_succ hslots hreg hzero hs hevs hn hwrap ha j with heq | ⟨_, _, -, ht⟩
    · rw [heq]
      exact ih
    · exact ht.kept a ha ih

/-- A lease tombstoned by an event was live before it, and prunable at the block of the sweep the
event is. -/
theorem PrunedAt.prunable {s : StateDB} (hs : QueueInv keccak256 dposEpoch A n s)
    {evs : List LeaseEvent} (hevs : ∀ ev ∈ evs, ev.Within A) (hn : n + evs.length < 2 ^ 64)
    (hwrap : NoWrapRun keccak256 dposEpoch A s evs) {a : Address} (ha : a ∈ A) {i : ℕ}
    (hi : PrunedAt keccak256 dposEpoch s evs a i) :
    ∃ currentBlock budget, evs[i]? = some (.sweep currentBlock budget) ∧
      ∃ m, readMeta keccak256 (runEvents keccak256 dposEpoch s (evs.take i)) a = some m ∧
        effectiveStatus dposEpoch m currentBlock = .prunable := by
  rcases hasTombstone_runEvents_succ hslots hreg hzero hs hevs hn hwrap ha i with
    heq | ⟨currentBlock, budget, hev, ht⟩
  · have h2 := hi.2
    rw [heq, hi.1] at h2
    cases h2
  · exact ⟨currentBlock, budget, hev, ht.pruned a ha hi.1 hi.2⟩

/-- A lease tombstoned by an event stays tombstoned, so no later event tombstones it. -/
theorem PrunedAt.le {s : StateDB} (hs : QueueInv keccak256 dposEpoch A n s)
    {evs : List LeaseEvent} (hevs : ∀ ev ∈ evs, ev.Within A) (hn : n + evs.length < 2 ^ 64)
    (hwrap : NoWrapRun keccak256 dposEpoch A s evs) {a : Address} (ha : a ∈ A) {i j : ℕ}
    (hi : PrunedAt keccak256 dposEpoch s evs a i)
    (hj : PrunedAt keccak256 dposEpoch s evs a j) : j ≤ i := by
  by_contra hlt
  push Not at hlt
  have hkept := hasTombstone_runEvents_mono hslots hreg hzero hs hevs hn hwrap ha hlt hi.2
  rw [hj.1] at hkept
  cases hkept

end Run

/-- The empty state has no lease and an empty queue. -/
theorem queueInv_empty {keccak256 : List UInt8 → Hash} {dposEpoch : ℕ} {A : Finset Address} {n : ℕ} :
    QueueInv keccak256 dposEpoch A n StateDB.empty where
  cursor_le_count _ _ := le_rfl
  count_le _ _ := Nat.zero_le n
  entries _ _ _ _ := .inr rfl
  tombstone _ _ h := by cases h
  queued _ _ _ h := by cases h
  pending _ _ _ h := by cases h

/-! ## The prune queue over every run -/

section Claim

variable {keccak256 : List UInt8 → Hash} {dposEpoch : ℕ} {A : Finset Address}

/-- A state where every account holds `10 ^ 12` and the registry is empty. -/
def fundedState : StateDB := { StateDB.empty with balance := fun _ => 10 ^ 12 }

/-- **The prune queue's invariant and no premature pruning**: over every run of deploys, renewals,
closes and sweeps on the leases of `A` in which no prune epoch wraps (every live lease's grace window
and every sweep's block lie before the last epoch of the `uint64` range), from a state where the
invariant holds with every count at most `n`, and with fewer than `2 ^ 64 - n` events, every live
lease is queued at the position its metadata names, in the epoch after its grace window, not before
the head and, in the head epoch, not before the cursor; every epoch's cursor is at most its count;
an event tombstones a lease only as a sweep at whose block the lease's metadata is prunable, and at
most one event tombstones it. -/
theorem prune_queue_invariant (hslots : LeaseSlotsDistinct keccak256 A)
    (hreg : leaseRegistryAddress ∉ A) (hzero : (0 : Address) ∉ A) {n : ℕ} {s : StateDB}
    (hs : QueueInv keccak256 dposEpoch A n s)
    {evs : List LeaseEvent} (hevs : ∀ ev ∈ evs, ev.Within A) (hn : n + evs.length < 2 ^ 64)
    (hgrace : ∀ i, ∀ a ∈ A, ∀ m,
      readMeta keccak256 (runEvents keccak256 dposEpoch s (evs.take i)) a = some m →
        m.graceUntilBlock / epochLength dposEpoch + 1 < 2 ^ 64)
    (hsweep : ∀ currentBlock budget, LeaseEvent.sweep currentBlock budget ∈ evs →
      currentBlock / epochLength dposEpoch + 1 < 2 ^ 64) :
    let s' := runEvents keccak256 dposEpoch s evs
    (∀ a ∈ A, ∀ m, readMeta keccak256 s' a = some m →
      m.scheduledPruneEpoch = pruneEpoch m.graceUntilBlock (epochLength dposEpoch) ∧
      readPruneEntry keccak256 s' m.scheduledPruneEpoch m.scheduledPruneSeq = a ∧
      m.scheduledPruneSeq < readPruneEntryCount keccak256 s' m.scheduledPruneEpoch ∧
      readPruneHeadEpoch keccak256 s' ≤ m.scheduledPruneEpoch ∧
      (m.scheduledPruneEpoch = readPruneHeadEpoch keccak256 s' →
        readPruneCursor keccak256 s' m.scheduledPruneEpoch ≤ m.scheduledPruneSeq)) ∧
    (∀ e < 2 ^ 64, readPruneCursor keccak256 s' e ≤ readPruneEntryCount keccak256 s' e) ∧
    (∀ a ∈ A, ∀ i, PrunedAt keccak256 dposEpoch s evs a i →
      ∃ currentBlock budget, evs[i]? = some (.sweep currentBlock budget) ∧
        ∃ m, readMeta keccak256 (runEvents keccak256 dposEpoch s (evs.take i)) a = some m ∧
          effectiveStatus dposEpoch m currentBlock = .prunable) ∧
    (∀ a ∈ A, ∀ i j, PrunedAt keccak256 dposEpoch s evs a i →
      PrunedAt keccak256 dposEpoch s evs a j → i = j) := by
  intro s'
  have hwrap : NoWrapRun keccak256 dposEpoch A s evs := ⟨hgrace, hsweep⟩
  have hinv : QueueInv keccak256 dposEpoch A (n + evs.length) s' :=
    queueInv_runEvents hslots hreg hzero hs hevs hn hwrap
  refine ⟨fun a ha m hm => ?_, hinv.cursor_le_count,
    fun a ha i hi => hi.prunable hslots hreg hzero hs hevs hn hwrap ha,
    fun a ha i j hi hj => le_antisymm (hj.le hslots hreg hzero hs hevs hn hwrap ha hi)
      (hi.le hslots hreg hzero hs hevs hn hwrap ha hj)⟩
  have hq := hinv.queued a ha m hm
  exact ⟨hq.epoch_eq, hq.entry_eq, hq.seq_lt, (hinv.pending a ha m hm).2, fun _ => hq.cursor_le⟩

theorem prune_queue_invariant_run :
    let s' := runEvents tailHash 0 StateDB.empty solvencyRun
    (∀ a ∈ ({1#256, 2#256} : Finset Address), ∀ m, readMeta tailHash s' a = some m →
      m.scheduledPruneEpoch = pruneEpoch m.graceUntilBlock (epochLength 0) ∧
      readPruneEntry tailHash s' m.scheduledPruneEpoch m.scheduledPruneSeq = a ∧
      m.scheduledPruneSeq < readPruneEntryCount tailHash s' m.scheduledPruneEpoch ∧
      readPruneHeadEpoch tailHash s' ≤ m.scheduledPruneEpoch ∧
      (m.scheduledPruneEpoch = readPruneHeadEpoch tailHash s' →
        readPruneCursor tailHash s' m.scheduledPruneEpoch ≤ m.scheduledPruneSeq)) ∧
    (∀ e < 2 ^ 64, readPruneCursor tailHash s' e ≤ readPruneEntryCount tailHash s' e) ∧
    (∀ a ∈ ({1#256, 2#256} : Finset Address), ∀ i, PrunedAt tailHash 0 StateDB.empty solvencyRun a i →
      ∃ currentBlock budget, solvencyRun[i]? = some (.sweep currentBlock budget) ∧
        ∃ m, readMeta tailHash (runEvents tailHash 0 StateDB.empty (solvencyRun.take i)) a = some m ∧
          effectiveStatus 0 m currentBlock = .prunable) ∧
    (∀ a ∈ ({1#256, 2#256} : Finset Address), ∀ i j, PrunedAt tailHash 0 StateDB.empty solvencyRun a i →
      PrunedAt tailHash 0 StateDB.empty solvencyRun a j → i = j) :=
  -- epochs of 200 blocks: no prune epoch of any run wraps
  have hwrap : NoWrapRun tailHash 0 {1#256, 2#256} StateDB.empty solvencyRun :=
    NoWrapRun.of_two_le (by decide) (by decide)
  prune_queue_invariant leaseSlotsDistinct_tailHash (by decide) (by decide) (queueInv_empty (n := 0))
    (by decide) (by decide) hwrap.grace hwrap.sweep

end Claim

end Gtos.Lease
