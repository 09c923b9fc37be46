import Mathlib.Data.Set.Function
import Mathlib.Data.Finset.Basic
import Gtos.Lib.WriteLoop
import Gtos.Lib.Bytes
import Gtos.Lease.Handler

/-! # The lease registry's storage, word by word

Every word of the registry is named by a `LeaseKey`: a field of a lease's metadata, a field of a
tombstone, or a word of the prune queue (the count, the cursor and the entries of an epoch, and
the head epoch). Keccak-256 is assumed to have no collision among the slots of the words of a
set `A` of lease addresses and of every epoch and position (`LeaseSlotsDistinct`); the queue's
words are infinitely many, so the assumption is about an infinite set of hashed keys.

Every writer of `lease/state.go` is a sequence of word writes (`writeKeys`), and under the
assumption a word keeps its value unless the sequence writes it
(`keyed_writeKeys_of_forall_ne`, `keyed_writeKeys_of_mem`). The readers are functions of the
words they read (`readMeta_eq`, …). From these the effect of each writer on each reader follows
(`readMeta_scheduleAndWrite`, `readPruneEntry_scheduleAndWrite`, …, and `…_pruneLease` for the
sweep's pruning of a lease).

* **`tailHash`** — a stand-in for Keccak-256 that separates all these words for the leases `0x0`
  to `0xff`, so that `LeaseSlotsDistinct` can be met for a concrete run. -/

namespace Gtos.Lease

open Gtos.Core

/-! ## Keys -/

/-- The nine words of a lease's metadata. -/
inductive MetaField
  | mode
  | leaseOwner
  | createdAtBlock
  | expireAtBlock
  | graceUntilBlock
  | codeBytes
  | depositWei
  | scheduledPruneEpoch
  | scheduledPruneSeq
  deriving DecidableEq, Repr

/-- The field name the slot of a metadata word hashes. -/
def MetaField.name : MetaField → String
  | .mode => "mode"
  | .leaseOwner => "lease_owner"
  | .createdAtBlock => "created_at_block"
  | .expireAtBlock => "expire_at_block"
  | .graceUntilBlock => "grace_until_block"
  | .codeBytes => "code_bytes"
  | .depositWei => "deposit_wei"
  | .scheduledPruneEpoch => "scheduled_prune_epoch"
  | .scheduledPruneSeq => "scheduled_prune_seq"

/-- The metadata fields, in the order `WriteMeta` writes them. -/
def metaFields : List MetaField :=
  [.mode, .leaseOwner, .createdAtBlock, .expireAtBlock, .graceUntilBlock, .codeBytes, .depositWei,
    .scheduledPruneEpoch, .scheduledPruneSeq]

theorem mem_metaFields (f : MetaField) : f ∈ metaFields := by
  cases f <;> decide

theorem metaFields_nodup : metaFields.Nodup := by decide

/-- The three words of a tombstone. -/
inductive TombstoneField
  | marker
  | codeHash
  | expiredAtBlock
  deriving DecidableEq, Repr

/-- The field name the slot of a tombstone word hashes. -/
def TombstoneField.name : TombstoneField → String
  | .marker => "marker"
  | .codeHash => "code_hash"
  | .expiredAtBlock => "expired_at_block"

/-- A word of the registry, named by what it stores. -/
inductive LeaseKey
  | leaseWord (addr : Address) (field : MetaField)
  | tombstoneWord (addr : Address) (field : TombstoneField)
  | count (epoch : ℕ)
  | entry (epoch seq : ℕ)
  | cursor (epoch : ℕ)
  | head
  deriving DecidableEq, Repr

/-- The slot of each word. -/
def leaseKeySlot (keccak256 : List UInt8 → Hash) : LeaseKey → Hash
  | .leaseWord addr field => leaseSlot keccak256 addr field.name
  | .tombstoneWord addr field => tombstoneSlot keccak256 addr field.name
  | .count epoch => epochCountSlot keccak256 epoch
  | .entry epoch seq => epochEntrySlot keccak256 epoch seq
  | .cursor epoch => epochCursorSlot keccak256 epoch
  | .head => pruneHeadEpochSlot keccak256

/-- The words of the leases of `A` and of the whole queue, whose epochs and positions are
`uint64`s. -/
@[reducible] def LeaseKey.Within (A : Finset Address) : LeaseKey → Prop
  | .leaseWord addr _ => addr ∈ A
  | .tombstoneWord addr _ => addr ∈ A
  | .count epoch => epoch < 2 ^ 64
  | .entry epoch seq => epoch < 2 ^ 64 ∧ seq < 2 ^ 64
  | .cursor epoch => epoch < 2 ^ 64
  | .head => True

/-- Keccak-256 has no collision among the slots of the words of `A`'s leases and of the queue. -/
def LeaseSlotsDistinct (keccak256 : List UInt8 → Hash) (A : Finset Address) : Prop :=
  Set.InjOn (leaseKeySlot keccak256) {k | k.Within A}

/-- The registry's storage, read by key. -/
def keyed (keccak256 : List UInt8 → Hash) (s : StateDB) (k : LeaseKey) : Hash :=
  s.storage leaseRegistryAddress (leaseKeySlot keccak256 k)

/-- A sequence of word writes, in order. -/
def writeKeys (keccak256 : List UInt8 → Hash) (s : StateDB) (ws : List (LeaseKey × Hash)) :
    StateDB :=
  ws.foldl (fun s w => VmStateDB.setState s leaseRegistryAddress (leaseKeySlot keccak256 w.1) w.2) s

section Keyed

variable {keccak256 : List UInt8 → Hash} {A : Finset Address}

theorem keyed_writeKeys (s : StateDB) (ws : List (LeaseKey × Hash)) (k : LeaseKey) :
    keyed keccak256 (writeKeys keccak256 s ws) k =
      WriteLoop.run (fun w => leaseKeySlot keccak256 w.1) Prod.snd ws
        (s.storage leaseRegistryAddress) (leaseKeySlot keccak256 k) := by
  rw [keyed, writeKeys, StateDB.storage_foldl_setState]

@[simp] theorem balance_writeKeys (s : StateDB) (ws : List (LeaseKey × Hash)) :
    (writeKeys keccak256 s ws).balance = s.balance := by
  induction ws generalizing s with
  | nil => rfl
  | cons w ws ih => exact ih _

/-- **A word the writes do not name keeps its value.** -/
theorem keyed_writeKeys_of_forall_ne (hslots : LeaseSlotsDistinct keccak256 A) (s : StateDB)
    {ws : List (LeaseKey × Hash)} (hws : ∀ w ∈ ws, w.1.Within A) {k : LeaseKey} (hk : k.Within A)
    (hne : ∀ w ∈ ws, w.1 ≠ k) : keyed keccak256 (writeKeys keccak256 s ws) k = keyed keccak256 s k := by
  rw [keyed_writeKeys, WriteLoop.run_apply_of_forall_ne]
  · rfl
  · exact fun w hw heq => hne w hw (hslots (hws w hw) hk heq)

/-- **A word written once holds what was written.** -/
theorem keyed_writeKeys_of_mem (hslots : LeaseSlotsDistinct keccak256 A) (s : StateDB)
    {ws : List (LeaseKey × Hash)} (hws : ∀ w ∈ ws, w.1.Within A) (hnodup : (ws.map Prod.fst).Nodup)
    {k : LeaseKey} {v : Hash} (hmem : (k, v) ∈ ws) : keyed keccak256 (writeKeys keccak256 s ws) k = v := by
  rw [keyed_writeKeys]
  refine WriteLoop.run_apply_key _ Prod.snd ws _ (k, v) hmem fun w hw heq => ?_
  -- the slots are equal, so the keys are, and a key is written once
  have hkey : w.1 = k := hslots (hws w hw) (hws (k, v) hmem) heq
  exact List.inj_on_of_nodup_map hnodup hw hmem hkey

end Keyed

/-! ## The readers and writers by key -/

/-- The word `WriteMeta` stores for a field. -/
def metaWord (m : Meta) : MetaField → Hash
  | .mode => 1
  | .leaseOwner => m.leaseOwner
  | .createdAtBlock => BitVec.ofNat 256 (m.createdAtBlock % 2 ^ 64)
  | .expireAtBlock => BitVec.ofNat 256 (m.expireAtBlock % 2 ^ 64)
  | .graceUntilBlock => BitVec.ofNat 256 (m.graceUntilBlock % 2 ^ 64)
  | .codeBytes => BitVec.ofNat 256 (m.codeBytes % 2 ^ 64)
  | .depositWei => BitVec.ofNat 256 m.depositWei
  | .scheduledPruneEpoch => BitVec.ofNat 256 (m.scheduledPruneEpoch % 2 ^ 64)
  | .scheduledPruneSeq => BitVec.ofNat 256 (m.scheduledPruneSeq % 2 ^ 64)

/-- The metadata `ReadMeta` makes of the nine words of an address. -/
def metaOfWords (w : MetaField → Hash) : Option Meta :=
  if w .mode = 0 then none
  else some ⟨w .leaseOwner, (w .createdAtBlock).toNat % 2 ^ 64, (w .expireAtBlock).toNat % 2 ^ 64,
    (w .graceUntilBlock).toNat % 2 ^ 64, (w .codeBytes).toNat % 2 ^ 64, (w .depositWei).toNat,
    (w .scheduledPruneEpoch).toNat % 2 ^ 64, (w .scheduledPruneSeq).toNat % 2 ^ 64⟩

/-- The metadata as it is read back after `WriteMeta`: the `uint64` fields modulo `2 ^ 64`, the
deposit modulo `2 ^ 256`. -/
def Meta.stored (m : Meta) : Meta :=
  ⟨m.leaseOwner, m.createdAtBlock % 2 ^ 64, m.expireAtBlock % 2 ^ 64, m.graceUntilBlock % 2 ^ 64,
    m.codeBytes % 2 ^ 64, m.depositWei % 2 ^ 256, m.scheduledPruneEpoch % 2 ^ 64,
    m.scheduledPruneSeq % 2 ^ 64⟩

theorem metaOfWords_metaWord (m : Meta) : metaOfWords (metaWord m) = some m.stored := by
  simp [metaOfWords, metaWord, Meta.stored, BitVec.toNat_ofNat]

/-- The nine words of a lease, written in `WriteMeta`'s order: `WriteMeta` writes the words of
the metadata, `ClearMeta` zeroes them. -/
def leaseWrites (addr : Address) (w : MetaField → Hash) : List (LeaseKey × Hash) :=
  metaFields.map fun f => (.leaseWord addr f, w f)

/-- The words `WriteTombstone` writes. -/
def tombstoneWrites (addr : Address) (t : Tombstone) : List (LeaseKey × Hash) :=
  [(.tombstoneWord addr .marker, 1), (.tombstoneWord addr .codeHash, t.lastCodeHash),
    (.tombstoneWord addr .expiredAtBlock, BitVec.ofNat 256 (t.expiredAtBlock % 2 ^ 64))]

section Access

variable (keccak256 : List UInt8 → Hash)

theorem readMeta_eq (s : StateDB) (a : Address) :
    readMeta keccak256 s a = metaOfWords fun f => keyed keccak256 s (.leaseWord a f) := rfl

theorem hasTombstone_eq (s : StateDB) (a : Address) :
    hasTombstone keccak256 s a = decide ((keyed keccak256 s (.tombstoneWord a .marker)).toNat % 256 = 1) :=
  rfl

theorem readPruneEntryCount_eq (s : StateDB) (e : ℕ) :
    readPruneEntryCount keccak256 s e = (keyed keccak256 s (.count e)).toNat % 2 ^ 64 := rfl

theorem readPruneCursor_eq (s : StateDB) (e : ℕ) :
    readPruneCursor keccak256 s e = (keyed keccak256 s (.cursor e)).toNat % 2 ^ 64 := rfl

theorem readPruneHeadEpoch_eq (s : StateDB) :
    readPruneHeadEpoch keccak256 s = (keyed keccak256 s .head).toNat % 2 ^ 64 := rfl

theorem readPruneEntry_eq (s : StateDB) (e q : ℕ) :
    readPruneEntry keccak256 s e q = keyed keccak256 s (.entry e q) := rfl

theorem writeMeta_eq (s : StateDB) (a : Address) (m : Meta) :
    writeMeta keccak256 s a m = writeKeys keccak256 s (leaseWrites a (metaWord m)) := rfl

theorem clearMeta_eq (s : StateDB) (a : Address) :
    clearMeta keccak256 s a = writeKeys keccak256 s (leaseWrites a fun _ => 0) := rfl

theorem writeTombstone_eq (s : StateDB) (a : Address) (t : Tombstone) :
    writeTombstone keccak256 s a t = writeKeys keccak256 s (tombstoneWrites a t) := rfl

theorem appendPruneCandidate_eq (s : StateDB) (e : ℕ) (a : Address) :
    appendPruneCandidate keccak256 s e a =
      (writeKeys keccak256 s [(.entry e (readPruneEntryCount keccak256 s e), a),
        (.count e, BitVec.ofNat 256 ((readPruneEntryCount keccak256 s e + 1) % 2 ^ 64))],
        readPruneEntryCount keccak256 s e) := rfl

theorem writePruneCursor_eq (s : StateDB) (e c : ℕ) :
    writePruneCursor keccak256 s e c = writeKeys keccak256 s [(.cursor e, BitVec.ofNat 256 (c % 2 ^ 64))] :=
  rfl

theorem writePruneHeadEpoch_eq (s : StateDB) (e : ℕ) :
    writePruneHeadEpoch keccak256 s e = writeKeys keccak256 s [(.head, BitVec.ofNat 256 (e % 2 ^ 64))] :=
  rfl

theorem clearPruneEpoch_eq (s : StateDB) (e : ℕ) :
    clearPruneEpoch keccak256 s e = writeKeys keccak256 s [(.count e, 0), (.cursor e, 0)] := rfl

/-- The `uint64` fields of the metadata read back are below `2 ^ 64`. -/
theorem readMeta_lt {s : StateDB} {a : Address} {m : Meta} (h : readMeta keccak256 s a = some m) :
    m.graceUntilBlock < 2 ^ 64 ∧ m.scheduledPruneEpoch < 2 ^ 64 ∧ m.scheduledPruneSeq < 2 ^ 64 := by
  rw [readMeta_eq, metaOfWords] at h
  split_ifs at h
  cases h
  exact ⟨Nat.mod_lt _ (by norm_num), Nat.mod_lt _ (by norm_num), Nat.mod_lt _ (by norm_num)⟩

end Access

/-! ## What each writer changes -/

section Frame

variable {keccak256 : List UInt8 → Hash} {A : Finset Address}

theorem leaseWrites_within {a : Address} (ha : a ∈ A) (w : MetaField → Hash) :
    ∀ x ∈ leaseWrites a w, x.1.Within A := by
  intro x hx
  obtain ⟨f, -, rfl⟩ := List.mem_map.mp hx
  exact ha

theorem leaseWrites_nodup (a : Address) (w : MetaField → Hash) :
    ((leaseWrites a w).map Prod.fst).Nodup := by
  rw [leaseWrites, List.map_map]
  exact metaFields_nodup.map fun f f' h => (LeaseKey.leaseWord.inj h).2

theorem tombstoneWrites_within {a : Address} (ha : a ∈ A) (t : Tombstone) :
    ∀ x ∈ tombstoneWrites a t, x.1.Within A := by
  simp [tombstoneWrites, ha]

theorem uint64Word_toNat (v : ℕ) : (BitVec.ofNat 256 (v % 2 ^ 64)).toNat % 2 ^ 64 = v % 2 ^ 64 := by
  rw [BitVec.toNat_ofNat, Nat.mod_mod_of_dvd _ (by norm_num), Nat.mod_mod]

variable (keccak256) in
theorem readPruneEntryCount_lt (s : StateDB) (e : ℕ) : readPruneEntryCount keccak256 s e < 2 ^ 64 :=
  Nat.mod_lt _ (by norm_num)

variable (keccak256) in
theorem readPruneCursor_lt (s : StateDB) (e : ℕ) : readPruneCursor keccak256 s e < 2 ^ 64 :=
  Nat.mod_lt _ (by norm_num)

variable (keccak256) in
theorem readPruneHeadEpoch_lt (s : StateDB) : readPruneHeadEpoch keccak256 s < 2 ^ 64 :=
  Nat.mod_lt _ (by norm_num)

theorem appendWrites_within {E c : ℕ} (hE : E < 2 ^ 64) (hc : c < 2 ^ 64) (a : Address) (v : Hash) :
    ∀ w ∈ [(LeaseKey.entry E c, a), (LeaseKey.count E, v)], w.1.Within A := by
  intro w hw
  simp only [List.mem_cons, List.mem_nil_iff, or_false] at hw
  rcases hw with rfl | rfl
  exacts [⟨hE, hc⟩, hE]

theorem cursorWrites_within {E : ℕ} (hE : E < 2 ^ 64) (v : Hash) :
    ∀ w ∈ [(LeaseKey.cursor E, v)], w.1.Within A := by
  intro w hw
  rw [List.mem_singleton] at hw
  subst hw
  exact hE

theorem headWrites_within (v : Hash) : ∀ w ∈ [(LeaseKey.head, v)], w.1.Within A := by
  intro w hw
  rw [List.mem_singleton] at hw
  subst hw
  trivial

theorem clearEpochWrites_within {E : ℕ} (hE : E < 2 ^ 64) :
    ∀ w ∈ [(LeaseKey.count E, (0 : Hash)), (LeaseKey.cursor E, 0)], w.1.Within A := by
  intro w hw
  simp only [List.mem_cons, List.mem_nil_iff, or_false] at hw
  rcases hw with rfl | rfl <;> exact hE

variable (hslots : LeaseSlotsDistinct keccak256 A)
include hslots

/-- Writing the nine words of `a` changes `a`'s metadata to what the words say, and no other
lease's. -/
theorem readMeta_writeLease {a b : Address} (ha : a ∈ A) (hb : b ∈ A) (s : StateDB)
    (w : MetaField → Hash) :
    readMeta keccak256 (writeKeys keccak256 s (leaseWrites a w)) b =
      if b = a then metaOfWords w else readMeta keccak256 s b := by
  rw [readMeta_eq, readMeta_eq]
  split_ifs with hba
  · subst hba
    congr 1
    funext f
    exact keyed_writeKeys_of_mem hslots s (leaseWrites_within ha w) (leaseWrites_nodup b w)
      (List.mem_map.mpr ⟨f, mem_metaFields f, rfl⟩)
  · congr 1
    funext f
    refine keyed_writeKeys_of_forall_ne hslots s (leaseWrites_within ha w) hb fun x hx => ?_
    obtain ⟨f', -, rfl⟩ := List.mem_map.mp hx
    simp [Ne.symm hba]

/-- Writing the nine words of `a` leaves every other word. -/
theorem keyed_writeLease {a : Address} (ha : a ∈ A) (s : StateDB) (w : MetaField → Hash)
    {k : LeaseKey} (hk : k.Within A) (hne : ∀ f, k ≠ .leaseWord a f) :
    keyed keccak256 (writeKeys keccak256 s (leaseWrites a w)) k = keyed keccak256 s k := by
  refine keyed_writeKeys_of_forall_ne hslots s (leaseWrites_within ha w) hk fun x hx => ?_
  obtain ⟨f, -, rfl⟩ := List.mem_map.mp hx
  exact (hne f).symm

theorem readMeta_writeMeta {a b : Address} (ha : a ∈ A) (hb : b ∈ A) (s : StateDB) (m : Meta) :
    readMeta keccak256 (writeMeta keccak256 s a m) b =
      if b = a then some m.stored else readMeta keccak256 s b := by
  rw [writeMeta_eq, readMeta_writeLease hslots ha hb, metaOfWords_metaWord]

theorem readMeta_clearMeta {a b : Address} (ha : a ∈ A) (hb : b ∈ A) (s : StateDB) :
    readMeta keccak256 (clearMeta keccak256 s a) b = if b = a then none else readMeta keccak256 s b := by
  rw [clearMeta_eq, readMeta_writeLease hslots ha hb]
  rfl

/-- Writing a tombstone marks the address, and no other. -/
theorem hasTombstone_writeTombstone {a b : Address} (ha : a ∈ A) (hb : b ∈ A) (s : StateDB)
    (t : Tombstone) :
    hasTombstone keccak256 (writeTombstone keccak256 s a t) b =
      if b = a then true else hasTombstone keccak256 s b := by
  rw [hasTombstone_eq, hasTombstone_eq, writeTombstone_eq]
  split_ifs with hba
  · subst hba
    rw [keyed_writeKeys_of_mem hslots s (tombstoneWrites_within ha t) (by simp [tombstoneWrites])
      (v := 1) (by simp [tombstoneWrites])]
    decide
  · rw [keyed_writeKeys_of_forall_ne hslots s (tombstoneWrites_within ha t) hb
      (by simp [tombstoneWrites, Ne.symm hba])]

theorem keyed_writeTombstone {a : Address} (ha : a ∈ A) (s : StateDB) (t : Tombstone)
    {k : LeaseKey} (hk : k.Within A) (hne : ∀ f, k ≠ .tombstoneWord a f) :
    keyed keccak256 (writeTombstone keccak256 s a t) k = keyed keccak256 s k := by
  rw [writeTombstone_eq]
  refine keyed_writeKeys_of_forall_ne hslots s (tombstoneWrites_within ha t) hk fun x hx => ?_
  simp only [tombstoneWrites, List.mem_cons, List.mem_nil_iff, or_false] at hx
  rcases hx with rfl | rfl | rfl <;> exact (hne _).symm

/-! The queue's writers. -/

/-- `AppendPruneCandidate` writes the entry after the last and the count. -/
theorem keyed_appendPruneCandidate {E : ℕ} (hE : E < 2 ^ 64) (s : StateDB) (a : Address)
    {k : LeaseKey} (hk : k.Within A) (hentry : k ≠ .entry E (readPruneEntryCount keccak256 s E))
    (hcount : k ≠ .count E) :
    keyed keccak256 (appendPruneCandidate keccak256 s E a).1 k = keyed keccak256 s k := by
  rw [appendPruneCandidate_eq]
  refine keyed_writeKeys_of_forall_ne hslots s
    (appendWrites_within hE (readPruneEntryCount_lt keccak256 s E) a _) hk ?_
  simp [Ne.symm hentry, Ne.symm hcount]

theorem readPruneEntryCount_appendPruneCandidate {E : ℕ} (hE : E < 2 ^ 64) (s : StateDB)
    (a : Address) {e : ℕ} (he : e < 2 ^ 64) :
    readPruneEntryCount keccak256 (appendPruneCandidate keccak256 s E a).1 e =
      if e = E then (readPruneEntryCount keccak256 s E + 1) % 2 ^ 64
      else readPruneEntryCount keccak256 s e := by
  split_ifs with heE
  · subst heE
    rw [readPruneEntryCount_eq, appendPruneCandidate_eq,
      keyed_writeKeys_of_mem hslots s (appendWrites_within he (readPruneEntryCount_lt keccak256 s e) a _)
        (by simp) (k := .count e)
        (v := BitVec.ofNat 256 ((readPruneEntryCount keccak256 s e + 1) % 2 ^ 64)) (by simp),
      uint64Word_toNat]
  · rw [readPruneEntryCount_eq, readPruneEntryCount_eq,
      keyed_appendPruneCandidate hslots hE s a he (by simp) (by simp [heE])]

theorem readPruneEntry_appendPruneCandidate {E : ℕ} (hE : E < 2 ^ 64) (s : StateDB)
    (a : Address) {e q : ℕ} (he : e < 2 ^ 64) (hq : q < 2 ^ 64) :
    readPruneEntry keccak256 (appendPruneCandidate keccak256 s E a).1 e q =
      if e = E ∧ q = readPruneEntryCount keccak256 s E then a
      else readPruneEntry keccak256 s e q := by
  split_ifs with heq
  · obtain ⟨rfl, rfl⟩ := heq
    rw [readPruneEntry_eq, appendPruneCandidate_eq,
      keyed_writeKeys_of_mem hslots s (appendWrites_within he hq a _) (by simp)
        (k := .entry e _) (v := a) (by simp)]
  · rw [readPruneEntry_eq, readPruneEntry_eq,
      keyed_appendPruneCandidate hslots hE s a (k := .entry e q) ⟨he, hq⟩ (by simpa using heq)
        (by simp)]

theorem keyed_writePruneCursor {E : ℕ} (hE : E < 2 ^ 64) (s : StateDB) (c : ℕ) {k : LeaseKey}
    (hk : k.Within A) (hne : k ≠ .cursor E) :
    keyed keccak256 (writePruneCursor keccak256 s E c) k = keyed keccak256 s k := by
  rw [writePruneCursor_eq]
  exact keyed_writeKeys_of_forall_ne hslots s (cursorWrites_within hE _) hk
    (by simpa using Ne.symm hne)

theorem readPruneCursor_writePruneCursor {E : ℕ} (hE : E < 2 ^ 64) (s : StateDB) (c : ℕ) {e : ℕ}
    (he : e < 2 ^ 64) :
    readPruneCursor keccak256 (writePruneCursor keccak256 s E c) e =
      if e = E then c % 2 ^ 64 else readPruneCursor keccak256 s e := by
  split_ifs with heE
  · subst heE
    rw [readPruneCursor_eq, writePruneCursor_eq,
      keyed_writeKeys_of_mem hslots s (cursorWrites_within he _) (by simp) (k := .cursor e)
        (v := BitVec.ofNat 256 (c % 2 ^ 64)) (by simp), uint64Word_toNat]
  · rw [readPruneCursor_eq, readPruneCursor_eq,
      keyed_writePruneCursor hslots hE s c he (by simp [heE])]

theorem keyed_writePruneHeadEpoch (s : StateDB) (h : ℕ) {k : LeaseKey} (hk : k.Within A)
    (hne : k ≠ .head) :
    keyed keccak256 (writePruneHeadEpoch keccak256 s h) k = keyed keccak256 s k := by
  rw [writePruneHeadEpoch_eq]
  exact keyed_writeKeys_of_forall_ne hslots s (headWrites_within _) hk (by simpa using Ne.symm hne)

theorem readPruneHeadEpoch_writePruneHeadEpoch (s : StateDB) (h : ℕ) :
    readPruneHeadEpoch keccak256 (writePruneHeadEpoch keccak256 s h) = h % 2 ^ 64 := by
  rw [readPruneHeadEpoch_eq, writePruneHeadEpoch_eq,
    keyed_writeKeys_of_mem hslots s (headWrites_within _) (by simp) (k := .head)
      (v := BitVec.ofNat 256 (h % 2 ^ 64)) (by simp), uint64Word_toNat]

theorem keyed_clearPruneEpoch {E : ℕ} (hE : E < 2 ^ 64) (s : StateDB) {k : LeaseKey}
    (hk : k.Within A) (hcount : k ≠ .count E) (hcursor : k ≠ .cursor E) :
    keyed keccak256 (clearPruneEpoch keccak256 s E) k = keyed keccak256 s k := by
  rw [clearPruneEpoch_eq]
  exact keyed_writeKeys_of_forall_ne hslots s (clearEpochWrites_within hE) hk
    (by simp [Ne.symm hcount, Ne.symm hcursor])

theorem readPruneEntryCount_clearPruneEpoch {E : ℕ} (hE : E < 2 ^ 64) (s : StateDB) {e : ℕ}
    (he : e < 2 ^ 64) :
    readPruneEntryCount keccak256 (clearPruneEpoch keccak256 s E) e =
      if e = E then 0 else readPruneEntryCount keccak256 s e := by
  split_ifs with heE
  · subst heE
    rw [readPruneEntryCount_eq, clearPruneEpoch_eq,
      keyed_writeKeys_of_mem hslots s (clearEpochWrites_within he) (by simp) (k := .count e) (v := 0)
        (by simp)]
    rfl
  · rw [readPruneEntryCount_eq, readPruneEntryCount_eq,
      keyed_clearPruneEpoch hslots hE s he (by simp [heE]) (by simp)]

theorem readPruneCursor_clearPruneEpoch {E : ℕ} (hE : E < 2 ^ 64) (s : StateDB) {e : ℕ}
    (he : e < 2 ^ 64) :
    readPruneCursor keccak256 (clearPruneEpoch keccak256 s E) e =
      if e = E then 0 else readPruneCursor keccak256 s e := by
  split_ifs with heE
  · subst heE
    rw [readPruneCursor_eq, clearPruneEpoch_eq,
      keyed_writeKeys_of_mem hslots s (clearEpochWrites_within he) (by simp) (k := .cursor e) (v := 0)
        (by simp)]
    rfl
  · rw [readPruneCursor_eq, readPruneCursor_eq,
      keyed_clearPruneEpoch hslots hE s he (by simp) (by simp [heE])]

end Frame

/-! ## Writes that leave the registry's storage -/

section Untouched

variable (keccak256 : List UInt8 → Hash)

theorem keyed_eq_of_storage {s s' : StateDB}
    (h : s'.storage leaseRegistryAddress = s.storage leaseRegistryAddress) :
    keyed keccak256 s' = keyed keccak256 s := by
  funext k
  rw [keyed, keyed, h]

@[simp] theorem storage_payRegistry (s : StateDB) (src : Address) (x : ℕ) :
    (payRegistry s src x).storage = s.storage := rfl

@[simp] theorem storage_payRefund (s : StateDB) (owner : Address) (refund : ℕ) :
    (payRefund s owner refund).storage = s.storage := by
  unfold payRefund
  dsimp only
  split_ifs <;> rfl

theorem storage_suicide_of_ne {a b : Address} (h : b ≠ a) (s : StateDB) :
    (suicide s a).storage b = s.storage b := by
  simp [suicide, Function.update_of_ne h]

/-- The metadata a scheduled lease is written with: its prune position. -/
theorem scheduleMeta_snd (dposEpoch : ℕ) (s : StateDB) (a : Address) (m : Meta) :
    (scheduleMeta keccak256 dposEpoch s a m).2 =
      { m with
        scheduledPruneEpoch := pruneEpoch m.graceUntilBlock (epochLength dposEpoch)
        scheduledPruneSeq :=
          readPruneEntryCount keccak256 s (pruneEpoch m.graceUntilBlock (epochLength dposEpoch)) } :=
  rfl

theorem scheduleMeta_fst (dposEpoch : ℕ) (s : StateDB) (a : Address) (m : Meta) :
    (scheduleMeta keccak256 dposEpoch s a m).1 =
      let E := pruneEpoch m.graceUntilBlock (epochLength dposEpoch)
      let s₁ := (appendPruneCandidate keccak256 s E a).1
      let head := readPruneHeadEpoch keccak256 s₁
      if head = 0 ∨ E < head then writePruneHeadEpoch keccak256 s₁ E else s₁ :=
  rfl

theorem pruneEpoch_lt (g len : ℕ) : pruneEpoch g len < 2 ^ 64 :=
  Nat.mod_lt _ (by norm_num)

@[simp] theorem balance_scheduleAndWrite (dposEpoch : ℕ) (s : StateDB) (a : Address) (m : Meta) :
    (scheduleAndWrite keccak256 dposEpoch s a m).balance = s.balance := by
  rw [scheduleAndWrite, writeMeta_eq, balance_writeKeys, scheduleMeta_fst]
  dsimp only
  split_ifs <;> simp [writePruneHeadEpoch_eq, appendPruneCandidate_eq]

end Untouched

section Composite

variable {keccak256 : List UInt8 → Hash} {A : Finset Address} (dposEpoch : ℕ)
  (hslots : LeaseSlotsDistinct keccak256 A)
include hslots

/-- **The queue writes of `ScheduleMeta`**: the entry after the last one of the lease's epoch,
the epoch's count, and the head. -/
theorem keyed_scheduleMeta (s : StateDB) (a : Address) (m : Meta) {k : LeaseKey} (hk : k.Within A)
    (hentry : k ≠ .entry (pruneEpoch m.graceUntilBlock (epochLength dposEpoch))
      (readPruneEntryCount keccak256 s (pruneEpoch m.graceUntilBlock (epochLength dposEpoch))))
    (hcount : k ≠ .count (pruneEpoch m.graceUntilBlock (epochLength dposEpoch)))
    (hhead : k ≠ .head) :
    keyed keccak256 (scheduleMeta keccak256 dposEpoch s a m).1 k = keyed keccak256 s k := by
  have hE := pruneEpoch_lt m.graceUntilBlock (epochLength dposEpoch)
  rw [scheduleMeta_fst]
  dsimp only
  split_ifs
  · rw [keyed_writePruneHeadEpoch hslots _ _ hk hhead]
    exact keyed_appendPruneCandidate hslots hE s a hk hentry hcount
  · exact keyed_appendPruneCandidate hslots hE s a hk hentry hcount

theorem readPruneEntryCount_scheduleMeta (s : StateDB) (a : Address) (m : Meta) {e : ℕ}
    (he : e < 2 ^ 64) :
    readPruneEntryCount keccak256 (scheduleMeta keccak256 dposEpoch s a m).1 e =
      if e = pruneEpoch m.graceUntilBlock (epochLength dposEpoch) then
        (readPruneEntryCount keccak256 s (pruneEpoch m.graceUntilBlock (epochLength dposEpoch)) + 1) %
          2 ^ 64
      else readPruneEntryCount keccak256 s e := by
  have hE := pruneEpoch_lt m.graceUntilBlock (epochLength dposEpoch)
  rw [← readPruneEntryCount_appendPruneCandidate hslots hE s a he, scheduleMeta_fst]
  dsimp only
  split_ifs
  · rw [readPruneEntryCount_eq, readPruneEntryCount_eq,
      keyed_writePruneHeadEpoch hslots _ _ (k := .count e) he (by simp)]
  · rfl

theorem readPruneEntry_scheduleMeta (s : StateDB) (a : Address) (m : Meta) {e q : ℕ}
    (he : e < 2 ^ 64) (hq : q < 2 ^ 64) :
    readPruneEntry keccak256 (scheduleMeta keccak256 dposEpoch s a m).1 e q =
      if e = pruneEpoch m.graceUntilBlock (epochLength dposEpoch) ∧
          q = readPruneEntryCount keccak256 s (pruneEpoch m.graceUntilBlock (epochLength dposEpoch))
      then a else readPruneEntry keccak256 s e q := by
  have hE := pruneEpoch_lt m.graceUntilBlock (epochLength dposEpoch)
  rw [← readPruneEntry_appendPruneCandidate hslots hE s a he hq, scheduleMeta_fst]
  dsimp only
  split_ifs
  · rw [readPruneEntry_eq, readPruneEntry_eq,
      keyed_writePruneHeadEpoch hslots _ _ (k := .entry e q) ⟨he, hq⟩ (by simp)]
  · rfl

theorem readPruneHeadEpoch_scheduleMeta (s : StateDB) (a : Address) (m : Meta) :
    readPruneHeadEpoch keccak256 (scheduleMeta keccak256 dposEpoch s a m).1 =
      if readPruneHeadEpoch keccak256 s = 0 ∨
          pruneEpoch m.graceUntilBlock (epochLength dposEpoch) < readPruneHeadEpoch keccak256 s
      then pruneEpoch m.graceUntilBlock (epochLength dposEpoch)
      else readPruneHeadEpoch keccak256 s := by
  have hE := pruneEpoch_lt m.graceUntilBlock (epochLength dposEpoch)
  -- the append leaves the head, which is then moved back to the lease's epoch if it lies after
  have happ : readPruneHeadEpoch keccak256
      (appendPruneCandidate keccak256 s (pruneEpoch m.graceUntilBlock (epochLength dposEpoch)) a).1 =
        readPruneHeadEpoch keccak256 s := by
    rw [readPruneHeadEpoch_eq, readPruneHeadEpoch_eq,
      keyed_appendPruneCandidate hslots hE s a (k := .head) trivial (by simp) (by simp)]
  rw [scheduleMeta_fst]
  dsimp only
  rw [happ]
  split_ifs
  · rw [readPruneHeadEpoch_writePruneHeadEpoch hslots, Nat.mod_eq_of_lt hE]
  · exact happ

/-- Writing the metadata of `a` leaves every other word. -/
theorem keyed_writeMeta {a : Address} (ha : a ∈ A) (s : StateDB) (m : Meta) {k : LeaseKey}
    (hk : k.Within A) (hne : ∀ f, k ≠ .leaseWord a f) :
    keyed keccak256 (writeMeta keccak256 s a m) k = keyed keccak256 s k := by
  rw [writeMeta_eq]
  exact keyed_writeLease hslots ha s _ hk hne

theorem readMeta_scheduleMeta {a b : Address} (hb : b ∈ A) (s : StateDB) (m : Meta) :
    readMeta keccak256 (scheduleMeta keccak256 dposEpoch s a m).1 b = readMeta keccak256 s b := by
  rw [readMeta_eq, readMeta_eq]
  congr 1
  funext f
  exact keyed_scheduleMeta dposEpoch hslots s a m hb (by simp) (by simp) (by simp)

/-- **`ScheduleMeta` and `WriteMeta`, read back**: the lease's metadata is what was written, with
its prune position; no other lease's changes. -/
theorem readMeta_scheduleAndWrite {a b : Address} (ha : a ∈ A) (hb : b ∈ A) (s : StateDB)
    (m : Meta) :
    readMeta keccak256 (scheduleAndWrite keccak256 dposEpoch s a m) b =
      if b = a then some (scheduleMeta keccak256 dposEpoch s a m).2.stored
      else readMeta keccak256 s b := by
  rw [scheduleAndWrite, readMeta_writeMeta hslots ha hb, readMeta_scheduleMeta dposEpoch hslots hb]

theorem readPruneEntry_scheduleAndWrite {a : Address} (ha : a ∈ A) (s : StateDB) (m : Meta)
    {e q : ℕ} (he : e < 2 ^ 64) (hq : q < 2 ^ 64) :
    readPruneEntry keccak256 (scheduleAndWrite keccak256 dposEpoch s a m) e q =
      if e = pruneEpoch m.graceUntilBlock (epochLength dposEpoch) ∧
          q = readPruneEntryCount keccak256 s (pruneEpoch m.graceUntilBlock (epochLength dposEpoch))
      then a else readPruneEntry keccak256 s e q := by
  rw [scheduleAndWrite, readPruneEntry_eq,
    keyed_writeMeta hslots ha _ _ (k := .entry e q) ⟨he, hq⟩ (by simp), ← readPruneEntry_eq,
    readPruneEntry_scheduleMeta dposEpoch hslots s a m he hq]

theorem readPruneEntryCount_scheduleAndWrite {a : Address} (ha : a ∈ A) (s : StateDB) (m : Meta)
    {e : ℕ} (he : e < 2 ^ 64) :
    readPruneEntryCount keccak256 (scheduleAndWrite keccak256 dposEpoch s a m) e =
      if e = pruneEpoch m.graceUntilBlock (epochLength dposEpoch) then
        (readPruneEntryCount keccak256 s (pruneEpoch m.graceUntilBlock (epochLength dposEpoch)) + 1) %
          2 ^ 64
      else readPruneEntryCount keccak256 s e := by
  rw [scheduleAndWrite, readPruneEntryCount_eq,
    keyed_writeMeta hslots ha _ _ (k := .count e) he (by simp), ← readPruneEntryCount_eq,
    readPruneEntryCount_scheduleMeta dposEpoch hslots s a m he]

theorem readPruneCursor_scheduleAndWrite {a : Address} (ha : a ∈ A) (s : StateDB) (m : Meta)
    {e : ℕ} (he : e < 2 ^ 64) :
    readPruneCursor keccak256 (scheduleAndWrite keccak256 dposEpoch s a m) e =
      readPruneCursor keccak256 s e := by
  rw [scheduleAndWrite, readPruneCursor_eq,
    keyed_writeMeta hslots ha _ _ (k := .cursor e) he (by simp),
    keyed_scheduleMeta dposEpoch hslots s a m (k := .cursor e) he (by simp) (by simp) (by simp),
    ← readPruneCursor_eq]

theorem readPruneHeadEpoch_scheduleAndWrite {a : Address} (ha : a ∈ A) (s : StateDB) (m : Meta) :
    readPruneHeadEpoch keccak256 (scheduleAndWrite keccak256 dposEpoch s a m) =
      if readPruneHeadEpoch keccak256 s = 0 ∨
          pruneEpoch m.graceUntilBlock (epochLength dposEpoch) < readPruneHeadEpoch keccak256 s
      then pruneEpoch m.graceUntilBlock (epochLength dposEpoch)
      else readPruneHeadEpoch keccak256 s := by
  rw [scheduleAndWrite, readPruneHeadEpoch_eq,
    keyed_writeMeta hslots ha _ _ (k := .head) trivial (by simp), ← readPruneHeadEpoch_eq,
    readPruneHeadEpoch_scheduleMeta dposEpoch hslots s a m]

theorem hasTombstone_scheduleAndWrite {a b : Address} (ha : a ∈ A) (hb : b ∈ A) (s : StateDB)
    (m : Meta) :
    hasTombstone keccak256 (scheduleAndWrite keccak256 dposEpoch s a m) b =
      hasTombstone keccak256 s b := by
  rw [hasTombstone_eq, hasTombstone_eq, scheduleAndWrite,
    keyed_writeMeta hslots ha _ _ (k := .tombstoneWord b .marker) hb (by simp),
    keyed_scheduleMeta dposEpoch hslots s a m hb (by simp) (by simp) (by simp)]

end Composite


/-! ## Pruning a lease -/

section Prune

variable {keccak256 : List UInt8 → Hash} {A : Finset Address}
  {pay : StateDB → Address → ℕ → StateDB} (currentBlock : ℕ)

theorem keyed_suicide {a : Address} (ha : a ≠ leaseRegistryAddress) (s : StateDB) :
    keyed keccak256 (suicide s a) = keyed keccak256 s :=
  keyed_eq_of_storage keccak256 (storage_suicide_of_ne (Ne.symm ha) s)

variable (hslots : LeaseSlotsDistinct keccak256 A)
  (hpay : ∀ s owner refund, (pay s owner refund).storage = s.storage)
include hslots hpay

/-- **Pruning a lease leaves every word other than its metadata and its tombstone.** -/
theorem keyed_pruneLease {addr : Address} (haddr : addr ∈ A) (hreg : addr ≠ leaseRegistryAddress)
    (s : StateDB) (m : Meta) {k : LeaseKey} (hk : k.Within A) (hlease : ∀ f, k ≠ .leaseWord addr f)
    (htomb : ∀ f, k ≠ .tombstoneWord addr f) :
    keyed keccak256 (pruneLease keccak256 pay currentBlock s addr m) k = keyed keccak256 s k := by
  rw [pruneLease, keyed_suicide hreg, clearMeta_eq, keyed_writeLease hslots haddr _ _ hk hlease,
    keyed_writeTombstone hslots haddr _ _ hk htomb, keyed_eq_of_storage keccak256 (congrFun (hpay _ _ _) _)]

theorem readPruneEntry_pruneLease {addr : Address} (haddr : addr ∈ A)
    (hreg : addr ≠ leaseRegistryAddress) (s : StateDB) (m : Meta) {e q : ℕ} (he : e < 2 ^ 64)
    (hq : q < 2 ^ 64) :
    readPruneEntry keccak256 (pruneLease keccak256 pay currentBlock s addr m) e q =
      readPruneEntry keccak256 s e q := by
  rw [readPruneEntry_eq, readPruneEntry_eq,
    keyed_pruneLease currentBlock hslots hpay haddr hreg s m (k := .entry e q) ⟨he, hq⟩ (by simp) (by simp)]

theorem readPruneEntryCount_pruneLease {addr : Address} (haddr : addr ∈ A)
    (hreg : addr ≠ leaseRegistryAddress) (s : StateDB) (m : Meta) {e : ℕ} (he : e < 2 ^ 64) :
    readPruneEntryCount keccak256 (pruneLease keccak256 pay currentBlock s addr m) e =
      readPruneEntryCount keccak256 s e := by
  rw [readPruneEntryCount_eq, readPruneEntryCount_eq,
    keyed_pruneLease currentBlock hslots hpay haddr hreg s m (k := .count e) he (by simp) (by simp)]

theorem readPruneCursor_pruneLease {addr : Address} (haddr : addr ∈ A)
    (hreg : addr ≠ leaseRegistryAddress) (s : StateDB) (m : Meta) {e : ℕ} (he : e < 2 ^ 64) :
    readPruneCursor keccak256 (pruneLease keccak256 pay currentBlock s addr m) e =
      readPruneCursor keccak256 s e := by
  rw [readPruneCursor_eq, readPruneCursor_eq,
    keyed_pruneLease currentBlock hslots hpay haddr hreg s m (k := .cursor e) he (by simp) (by simp)]

theorem readMeta_pruneLease {addr b : Address} (haddr : addr ∈ A)
    (hreg : addr ≠ leaseRegistryAddress) (hb : b ∈ A) (s : StateDB) (m : Meta) :
    readMeta keccak256 (pruneLease keccak256 pay currentBlock s addr m) b =
      if b = addr then none else readMeta keccak256 s b := by
  rw [pruneLease, readMeta_eq, keyed_suicide hreg, ← readMeta_eq, readMeta_clearMeta hslots haddr hb]
  split_ifs with hba
  · rfl
  · rw [readMeta_eq, readMeta_eq]
    congr 1
    funext f
    rw [keyed_writeTombstone hslots haddr _ _ (k := .leaseWord b f) hb (by simp),
      keyed_eq_of_storage keccak256 (congrFun (hpay _ _ _) _)]

theorem hasTombstone_pruneLease {addr b : Address} (haddr : addr ∈ A)
    (hreg : addr ≠ leaseRegistryAddress) (hb : b ∈ A) (s : StateDB) (m : Meta) :
    hasTombstone keccak256 (pruneLease keccak256 pay currentBlock s addr m) b =
      if b = addr then true else hasTombstone keccak256 s b := by
  rw [pruneLease, hasTombstone_eq, keyed_suicide hreg, clearMeta_eq,
    keyed_writeLease hslots haddr _ _ (k := .tombstoneWord b .marker) hb (by simp),
    ← hasTombstone_eq, hasTombstone_writeTombstone hslots haddr hb]
  split_ifs
  · rfl
  · rw [hasTombstone_eq, hasTombstone_eq, keyed_eq_of_storage keccak256 (congrFun (hpay _ _ _) _)]

end Prune

/-! ## A stand-in for Keccak-256 -/

section StandIn

/-- A stand-in for Keccak-256 that separates the registry's words for the leases `0x0` to `0xff`: it
keeps the length of the hashed bytes and what follows their nineteenth byte, which for a word of
the queue is its epoch and position, and for a lease or tombstone word ends with the low byte of
the address and the field's name. -/
def tailHash (b : List UInt8) : Hash :=
  BitVec.ofNat 256 (b.length + 2 ^ 8 * Bytes.ofBytesBE (b.drop 19))

/-- The word whose slot is a `tailHash`, read back from the length (which tells the kind of word
and the field) and the tail (the epoch and position, or the address's low byte, found as many bytes
before the end as the field's name and its separator take). -/
def tailHashKey (h : Hash) : LeaseKey :=
  let n := h.toNat
  let tail := n / 2 ^ 8
  let addr (k : ℕ) : Address := BitVec.ofNat 256 (tail / 256 ^ k % 256)
  match n % 256 with
  | 22 => .head
  | 27 => .count tail
  | 28 => .cursor tail
  | 35 => .entry (tail / 2 ^ 64) (tail % 2 ^ 64)
  | 37 => .leaseWord (addr 5) .mode
  | 43 => .leaseWord (addr 11) .codeBytes
  | 44 => if tail % 256 = 114 then .leaseWord (addr 12) .leaseOwner else .leaseWord (addr 12) .depositWei
  | 48 => .leaseWord (addr 16) .expireAtBlock
  | 49 => .leaseWord (addr 17) .createdAtBlock
  | 50 => .leaseWord (addr 18) .graceUntilBlock
  | 52 => .leaseWord (addr 20) .scheduledPruneSeq
  | 54 => .leaseWord (addr 22) .scheduledPruneEpoch
  | 55 => .tombstoneWord (addr 7) .marker
  | 58 => .tombstoneWord (addr 10) .codeHash
  | _ => .tombstoneWord (addr 17) .expiredAtBlock

theorem countPrefix_length : ("lease\x00expiry_count\x00".toUTF8.toList).length = 19 := by
  rw [Text.toUTF8_toList]
  decide

theorem entryPrefix_length : ("lease\x00expiry_entry\x00".toUTF8.toList).length = 19 := by
  rw [Text.toUTF8_toList]
  decide

theorem cursorPrefix_length : ("lease\x00expiry_cursor\x00".toUTF8.toList).length = 20 := by
  rw [Text.toUTF8_toList]
  decide

theorem cursorPrefix_drop : ("lease\x00expiry_cursor\x00".toUTF8.toList).drop 19 = [0] := by
  rw [Text.toUTF8_toList]
  decide

/-- The slots of the queue's words, computed: the prefix and the big-endian epoch (and
position). -/
theorem tailHash_count {e : ℕ} (he : e < 2 ^ 64) :
    leaseKeySlot tailHash (.count e) = BitVec.ofNat 256 (27 + 2 ^ 8 * e) := by
  rw [leaseKeySlot, epochCountSlot, tailHash, List.length_append, countPrefix_length,
    Bytes.length_toBytesBE, List.drop_left' countPrefix_length, Bytes.ofBytesBE_toBytesBE,
    Nat.mod_eq_of_lt (by simpa using he)]

theorem tailHash_cursor {e : ℕ} (he : e < 2 ^ 64) :
    leaseKeySlot tailHash (.cursor e) = BitVec.ofNat 256 (28 + 2 ^ 8 * e) := by
  rw [leaseKeySlot, epochCursorSlot, tailHash, List.length_append, cursorPrefix_length,
    Bytes.length_toBytesBE, List.drop_append_of_le_length (by rw [cursorPrefix_length]; omega),
    cursorPrefix_drop, Bytes.ofBytesBE_append, Bytes.ofBytesBE_toBytesBE,
    Nat.mod_eq_of_lt (by simpa using he), show Bytes.ofBytesBE [0] = 0 from rfl, zero_mul, zero_add]

theorem tailHash_entry {e q : ℕ} (he : e < 2 ^ 64) (hq : q < 2 ^ 64) :
    leaseKeySlot tailHash (.entry e q) = BitVec.ofNat 256 (35 + 2 ^ 8 * (e * 2 ^ 64 + q)) := by
  rw [leaseKeySlot, epochEntrySlot, tailHash, List.length_append, List.length_append,
    entryPrefix_length, Bytes.length_toBytesBE, Bytes.length_toBytesBE, List.append_assoc,
    List.drop_left' entryPrefix_length, Bytes.ofBytesBE_append, Bytes.ofBytesBE_toBytesBE,
    Bytes.ofBytesBE_toBytesBE, Bytes.length_toBytesBE, Nat.mod_eq_of_lt (by simpa using he),
    Nat.mod_eq_of_lt (by simpa using hq)]
  norm_num

/-- The length and the tail a `tailHash` word keeps. -/
theorem tailWord_toNat {L x : ℕ} (hL : L < 256) (hx : x < 2 ^ 248) :
    (BitVec.ofNat 256 (L + 2 ^ 8 * x)).toNat % 256 = L ∧
      (BitVec.ofNat 256 (L + 2 ^ 8 * x)).toNat / 2 ^ 8 = x := by
  have hlt : L + 2 ^ 8 * x < 2 ^ 256 := by omega
  rw [BitVec.toNat_ofNat, Nat.mod_eq_of_lt hlt]
  omega

theorem tailHashKey_leaseKeySlot {k : LeaseKey} (hk : k.Within {1#256, 2#256}) :
    tailHashKey (leaseKeySlot tailHash k) = k := by
  cases k with
  | leaseWord a f =>
    have ha : a = 1#256 ∨ a = 2#256 := by simpa using hk
    rcases ha with rfl | rfl <;> cases f <;>
      simp only [leaseKeySlot, leaseSlot, MetaField.name, Text.toUTF8_toList] <;> decide
  | tombstoneWord a f =>
    have ha : a = 1#256 ∨ a = 2#256 := by simpa using hk
    rcases ha with rfl | rfl <;> cases f <;>
      simp only [leaseKeySlot, tombstoneSlot, TombstoneField.name, Text.toUTF8_toList] <;> decide
  | count e =>
    obtain ⟨hL, hx⟩ := tailWord_toNat (L := 27) (x := e) (by norm_num) (by omega)
    rw [tailHash_count hk]
    simp only [tailHashKey, hL, hx]
  | cursor e =>
    obtain ⟨hL, hx⟩ := tailWord_toNat (L := 28) (x := e) (by norm_num) (by omega)
    rw [tailHash_cursor hk]
    simp only [tailHashKey, hL, hx]
  | entry e q =>
    obtain ⟨he, hq⟩ := hk
    obtain ⟨hL, hx⟩ := tailWord_toNat (L := 35) (x := e * 2 ^ 64 + q) (by norm_num) (by omega)
    rw [tailHash_entry he hq]
    simp only [tailHashKey, hL, hx]
    congr 1 <;> omega
  | head =>
    simp only [leaseKeySlot, pruneHeadEpochSlot, Text.toUTF8_toList]
    decide

/-- The leases `0x1` and `0x2` meet the hypothesis of the frame lemmas under `tailHash`. -/
theorem leaseSlotsDistinct_tailHash : LeaseSlotsDistinct tailHash {1#256, 2#256} :=
  fun k hk k' hk' heq => by
    rw [← tailHashKey_leaseKeySlot hk, ← tailHashKey_leaseKeySlot hk', heq]

end StandIn

end Gtos.Lease
