import Gtos.Common.Hex
import Gtos.Core.Types
import Gtos.Core.StateDB

/-! # Lease contracts (`lease/types.go`, `lease/economics.go`, `lease/state.go`)

A lease contract is deployed for a number of blocks against a deposit. Its metadata sits in the
storage of `LeaseRegistryAddress`, word by word at `leaseSlot(addr, field)`, and its deposit in
the registry's balance. When the lease and its grace window are over it becomes prunable, and a
sweep at an epoch boundary refunds 80% of the deposit, tombstones the address and destroys the
contract.

The sweep finds prunable leases through a **prune queue**: each epoch `e` has a list of
addresses, its length at `epochCountSlot(e)`, its entries at `epochEntrySlot(e, seq)` and a
cursor, the next entry to look at, at `epochCursorSlot(e)`; `pruneHeadEpochSlot` holds the
earliest epoch that may still have work. Scheduling a lease (`ScheduleMeta`) appends its address
to the queue of the epoch its grace window ends in and records the position `(epoch, seq)` in
the lease's metadata; a renewal or a close schedules the lease again, and the entry left behind
is recognised as stale because the metadata no longer points at it.

* **`Meta`**, **`readMeta`**, **`writeMeta`**, **`clearMeta`** — the metadata, nine words.
* **`depositFor`**, **`refundFor`**, **`newMeta`**, **`renewMeta`**, **`closeMeta`**,
  **`pruneEpoch`**, **`effectiveStatus`** — the economics.
* **`appendPruneCandidate`**, **`scheduleMeta`**, **`activate`** — the queue's writers.

`uint64` words are natural numbers below `2 ^ 64`, and a `uint64` sum that the code does not guard
wraps (`% 2 ^ 64`); deposits are natural numbers. `EpochLength` and `GraceBlocks` read one field
of the chain configuration, `DPoS.Epoch`, which is the parameter `dposEpoch` (zero when the chain
has no DPoS configuration). Keccak-256 is the parameter `keccak256`. -/

namespace Gtos.Lease

open Gtos.Core

/-! ## Parameters and types -/

/-- `params.LeaseRegistryAddress`. -/
def leaseRegistryAddress : Address := 0x10B#256

/-- `params.DPoSEpochLength`. -/
def dposEpochLength : ℕ := 1664

/-- `params.LeaseGraceBlocks`. -/
def leaseGraceBlocks : ℕ := dposEpochLength

/-- `params.LeaseReferenceBlocks`. -/
def leaseReferenceBlocks : ℕ := 87600000

/-- `params.LeaseMinBlocks`. -/
def leaseMinBlocks : ℕ := 1

/-- `params.LeaseMaxBlocks`. -/
def leaseMaxBlocks : ℕ := leaseReferenceBlocks

/-- `params.LeaseDepositReferenceByteGas`. -/
def leaseDepositReferenceByteGas : ℕ := 200

/-- `params.LeaseRefundNumerator`. -/
def leaseRefundNumerator : ℕ := 80

/-- `params.LeaseRefundDenominator`. -/
def leaseRefundDenominator : ℕ := 100

/-- `params.LeasePruneBudgetPerSweep`. -/
def leasePruneBudgetPerSweep : ℕ := 4096

/-- `math.MaxUint64`. -/
def maxUint64 : ℕ := 2 ^ 64 - 1

/-- `Status`, the lifecycle state of a lease at a block. -/
inductive Status
  | active
  | frozen
  | expired
  | prunable
  deriving DecidableEq, Repr

/-- `Meta`, the metadata of a lease contract. -/
structure Meta where
  /-- `LeaseOwner`. -/
  leaseOwner : Address
  /-- `CreatedAtBlock`. -/
  createdAtBlock : ℕ
  /-- `ExpireAtBlock`. -/
  expireAtBlock : ℕ
  /-- `GraceUntilBlock`. -/
  graceUntilBlock : ℕ
  /-- `CodeBytes`. -/
  codeBytes : ℕ
  /-- `DepositWei`. -/
  depositWei : ℕ
  /-- `ScheduledPruneEpoch`. -/
  scheduledPruneEpoch : ℕ
  /-- `ScheduledPruneSeq`. -/
  scheduledPruneSeq : ℕ
  deriving DecidableEq, Repr

/-- `Tombstone`, the permanent marker of a pruned address. -/
structure Tombstone where
  /-- `LastCodeHash`. -/
  lastCodeHash : Hash
  /-- `ExpiredAtBlock`. -/
  expiredAtBlock : ℕ
  deriving DecidableEq, Repr

/-- `ErrLeaseCodeRequired`. -/
def errLeaseCodeRequired : String := "lease: code is required"

/-- `ErrLeaseInvalidBlocks`. -/
def errLeaseInvalidBlocks : String := "lease: invalid lease blocks"

/-- `ErrLeaseOwnerRequired`. -/
def errLeaseOwnerRequired : String := "lease: lease owner is required"

/-- `ErrLeaseOwnerMustBeEOA`. -/
def errLeaseOwnerMustBeEOA : String := "lease: lease owner must be an EOA"

/-- `ErrLeaseNotFound`. -/
def errLeaseNotFound : String := "lease: contract is not a lease contract"

/-- `ErrLeaseOwnerOnly`. -/
def errLeaseOwnerOnly : String := "lease: only the lease owner may manage the contract"

/-- `ErrLeaseExpired`. -/
def errLeaseExpired : String := "lease: contract is expired"

/-- `ErrLeaseTombstoned`. -/
def errLeaseTombstoned : String := "lease: address is tombstoned"

/-- `ErrLeaseValueNotAllowed`. -/
def errLeaseValueNotAllowed : String := "lease: non-zero tx value is not allowed for this action"

/-- `ErrLeaseInsufficientDeposit`. -/
def errLeaseInsufficientDeposit : String := "lease: insufficient balance for deposit"

/-- `ErrLeaseRegistryInvariant`. -/
def errLeaseRegistryInvariant : String := "lease: registry balance invariant violated"

/-! ## Economics (`economics.go`) -/

section Economics

variable (dposEpoch : ℕ)

/-- `EpochLength(chainConfig)`. -/
def epochLength : ℕ :=
  if 0 < dposEpoch then dposEpoch else dposEpochLength

/-- `GraceBlocks(chainConfig)`. -/
def graceBlocks : ℕ :=
  if 0 < dposEpoch then dposEpoch else leaseGraceBlocks

theorem epochLength_pos : 0 < epochLength dposEpoch := by
  unfold epochLength dposEpochLength
  split <;> omega

/-- `ValidateLeaseBlocks(leaseBlocks)`. -/
def validateLeaseBlocks (leaseBlocks : ℕ) : Except String Unit :=
  if leaseBlocks < leaseMinBlocks ∨ leaseMaxBlocks < leaseBlocks then .error errLeaseInvalidBlocks
  else .ok ()

/-- `DepositFor(codeBytes, leaseBlocks)`: the deposit gas, at least one unit for any code, at
`TxPriceTomi`. -/
def depositFor (codeBytes leaseBlocks : ℕ) : Except String ℕ := do
  validateLeaseBlocks leaseBlocks
  if codeBytes = 0 then return 0
  let depositGas := codeBytes * leaseDepositReferenceByteGas * leaseBlocks / leaseReferenceBlocks
  return (if depositGas = 0 then 1 else depositGas) * txPriceTomi.toNat

/-- `RefundFor(deposit)`: 80% of the deposit, rounded down. -/
def refundFor (deposit : ℕ) : ℕ :=
  if deposit = 0 then 0 else deposit * leaseRefundNumerator / leaseRefundDenominator

@[simp] theorem refundFor_zero : refundFor 0 = 0 := rfl

theorem refundFor_le (deposit : ℕ) : refundFor deposit ≤ deposit := by
  unfold refundFor leaseRefundNumerator leaseRefundDenominator
  split_ifs <;> omega

theorem refundFor_mono {d d' : ℕ} (h : d ≤ d') : refundFor d ≤ refundFor d' := by
  unfold refundFor leaseRefundNumerator leaseRefundDenominator
  split_ifs <;> omega

/-- A deposit topped up by `x` owes at most `x` more refund. -/
theorem refundFor_add_le (d x : ℕ) : refundFor (d + x) ≤ refundFor d + x := by
  unfold refundFor leaseRefundNumerator leaseRefundDenominator
  split_ifs <;> omega

/-- `NewMeta(owner, createdAt, leaseBlocks, codeBytes, deposit, chainConfig)`. The prune position
is set by `ScheduleMeta`. -/
def newMeta (owner : Address) (createdAt leaseBlocks codeBytes deposit : ℕ) :
    Except String Meta := do
  validateLeaseBlocks leaseBlocks
  let graceBlocks := graceBlocks dposEpoch
  if maxUint64 - leaseBlocks < createdAt then throw "lease: expiry overflows"
  let expireAt := createdAt + leaseBlocks
  if maxUint64 - graceBlocks < expireAt then throw "lease: grace window overflows"
  return ⟨owner, createdAt, expireAt, expireAt + graceBlocks, codeBytes, deposit, 0, 0⟩

/-- `RenewMeta(meta, currentBlock, deltaBlocks, chainConfig)`: extend from the later of the
expiry and the current block. -/
def renewMeta (m : Meta) (currentBlock deltaBlocks : ℕ) : Except String Meta := do
  validateLeaseBlocks deltaBlocks
  let base := if m.expireAtBlock < currentBlock then currentBlock else m.expireAtBlock
  if maxUint64 - deltaBlocks < base then throw "lease: renewal overflows"
  let graceBlocks := graceBlocks dposEpoch
  let expireAt := base + deltaBlocks
  if maxUint64 - graceBlocks < expireAt then throw "lease: renewal grace window overflows"
  return { m with expireAtBlock := expireAt, graceUntilBlock := expireAt + graceBlocks }

theorem newMeta_ok {owner : Address} {createdAt leaseBlocks codeBytes deposit : ℕ} {m : Meta}
    (h : newMeta dposEpoch owner createdAt leaseBlocks codeBytes deposit = .ok m) :
    m = ⟨owner, createdAt, createdAt + leaseBlocks, createdAt + leaseBlocks + graceBlocks dposEpoch,
      codeBytes, deposit, 0, 0⟩ := by
  unfold newMeta at h
  cases hv : validateLeaseBlocks leaseBlocks with
  | error e =>
    rw [hv] at h
    cases h
  | ok u =>
    rw [hv] at h
    dsimp only [bind, Except.bind] at h
    split_ifs at h
    cases h
    rfl

/-- **What `RenewMeta` returns**: the window extended from the later of the expiry and the
current block; the rest of the metadata, the deposit among it, is kept. -/
theorem renewMeta_ok {m m' : Meta} {currentBlock deltaBlocks : ℕ}
    (h : renewMeta dposEpoch m currentBlock deltaBlocks = .ok m') :
    m' = { m with
      expireAtBlock := max m.expireAtBlock currentBlock + deltaBlocks
      graceUntilBlock := max m.expireAtBlock currentBlock + deltaBlocks + graceBlocks dposEpoch } := by
  unfold renewMeta at h
  cases hv : validateLeaseBlocks deltaBlocks with
  | error e =>
    rw [hv] at h
    cases h
  | ok u =>
    rw [hv] at h
    dsimp only [bind, Except.bind] at h
    split_ifs at h with hlt
    all_goals cases h
    · rw [max_eq_right hlt.le]
    · rw [max_eq_left (not_lt.mp hlt)]

theorem validateLeaseBlocks_ok {leaseBlocks : ℕ} {u : Unit}
    (h : validateLeaseBlocks leaseBlocks = .ok u) : leaseMinBlocks ≤ leaseBlocks := by
  unfold validateLeaseBlocks at h
  split_ifs at h with hbad
  exact (not_or.mp hbad).1 |> not_lt.mp

/-- The grace window `NewMeta` opens ends within `uint64`. -/
theorem newMeta_graceUntil_lt {owner : Address} {createdAt leaseBlocks codeBytes deposit : ℕ}
    {m : Meta} (h : newMeta dposEpoch owner createdAt leaseBlocks codeBytes deposit = .ok m) :
    m.graceUntilBlock < 2 ^ 64 := by
  unfold newMeta at h
  cases hv : validateLeaseBlocks leaseBlocks with
  | error e =>
    rw [hv] at h
    cases h
  | ok u =>
    have hmin := validateLeaseBlocks_ok hv
    rw [hv] at h
    dsimp only [bind, Except.bind] at h
    split_ifs at h with hexpiry hgrace
    cases h
    unfold maxUint64 at hexpiry hgrace
    unfold leaseMinBlocks at hmin
    dsimp only
    omega

/-- The grace window `RenewMeta` extends to ends within `uint64`. -/
theorem renewMeta_graceUntil_lt {m m' : Meta} {currentBlock deltaBlocks : ℕ}
    (h : renewMeta dposEpoch m currentBlock deltaBlocks = .ok m') : m'.graceUntilBlock < 2 ^ 64 := by
  unfold renewMeta at h
  cases hv : validateLeaseBlocks deltaBlocks with
  | error e =>
    rw [hv] at h
    cases h
  | ok u =>
    have hmin := validateLeaseBlocks_ok hv
    rw [hv] at h
    dsimp only [bind, Except.bind] at h
    split_ifs at h with hlt hbase hgrace <;> cases h <;> unfold maxUint64 at * <;>
      unfold leaseMinBlocks at hmin <;> dsimp only <;> omega

/-- `CloseMeta(meta, currentBlock)`: expire now and give up the deposit. -/
def closeMeta (m : Meta) (currentBlock : ℕ) : Meta :=
  { m with expireAtBlock := currentBlock, graceUntilBlock := currentBlock, depositWei := 0 }

/-- `PruneEpoch(graceUntilBlock, epochLength)`: the epoch on whose boundary the lease becomes
prunable; the `uint64` sum wraps. -/
def pruneEpoch (graceUntilBlock epochLength : ℕ) : ℕ :=
  let epochLength := if epochLength = 0 then dposEpochLength else epochLength
  (graceUntilBlock / epochLength + 1) % 2 ^ 64

/-- `PruneEligibleBlock(meta, chainConfig)`: the first block of the lease's prune epoch,
saturated at `MaxUint64`. -/
def pruneEligibleBlock (m : Meta) : ℕ :=
  let epochLength := epochLength dposEpoch
  if m.scheduledPruneEpoch = 0 ∨ epochLength = 0 then 0
  else if maxUint64 / epochLength < m.scheduledPruneEpoch then maxUint64
  else m.scheduledPruneEpoch * epochLength

/-- `EffectiveStatus(meta, blockNumber, chainConfig)`. -/
def effectiveStatus (m : Meta) (blockNumber : ℕ) : Status :=
  let pruneAt := pruneEligibleBlock dposEpoch m
  if pruneAt ≠ 0 ∧ pruneAt ≤ blockNumber ∧ m.graceUntilBlock ≤ blockNumber then .prunable
  else if blockNumber < m.expireAtBlock then .active
  else if blockNumber < m.graceUntilBlock then .frozen
  else .expired

/-- Without a wrap, the prune epoch is the one after the epoch the grace window ends in. -/
theorem pruneEpoch_of_lt {g L : ℕ} (hL : 0 < L) (hw : g / L + 1 < 2 ^ 64) :
    pruneEpoch g L = g / L + 1 := by
  unfold pruneEpoch
  rw [if_neg (by omega), Nat.mod_eq_of_lt hw]

/-- With epochs of two blocks or more, the prune epoch of no `uint64` grace window wraps. -/
theorem div_add_one_lt_of_two_le {g L : ℕ} (hL : 2 ≤ L) (hg : g < 2 ^ 64) : g / L + 1 < 2 ^ 64 := by
  have hdiv := Nat.div_le_div_left hL (by norm_num : 0 < 2) (a := g)
  omega

/-- A prune epoch that is not zero has not wrapped: the sum wraps to exactly zero. -/
theorem div_add_one_lt_of_pruneEpoch_pos {g L : ℕ} (hL : 0 < L) (hg : g < 2 ^ 64)
    (h : 0 < pruneEpoch g L) : g / L + 1 < 2 ^ 64 := by
  unfold pruneEpoch at h
  rw [if_neg (by omega)] at h
  dsimp only at h
  have hdiv := Nat.div_le_self g L
  by_contra hw
  rw [show g / L + 1 = 2 ^ 64 by omega, Nat.mod_self] at h
  exact Nat.lt_irrefl 0 h

/-- **A lease whose prune epoch has come is prunable**: a lease scheduled in the epoch after its
grace window, where that epoch does not wrap, is prunable at every `uint64` block of that epoch
or a later one. -/
theorem effectiveStatus_eq_prunable {m : Meta} {blockNumber : ℕ}
    (hw : m.graceUntilBlock / epochLength dposEpoch + 1 < 2 ^ 64)
    (he : m.scheduledPruneEpoch = pruneEpoch m.graceUntilBlock (epochLength dposEpoch))
    (hb : blockNumber < 2 ^ 64) (hle : m.scheduledPruneEpoch ≤ blockNumber / epochLength dposEpoch) :
    effectiveStatus dposEpoch m blockNumber = .prunable := by
  have hpos : 0 < epochLength dposEpoch := epochLength_pos dposEpoch
  rw [pruneEpoch_of_lt hpos hw] at he
  -- the epoch's first block is reached, and the grace window ends before it
  have hat : m.scheduledPruneEpoch * epochLength dposEpoch ≤ blockNumber :=
    (Nat.le_div_iff_mul_le hpos).mp hle
  have hgrace : m.graceUntilBlock < m.scheduledPruneEpoch * epochLength dposEpoch :=
    he ▸ Nat.lt_mul_of_div_lt (Nat.lt_succ_self _) hpos
  have hsat : ¬ maxUint64 / epochLength dposEpoch < m.scheduledPruneEpoch := by
    have := Nat.div_le_div_right (c := epochLength dposEpoch)
      (show blockNumber ≤ maxUint64 by unfold maxUint64; omega)
    omega
  have hzero : ¬(m.scheduledPruneEpoch = 0 ∨ epochLength dposEpoch = 0) :=
    not_or.mpr ⟨he ▸ Nat.succ_ne_zero _, by omega⟩
  have helig : pruneEligibleBlock dposEpoch m = m.scheduledPruneEpoch * epochLength dposEpoch := by
    unfold pruneEligibleBlock
    dsimp only
    rw [if_neg hzero, if_neg hsat]
  have hdue : pruneEligibleBlock dposEpoch m ≠ 0 ∧ pruneEligibleBlock dposEpoch m ≤ blockNumber ∧
      m.graceUntilBlock ≤ blockNumber := by
    rw [helig]
    exact ⟨Nat.mul_ne_zero (not_or.mp hzero).1 (not_or.mp hzero).2, hat, by omega⟩
  unfold effectiveStatus
  rw [if_pos hdue]

end Economics

/-! ## The registry's storage (`state.go`) -/

section Storage

variable (keccak256 : List UInt8 → Hash)

/-- `leaseSlot(addr, field)`. -/
def leaseSlot (addr : Address) (field : String) : Hash :=
  keccak256 (wordBytes addr ++ [0] ++ field.toUTF8.toList)

/-- `epochCountSlot(epoch)`. -/
def epochCountSlot (epoch : ℕ) : Hash :=
  keccak256 ("lease\x00expiry_count\x00".toUTF8.toList ++ Bytes.toBytesBE epoch 8)

/-- `epochEntrySlot(epoch, seq)`. -/
def epochEntrySlot (epoch seq : ℕ) : Hash :=
  keccak256 ("lease\x00expiry_entry\x00".toUTF8.toList ++ Bytes.toBytesBE epoch 8 ++
    Bytes.toBytesBE seq 8)

/-- `epochCursorSlot(epoch)`. -/
def epochCursorSlot (epoch : ℕ) : Hash :=
  keccak256 ("lease\x00expiry_cursor\x00".toUTF8.toList ++ Bytes.toBytesBE epoch 8)

/-- `pruneHeadEpochSlot()`. -/
def pruneHeadEpochSlot : Hash :=
  keccak256 "lease\x00prune_head_epoch".toUTF8.toList

/-- `tombstoneSlot(addr, field)`. -/
def tombstoneSlot (addr : Address) (field : String) : Hash :=
  keccak256 ("lease\x00tombstone\x00".toUTF8.toList ++ wordBytes addr ++ [0] ++ field.toUTF8.toList)

/-- `readUint64(db, slot)`: the last eight bytes of the word. -/
def readUint64 (s : StateDB) (slot : Hash) : ℕ :=
  (VmStateDB.getState s leaseRegistryAddress slot).toNat % 2 ^ 64

/-- `writeUint64(db, slot, v)`. -/
def writeUint64 (s : StateDB) (slot : Hash) (v : ℕ) : StateDB :=
  VmStateDB.setState s leaseRegistryAddress slot (BitVec.ofNat 256 (v % 2 ^ 64))

/-- `writeBig(db, slot, v)`: `common.BigToHash`, the low 32 bytes. -/
def writeBig (s : StateDB) (slot : Hash) (v : ℕ) : StateDB :=
  VmStateDB.setState s leaseRegistryAddress slot (BitVec.ofNat 256 v)

/-- `readBig(db, slot)`. -/
def readBig (s : StateDB) (slot : Hash) : ℕ :=
  (VmStateDB.getState s leaseRegistryAddress slot).toNat

/-- `writeAddress(db, slot, addr)`: an address fills the word. -/
def writeAddress (s : StateDB) (slot : Hash) (addr : Address) : StateDB :=
  VmStateDB.setState s leaseRegistryAddress slot addr

/-- `readAddress(db, slot)`. -/
def readAddress (s : StateDB) (slot : Hash) : Address :=
  VmStateDB.getState s leaseRegistryAddress slot

/-- `ReadMeta(db, addr)`: none while the `mode` word is zero. -/
def readMeta (s : StateDB) (addr : Address) : Option Meta :=
  if VmStateDB.getState s leaseRegistryAddress (leaseSlot keccak256 addr "mode") = 0 then none
  else some
    { leaseOwner := readAddress s (leaseSlot keccak256 addr "lease_owner")
      createdAtBlock := readUint64 s (leaseSlot keccak256 addr "created_at_block")
      expireAtBlock := readUint64 s (leaseSlot keccak256 addr "expire_at_block")
      graceUntilBlock := readUint64 s (leaseSlot keccak256 addr "grace_until_block")
      codeBytes := readUint64 s (leaseSlot keccak256 addr "code_bytes")
      depositWei := readBig s (leaseSlot keccak256 addr "deposit_wei")
      scheduledPruneEpoch := readUint64 s (leaseSlot keccak256 addr "scheduled_prune_epoch")
      scheduledPruneSeq := readUint64 s (leaseSlot keccak256 addr "scheduled_prune_seq") }

/-- `WriteMeta(db, addr, meta)`: the `mode` word is one. -/
def writeMeta (s : StateDB) (addr : Address) (m : Meta) : StateDB :=
  let s := VmStateDB.setState s leaseRegistryAddress (leaseSlot keccak256 addr "mode") 1
  let s := writeAddress s (leaseSlot keccak256 addr "lease_owner") m.leaseOwner
  let s := writeUint64 s (leaseSlot keccak256 addr "created_at_block") m.createdAtBlock
  let s := writeUint64 s (leaseSlot keccak256 addr "expire_at_block") m.expireAtBlock
  let s := writeUint64 s (leaseSlot keccak256 addr "grace_until_block") m.graceUntilBlock
  let s := writeUint64 s (leaseSlot keccak256 addr "code_bytes") m.codeBytes
  let s := writeBig s (leaseSlot keccak256 addr "deposit_wei") m.depositWei
  let s := writeUint64 s (leaseSlot keccak256 addr "scheduled_prune_epoch")
    m.scheduledPruneEpoch
  writeUint64 s (leaseSlot keccak256 addr "scheduled_prune_seq") m.scheduledPruneSeq

/-- The fields `ClearMeta` zeroes. -/
def metaFieldNames : List String :=
  ["mode", "lease_owner", "created_at_block", "expire_at_block", "grace_until_block",
    "code_bytes", "deposit_wei", "scheduled_prune_epoch", "scheduled_prune_seq"]

/-- `ClearMeta(db, addr)`. -/
def clearMeta (s : StateDB) (addr : Address) : StateDB :=
  metaFieldNames.foldl
    (fun s field => VmStateDB.setState s leaseRegistryAddress (leaseSlot keccak256 addr field) 0) s

/-- `HasTombstone(db, addr)`: the last byte of the marker word is one. -/
def hasTombstone (s : StateDB) (addr : Address) : Bool :=
  (VmStateDB.getState s leaseRegistryAddress (tombstoneSlot keccak256 addr "marker")).toNat % 256 = 1

/-- `WriteTombstone(db, addr, tombstone)`. -/
def writeTombstone (s : StateDB) (addr : Address) (tombstone : Tombstone) : StateDB :=
  let s := VmStateDB.setState s leaseRegistryAddress (tombstoneSlot keccak256 addr "marker") 1
  let s := VmStateDB.setState s leaseRegistryAddress (tombstoneSlot keccak256 addr "code_hash")
    tombstone.lastCodeHash
  writeUint64 s (tombstoneSlot keccak256 addr "expired_at_block") tombstone.expiredAtBlock

/-- `ReadPruneEntryCount(db, epoch)`. -/
def readPruneEntryCount (s : StateDB) (epoch : ℕ) : ℕ :=
  readUint64 s (epochCountSlot keccak256 epoch)

/-- `ReadPruneCursor(db, epoch)`. -/
def readPruneCursor (s : StateDB) (epoch : ℕ) : ℕ :=
  readUint64 s (epochCursorSlot keccak256 epoch)

/-- `WritePruneCursor(db, epoch, cursor)`. -/
def writePruneCursor (s : StateDB) (epoch cursor : ℕ) : StateDB :=
  writeUint64 s (epochCursorSlot keccak256 epoch) cursor

/-- `ReadPruneHeadEpoch(db)`. -/
def readPruneHeadEpoch (s : StateDB) : ℕ :=
  readUint64 s (pruneHeadEpochSlot keccak256)

/-- `WritePruneHeadEpoch(db, epoch)`. -/
def writePruneHeadEpoch (s : StateDB) (epoch : ℕ) : StateDB :=
  writeUint64 s (pruneHeadEpochSlot keccak256) epoch

/-- `ReadPruneEntry(db, epoch, seq)`. -/
def readPruneEntry (s : StateDB) (epoch seq : ℕ) : Address :=
  readAddress s (epochEntrySlot keccak256 epoch seq)

/-- `ClearPruneEpoch(db, epoch)`: the queue's length and cursor go back to zero; its entries
stay. -/
def clearPruneEpoch (s : StateDB) (epoch : ℕ) : StateDB :=
  let s := VmStateDB.setState s leaseRegistryAddress (epochCountSlot keccak256 epoch) 0
  VmStateDB.setState s leaseRegistryAddress (epochCursorSlot keccak256 epoch) 0

/-- `AppendPruneCandidate(db, epoch, addr)`: the address goes at the end of the epoch's queue;
the position is returned. -/
def appendPruneCandidate (s : StateDB) (epoch : ℕ) (addr : Address) : StateDB × ℕ :=
  let count := readUint64 s (epochCountSlot keccak256 epoch)
  let s := writeAddress s (epochEntrySlot keccak256 epoch count) addr
  (writeUint64 s (epochCountSlot keccak256 epoch) (count + 1), count)

variable (dposEpoch : ℕ)

/-- `ScheduleMeta(db, addr, &meta, chainConfig)`: queue the lease in the epoch its grace window
ends in, record the position in the metadata, and move the head back to that epoch if it lies
before it. -/
def scheduleMeta (s : StateDB) (addr : Address) (m : Meta) : StateDB × Meta :=
  let epoch := pruneEpoch m.graceUntilBlock (epochLength dposEpoch)
  let (s, seq) := appendPruneCandidate keccak256 s epoch addr
  let m := { m with scheduledPruneEpoch := epoch, scheduledPruneSeq := seq }
  let head := readPruneHeadEpoch keccak256 s
  ((if head = 0 ∨ epoch < head then writePruneHeadEpoch keccak256 s epoch else s), m)

/-- `ScheduleMeta` followed by `WriteMeta`, which every writer of a lease's metadata does. -/
def scheduleAndWrite (s : StateDB) (addr : Address) (m : Meta) : StateDB :=
  let r := scheduleMeta keccak256 dposEpoch s addr m
  writeMeta keccak256 r.1 addr r.2

/-- `Activate(db, addr, owner, createdAt, leaseBlocks, codeBytes, deposit, chainConfig)`. -/
def activate (s : StateDB) (addr owner : Address) (createdAt leaseBlocks codeBytes deposit : ℕ) :
    Except String StateDB := do
  let m ← newMeta dposEpoch owner createdAt leaseBlocks codeBytes deposit
  return scheduleAndWrite keccak256 dposEpoch s addr m

end Storage

end Gtos.Lease
