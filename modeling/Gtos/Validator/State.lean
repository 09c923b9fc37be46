import Mathlib.Data.Prod.Lex
import Gtos.Common.Hex
import Gtos.Core.StateDB
import Gtos.Lib.Ranking

/-! # The validator registry (`validator/state.go`, `validator/types.go`)

The DPoS validators live in the storage of `ValidatorRegistryAddress`. Each address has four
words there, at slots named by Keccak-256 of the address, a zero byte and the field name: its
locked stake, its status, the block at which it entered maintenance, and a flag set at its first
registration. The registry also keeps the list of every address ever registered: a count, and a
slot per index.

`ReadActiveValidatorsAtBlock` selects the next validator set from the list: the addresses whose
status, with maintenance expiry applied at the block, is `Active`, ranked by stake descending with
the address ascending to break ties, cut to `maxValidators`, and returned in address order.
`ReadActiveValidators` makes the same selection on the stored status.

* **`selectActive`** — the selection the two readers share.
* **`IsTopValidators`** — the ranked selection: strictly ascending, at most `maxValidators`
  members, exactly the candidates of which fewer than `maxValidators` candidates rank before.
* **`selectActive_spec`** — when the list holds distinct addresses, the selection is the ranked
  selection of its `Active` addresses.

Keccak-256 is a parameter of the model (`keccak256`). -/

namespace Gtos.Validator

open Gtos.Core

/-- `params.ValidatorRegistryAddress`. -/
def validatorRegistryAddress : Address := 0x3#256

/-- `params.DPoSMinValidatorStake`: 10,000,000 TOS, in tomi. -/
def dposMinValidatorStake : ℕ := 10000000 * 10 ^ 18

/-- `params.DPoSMaintenanceMaxBlocks`. -/
def dposMaintenanceMaxBlocks : ℕ := 240000

/-- `ValidatorStatus`: a byte, of which four values are named. A status read from storage is the
last byte of the word, whatever it holds. -/
abbrev ValidatorStatus := UInt8

/-- `Inactive`: never registered, or withdrawn. -/
def inactive : ValidatorStatus := 0

/-- `Active`. -/
def active : ValidatorStatus := 1

/-- `Maintenance`. -/
def maintenance : ValidatorStatus := 2

/-- `MaintenanceExpired`: computed at read time, never stored. -/
def maintenanceExpired : ValidatorStatus := 3

/-- The field of `params.DPoSConfig` that the registry reads. -/
structure MaintenanceConfig where
  /-- `MaintenanceMaxBlocks`; zero selects the default. -/
  maintenanceMaxBlocks : ℕ
  deriving DecidableEq, Repr

/-- `(*DPoSConfig).MaintenanceMaxBlocksEffective()`; `none` is a nil config. -/
def maintenanceMaxBlocksEffective (cfg : Option MaintenanceConfig) : ℕ :=
  match cfg with
  | some c => if c.maintenanceMaxBlocks > 0 then c.maintenanceMaxBlocks else dposMaintenanceMaxBlocks
  | none => dposMaintenanceMaxBlocks

section Slots

variable (keccak256 : List UInt8 → Hash)

/-- `validatorSlot(addr, field)`: Keccak-256 of the address, a zero byte and the field name. -/
def validatorSlot (addr : Address) (field : String) : Hash :=
  keccak256 (wordBytes addr ++ [0] ++ field.toUTF8.toList)

/-- `validatorCountSlot`. -/
def validatorCountSlot : Hash :=
  keccak256 "dpos\x00validatorCount".toUTF8.toList

/-- `validatorListSlot(i)`: the slot of the `i`-th registered address. -/
def validatorListSlot (i : ℕ) : Hash :=
  keccak256 ("dpos\x00validatorList\x00".toUTF8.toList ++ Bytes.toBytesBE i 8)

end Slots

section Access

variable {σ : Type} [VmStateDB σ] (keccak256 : List UInt8 → Hash)

/-- `readValidatorCount`: the low eight bytes of the count word. -/
def readValidatorCount (db : σ) : ℕ :=
  (VmStateDB.getState db validatorRegistryAddress (validatorCountSlot keccak256)).toNat % 2 ^ 64

/-- `writeValidatorCount(n)`, of a `uint64`. -/
def writeValidatorCount (db : σ) (n : ℕ) : σ :=
  VmStateDB.setState db validatorRegistryAddress (validatorCountSlot keccak256) (BitVec.ofNat 256 n)

/-- `readValidatorAt(i)`: the address is the whole 32-byte word. -/
def readValidatorAt (db : σ) (i : ℕ) : Address :=
  VmStateDB.getState db validatorRegistryAddress (validatorListSlot keccak256 i)

/-- `appendValidatorToList`: the address goes to the slot of index `count`, and the `uint64`
count is incremented. -/
def appendValidatorToList (db : σ) (addr : Address) : σ :=
  let n := readValidatorCount keccak256 db
  let db := VmStateDB.setState db validatorRegistryAddress (validatorListSlot keccak256 n) addr
  writeValidatorCount keccak256 db ((n + 1) % 2 ^ 64)

/-- `writeSelfStake`: `common.BigToHash` keeps the low 32 bytes of the absolute value. -/
def writeSelfStake (db : σ) (addr : Address) (stake : ℤ) : σ :=
  VmStateDB.setState db validatorRegistryAddress (validatorSlot keccak256 addr "selfStake")
    (BitVec.ofNat 256 stake.natAbs)

/-- `writeMaintenanceSince`, of a `uint64` block number. -/
def writeMaintenanceSince (db : σ) (addr : Address) (blockNumber : ℕ) : σ :=
  VmStateDB.setState db validatorRegistryAddress (validatorSlot keccak256 addr "maintenanceSince")
    (BitVec.ofNat 256 blockNumber)

/-- `ReadMaintenanceSince`: the low eight bytes of the word. -/
def readMaintenanceSince (db : σ) (addr : Address) : ℕ :=
  (VmStateDB.getState db validatorRegistryAddress
    (validatorSlot keccak256 addr "maintenanceSince")).toNat % 2 ^ 64

/-- `readRegisteredFlag`: the last byte of the word is not zero. -/
def readRegisteredFlag (db : σ) (addr : Address) : Bool :=
  (VmStateDB.getState db validatorRegistryAddress
    (validatorSlot keccak256 addr "registered")).toNat % 256 ≠ 0

/-- `writeRegisteredFlag`: a word whose last byte is one. -/
def writeRegisteredFlag (db : σ) (addr : Address) : σ :=
  VmStateDB.setState db validatorRegistryAddress (validatorSlot keccak256 addr "registered") 1#256

/-- `WriteValidatorStatus`: the status in the last byte of the word. -/
def writeValidatorStatus (db : σ) (addr : Address) (s : ValidatorStatus) : σ :=
  VmStateDB.setState db validatorRegistryAddress (validatorSlot keccak256 addr "status")
    (BitVec.ofNat 256 s.toNat)

/-- `ReadSelfStake`: the word as an unsigned integer. -/
def readSelfStake (db : σ) (addr : Address) : ℕ :=
  (VmStateDB.getState db validatorRegistryAddress (validatorSlot keccak256 addr "selfStake")).toNat

/-- `ReadValidatorStatus`: the last byte of the word. -/
def readValidatorStatus (db : σ) (addr : Address) : ValidatorStatus :=
  UInt8.ofNat (VmStateDB.getState db validatorRegistryAddress
    (validatorSlot keccak256 addr "status")).toNat

/-- `ReadEffectiveValidatorStatus`: a validator in maintenance for `maxBlocks` blocks or more
reads as `MaintenanceExpired`; a nil config, block zero or an unset start disable the rule. -/
def readEffectiveValidatorStatus (db : σ) (addr : Address) (currentBlock : ℕ)
    (cfg : Option MaintenanceConfig) : ValidatorStatus :=
  let status := readValidatorStatus keccak256 db addr
  if status ≠ maintenance then status
  else if cfg.isNone ∨ currentBlock = 0 then status
  else
    let since := readMaintenanceSince keccak256 db addr
    if since = 0 then status
    else
      let maxBlocks := maintenanceMaxBlocksEffective cfg
      if maxBlocks = 0 then status
      else if currentBlock ≥ since ∧ currentBlock - since ≥ maxBlocks then maintenanceExpired
      else status

/-- The addresses in the list slots `0 .. count - 1`, in order. -/
def validatorList (db : σ) : List Address :=
  (List.range (readValidatorCount keccak256 db)).map (readValidatorAt keccak256 db)

end Access

/-! ## The selection of the active set -/

/-- The `entry` of the selection: an address and its stake. -/
structure Entry where
  /-- `addr`. -/
  addr : Address
  /-- `stake`. -/
  stake : ℕ
  deriving DecidableEq, Repr

/-- The comparator of the selection's stable sort: the higher stake first, then the lower address
(`bytes.Compare` of two 32-byte arrays compares them as big-endian numbers). -/
def entryLess (a b : Entry) : Bool :=
  if a.stake ≠ b.stake then a.stake > b.stake else a.addr.toNat < b.addr.toNat

/-- `addressAscending.Less`. -/
def addressLess (a b : Address) : Bool :=
  a.toNat < b.toNat

section Select

variable {σ : Type} [VmStateDB σ] (keccak256 : List UInt8 → Hash)

/-- The selection of `ReadActiveValidators` and `ReadActiveValidatorsAtBlock`, by the status each
reads for an address. -/
def selectActive (statusOf : Address → ValidatorStatus) (db : σ) (maxValidators : ℕ) :
    List Address :=
  let count := readValidatorCount keccak256 db
  -- phase 1: the listed addresses whose status is `Active`, with their stakes
  let entries := (List.range count).filterMap fun i =>
    let addr := readValidatorAt keccak256 db i
    if statusOf addr = active then some ⟨addr, readSelfStake keccak256 db addr⟩ else none
  -- phase 2: by stake descending and address ascending, cut to `maxValidators`
  let entries := Ranking.sortByLess entryLess entries
  let entries := if entries.length > maxValidators then entries.take maxValidators else entries
  -- phase 3: by address ascending
  Ranking.sortByLess addressLess (entries.map Entry.addr)

/-- `ReadActiveValidators(db, maxValidators)`. -/
def readActiveValidators (db : σ) (maxValidators : ℕ) : List Address :=
  selectActive keccak256 (readValidatorStatus keccak256 db) db maxValidators

/-- `ReadActiveValidatorsAtBlock(db, maxValidators, currentBlock, cfg)`. -/
def readActiveValidatorsAtBlock (db : σ) (maxValidators currentBlock : ℕ)
    (cfg : Option MaintenanceConfig) : List Address :=
  selectActive keccak256 (fun addr => readEffectiveValidatorStatus keccak256 db addr currentBlock cfg)
    db maxValidators

/-! ## The selection, ranked

The comparator of phase 2 is the strict order of a key, the stake reversed and then the address,
so the sorts of phases 2 and 3 give the lists strictly increasing by rank and by address
(`Ranking.pairwise_sortByLess`), and the cut keeps the entries of rank below `maxValidators`
(`Ranking.mem_take_iff_countP_lt`). -/

/-- The rank of an entry: the stake in reverse order, then the address. -/
def rankKey (e : Entry) : ℕᵒᵈ ×ₗ ℕ :=
  toLex (OrderDual.toDual e.stake, e.addr.toNat)

theorem entryLess_eq (a b : Entry) : entryLess a b = decide (rankKey a < rankKey b) := by
  simp only [entryLess, rankKey, Prod.Lex.toLex_lt_toLex, OrderDual.toDual_lt_toDual]
  by_cases h : a.stake = b.stake <;> simp [h]

theorem addressLess_eq (a b : Address) : addressLess a b = decide (a.toNat < b.toNat) := rfl

/-- Phase 1 gives the candidates of the list, in list order, with their stakes. -/
theorem filterMap_range_readValidatorAt (statusOf : Address → ValidatorStatus) (db : σ) :
    (List.range (readValidatorCount keccak256 db)).filterMap (fun i =>
        if statusOf (readValidatorAt keccak256 db i) = active then
          some (Entry.mk (readValidatorAt keccak256 db i)
            (readSelfStake keccak256 db (readValidatorAt keccak256 db i)))
        else none) =
      ((validatorList keccak256 db).filter fun a => statusOf a = active).map
        fun a => Entry.mk a (readSelfStake keccak256 db a) := by
  rw [validatorList, List.filter_map, List.map_map, ← List.filterMap_eq_filter, List.map_filterMap]
  congr 1
  funext i
  by_cases h : statusOf (readValidatorAt keccak256 db i) = active <;> simp [Option.guard, h]

/-- **The ranked selection.** `result` holds, in strictly ascending order, exactly the
`candidates` of which fewer than `k` candidates rank before, by stake descending and address
ascending; so it has at most `k` members. -/
def IsTopValidators (stakeOf : Address → ℕ) (k : ℕ) (candidates result : List Address) : Prop :=
  result.Pairwise (· < ·) ∧ result.length ≤ k ∧
    ∀ a, a ∈ result ↔ a ∈ candidates ∧
      candidates.countP (fun b => entryLess ⟨b, stakeOf b⟩ ⟨a, stakeOf a⟩) < k

/-- **The selection of the active set.** When the list holds distinct addresses, the selection
is the ranked selection of the candidates: the listed addresses of status `Active`. -/
theorem selectActive_spec (statusOf : Address → ValidatorStatus) (db : σ) (maxValidators : ℕ)
    (hnd : (validatorList keccak256 db).Nodup) :
    IsTopValidators (readSelfStake keccak256 db) maxValidators
      ((validatorList keccak256 db).filter fun b => statusOf b = active)
      (selectActive keccak256 statusOf db maxValidators) := by
  set cands := (validatorList keccak256 db).filter fun b => statusOf b = active
  set stakeEntry : Address → Entry := fun a => ⟨a, readSelfStake keccak256 db a⟩
  have hcands : cands.Nodup := hnd.filter _
  have hentry_inj : ∀ a b, stakeEntry a = stakeEntry b → a = b := fun a b h => congrArg Entry.addr h
  -- phase 2 sorts entries of distinct addresses, so of distinct ranks
  have hkeys : ((cands.map stakeEntry).map rankKey).Nodup := by
    rw [List.map_map]
    refine hcands.map_on fun a _ b _ h => ?_
    simpa [rankKey, stakeEntry, BitVec.toNat_inj] using congrArg (fun k => (ofLex k).2) h
  set sorted := Ranking.sortByLess entryLess (cands.map stakeEntry)
  have hsorted : sorted.Pairwise fun a b => rankKey a < rankKey b :=
    Ranking.pairwise_sortByLess rankKey entryLess_eq hkeys
  have hsel : selectActive keccak256 statusOf db maxValidators =
      Ranking.sortByLess addressLess ((sorted.take maxValidators).map Entry.addr) := by
    simp only [selectActive, filterMap_range_readValidatorAt]
    congr 2
    split
    · rfl
    · exact (List.take_of_length_le (by omega)).symm
  -- the addresses kept by the cut are distinct
  have haddrs : ((sorted.take maxValidators).map Entry.addr).Nodup := by
    have hall : (sorted.map Entry.addr).Nodup := by
      rw [((Ranking.sortByLess_perm entryLess _).map Entry.addr).nodup_iff, List.map_map]
      simpa [stakeEntry, Function.comp_def] using hcands
    exact ((List.take_sublist _ _).map Entry.addr).nodup hall
  refine ⟨?_, ?_, fun a => ?_⟩
  · rw [hsel]
    have h := Ranking.pairwise_sortByLess BitVec.toNat addressLess_eq
      (haddrs.map fun _ _ h => BitVec.eq_of_toNat_eq h)
    exact h.imp fun hab => BitVec.lt_def.mpr hab
  · rw [hsel, (Ranking.sortByLess_perm _ _).length_eq, List.length_map, List.length_take]
    exact min_le_left _ _
  · rw [hsel, Ranking.mem_sortByLess]
    -- an address is kept iff its entry is among the first `maxValidators` by rank
    have hmem : a ∈ (sorted.take maxValidators).map Entry.addr ↔
        stakeEntry a ∈ sorted.take maxValidators := by
      constructor
      · intro h
        obtain ⟨e, he, rfl⟩ := List.mem_map.mp h
        obtain ⟨b, -, rfl⟩ := List.mem_map.mp
          (Ranking.mem_sortByLess.mp ((List.take_sublist _ _).subset he))
        exact he
      · exact fun h => List.mem_map.mpr ⟨_, h, rfl⟩
    have hcount : sorted.countP (fun e => rankKey e < rankKey (stakeEntry a)) =
        cands.countP (fun b => entryLess (stakeEntry b) (stakeEntry a)) := by
      rw [(Ranking.sortByLess_perm _ _).countP_eq, List.countP_map]
      simp [Function.comp_def, entryLess_eq]
    rw [hmem, Ranking.mem_take_iff_countP_lt rankKey hsorted, Ranking.mem_sortByLess, hcount,
      List.mem_map]
    constructor
    · rintro ⟨⟨b, hb, hba⟩, hlt⟩
      exact ⟨hentry_inj b a hba ▸ hb, hlt⟩
    · exact fun ⟨ha, hlt⟩ => ⟨⟨a, ha, rfl⟩, hlt⟩

end Select

end Gtos.Validator
