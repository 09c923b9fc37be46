import Gtos.Capability.State

/-! # The protocol registries' records (`registry/state.go`, `registry/types.go`)

The capability registry keeps a record per capability name, in the storage of
`CapabilityRegistryAddress` beside the capability bits, and the delegation registry a record per
(principal, delegate, scope) triple, in the storage of `DelegationRegistryAddress`. A record takes
six words from a base slot, Keccak-256 of a tag and the record's key; the slot of the field at
offset `i` is the base with `i` added to its last eight bytes (`capFieldSlot`, `delFieldSlot`).
Several fields are packed big-endian into one word.

A record is read as absent when its packed word is zero (`ReadCapability`), or when its capability
reference and its timings both are (`DelegationExists`). -/

namespace Gtos.Registry

open Gtos.Core Gtos.Capability

/-- `params.DelegationRegistryAddress`. -/
def delegationRegistryAddress : Address := 0x103#256

/-- `GovernorCapabilityBit`: the Registrar bit. -/
def governorCapabilityBit : UInt8 := 0

/-- `CapabilityStatus`: a byte, of which three values are named. -/
abbrev CapabilityStatus := UInt8

/-- `CapActive`. -/
def capActive : CapabilityStatus := 0

/-- `CapDeprecated`. -/
def capDeprecated : CapabilityStatus := 1

/-- `CapRevoked`. -/
def capRevoked : CapabilityStatus := 2

/-- `CapabilityStatus.CanTransitionTo`. -/
def CapabilityStatus.canTransitionTo (s next : CapabilityStatus) : Bool :=
  if s = capActive then next = capDeprecated || next = capRevoked
  else if s = capDeprecated then next = capRevoked
  else false

/-- `CapabilityRecord`. -/
structure CapabilityRecord where
  owner : Address
  name : String
  bitIndex : UInt16
  category : UInt16
  version : UInt32
  status : CapabilityStatus
  manifestRef : Hash
  createdAt : UInt64
  updatedAt : UInt64
  updatedBy : Address
  statusRef : Hash
  deriving DecidableEq, Repr

/-- The zero record `CapabilityRecord{}`, whose name is empty. -/
def CapabilityRecord.empty : CapabilityRecord := ⟨0, "", 0, 0, 0, 0, 0, 0, 0, 0, 0⟩

/-- `DelegationStatus`: a byte, of which three values are named. -/
abbrev DelegationStatus := UInt8

/-- `DelActive`. -/
def delActive : DelegationStatus := 0

/-- `DelRevoked`. -/
def delRevoked : DelegationStatus := 1

/-- `DelExpired`. -/
def delExpired : DelegationStatus := 2

/-- `DelegationRecord`. -/
structure DelegationRecord where
  principal : Address
  delegate : Address
  scopeRef : Hash
  capabilityRef : Hash
  policyRef : Hash
  notBeforeMS : UInt64
  expiryMS : UInt64
  status : DelegationStatus
  createdAt : UInt64
  updatedAt : UInt64
  updatedBy : Address
  statusRef : Hash
  deriving DecidableEq, Repr

/-- `DelegationRecord.EffectiveStatus(nowMS)`: a stored `Revoked` or `Expired` stands; an active
record is expired from its expiry on, and active before its start. -/
def DelegationRecord.effectiveStatus (r : DelegationRecord) (nowMS : UInt64) : DelegationStatus :=
  if r.status = delRevoked ∨ r.status = delExpired then r.status
  else if r.notBeforeMS > 0 ∧ nowMS < r.notBeforeMS then delActive
  else if r.expiryMS > 0 ∧ nowMS ≥ r.expiryMS then delExpired
  else delActive

/-! ## Slots -/

/-- The slot `offset` words after `base`: the offset is added to the last eight bytes, which wrap
as a `uint64`. -/
def offsetSlot (base : Hash) (offset : ℕ) : Hash :=
  BitVec.ofNat 256 (base.toNat / 2 ^ 64 * 2 ^ 64 + (base.toNat % 2 ^ 64 + offset) % 2 ^ 64)

/-- `capFieldSlot(base, offset)`. -/
def capFieldSlot (base : Hash) (offset : ℕ) : Hash := offsetSlot base offset

/-- `delFieldSlot(base, offset)`. -/
def delFieldSlot (base : Hash) (offset : ℕ) : Hash := offsetSlot base offset

/-- `capFieldPacked`: bit index, category, version and status. -/
def capFieldPacked : ℕ := 0

/-- `capFieldManifest`. -/
def capFieldManifest : ℕ := 1

/-- `capFieldOwner`. -/
def capFieldOwner : ℕ := 2

/-- `capFieldMeta`: creation and update blocks. -/
def capFieldMeta : ℕ := 3

/-- `capFieldUpdatedBy`. -/
def capFieldUpdatedBy : ℕ := 4

/-- `capFieldStatusRef`. -/
def capFieldStatusRef : ℕ := 5

/-- `delFieldCapRef`. -/
def delFieldCapRef : ℕ := 0

/-- `delFieldPolRef`. -/
def delFieldPolRef : ℕ := 1

/-- `delFieldTimings`: start, expiry and status. -/
def delFieldTimings : ℕ := 2

/-- `delFieldMeta`: creation and update blocks. -/
def delFieldMeta : ℕ := 3

/-- `delFieldUpdatedBy`. -/
def delFieldUpdatedBy : ℕ := 4

/-- `delFieldStatusRef`. -/
def delFieldStatusRef : ℕ := 5

section Slots

variable (keccak256 : List UInt8 → Hash)

/-- `capSlot(name)`: Keccak-256 of `"reg\x00cap\x00"` and the name. -/
def capSlot (name : String) : Hash :=
  keccak256 ("reg\x00cap\x00".toUTF8.toList ++ name.toUTF8.toList)

/-- `delSlot(principal, delegate, scope)`: Keccak-256 of `"reg\x00del\x00"`, the two addresses and
the scope. -/
def delSlot (principal delegate : Address) (scope : Hash) : Hash :=
  keccak256 ("reg\x00del\x00".toUTF8.toList ++ wordBytes principal ++ wordBytes delegate ++
    wordBytes scope)

end Slots

/-! ## Packed words -/

/-- The packed word of a capability record: the bit index in bytes 0–1, the category in 2–3, the
version in 4–7 and the status in byte 8. -/
def capPackedWord (rec : CapabilityRecord) : Hash :=
  BitVec.ofNat 256 (rec.bitIndex.toNat * 2 ^ 240 + rec.category.toNat * 2 ^ 224 +
    rec.version.toNat * 2 ^ 192 + rec.status.toNat * 2 ^ 184)

/-- Two `uint64`s in bytes 0–7 and 8–15. -/
def metaWord (createdAt updatedAt : UInt64) : Hash :=
  BitVec.ofNat 256 (createdAt.toNat * 2 ^ 192 + updatedAt.toNat * 2 ^ 128)

/-- The timings word of a delegation record: the start in bytes 0–7, the expiry in 8–15 and the
status in byte 16. -/
def delTimingsWord (rec : DelegationRecord) : Hash :=
  BitVec.ofNat 256 (rec.notBeforeMS.toNat * 2 ^ 192 + rec.expiryMS.toNat * 2 ^ 128 +
    rec.status.toNat * 2 ^ 120)

/-! ## Packed words read back

Every field fits its bytes, so each reads back from its word as the reader of `registry/state.go`
cuts it out. -/

section Unpack

variable (rec : CapabilityRecord)

theorem capPackedWord_toNat : (capPackedWord rec).toNat = rec.bitIndex.toNat * 2 ^ 240 +
    rec.category.toNat * 2 ^ 224 + rec.version.toNat * 2 ^ 192 + rec.status.toNat * 2 ^ 184 := by
  have := rec.bitIndex.toNat_lt
  have := rec.category.toNat_lt
  have := rec.version.toNat_lt
  have := rec.status.toNat_lt
  rw [capPackedWord, BitVec.toNat_ofNat, Nat.mod_eq_of_lt (by omega)]

@[simp] theorem bitIndex_ofPacked : UInt16.ofNat ((capPackedWord rec).toNat / 2 ^ 240) = rec.bitIndex := by
  have := rec.category.toNat_lt
  have := rec.version.toNat_lt
  have := rec.status.toNat_lt
  apply UInt16.toNat_inj.mp
  rw [UInt16.toNat_ofNat', capPackedWord_toNat]
  have := rec.bitIndex.toNat_lt
  omega

@[simp] theorem category_ofPacked : UInt16.ofNat ((capPackedWord rec).toNat / 2 ^ 224) = rec.category := by
  have := rec.category.toNat_lt
  have := rec.version.toNat_lt
  have := rec.status.toNat_lt
  apply UInt16.toNat_inj.mp
  rw [UInt16.toNat_ofNat', capPackedWord_toNat]
  omega

@[simp] theorem version_ofPacked : UInt32.ofNat ((capPackedWord rec).toNat / 2 ^ 192) = rec.version := by
  have := rec.version.toNat_lt
  have := rec.status.toNat_lt
  apply UInt32.toNat_inj.mp
  rw [UInt32.toNat_ofNat', capPackedWord_toNat]
  omega

@[simp] theorem status_ofPacked : UInt8.ofNat ((capPackedWord rec).toNat / 2 ^ 184) = rec.status := by
  have := rec.status.toNat_lt
  apply UInt8.toNat_inj.mp
  rw [UInt8.toNat_ofNat', capPackedWord_toNat]
  omega

theorem metaWord_toNat (createdAt updatedAt : UInt64) :
    (metaWord createdAt updatedAt).toNat = createdAt.toNat * 2 ^ 192 + updatedAt.toNat * 2 ^ 128 := by
  have := createdAt.toNat_lt
  have := updatedAt.toNat_lt
  rw [metaWord, BitVec.toNat_ofNat, Nat.mod_eq_of_lt (by omega)]

@[simp] theorem createdAt_ofMeta (createdAt updatedAt : UInt64) :
    UInt64.ofNat ((metaWord createdAt updatedAt).toNat / 2 ^ 192) = createdAt := by
  have := createdAt.toNat_lt
  have := updatedAt.toNat_lt
  apply UInt64.toNat_inj.mp
  rw [UInt64.toNat_ofNat', metaWord_toNat]
  omega

@[simp] theorem updatedAt_ofMeta (createdAt updatedAt : UInt64) :
    UInt64.ofNat ((metaWord createdAt updatedAt).toNat / 2 ^ 128) = updatedAt := by
  have := updatedAt.toNat_lt
  apply UInt64.toNat_inj.mp
  rw [UInt64.toNat_ofNat', metaWord_toNat]
  omega

end Unpack

section UnpackDelegation

variable (rec : DelegationRecord)

theorem delTimingsWord_toNat : (delTimingsWord rec).toNat = rec.notBeforeMS.toNat * 2 ^ 192 +
    rec.expiryMS.toNat * 2 ^ 128 + rec.status.toNat * 2 ^ 120 := by
  have := rec.notBeforeMS.toNat_lt
  have := rec.expiryMS.toNat_lt
  have := rec.status.toNat_lt
  rw [delTimingsWord, BitVec.toNat_ofNat, Nat.mod_eq_of_lt (by omega)]

@[simp] theorem notBeforeMS_ofTimings :
    UInt64.ofNat ((delTimingsWord rec).toNat / 2 ^ 192) = rec.notBeforeMS := by
  have := rec.notBeforeMS.toNat_lt
  have := rec.expiryMS.toNat_lt
  have := rec.status.toNat_lt
  apply UInt64.toNat_inj.mp
  rw [UInt64.toNat_ofNat', delTimingsWord_toNat]
  omega

@[simp] theorem expiryMS_ofTimings :
    UInt64.ofNat ((delTimingsWord rec).toNat / 2 ^ 128) = rec.expiryMS := by
  have := rec.expiryMS.toNat_lt
  have := rec.status.toNat_lt
  apply UInt64.toNat_inj.mp
  rw [UInt64.toNat_ofNat', delTimingsWord_toNat]
  omega

@[simp] theorem status_ofTimings : UInt8.ofNat ((delTimingsWord rec).toNat / 2 ^ 120) = rec.status := by
  have := rec.status.toNat_lt
  apply UInt8.toNat_inj.mp
  rw [UInt8.toNat_ofNat', delTimingsWord_toNat]
  omega

end UnpackDelegation

/-- The field slots of one base are distinct for offsets below `2 ^ 64`: the offset is added to the
base's last eight bytes, which it does not wrap twice. -/
theorem offsetSlot_inj {base : Hash} {i j : ℕ} (hi : i < 2 ^ 64) (hj : j < 2 ^ 64) :
    offsetSlot base i = offsetSlot base j ↔ i = j := by
  refine ⟨fun h => ?_, fun h => h ▸ rfl⟩
  have hlt : ∀ k, base.toNat / 2 ^ 64 * 2 ^ 64 + (base.toNat % 2 ^ 64 + k) % 2 ^ 64 < 2 ^ 256 := by
    have := base.isLt
    omega
  have h' := congrArg BitVec.toNat h
  simp only [offsetSlot, BitVec.toNat_ofNat] at h'
  rw [Nat.mod_eq_of_lt (hlt i), Nat.mod_eq_of_lt (hlt j)] at h'
  omega

@[simp] theorem capFieldSlot_inj {base : Hash} {i j : ℕ} (hi : i < 2 ^ 64) (hj : j < 2 ^ 64) :
    capFieldSlot base i = capFieldSlot base j ↔ i = j :=
  offsetSlot_inj hi hj

@[simp] theorem delFieldSlot_inj {base : Hash} {i j : ℕ} (hi : i < 2 ^ 64) (hj : j < 2 ^ 64) :
    delFieldSlot base i = delFieldSlot base j ↔ i = j :=
  offsetSlot_inj hi hj

section Access

variable {σ : Type} [VmStateDB σ] (keccak256 : List UInt8 → Hash)

/-- **`ReadCapability(db, name)`**: the zero record when the packed word is zero. -/
def readCapability (db : σ) (name : String) : CapabilityRecord :=
  let base := capSlot keccak256 name
  let field (offset : ℕ) := VmStateDB.getState db capabilityRegistryAddress (capFieldSlot base offset)
  let packed := field capFieldPacked
  if packed = 0 then CapabilityRecord.empty
  else
    { owner := field capFieldOwner
      name := name
      bitIndex := UInt16.ofNat (packed.toNat / 2 ^ 240)
      category := UInt16.ofNat (packed.toNat / 2 ^ 224)
      version := UInt32.ofNat (packed.toNat / 2 ^ 192)
      status := UInt8.ofNat (packed.toNat / 2 ^ 184)
      manifestRef := field capFieldManifest
      createdAt := UInt64.ofNat ((field capFieldMeta).toNat / 2 ^ 192)
      updatedAt := UInt64.ofNat ((field capFieldMeta).toNat / 2 ^ 128)
      updatedBy := field capFieldUpdatedBy
      statusRef := field capFieldStatusRef }

/-- A record read with a name has that name, or none. -/
theorem readCapability_name_of_ne {db : σ} {name : String}
    (h : (readCapability keccak256 db name).name ≠ "") : (readCapability keccak256 db name).name = name := by
  unfold readCapability at h ⊢
  dsimp only at h ⊢
  split_ifs at h ⊢
  · exact absurd rfl h
  · rfl

/-- **`WriteCapability(db, rec)`**: the six words, in order, at the record's name. -/
def writeCapability (db : σ) (rec : CapabilityRecord) : σ :=
  let base := capSlot keccak256 rec.name
  let set (db : σ) (offset : ℕ) (v : Hash) :=
    VmStateDB.setState db capabilityRegistryAddress (capFieldSlot base offset) v
  let db := set db capFieldPacked (capPackedWord rec)
  let db := set db capFieldManifest rec.manifestRef
  let db := set db capFieldOwner rec.owner
  let db := set db capFieldMeta (metaWord rec.createdAt rec.updatedAt)
  let db := set db capFieldUpdatedBy rec.updatedBy
  set db capFieldStatusRef rec.statusRef

/-- **`ReadDelegation(db, principal, delegate, scope)`**: the fields as stored, zero when absent. -/
def readDelegation (db : σ) (principal delegate : Address) (scope : Hash) : DelegationRecord :=
  let base := delSlot keccak256 principal delegate scope
  let field (offset : ℕ) :=
    VmStateDB.getState db delegationRegistryAddress (delFieldSlot base offset)
  let timings := field delFieldTimings
  { principal := principal
    delegate := delegate
    scopeRef := scope
    capabilityRef := field delFieldCapRef
    policyRef := field delFieldPolRef
    notBeforeMS := UInt64.ofNat (timings.toNat / 2 ^ 192)
    expiryMS := UInt64.ofNat (timings.toNat / 2 ^ 128)
    status := UInt8.ofNat (timings.toNat / 2 ^ 120)
    createdAt := UInt64.ofNat ((field delFieldMeta).toNat / 2 ^ 192)
    updatedAt := UInt64.ofNat ((field delFieldMeta).toNat / 2 ^ 128)
    updatedBy := field delFieldUpdatedBy
    statusRef := field delFieldStatusRef }

/-- **`DelegationExists`**: the capability reference or the timings word is non-zero. -/
def delegationExists (db : σ) (principal delegate : Address) (scope : Hash) : Bool :=
  let base := delSlot keccak256 principal delegate scope
  let capRef := VmStateDB.getState db delegationRegistryAddress (delFieldSlot base delFieldCapRef)
  let timings := VmStateDB.getState db delegationRegistryAddress (delFieldSlot base delFieldTimings)
  capRef ≠ 0 || timings ≠ 0

/-- **`WriteDelegation(db, rec)`**: the six words, in order, at the record's triple. -/
def writeDelegation (db : σ) (rec : DelegationRecord) : σ :=
  let base := delSlot keccak256 rec.principal rec.delegate rec.scopeRef
  let set (db : σ) (offset : ℕ) (v : Hash) :=
    VmStateDB.setState db delegationRegistryAddress (delFieldSlot base offset) v
  let db := set db delFieldCapRef rec.capabilityRef
  let db := set db delFieldPolRef rec.policyRef
  let db := set db delFieldTimings (delTimingsWord rec)
  let db := set db delFieldMeta (metaWord rec.createdAt rec.updatedAt)
  let db := set db delFieldUpdatedBy rec.updatedBy
  set db delFieldStatusRef rec.statusRef

/-- `IsGovernor(db, addr)`: the address holds the governor bit. -/
def isGovernor (db : σ) (addr : Address) : Bool :=
  hasCapability keccak256 db addr governorCapabilityBit

end Access

end Gtos.Registry
