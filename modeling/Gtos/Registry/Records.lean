import Gtos.Capability.Storage

/-! # What the registries' records read back (`registry/state.go`)

A record is written as six words at the offsets `0, …, 5` from its base slot, which never share a
slot (`offsetSlot_inj`), whatever Keccak-256 is. So:

* **`readCapability_writeCapability`** — a capability record reads back as written, except when
  its packed word (bit index, category, version and status) is zero: `ReadCapability` then reports
  no record;
* **`readDelegation_writeDelegation`** — a delegation record always reads back as written;
* **`delegationExists_writeDelegation`** — but `DelegationExists` reports it only when its
  capability reference or its start, expiry and status word is non-zero.

`REGISTRY_REGISTER_CAP` writes an active record with the payload's bit index, category and version,
which may all be zero for a name bound to bit 0: the record it writes is then read as absent, and
the registration can be made again (`registerCap_record_vanishes`). -/

namespace Gtos.Registry

open Gtos.Core Gtos.Capability Gtos.Sysaction

section ReadBack

variable (keccak256 : List UInt8 → Hash) (s : StateDB)

/-- **A capability record reads back as written**, unless its packed word is zero. -/
theorem readCapability_writeCapability (rec : CapabilityRecord) :
    readCapability keccak256 (writeCapability keccak256 s rec) rec.name =
      if capPackedWord rec = 0 then CapabilityRecord.empty else rec := by
  -- each of the six words is read at its own offset, past the five other writes
  simp (disch := decide) only [readCapability, writeCapability, StateDB.getState_eq,
    StateDB.storage_setState_self, Function.update_apply, capFieldSlot_inj, capFieldPacked,
    capFieldManifest, capFieldOwner, capFieldMeta, capFieldUpdatedBy, capFieldStatusRef,
    bitIndex_ofPacked, category_ofPacked, version_ofPacked, status_ofPacked, createdAt_ofMeta,
    updatedAt_ofMeta, Nat.reduceEqDiff, ↓reduceIte, -Nat.reducePow]

/-- **A delegation record reads back as written.** -/
theorem readDelegation_writeDelegation (rec : DelegationRecord) :
    readDelegation keccak256 (writeDelegation keccak256 s rec) rec.principal rec.delegate
      rec.scopeRef = rec := by
  simp (disch := decide) only [readDelegation, writeDelegation, StateDB.getState_eq,
    StateDB.storage_setState_self, Function.update_apply, delFieldSlot_inj, delFieldCapRef,
    delFieldPolRef, delFieldTimings, delFieldMeta, delFieldUpdatedBy, delFieldStatusRef,
    notBeforeMS_ofTimings, expiryMS_ofTimings, status_ofTimings, createdAt_ofMeta, updatedAt_ofMeta,
    Nat.reduceEqDiff, ↓reduceIte, -Nat.reducePow]

/-- **A delegation record exists** when its capability reference or its timings word is
non-zero. -/
theorem delegationExists_writeDelegation (rec : DelegationRecord) :
    delegationExists keccak256 (writeDelegation keccak256 s rec) rec.principal rec.delegate
      rec.scopeRef = (rec.capabilityRef ≠ 0 || delTimingsWord rec ≠ 0) := by
  simp (disch := decide) only [delegationExists, writeDelegation, StateDB.getState_eq,
    StateDB.storage_setState_self, Function.update_apply, delFieldSlot_inj, delFieldCapRef,
    delFieldPolRef, delFieldTimings, delFieldMeta, delFieldUpdatedBy, delFieldStatusRef]
  simp

end ReadBack

/-! ## A registration whose record is read as absent -/

/-- A genesis in which the name `r` is bound to bit 0, held by `0x1`, a governor. -/
def registrarGenesis : StateDB :=
  grantCapability capHash (writeBitCount capHash (writeNameBit capHash StateDB.empty "r" 0) 1) 1#256 0

/-- The governor `0x1` at block 1. -/
def governorCtx : Context := ⟨1#256, 0, 1⟩

/-- The name `r` at bit index, category and version zero, with no references. -/
def zeroCapPayload : RegisterCapPayload := ⟨"r", 0, 0, 0, "", ""⟩

theorem registerCap_record_vanishes :
    ∃ s₁ s₂, (handle capHash governorCtx (.registerCap zeroCapPayload)).run.run registrarGenesis =
        (.ok (), s₁) ∧ readCapability capHash s₁ "r" = CapabilityRecord.empty ∧
      (handle capHash governorCtx (.registerCap zeroCapPayload)).run.run s₁ = (.ok (), s₂) := by
  refine ⟨_, _, Prod.ext ?_ rfl, ?_, Prod.ext ?_ rfl⟩ <;> decide +kernel

end Gtos.Registry
