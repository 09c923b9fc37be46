import Gtos.Registry.State
import Gtos.Capability.Handler
import Gtos.Lib.ExceptState

/-! # The registry actions (`registry/handler.go`)

Five system actions keep the protocol registries. `REGISTRY_REGISTER_CAP` writes a new
capability record, binding its name to the requested bit of the capability registry unless the
name is bound already, and is reserved to governors (holders of the Registrar bit).
`REGISTRY_DEPRECATE_CAP` and `REGISTRY_REVOKE_CAP` move a record's status, by its owner or a
governor. `REGISTRY_GRANT_DELEGATION` writes a delegation record, by its principal or a governor,
and `REGISTRY_REVOKE_DELEGATION` marks an existing one revoked.

The requested bit index of a capability is a `uint16`, which the handler passes to the capability
registry cut to a byte (`uint8(p.BitIndex)`); the record keeps the `uint16`. The payloads' optional
32-byte references are hexadecimal texts (`parseOptionalBytes32`), and a reference that does not
parse is reported with the handler's own error. -/

namespace Gtos.Registry

open Gtos.Core Gtos.Sysaction Gtos.Capability

/-- `ErrCapabilityAlreadyRegistered`. -/
def errCapabilityAlreadyRegistered : String := "registry: capability already registered"

/-- `ErrCapabilityNotFound`. -/
def errCapabilityNotFound : String := "registry: capability not found"

/-- `ErrCapabilityAlreadyDeprecated`. -/
def errCapabilityAlreadyDeprecated : String := "registry: capability already deprecated"

/-- `ErrCapabilityAlreadyRevoked`. -/
def errCapabilityAlreadyRevoked : String := "registry: capability already revoked"

/-- `ErrUnauthorizedCapability`. -/
def errUnauthorizedCapability : String := "registry: sender is not capability owner or governor"

/-- `ErrDelegationNotFound`. -/
def errDelegationNotFound : String := "registry: delegation not found"

/-- `ErrDelegationAlreadyRevoked`. -/
def errDelegationAlreadyRevoked : String := "registry: delegation already revoked"

/-- `ErrInvalidDelegationWindow`. -/
def errInvalidDelegationWindow : String := "registry: invalid delegation time window"

/-- `ErrInvalidCapabilityName`. -/
def errInvalidCapabilityName : String := "registry: invalid capability name"

/-- `ErrInvalidDelegation`. -/
def errInvalidDelegation : String := "registry: invalid delegation parameters"

/-- `ErrUnauthorizedDelegation`. -/
def errUnauthorizedDelegation : String := "registry: sender is not delegation principal or governor"

/-! ## Payloads -/

/-- `registerCapPayload`. -/
structure RegisterCapPayload where
  name : String
  bitIndex : UInt16
  category : UInt16
  version : UInt32
  manifestRef : String
  statusRef : String
  deriving DecidableEq, Repr

/-- `capNamePayload`. -/
structure CapNamePayload where
  name : String
  reasonRef : String
  deriving DecidableEq, Repr

/-- `grantDelegationPayload`. -/
structure GrantDelegationPayload where
  principal : String
  delegate : String
  scopeRef : String
  capabilityRef : String
  policyRef : String
  notBeforeMS : UInt64
  expiryMS : UInt64
  statusRef : String
  deriving DecidableEq, Repr

/-- `revokeDelegationPayload`. -/
structure RevokeDelegationPayload where
  principal : String
  delegate : String
  scopeRef : String
  reasonRef : String
  deriving DecidableEq, Repr

/-- A registry action with its decoded payload. -/
inductive RegistryAction
  /-- `REGISTRY_REGISTER_CAP`. -/
  | registerCap (p : RegisterCapPayload)
  /-- `REGISTRY_DEPRECATE_CAP`. -/
  | deprecateCap (p : CapNamePayload)
  /-- `REGISTRY_REVOKE_CAP`. -/
  | revokeCap (p : CapNamePayload)
  /-- `REGISTRY_GRANT_DELEGATION`. -/
  | grantDelegation (p : GrantDelegationPayload)
  /-- `REGISTRY_REVOKE_DELEGATION`. -/
  | revokeDelegation (p : RevokeDelegationPayload)
  deriving DecidableEq, Repr

/-! ## Parsing -/

/-- `parseOptionalBytes32`: the empty text is the zero word; otherwise 64 hexadecimal digits, with
an optional `0x`. The length is counted in characters, which differs from Go's byte count only for
a text that is not hexadecimal and fails either way. -/
def parseOptionalBytes32 (input : String) : Except String Hash :=
  let raw := Text.trimSpace input.toList
  if raw = [] then .ok 0
  else
    let raw := if has0xPrefix raw then raw.drop 2 else raw
    if raw.length ≠ 64 then .error errInvalidDelegation
    else
      match Hex.decodeString raw with
      | some decoded => if decoded.length ≠ 32 then .error errInvalidDelegation
        else .ok (bytesToHash decoded)
      | none => .error errInvalidDelegation

/-- `common.IsHexAddress`: 64 hexadecimal digits after an optional `0x`. -/
def isHexAddress (s : List Char) : Bool :=
  let s := if has0xPrefix s then s.drop 2 else s
  s.length = 64 && s.all fun c => (Hex.digitValue c).isSome

/-- `parseStrictHexAddress`. -/
def parseStrictHexAddress (input : String) : Except String Address :=
  let input := Text.trimSpace input.toList
  if !isHexAddress input then .error errInvalidDelegation
  else .ok (hexToAddress (String.ofList input))

/-- `currentBlockU64(ctx)`: the block number, zero when it is not a `uint64`. -/
def currentBlockU64 (ctx : Context) : UInt64 :=
  if ctx.blockNumber < 2 ^ 64 then UInt64.ofNat ctx.blockNumber else 0

section Handle

variable {σ : Type} [VmStateDB σ] (keccak256 : List UInt8 → Hash)

/-- A parse inside a handler, whose error the handler reports as `err`. -/
def requireParsed {α : Type} (x : Except String α) (err : String) : HandlerM σ α :=
  match x with
  | .ok a => pure a
  | .error _ => throw (.error err)

/-- **`handleRegisterCap`**: a governor registers a trimmed, non-empty name that has no record,
binding it to the requested bit cut to a byte unless it is bound already. -/
def handleRegisterCap (ctx : Context) (p : RegisterCapPayload) : HandlerM σ Unit := do
  let name := String.ofList (Text.trimSpace p.name.toList)
  if name = "" then throw (.error errInvalidCapabilityName)
  let db ← get
  if !isGovernor keccak256 db ctx.sender then throw (.error errUnauthorizedCapability)
  let manifestRef ← requireParsed (parseOptionalBytes32 p.manifestRef) errInvalidCapabilityName
  let statusRef ← requireParsed (parseOptionalBytes32 p.statusRef) errInvalidCapabilityName
  if (readCapability keccak256 db name).name ≠ "" then
    throw (.error errCapabilityAlreadyRegistered)
  let db ← match capabilityBit keccak256 db name with
    | (bit, true) =>
      if bit ≠ p.bitIndex.toUInt8 then throw (.error errCapabilityBitConflict) else pure db
    | (_, false) =>
      match registerCapabilityNameAtBit keccak256 db name p.bitIndex.toUInt8 with
      | .ok db => pure db
      | .error e => throw (.error e)
  let now := currentBlockU64 ctx
  set (writeCapability keccak256 db
    { owner := ctx.sender, name := name, bitIndex := p.bitIndex, category := p.category,
      version := p.version, status := capActive, manifestRef := manifestRef, createdAt := now,
      updatedAt := now, updatedBy := ctx.sender, statusRef := statusRef })

/-- **`handleDeprecateCap`**: the owner, or anyone for a record without owner, or a governor
deprecates an active record. -/
def handleDeprecateCap (ctx : Context) (p : CapNamePayload) : HandlerM σ Unit := do
  let db ← get
  let record := readCapability keccak256 db p.name
  if record.name = "" then throw (.error errCapabilityNotFound)
  if record.owner ≠ 0 ∧ ctx.sender ≠ record.owner ∧ !isGovernor keccak256 db ctx.sender then
    throw (.error errUnauthorizedCapability)
  if record.status = capDeprecated then throw (.error errCapabilityAlreadyDeprecated)
  if record.status = capRevoked then throw (.error errCapabilityAlreadyRevoked)
  if !record.status.canTransitionTo capDeprecated then throw (.error errCapabilityAlreadyDeprecated)
  let reason ← requireParsed (parseOptionalBytes32 p.reasonRef) errInvalidCapabilityName
  set (writeCapability keccak256 db
    { record with
      status := capDeprecated, updatedAt := currentBlockU64 ctx, updatedBy := ctx.sender,
      statusRef := reason })

/-- **`handleRevokeCap`**: as `handleDeprecateCap`, to the status `Revoked`. -/
def handleRevokeCap (ctx : Context) (p : CapNamePayload) : HandlerM σ Unit := do
  let db ← get
  let record := readCapability keccak256 db p.name
  if record.name = "" then throw (.error errCapabilityNotFound)
  if record.owner ≠ 0 ∧ ctx.sender ≠ record.owner ∧ !isGovernor keccak256 db ctx.sender then
    throw (.error errUnauthorizedCapability)
  if record.status = capRevoked then throw (.error errCapabilityAlreadyRevoked)
  if !record.status.canTransitionTo capRevoked then throw (.error errCapabilityAlreadyRevoked)
  let reason ← requireParsed (parseOptionalBytes32 p.reasonRef) errInvalidCapabilityName
  set (writeCapability keccak256 db
    { record with
      status := capRevoked, updatedAt := currentBlockU64 ctx, updatedBy := ctx.sender,
      statusRef := reason })

/-- **`handleGrantDelegation`**: the principal or a governor writes an active delegation record
over whatever the triple held. -/
def handleGrantDelegation (ctx : Context) (p : GrantDelegationPayload) : HandlerM σ Unit := do
  let principal ← requireParsed (parseStrictHexAddress p.principal) errInvalidDelegation
  let delegate ← requireParsed (parseStrictHexAddress p.delegate) errInvalidDelegation
  if principal = 0 ∨ delegate = 0 then throw (.error errInvalidDelegation)
  let db ← get
  if ctx.sender ≠ principal ∧ !isGovernor keccak256 db ctx.sender then
    throw (.error errUnauthorizedDelegation)
  let scopeRef ← requireParsed (parseOptionalBytes32 p.scopeRef) errInvalidDelegation
  let capRef ← requireParsed (parseOptionalBytes32 p.capabilityRef) errInvalidDelegation
  let policyRef ← requireParsed (parseOptionalBytes32 p.policyRef) errInvalidDelegation
  let statusRef ← requireParsed (parseOptionalBytes32 p.statusRef) errInvalidDelegation
  if p.expiryMS > 0 ∧ p.notBeforeMS > 0 ∧ p.expiryMS < p.notBeforeMS then
    throw (.error errInvalidDelegationWindow)
  let now := currentBlockU64 ctx
  set (writeDelegation keccak256 db
    { principal := principal, delegate := delegate, scopeRef := scopeRef, capabilityRef := capRef,
      policyRef := policyRef, notBeforeMS := p.notBeforeMS, expiryMS := p.expiryMS,
      status := delActive, createdAt := now, updatedAt := now, updatedBy := ctx.sender,
      statusRef := statusRef })

/-- **`handleRevokeDelegation`**: the principal or a governor revokes an existing record that is
not revoked yet. -/
def handleRevokeDelegation (ctx : Context) (p : RevokeDelegationPayload) : HandlerM σ Unit := do
  let principal ← requireParsed (parseStrictHexAddress p.principal) errInvalidDelegation
  let delegate ← requireParsed (parseStrictHexAddress p.delegate) errInvalidDelegation
  let scopeRef ← requireParsed (parseOptionalBytes32 p.scopeRef) errInvalidDelegation
  let reason ← requireParsed (parseOptionalBytes32 p.reasonRef) errInvalidDelegation
  let db ← get
  if ctx.sender ≠ principal ∧ !isGovernor keccak256 db ctx.sender then
    throw (.error errUnauthorizedDelegation)
  if !delegationExists keccak256 db principal delegate scopeRef then
    throw (.error errDelegationNotFound)
  let record := readDelegation keccak256 db principal delegate scopeRef
  if record.status = delRevoked then throw (.error errDelegationAlreadyRevoked)
  set (writeDelegation keccak256 db
    { record with
      status := delRevoked, updatedAt := currentBlockU64 ctx, updatedBy := ctx.sender,
      statusRef := reason })

/-- `Handle(ctx, sa)` on a decoded action. -/
def handle (ctx : Context) : RegistryAction → HandlerM σ Unit
  | .registerCap p => handleRegisterCap keccak256 ctx p
  | .deprecateCap p => handleDeprecateCap keccak256 ctx p
  | .revokeCap p => handleRevokeCap keccak256 ctx p
  | .grantDelegation p => handleGrantDelegation keccak256 ctx p
  | .revokeDelegation p => handleRevokeDelegation keccak256 ctx p

end Handle

/-! ## What a successful action did -/

section Effects

variable {keccak256 : List UInt8 → Hash} {ctx : Context}

open ExceptStateM

theorem run_requireParsed_bind_eq_ok {α β : Type} {x : Except String α} {err : String}
    {f : α → HandlerM StateDB β} {s s' : StateDB} {b : β}
    (h : (requireParsed x err >>= f).run.run s = (.ok b, s')) :
    ∃ a, x = .ok a ∧ (f a).run.run s = (.ok b, s') := by
  cases x with
  | error e => cases h
  | ok a => exact ⟨a, rfl, h⟩

/-- A successful `REGISTRY_REGISTER_CAP` writes the record of the trimmed name, over the state it
found or the one in which the capability registry bound the name. -/
theorem handleRegisterCap_ok {p : RegisterCapPayload} {s s' : StateDB} {u : Unit}
    (h : (handleRegisterCap keccak256 ctx p).run.run s = (.ok u, s')) :
    ∃ t record, record.name = String.ofList (Text.trimSpace p.name.toList) ∧
      s' = writeCapability keccak256 t record ∧
      (t = s ∨ registerCapabilityNameAtBit keccak256 s (String.ofList (Text.trimSpace p.name.toList))
        p.bitIndex.toUInt8 = .ok t) := by
  unfold handleRegisterCap at h
  dsimp only at h
  obtain ⟨-, h⟩ := run_guard_eq_ok h
  rw [run_get_bind] at h
  obtain ⟨-, h⟩ := run_guard_eq_ok h
  obtain ⟨manifestRef, -, h⟩ := run_requireParsed_bind_eq_ok h
  obtain ⟨statusRef, -, h⟩ := run_requireParsed_bind_eq_ok h
  obtain ⟨-, h⟩ := run_guard_eq_ok h
  -- the code's match on the name's binding carries the record's write in each branch
  split at h
  · split at h
    · obtain ⟨_, _, hthrow, -⟩ := run_bind_eq_ok h
      exact absurd hthrow (run_throw_ne_ok _ _ _ _)
    · obtain ⟨_, _, hpure, h⟩ := run_bind_eq_ok h
      rw [run_pure] at hpure
      cases hpure
      rw [run_set] at h
      cases h
      exact ⟨s, _, rfl, rfl, .inl rfl⟩
  · split at h
    · rename_i db hat
      obtain ⟨_, _, hpure, h⟩ := run_bind_eq_ok h
      rw [run_pure] at hpure
      cases hpure
      rw [run_set] at h
      cases h
      exact ⟨db, _, rfl, rfl, .inr hat⟩
    · obtain ⟨_, _, hthrow, -⟩ := run_bind_eq_ok h
      exact absurd hthrow (run_throw_ne_ok _ _ _ _)

theorem handleDeprecateCap_ok {p : CapNamePayload} {s s' : StateDB} {u : Unit}
    (h : (handleDeprecateCap keccak256 ctx p).run.run s = (.ok u, s')) :
    ∃ record, record.name = p.name ∧ s' = writeCapability keccak256 s record := by
  unfold handleDeprecateCap at h
  rw [run_get_bind] at h
  dsimp only at h
  obtain ⟨hname, h⟩ := run_guard_eq_ok h
  obtain ⟨-, h⟩ := run_guard_eq_ok h
  obtain ⟨-, h⟩ := run_guard_eq_ok h
  obtain ⟨-, h⟩ := run_guard_eq_ok h
  obtain ⟨-, h⟩ := run_guard_eq_ok h
  obtain ⟨reason, -, h⟩ := run_requireParsed_bind_eq_ok h
  rw [run_set] at h
  cases h
  refine ⟨_, ?_, rfl⟩
  exact readCapability_name_of_ne keccak256 hname

theorem handleRevokeCap_ok {p : CapNamePayload} {s s' : StateDB} {u : Unit}
    (h : (handleRevokeCap keccak256 ctx p).run.run s = (.ok u, s')) :
    ∃ record, record.name = p.name ∧ s' = writeCapability keccak256 s record := by
  unfold handleRevokeCap at h
  rw [run_get_bind] at h
  dsimp only at h
  obtain ⟨hname, h⟩ := run_guard_eq_ok h
  obtain ⟨-, h⟩ := run_guard_eq_ok h
  obtain ⟨-, h⟩ := run_guard_eq_ok h
  obtain ⟨-, h⟩ := run_guard_eq_ok h
  obtain ⟨reason, -, h⟩ := run_requireParsed_bind_eq_ok h
  rw [run_set] at h
  cases h
  refine ⟨_, ?_, rfl⟩
  exact readCapability_name_of_ne keccak256 hname

theorem handleGrantDelegation_ok {p : GrantDelegationPayload} {s s' : StateDB} {u : Unit}
    (h : (handleGrantDelegation keccak256 ctx p).run.run s = (.ok u, s')) :
    ∃ record, s' = writeDelegation keccak256 s record := by
  unfold handleGrantDelegation at h
  obtain ⟨principal, -, h⟩ := run_requireParsed_bind_eq_ok h
  obtain ⟨delegate, -, h⟩ := run_requireParsed_bind_eq_ok h
  obtain ⟨-, h⟩ := run_guard_eq_ok h
  rw [run_get_bind] at h
  obtain ⟨-, h⟩ := run_guard_eq_ok h
  obtain ⟨scopeRef, -, h⟩ := run_requireParsed_bind_eq_ok h
  obtain ⟨capRef, -, h⟩ := run_requireParsed_bind_eq_ok h
  obtain ⟨policyRef, -, h⟩ := run_requireParsed_bind_eq_ok h
  obtain ⟨statusRef, -, h⟩ := run_requireParsed_bind_eq_ok h
  obtain ⟨-, h⟩ := run_guard_eq_ok h
  dsimp only at h
  rw [run_set] at h
  cases h
  exact ⟨_, rfl⟩

theorem handleRevokeDelegation_ok {p : RevokeDelegationPayload} {s s' : StateDB} {u : Unit}
    (h : (handleRevokeDelegation keccak256 ctx p).run.run s = (.ok u, s')) :
    ∃ record, s' = writeDelegation keccak256 s record := by
  unfold handleRevokeDelegation at h
  obtain ⟨principal, -, h⟩ := run_requireParsed_bind_eq_ok h
  obtain ⟨delegate, -, h⟩ := run_requireParsed_bind_eq_ok h
  obtain ⟨scopeRef, -, h⟩ := run_requireParsed_bind_eq_ok h
  obtain ⟨reason, -, h⟩ := run_requireParsed_bind_eq_ok h
  rw [run_get_bind] at h
  obtain ⟨-, h⟩ := run_guard_eq_ok h
  obtain ⟨-, h⟩ := run_guard_eq_ok h
  dsimp only at h
  obtain ⟨-, h⟩ := run_guard_eq_ok h
  rw [run_set] at h
  cases h
  exact ⟨_, rfl⟩

end Effects

end Gtos.Registry
