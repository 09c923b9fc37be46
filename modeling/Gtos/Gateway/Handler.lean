import Gtos.Agent.State
import Gtos.Capability.State
import Gtos.Gateway.State
import Gtos.Lib.ExceptState
import Gtos.Sysaction.Execute

/-! # The gateway actions (`gateway/handler.go`)

Three system actions manage a gateway. `GATEWAY_REGISTER`, for a registered agent that holds the
`GatewayRelay` capability and has no active gateway, checks every field of its payload and then
writes the whole configuration, sets the gateway active and counts it. `GATEWAY_UPDATE`, for an
active gateway, goes through the fields one at a time: a field left out of the payload (empty, zero
or an empty list) is skipped, and a given one is checked and written before the next is looked
at, so that an update can fail after some of its writes. `GATEWAY_DEREGISTER` clears the active
flag.

Each payload is JSON, and `GatewayAction` is an action with the payload its decoder returned.
`TransitionDb` reverts a failed action (`Sysaction.commit`), which undoes the writes an update made
before it failed.

`handleRegister_ok`, `handleUpdate_ok` and `handleDeregister_ok` say what a successful action
checked and wrote; `run_handleRegister` and `run_handleDeregister` run an action whose checks
pass. -/

namespace Gtos.Gateway

open Gtos.Core Gtos.Sysaction ExceptStateM

/-! ## Errors and payloads -/

/-- `ErrNotRegisteredAgent`. -/
def errNotRegisteredAgent : String := "gateway: agent is not registered"

/-- `ErrNoGatewayCapability`. -/
def errNoGatewayCapability : String := "gateway: agent lacks GatewayRelay capability"

/-- `ErrGatewayAlreadyActive`. -/
def errGatewayAlreadyActive : String := "gateway: gateway already registered and active"

/-- `ErrGatewayNotFound`. -/
def errGatewayNotFound : String := "gateway: no gateway config for agent"

/-- `ErrInvalidEndpoint`. -/
def errInvalidEndpoint : String := "gateway: endpoint must not be empty"

/-- `ErrInvalidFeePolicy`. -/
def errInvalidFeePolicy : String := "gateway: fee_policy must be free, fixed, or percent"

/-- `ErrInvalidFeeAmount`. -/
def errInvalidFeeAmount : String := "gateway: invalid fee_amount"

/-- `ErrNoSupportedKinds`. -/
def errNoSupportedKinds : String := "gateway: supported_kinds must not be empty"

/-- `ErrMaxRelayGasZero`. -/
def errMaxRelayGasZero : String := "gateway: max_relay_gas must be > 0"

/-- `RegisterGatewayPayload`. -/
structure RegisterGatewayPayload where
  /-- `Endpoint`. -/
  endpoint : String
  /-- `SupportedKinds`. -/
  supportedKinds : List String
  /-- `MaxRelayGas`. -/
  maxRelayGas : UInt64
  /-- `FeePolicy`. -/
  feePolicy : String
  /-- `FeeAmount`, decimal text; empty when left out. -/
  feeAmount : String
  deriving DecidableEq, Repr

/-- `UpdateGatewayPayload`: a field left out decodes to its zero value. -/
structure UpdateGatewayPayload where
  /-- `Endpoint`. -/
  endpoint : String
  /-- `SupportedKinds`. -/
  supportedKinds : List String
  /-- `MaxRelayGas`. -/
  maxRelayGas : UInt64
  /-- `FeePolicy`. -/
  feePolicy : String
  /-- `FeeAmount`, decimal text. -/
  feeAmount : String
  deriving DecidableEq, Repr

/-- A gateway action with the payload its JSON decoder returned. -/
inductive GatewayAction
  /-- `GATEWAY_REGISTER`. -/
  | register (payload : Except String RegisterGatewayPayload)
  /-- `GATEWAY_UPDATE`. -/
  | update (payload : Except String UpdateGatewayPayload)
  /-- `GATEWAY_DEREGISTER`: no payload is read. -/
  | deregister
  deriving DecidableEq, Repr

/-! ## Checks -/

/-- The check of each kind in the loop over `SupportedKinds`. -/
def kindLengthOk (kind : String) : Bool :=
  (Text.utf8 kind).length ≠ 0 ∧ (Text.utf8 kind).length ≤ maxKindLength

/-- The checks of a list of kinds: not more than `MaxSupportedKinds`, each of 1 to
`MaxKindLength` bytes. -/
def checkKinds (kinds : List String) : Except String Unit := do
  if kinds.length > maxSupportedKinds then throw errNoSupportedKinds
  if !kinds.all kindLengthOk then throw errNoSupportedKinds

/-- `new(big.Int).SetString(s, 10)` with its failure as `ErrInvalidFeeAmount`. -/
def parseFeeAmount (s : String) : Except String ℤ :=
  match Decimal.parseInt s.toList with
  | some amount => .ok amount
  | none => .error errInvalidFeeAmount

/-- Step 4 of `handleRegister`: the checks of the fields, in the order of the source, and the fee
amount, zero when left out. -/
def checkRegisterPayload (p : RegisterGatewayPayload) : Except String ℤ := do
  if p.endpoint = "" then throw errInvalidEndpoint
  if (Text.utf8 p.endpoint).length > maxEndpointLength then throw errInvalidEndpoint
  if p.supportedKinds.length = 0 then throw errNoSupportedKinds
  checkKinds p.supportedKinds
  if p.maxRelayGas = 0 then throw errMaxRelayGasZero
  if !validFeePolicy p.feePolicy then throw errInvalidFeePolicy
  if p.feeAmount = "" then return 0
  parseFeeAmount p.feeAmount

/-- `requireGatewayCapability(ctx)`: a registered agent that holds the bit of `GatewayRelay`. -/
def requireGatewayCapability {σ : Type} [VmStateDB σ] (keccak256 : List UInt8 → Hash) (db : σ)
    (sender : Address) : Except String Unit :=
  if !Agent.isRegistered keccak256 db sender then .error errNotRegisteredAgent else
  let (bit, found) := Capability.capabilityBit keccak256 db capabilityName
  if !found || !Capability.hasCapability keccak256 db sender bit then .error errNoGatewayCapability
  else .ok ()

section Handle

variable {σ : Type} [VmStateDB σ] (keccak256 : List UInt8 → Hash)

/-- `if err != nil { return err }`. -/
def liftCheck {α : Type} (r : Except String α) : HandlerM σ α :=
  match r with
  | .ok a => pure a
  | .error e => throw (.error e)

/-- Step 5 of `handleRegister`: the configuration, the active flag, the block, and the count. -/
def registerWrites (db : σ) (addr : Address) (p : RegisterGatewayPayload) (feeAmount : ℤ)
    (blockNumber : ℕ) : σ :=
  let db := writeEndpoint keccak256 db addr p.endpoint
  let db := writeSupportedKinds keccak256 db addr p.supportedKinds
  let db := writeMaxRelayGas keccak256 db addr p.maxRelayGas
  let db := writeFeePolicy keccak256 db addr p.feePolicy
  let db := writeFeeAmount keccak256 db addr feeAmount
  let db := writeActive keccak256 db addr true
  let db := writeRegisteredAt keccak256 db addr blockNumber
  incrementGatewayCount keccak256 db

/-- `handleRegister`. -/
def handleRegister (ctx : Context) (payload : Except String RegisterGatewayPayload) :
    HandlerM σ Unit := do
  let db ← get
  liftCheck (requireGatewayCapability keccak256 db ctx.sender)
  if readActive keccak256 db ctx.sender then throw (.error errGatewayAlreadyActive)
  let p ← liftCheck payload
  let feeAmount ← liftCheck (checkRegisterPayload p)
  set (registerWrites keccak256 db ctx.sender p feeAmount ctx.blockNumber)

/-- One field of `handleUpdate`: skipped when left out, else checked and then written. -/
def updateField (given : Prop) [Decidable given] (check : Except String Unit) (write : σ → σ) :
    HandlerM σ Unit :=
  if given then do
    liftCheck check
    modify write
  else pure ()

/-- `handleUpdate`: the fields in the order of the source, each written before the next is
checked. -/
def handleUpdate (ctx : Context) (payload : Except String UpdateGatewayPayload) :
    HandlerM σ Unit := do
  let db ← get
  if !readActive keccak256 db ctx.sender then throw (.error errGatewayNotFound)
  let p ← liftCheck payload
  updateField (p.endpoint ≠ "")
    (if (Text.utf8 p.endpoint).length > maxEndpointLength then .error errInvalidEndpoint else .ok ())
    (writeEndpoint keccak256 · ctx.sender p.endpoint)
  updateField (p.supportedKinds.length > 0) (checkKinds p.supportedKinds)
    (writeSupportedKinds keccak256 · ctx.sender p.supportedKinds)
  updateField (p.maxRelayGas ≠ 0) (.ok ()) (writeMaxRelayGas keccak256 · ctx.sender p.maxRelayGas)
  updateField (p.feePolicy ≠ "")
    (if !validFeePolicy p.feePolicy then .error errInvalidFeePolicy else .ok ())
    (writeFeePolicy keccak256 · ctx.sender p.feePolicy)
  if p.feeAmount ≠ "" then
    let feeAmount ← liftCheck (parseFeeAmount p.feeAmount)
    modify (writeFeeAmount keccak256 · ctx.sender feeAmount)

/-- `handleDeregister`. -/
def handleDeregister (ctx : Context) : HandlerM σ Unit := do
  let db ← get
  if !readActive keccak256 db ctx.sender then throw (.error errGatewayNotFound)
  set (writeActive keccak256 db ctx.sender false)

/-- `Handle`, on a decoded action. -/
def handle (ctx : Context) : GatewayAction → HandlerM σ Unit
  | .register payload => handleRegister keccak256 ctx payload
  | .update payload => handleUpdate keccak256 ctx payload
  | .deregister => handleDeregister keccak256 ctx

/-- The JSON decoders of the two payload types. -/
structure PayloadDecoders where
  /-- `json.Unmarshal` into `RegisterGatewayPayload`. -/
  register : List UInt8 → Except String RegisterGatewayPayload
  /-- `json.Unmarshal` into `UpdateGatewayPayload`. -/
  update : List UInt8 → Except String UpdateGatewayPayload

/-- The gateway action a system action names, its payload decoded; `none` for a name `Handle`
does not switch on. -/
def toGatewayAction (dec : PayloadDecoders) (sa : SysAction) : Option GatewayAction :=
  if sa.action = actionGatewayRegister then some (.register (dec.register sa.payload))
  else if sa.action = actionGatewayUpdate then some (.update (dec.update sa.payload))
  else if sa.action = actionGatewayDeregister then some .deregister
  else none

/-- The handler of the three gateway actions; an action of another name does nothing. -/
def gatewayHandler (dec : PayloadDecoders) : Handler σ where
  actions := [actionGatewayRegister, actionGatewayUpdate, actionGatewayDeregister]
  handle ctx sa :=
    match toGatewayAction dec sa with
    | some a => handle keccak256 ctx a
    | none => pure ()

end Handle

/-! ## What a successful action checked and wrote -/

section Outcomes

variable {σ : Type} [VmStateDB σ] (keccak256 : List UInt8 → Hash) {ctx : Context} {db db' : σ}

omit [VmStateDB σ] in
@[simp] theorem run_liftCheck_ok {α : Type} (a : α) (db : σ) :
    (liftCheck (.ok a : Except String α) : HandlerM σ α).run.run db = (.ok a, db) := rfl

omit [VmStateDB σ] in
@[simp] theorem run_liftCheck_error {α : Type} (e : String) (db : σ) :
    (liftCheck (.error e : Except String α) : HandlerM σ α).run.run db = (.error (.error e), db) :=
  rfl

omit [VmStateDB σ] in
theorem liftCheck_ok {α : Type} {r : Except String α} {a : α}
    (h : (liftCheck r : HandlerM σ α).run.run db = (.ok a, db')) : r = .ok a ∧ db = db' := by
  cases r with
  | ok b =>
    cases h
    exact ⟨rfl, rfl⟩
  | error e => cases h

theorem checkKinds_eq_ok (kinds : List String) :
    checkKinds kinds = .ok () ↔ kinds.length ≤ maxSupportedKinds ∧ ∀ k ∈ kinds, kindLengthOk k := by
  unfold checkKinds
  by_cases hlen : kinds.length > maxSupportedKinds
  · simp [hlen]
  · have hle : kinds.length ≤ maxSupportedKinds := not_lt.mp hlen
    by_cases hall : kinds.all kindLengthOk
    · simp [hlen, hle]
    · simp [hlen, hle]

/-- **The checks of a registration** pass exactly when the endpoint has 1 to `MaxEndpointLength`
bytes, the kinds pass `checkKinds` and are not empty, the relay gas is not zero, the fee policy is
valid, and the fee amount is zero when left out or else the decimal number it reads. -/
theorem checkRegisterPayload_eq_ok (p : RegisterGatewayPayload) (fee : ℤ) :
    checkRegisterPayload p = .ok fee ↔
      p.endpoint ≠ "" ∧ (Text.utf8 p.endpoint).length ≤ maxEndpointLength ∧
      p.supportedKinds ≠ [] ∧ checkKinds p.supportedKinds = .ok () ∧ p.maxRelayGas ≠ 0 ∧
      validFeePolicy p.feePolicy = true ∧
      (if p.feeAmount = "" then fee = 0 else parseFeeAmount p.feeAmount = .ok fee) := by
  unfold checkRegisterPayload
  -- one case per check, in the order the source makes them
  by_cases h1 : p.endpoint = ""
  · simp [h1]
  by_cases h2 : (Text.utf8 p.endpoint).length > maxEndpointLength
  · simp [h1, h2]
  have h2' : (Text.utf8 p.endpoint).length ≤ maxEndpointLength := not_lt.mp h2
  by_cases h3 : p.supportedKinds.length = 0
  · simp [h1, h2, List.eq_nil_of_length_eq_zero h3]
  have h3' : p.supportedKinds ≠ [] := fun h => h3 (by rw [h, List.length_nil])
  cases hk : checkKinds p.supportedKinds with
  | error e => simp [h1, h2, h3]
  | ok u =>
    by_cases h5 : p.maxRelayGas = 0
    · simp [h1, h2, h3, h5]
    by_cases h6 : validFeePolicy p.feePolicy = true
    · by_cases h7 : p.feeAmount = ""
      · simp [h1, h2, h2', h3, h3', h5, h6, h7, eq_comm]
      · simp [h1, h2, h2', h3, h3', h5, h6, h7]
    · simp [h1, h2, h3, h5, h6]

/-- **A successful registration** came from a registered agent holding `GatewayRelay`, for a
gateway that was not active, with a decoded payload that passed its checks, and wrote
`registerWrites`. -/
theorem handleRegister_ok {payload : Except String RegisterGatewayPayload} {x : Unit}
    (h : (handleRegister keccak256 ctx payload).run.run db = (.ok x, db')) :
    requireGatewayCapability keccak256 db ctx.sender = .ok () ∧
      readActive keccak256 db ctx.sender = false ∧
      ∃ p fee, payload = .ok p ∧ checkRegisterPayload p = .ok fee ∧
        db' = registerWrites keccak256 db ctx.sender p fee ctx.blockNumber := by
  unfold handleRegister at h
  rw [run_get_bind] at h
  obtain ⟨⟨⟩, db₁, hrun₁, h⟩ := run_bind_eq_ok h
  obtain ⟨hcap, rfl⟩ := liftCheck_ok hrun₁
  obtain ⟨hactive, h⟩ := run_guard_eq_ok h
  obtain ⟨p, db₂, hrun₂, h⟩ := run_bind_eq_ok h
  obtain ⟨rfl, rfl⟩ := liftCheck_ok hrun₂
  obtain ⟨fee, db₃, hrun₃, h⟩ := run_bind_eq_ok h
  obtain ⟨hfee, rfl⟩ := liftCheck_ok hrun₃
  rw [run_set] at h
  cases h
  exact ⟨hcap, by simpa using hactive, p, fee, rfl, hfee, rfl⟩

/-- A registration that passes its checks succeeds, with the registration's writes. -/
theorem run_handleRegister {p : RegisterGatewayPayload} {fee : ℤ}
    (hcap : requireGatewayCapability keccak256 db ctx.sender = .ok ())
    (hactive : readActive keccak256 db ctx.sender = false)
    (hcheck : checkRegisterPayload p = .ok fee) :
    (handleRegister keccak256 ctx (.ok p)).run.run db =
      (.ok (), registerWrites keccak256 db ctx.sender p fee ctx.blockNumber) := by
  unfold handleRegister
  rw [run_get_bind, run_bind_of_ok (by rw [hcap]; rfl)]
  simp only [hactive, Bool.false_eq_true, if_false, run_bind, run_liftCheck_ok, hcheck, run_set]

omit [VmStateDB σ] in
/-- One field of an update: nothing when left out; its check's error, with the state as it was;
or its write. -/
theorem run_updateField (given : Prop) [Decidable given] (check : Except String Unit)
    (write : σ → σ) (db : σ) :
    (updateField given check write).run.run db =
      if given then
        (match check with
        | .ok () => (.ok (), write db)
        | .error e => (.error (.error e), db))
      else (.ok (), db) := by
  unfold updateField
  by_cases hg : given
  · rw [if_pos hg, if_pos hg]
    cases check <;> rfl
  · rw [if_neg hg, if_neg hg]
    rfl

omit [VmStateDB σ] in
theorem updateField_ok {given : Prop} [Decidable given] {check : Except String Unit}
    {write : σ → σ} (h : (updateField given check write).run.run db = (.ok (), db')) :
    (given → check = .ok ()) ∧ db' = if given then write db else db := by
  rw [run_updateField] at h
  by_cases hg : given
  · rw [if_pos hg] at h
    rw [if_pos hg]
    cases check with
    | ok u =>
      cases h
      exact ⟨fun _ => rfl, rfl⟩
    | error e => cases h
  · rw [if_neg hg] at h
    rw [if_neg hg]
    cases h
    exact ⟨fun h => absurd h hg, rfl⟩

/-- **A successful update** was for an active gateway, with a decoded payload whose given fields
passed their checks, and wrote each given field in turn. -/
theorem handleUpdate_ok {payload : Except String UpdateGatewayPayload} {x : Unit}
    (h : (handleUpdate keccak256 ctx payload).run.run db = (.ok x, db')) :
    readActive keccak256 db ctx.sender = true ∧
      ∃ p fee, payload = .ok p ∧
        (p.endpoint ≠ "" → (Text.utf8 p.endpoint).length ≤ maxEndpointLength) ∧
        (p.supportedKinds.length > 0 → checkKinds p.supportedKinds = .ok ()) ∧
        (p.feePolicy ≠ "" → validFeePolicy p.feePolicy = true) ∧
        (p.feeAmount ≠ "" → parseFeeAmount p.feeAmount = .ok fee) ∧
        db' =
          let db := if p.endpoint ≠ "" then writeEndpoint keccak256 db ctx.sender p.endpoint else db
          let db := if p.supportedKinds.length > 0 then
            writeSupportedKinds keccak256 db ctx.sender p.supportedKinds else db
          let db := if p.maxRelayGas ≠ 0 then writeMaxRelayGas keccak256 db ctx.sender p.maxRelayGas
            else db
          let db := if p.feePolicy ≠ "" then writeFeePolicy keccak256 db ctx.sender p.feePolicy
            else db
          if p.feeAmount ≠ "" then writeFeeAmount keccak256 db ctx.sender fee else db := by
  unfold handleUpdate at h
  rw [run_get_bind] at h
  obtain ⟨hactive, h⟩ := run_guard_eq_ok h
  obtain ⟨p, db₀, hrun₀, h⟩ := run_bind_eq_ok h
  obtain ⟨rfl, rfl⟩ := liftCheck_ok hrun₀
  obtain ⟨⟨⟩, db₁, h₁, h⟩ := run_bind_eq_ok h
  obtain ⟨hend, rfl⟩ := updateField_ok h₁
  obtain ⟨⟨⟩, db₂, h₂, h⟩ := run_bind_eq_ok h
  obtain ⟨hkinds, rfl⟩ := updateField_ok h₂
  obtain ⟨⟨⟩, db₃, h₃, h⟩ := run_bind_eq_ok h
  obtain ⟨-, rfl⟩ := updateField_ok h₃
  obtain ⟨⟨⟩, db₄, h₄, h⟩ := run_bind_eq_ok h
  obtain ⟨hpolicy, rfl⟩ := updateField_ok h₄
  refine ⟨by simpa using hactive, ?_⟩
  -- the checks of the given fields, read off the first and the fourth step
  have hend' : p.endpoint ≠ "" → (Text.utf8 p.endpoint).length ≤ maxEndpointLength := by
    intro hne
    have hcheck := hend hne
    split at hcheck
    · cases hcheck
    · omega
  have hpolicy' : p.feePolicy ≠ "" → validFeePolicy p.feePolicy = true := by
    intro hne
    have hcheck := hpolicy hne
    cases hv : validFeePolicy p.feePolicy
    · simp [hv] at hcheck
    · rfl
  -- the fee amount: left out, or parsed and written
  by_cases hfee : p.feeAmount ≠ ""
  · rw [if_pos hfee] at h
    obtain ⟨fee, db₅, hrun₅, h⟩ := run_bind_eq_ok h
    obtain ⟨hparse, rfl⟩ := liftCheck_ok hrun₅
    rw [run_modify] at h
    cases h
    exact ⟨p, fee, rfl, hend', hkinds, hpolicy', fun _ => hparse, by rw [if_pos hfee]⟩
  · rw [if_neg hfee, run_pure] at h
    cases h
    exact ⟨p, 0, rfl, hend', hkinds, hpolicy', fun hne => absurd hne hfee, by rw [if_neg hfee]⟩

/-- **A successful deregistration** was for an active gateway, and cleared its flag. -/
theorem handleDeregister_ok {x : Unit} (h : (handleDeregister keccak256 ctx).run.run db = (.ok x, db')) :
    readActive keccak256 db ctx.sender = true ∧ db' = writeActive keccak256 db ctx.sender false := by
  unfold handleDeregister at h
  rw [run_get_bind] at h
  obtain ⟨hactive, h⟩ := run_guard_eq_ok h
  rw [run_set] at h
  cases h
  exact ⟨by simpa using hactive, rfl⟩

/-- A deregistration of an active gateway succeeds and clears its flag. -/
theorem run_handleDeregister (hactive : readActive keccak256 db ctx.sender = true) :
    (handleDeregister keccak256 ctx).run.run db = (.ok (), writeActive keccak256 db ctx.sender false) := by
  unfold handleDeregister
  rw [run_get_bind]
  simp only [hactive, Bool.not_true, Bool.false_eq_true, if_false, run_set]

end Outcomes

end Gtos.Gateway
