import Gtos.Core.StateDB

/-! # The state transition of a public message (`core/state_transition.go`)

`ApplyMessage` runs `(*StateTransition).TransitionDb` on a message against a state of any type
with the `vm.StateDB` methods. The model follows the source step by step for the messages the
block executors hand it (a `SignerTx`; the three privacy types have their own transitions, which
the serial executor runs and the model leaves out):

1. `preCheck`: the nonces of the sender and of the sponsor, the sponsor's expiry and that the
   sender holds no code; then `buyGas`, which checks the payer's balance and takes `gas * price`.
2. The destination's lease tombstone and, for a contract, `lease.CheckCallable`; the two-phase
   validation of an account contract.
3. The intrinsic gas, the transfer check, and for a sponsored message the sponsor nonce bump and
   the policy-wallet check.
4. The branch on the destination: contract creation, system action, slash indicator, contract
   call, or a plain transfer of the value.
5. The refund of the unused gas to the payer and the fee to the coinbase.

The virtual machine, the system actions and the lease, account-abstraction and policy-wallet
checks are code outside the model: they are the fields of `Natives σ`, each taking and returning
the state.

A computation runs in `TxM σ`: it reads and writes the state and may stop with an error, which
keeps the writes made before it, as the source's in-place mutation does. -/

namespace Gtos.Core

/-- The state transition's computations: they read and write a state of type `σ` and may stop
with an error; an error keeps the writes made before it. -/
abbrev TxM (σ : Type) := ExceptT TxError (StateM σ)

/-- `policywallet.TerminalApp`. -/
def terminalApp : UInt8 := 0

/-- `policywallet.TrustFull`. -/
def trustFull : UInt8 := 4

/-- The code the state transition calls that the model leaves abstract. -/
structure Natives (σ : Type) where
  /-- `lease.CheckCallable(state, addr, blockNumber, config)`. -/
  checkCallable : σ → Address → Option TxError
  /-- `validateAccountContract`: on success the state after `validate()` and the validation gas
  it charged; on failure the error, after which the caller reverts. -/
  validateAccountContract : σ → Message → Except TxError (σ × ℕ)
  /-- `policywallet.ReadOwner`. -/
  readOwner : σ → Address → Address
  /-- `policywallet.ValidateSponsoredExecution` with the terminal class and trust tier. -/
  validateSponsoredExecution : σ → Message → UInt8 → UInt8 → Option TxError
  /-- `lvm.Create`: the state, the gas left and the failure. -/
  create : σ → Message → ℕ → σ × ℕ × Option VmError
  /-- `sysaction.Decode`: an error, or whether the action is `ActionLeaseDeploy`. -/
  decodeSysAction : List UInt8 → Except VmError Bool
  /-- `executeLeaseDeploy`: the state, the gas left and the failure. -/
  executeLeaseDeploy : σ → Message → ℕ → σ × ℕ × Option VmError
  /-- `sysaction.Execute`: the state, the gas used and the failure. -/
  executeSysAction : σ → Message → σ × ℕ × Option VmError
  /-- `slashindicator.Execute`: the state, the gas used and the failure. -/
  executeSlashIndicator : σ → Message → σ × ℕ × Option VmError
  /-- `lvm.Call` of the destination's code: the state, the gas left and the failure. -/
  call : σ → Message → Address → ℕ → σ × ℕ × Option VmError

variable {σ : Type} [VmStateDB σ]

/-- `(*StateTransition).gasPayer`: the sponsor of a sponsored message, else the sender. -/
def gasPayer (msg : Message) : Address :=
  if msg.isSponsored then msg.sponsor else msg.sender

/-- `getSponsorNonce`: the low eight bytes of the sponsor's nonce slot. -/
def getSponsorNonce (env : ChainEnv) (s : σ) (sponsor : Address) : ℕ :=
  (VmStateDB.getState s sponsorRegistryAddress (env.sponsorNonceSlot sponsor)).toNat % 2 ^ 64

/-- `setSponsorNonce`: the `uint64` nonce written big-endian into the low eight bytes. -/
def setSponsorNonce (env : ChainEnv) (sponsor : Address) (nonce : ℕ) (s : σ) : σ :=
  VmStateDB.setState s sponsorRegistryAddress (env.sponsorNonceSlot sponsor)
    (BitVec.ofNat 256 (nonce % 2 ^ 64))

/-- `buyGas`: the payer must hold `gas * feeCap` (plus the value when it is the sender); then
`gas * price` is taken from it. `gp` is the gas pool the message is charged against. -/
def buyGas (msg : Message) (gp : ℕ) : TxM σ Unit := do
  let mgval : ℤ := msg.gasLimit * msg.txPrice
  let balanceCheck : ℤ :=
    match msg.gasFeeCap with
    | some feeCap => msg.gasLimit * feeCap + (if msg.isSponsored then 0 else msg.amount)
    | none => mgval
  let payer := gasPayer msg
  let available := VmStateDB.getBalance (← get) payer
  if available < balanceCheck then throw (.insufficientFunds payer available balanceCheck)
  -- `st.gp.SubGas(msg.Gas())`
  if gp < msg.gasLimit then throw .gasLimitReached
  modify fun s => VmStateDB.subBalance s payer mgval

/-- The nonce checks of `preCheck` for one account: too high, too low, or at the `uint64`
maximum. -/
def checkNonce (address : Address) (txNonce stateNonce : ℕ) : TxM σ Unit := do
  if stateNonce < txNonce then throw (.nonceTooHigh address txNonce stateNonce)
  else if stateNonce > txNonce then throw (.nonceTooLow address txNonce stateNonce)
  else if (stateNonce + 1) % 2 ^ 64 < stateNonce then throw (.nonceMax address stateNonce)

/-- `preCheck`: the nonce, sponsor and code checks of a real message, then `buyGas`. The sender
holds code exactly when its code hash is neither the empty-code hash nor zero. -/
def preCheck (env : ChainEnv) (blockTime : ℕ) (msg : Message) (gp : ℕ) : TxM σ Unit := do
  if !msg.isFake then
    let s ← get
    checkNonce msg.sender msg.nonce (VmStateDB.getNonce s msg.sender)
    if msg.isSponsored then
      checkNonce msg.sponsor msg.sponsorNonce (getSponsorNonce env s msg.sponsor)
      if msg.sponsorExpiry ≠ 0 ∧ 0 < blockTime ∧ blockTime > msg.sponsorExpiry then
        throw (.sponsorExpired msg.sponsor msg.sponsorExpiry blockTime)
    if VmStateDB.getCode s msg.sender ≠ [] then throw (.senderNoEOA msg.sender)
  buyGas msg gp

/-- `IntrinsicGas(data, accessList, isContractCreation, true, true)`: the base cost and the data
bytes at the reduced rate, with the source's `uint64` overflow checks. Access-list entries cost
nothing (`TxAccessListAddressGas` and `TxAccessListStorageKeyGas` are zero). -/
def intrinsicGas (data : List UInt8) (isContractCreation : Bool) : Except TxError ℕ :=
  let gas := if isContractCreation then txGasContractCreation else txGas
  if data.length = 0 then .ok gas
  else
    let nz := (data.filter (· ≠ 0)).length
    if (maxUint64 - gas) / txDataNonZeroGasReduced < nz then .error .gasUintOverflow
    else
      let gas := gas + nz * txDataNonZeroGasReduced
      let z := data.length - nz
      if (maxUint64 - gas) / txDataZeroGas < z then .error .gasUintOverflow
      else .ok (gas + z * txDataZeroGas)

/-- The checks on the destination before execution: `rejectTombstonedAddress` (the last byte of
the tombstone marker is one), `ensureLeaseCallable` for a destination holding code, and the
validation of an account contract, which returns the gas it charged. -/
def checkDestination (env : ChainEnv) (nat : Natives σ) (msg : Message) (toAddr : Address) :
    TxM σ ℕ := do
  let marker := VmStateDB.getState (← get) leaseRegistryAddress (env.tombstoneMarkerSlot toAddr)
  if marker.toNat % 256 = 1 then throw .leaseTombstoned
  if VmStateDB.getCode (← get) toAddr ≠ [] then
    if let some e := nat.checkCallable (← get) toAddr then throw e
  if VmStateDB.getState (← get) toAddr env.aaMarkerSlot ≠ 0 then
    -- a failing `validate()` is reverted and fails the message
    match nat.validateAccountContract (← get) msg with
    | .error e => throw e
    | .ok (s', validationGas) =>
      set s'
      return validationGas
  return 0

/-- The sponsor's part of clause 6: bump the sponsor nonce, then enforce the policy of a sender
with a policy wallet, where an unset terminal class and trust tier mean no restriction. -/
def chargeSponsor (env : ChainEnv) (nat : Natives σ) (msg : Message) : TxM σ Unit := do
  modify fun s => setSponsorNonce env msg.sponsor (getSponsorNonce env s msg.sponsor + 1) s
  if nat.readOwner (← get) msg.sender ≠ 0 then
    let (terminalClass, trustTier) :=
      if msg.terminalClass = 0 ∧ msg.trustTier = 0 then (terminalApp, trustFull)
      else (msg.terminalClass, msg.trustTier)
    if let some e := nat.validateSponsoredExecution (← get) msg terminalClass trustTier then
      throw e

/-- Run a native that returns the state, a gas figure and a failure, and revert its writes when
it fails. -/
def runReverting (f : σ → σ × ℕ × Option VmError) : TxM σ (ℕ × Option VmError) := do
  let snap ← get
  let (s', g, vmerr) := f snap
  set (if vmerr.isSome then snap else s')
  return (g, vmerr)

/-- The system-action branch: a decoding failure or a short gas supply costs `SysActionGas`,
a lease deployment runs with the remaining gas, any other action runs `sysaction.Execute`; a
failure reverts the branch's writes. Returns the gas left and the failure. -/
def systemActionBranch (nat : Natives σ) (msg : Message) (gas : ℕ) :
    TxM σ (ℕ × Option VmError) := do
  match nat.decodeSysAction msg.data with
  | .error decErr =>
    if gas < sysActionGas then return (0, some .outOfGas)
    else return (gas - sysActionGas, some decErr)
  | .ok true => runReverting fun s => nat.executeLeaseDeploy s msg gas
  | .ok false =>
    if gas < sysActionGas then return (0, some .outOfGas)
    else do
      let (used, vmerr) ← runReverting fun s => nat.executeSysAction s msg
      return (gas - used, vmerr)

/-- The slash-indicator branch: `SysActionGas` must be available; `slashindicator.Execute`
reports the gas it used, and a failure reverts its writes. -/
def slashIndicatorBranch (nat : Natives σ) (msg : Message) (gas : ℕ) :
    TxM σ (ℕ × Option VmError) := do
  if gas < sysActionGas then return (0, some .outOfGas)
  else do
    let (used, vmerr) ← runReverting fun s => nat.executeSlashIndicator s msg
    return (gas - used, vmerr)

/-- The call branch: the sender's nonce is bumped, then the destination decides between a system
action, the slash indicator, a contract call and a plain transfer of the value. Returns the gas
left and the failure. -/
def callBranch (nat : Natives σ) (msg : Message) (toAddr : Address) (gas : ℕ) :
    TxM σ (ℕ × Option VmError) := do
  modify fun s => VmStateDB.setNonce s msg.sender (VmStateDB.getNonce s msg.sender + 1)
  if toAddr = systemActionAddress then systemActionBranch nat msg gas
  else if toAddr = checkpointSlashIndicatorAddress then slashIndicatorBranch nat msg gas
  else if VmStateDB.getCode (← get) toAddr ≠ [] then do
    let (s', gas', vmerr) := nat.call (← get) msg toAddr gas
    set s'
    return (gas', vmerr)
  else do
    -- a plain transfer: `blockCtx.Transfer`
    if 0 < msg.amount then
      modify fun s => VmStateDB.addBalance (VmStateDB.subBalance s msg.sender msg.amount) toAddr
        msg.amount
    return (gas, none)

/-- `TransitionDb` of a public message, charged against the gas pool `gp`. -/
def transitionDb (env : ChainEnv) (nat : Natives σ) (ctx : BlockContext) (msg : Message)
    (gp : ℕ) : TxM σ ExecutionResult := do
  preCheck env ctx.time msg gp
  let initialGas := msg.gasLimit
  let validationGas ← match msg.toAddr with
    | some toAddr => checkDestination env nat msg toAddr
    | none => pure 0
  let igas ← liftExcept (intrinsicGas msg.data msg.toAddr.isNone)
  if msg.gasLimit < igas then throw (.intrinsicGas msg.gasLimit igas)
  let gas := msg.gasLimit - igas
  -- `CanTransfer`
  if 0 < msg.amount ∧ VmStateDB.getBalance (← get) msg.sender < msg.amount then
    throw (.insufficientFundsForTransfer msg.sender)
  if msg.isSponsored then chargeSponsor env nat msg
  let (gas, vmerr) ← match msg.toAddr with
    | none => do
      -- the creation bumps the nonce itself
      let (s', gas', vmerr) := nat.create (← get) msg gas
      set s'
      pure (gas', vmerr)
    | some toAddr => callBranch nat msg toAddr gas
  -- `refundGas(RefundQuotientStrict)`: the refund counter caps the refund
  let refund := min ((initialGas - gas + validationGas) / refundQuotientStrict)
    (VmStateDB.getRefund (← get))
  let gas := gas + refund
  modify fun s => VmStateDB.addBalance s (gasPayer msg) (gas * msg.txPrice)
  let gasUsed := initialGas - gas + validationGas
  -- the miner fee, at the fixed price
  if !msg.isFake then
    modify fun s => VmStateDB.addBalance s ctx.coinbase (gasUsed * msg.txPrice)
  return { usedGas := gasUsed, err := vmerr }

/-- `ApplyMessage(blockCtx, config, msg, gp, statedb)`. -/
def applyMessage (env : ChainEnv) (nat : Natives σ) (ctx : BlockContext) (msg : Message)
    (gp : ℕ) (s : σ) : σ × Except TxError ExecutionResult :=
  let (r, s') := (transitionDb env nat ctx msg gp).run.run s
  (s', r)

/-- Natives that plain transfers between accounts without code never call: every check passes,
and every call returns its gas and changes nothing. -/
def inertNatives (σ : Type) : Natives σ :=
  ⟨fun _ _ => none, fun s _ => .ok (s, 0), fun _ _ => 0, fun _ _ _ _ => none,
    fun s _ g => (s, g, none), fun _ => .ok false, fun s _ g => (s, g, none),
    fun s _ => (s, 0, none), fun s _ => (s, 0, none), fun s _ _ g => (s, g, none)⟩

end Gtos.Core
