import Gtos.Common.Hex
import Gtos.Lib.ExceptState
import Gtos.Sysaction.Execute

/-! # Delegation nonces (`delegation/state.go`, `delegation/handler.go`)

A principal consumes or revokes the nonces of its delegations with the system actions
`DELEGATION_MARK_USED` and `DELEGATION_REVOKE`. Each nonce is a decimal string of any size, and
its use is recorded in the delegation registry at a slot named by
`Keccak256("del\x00used\x00" ‖ principal ‖ nonce as 32 bytes)`.

The nonce reaches `usedSlot` unbounded: `FillBytes` of a value of 2^256 or more into a 32-byte
buffer is a Go runtime panic, raised inside the state transition of any node that executes the
action (`handleMarkUsed_panics`, `handleRevoke_panics`). -/

namespace Gtos.Delegation

open Gtos.Core Gtos.Sysaction

/-- `params.DelegationRegistryAddress`. -/
def delegationRegistryAddress : Address := 0x103#256

/-- `ErrNonceAlreadyUsed`. -/
def errNonceAlreadyUsed : String := "delegation: nonce already used"

/-- `ErrUnauthorizedPrincipal`. -/
def errUnauthorizedPrincipal : String := "delegation: only principal can consume own nonce"

/-- The panic of `(*big.Int).FillBytes` when the value does not fit the buffer. -/
def fillBytesPanic : String := "math/big: buffer too small to fit value"

/-- `(*big.Int).FillBytes` into a buffer of `len` bytes: the absolute value big-endian, or a
panic when it needs more than `len` bytes. -/
def fillBytes (x : ℤ) (len : ℕ) : Except Fault (List UInt8) :=
  if x.natAbs < 256 ^ len then .ok (Bytes.toBytesBE x.natAbs len) else .error (.panic fillBytesPanic)

/-- `noncePayload`: the principal as hexadecimal text and the nonce as decimal text. -/
structure NoncePayload where
  /-- `principal`. -/
  principal : String
  /-- `nonce`. -/
  nonce : String
  deriving DecidableEq, Repr

/-- The checks both handlers make: the payload decodes (`payload` is what the JSON decoder
returned), the sender is the principal, and the nonce is a non-negative decimal. -/
def checkNoncePayload {σ : Type} (ctx : Context) (payload : Except String NoncePayload) :
    HandlerM σ (Address × ℤ) := do
  let p ← match payload with
    | .ok p => pure p
    | .error e => throw (.error e)
  let principal := hexToAddress p.principal
  if ctx.sender ≠ principal then throw (.error errUnauthorizedPrincipal)
  match Decimal.parseInt p.nonce.toList with
  | some nonce => if nonce < 0 then throw (.error errNonceAlreadyUsed) else return (principal, nonce)
  | none => throw (.error errNonceAlreadyUsed)

/-- `usedSlot(principal, nonce)`, with `keccak256` the hash function. -/
def usedSlot (keccak256 : List UInt8 → Hash) (principal : Address) (nonce : ℤ) :
    Except Fault Hash := do
  let nonceBytes ← fillBytes nonce 32
  return keccak256 ("del\x00used\x00".toUTF8.toList ++ wordBytes principal ++ nonceBytes)

/-- `nonceCountSlot(principal)`. -/
def nonceCountSlot (keccak256 : List UInt8 → Hash) (principal : Address) : Hash :=
  keccak256 ("del\x00nonce\x00".toUTF8.toList ++ wordBytes principal)

section Handlers

variable {σ : Type} [VmStateDB σ]

/-- `IsUsed`: the last byte of the used slot is set. -/
def isUsed (keccak256 : List UInt8 → Hash) (principal : Address) (nonce : ℤ) : HandlerM σ Bool := do
  let slot ← liftExcept (usedSlot keccak256 principal nonce)
  return (VmStateDB.getState (← get) delegationRegistryAddress slot).toNat % 256 ≠ 0

/-- `MarkUsed`: set the used slot, and advance the hint when the nonce is the hint. -/
def markUsed (keccak256 : List UInt8 → Hash) (principal : Address) (nonce : ℤ) :
    HandlerM σ Unit := do
  let slot ← liftExcept (usedSlot keccak256 principal nonce)
  modify fun s => VmStateDB.setState s delegationRegistryAddress slot 1
  let hint := (VmStateDB.getState (← get) delegationRegistryAddress
    (nonceCountSlot keccak256 principal)).toNat
  if nonce = hint then
    modify fun s => VmStateDB.setState s delegationRegistryAddress
      (nonceCountSlot keccak256 principal) (BitVec.ofNat 256 (hint + 1))

/-- `handleMarkUsed`: a nonce is consumed once. -/
def handleMarkUsed (keccak256 : List UInt8 → Hash) (ctx : Context)
    (payload : Except String NoncePayload) :
    HandlerM σ Unit := do
  let (principal, nonce) ← checkNoncePayload ctx payload
  if ← isUsed keccak256 principal nonce then throw (.error errNonceAlreadyUsed)
  markUsed keccak256 principal nonce

/-- `handleRevoke`: revocation marks the nonce used, again and again. -/
def handleRevoke (keccak256 : List UInt8 → Hash) (ctx : Context)
    (payload : Except String NoncePayload) :
    HandlerM σ Unit := do
  let (principal, nonce) ← checkNoncePayload ctx payload
  markUsed keccak256 principal nonce

/-- `delegationHandler`: the two actions, each with its payload decoded by `decodeJson`. -/
def delegationHandler (keccak256 : List UInt8 → Hash)
    (decodeJson : List UInt8 → Except String NoncePayload) : Handler σ where
  actions := [actionDelegationMarkUsed, actionDelegationRevoke]
  handle ctx sa :=
    if sa.action = actionDelegationMarkUsed then handleMarkUsed keccak256 ctx (decodeJson sa.payload)
    else if sa.action = actionDelegationRevoke then handleRevoke keccak256 ctx (decodeJson sa.payload)
    else pure ()

/-! ## The panic -/

/-- A nonce of 2^256 or more makes `usedSlot` panic. -/
theorem usedSlot_of_le (keccak256 : List UInt8 → Hash) (principal : Address) (nonce : ℤ)
    (hbig : 2 ^ 256 ≤ nonce) : usedSlot keccak256 principal nonce = .error (.panic fillBytesPanic) := by
  have hfill : fillBytes nonce 32 = .error (.panic fillBytesPanic) := by
    have hpow : (256 : ℤ) ^ 32 = 2 ^ 256 := by norm_num
    rw [fillBytes, if_neg (by omega)]
  simp [usedSlot, hfill, bind, Except.bind]

/-- The payload of a principal that names itself passes the checks with its nonce. -/
theorem checkNoncePayload_eq {σ : Type} (ctx : Context) (p : NoncePayload) (nonce : ℤ) (s : σ)
    (hp : hexToAddress p.principal = ctx.sender) (hn : Decimal.parseInt p.nonce.toList = some nonce)
    (hpos : 0 ≤ nonce) :
    (checkNoncePayload ctx (.ok p)).run.run s = (.ok (ctx.sender, nonce), s) := by
  have hneg : ¬ nonce < 0 := by omega
  simp [checkNoncePayload, hp, hn, hneg]
  rfl

/-- `IsUsed` panics on a nonce of 2^256 or more, before it reads the state. -/
theorem isUsed_of_le (keccak256 : List UInt8 → Hash) (principal : Address) (nonce : ℤ) (s : σ)
    (hbig : 2 ^ 256 ≤ nonce) :
    (isUsed keccak256 principal nonce).run.run s = (.error (.panic fillBytesPanic), s) := by
  rw [isUsed, ExceptStateM.run_bind_of_error]
  rw [usedSlot_of_le keccak256 principal nonce hbig, ExceptStateM.run_liftExcept_error]

/-- `MarkUsed` panics on a nonce of 2^256 or more, before it writes. -/
theorem markUsed_of_le (keccak256 : List UInt8 → Hash) (principal : Address) (nonce : ℤ) (s : σ)
    (hbig : 2 ^ 256 ≤ nonce) :
    (markUsed keccak256 principal nonce).run.run s = (.error (.panic fillBytesPanic), s) := by
  rw [markUsed, ExceptStateM.run_bind_of_error]
  rw [usedSlot_of_le keccak256 principal nonce hbig, ExceptStateM.run_liftExcept_error]

/-- **`DELEGATION_MARK_USED` panics on a nonce of 2^256 or more**: the payload of a principal that
names itself passes the checks, and `IsUsed` asks `usedSlot` for the slot. -/
theorem handleMarkUsed_panics (keccak256 : List UInt8 → Hash) (ctx : Context) (p : NoncePayload)
    (nonce : ℤ) (s : σ) (hp : hexToAddress p.principal = ctx.sender)
    (hn : Decimal.parseInt p.nonce.toList = some nonce) (hbig : 2 ^ 256 ≤ nonce) :
    (handleMarkUsed keccak256 ctx (.ok p)).run.run s = (.error (.panic fillBytesPanic), s) := by
  have hcheck := checkNoncePayload_eq ctx p nonce s hp hn (by omega)
  rw [handleMarkUsed, ExceptStateM.run_bind_of_ok hcheck]
  exact ExceptStateM.run_bind_of_error (isUsed_of_le keccak256 ctx.sender nonce s hbig)

/-- **`DELEGATION_REVOKE` panics on a nonce of 2^256 or more**, in `MarkUsed`. -/
theorem handleRevoke_panics (keccak256 : List UInt8 → Hash) (ctx : Context) (p : NoncePayload)
    (nonce : ℤ) (s : σ) (hp : hexToAddress p.principal = ctx.sender)
    (hn : Decimal.parseInt p.nonce.toList = some nonce) (hbig : 2 ^ 256 ≤ nonce) :
    (handleRevoke keccak256 ctx (.ok p)).run.run s = (.error (.panic fillBytesPanic), s) := by
  have hcheck := checkNoncePayload_eq ctx p nonce s hp hn (by omega)
  rw [handleRevoke, ExceptStateM.run_bind_of_ok hcheck]
  exact markUsed_of_le keccak256 ctx.sender nonce s hbig

/-- **`sysaction.Execute` panics on a delegation nonce of 2^256 or more**: the envelope decodes to
one of the two delegation actions, the registry hands it to the delegation handler, and the
handler panics before any write. -/
theorem execute_panics_on_large_delegation_nonce (registry : List (Handler σ))
    (decodeJson : List UInt8 → Except String SysAction) (keccak256 : List UInt8 → Hash)
    (decodeNonce : List UInt8 → Except String NoncePayload) (msg : Message) (blockNumber : ℕ)
    (s : σ) (sa : SysAction) (p : NoncePayload) (nonce : ℤ)
    (hdecode : decode decodeJson msg.data = .ok sa)
    (haction : sa.action = actionDelegationMarkUsed ∨ sa.action = actionDelegationRevoke)
    (hlookup : lookup registry sa.action = some (delegationHandler keccak256 decodeNonce))
    (hpayload : decodeNonce sa.payload = .ok p) (hp : hexToAddress p.principal = msg.sender)
    (hn : Decimal.parseInt p.nonce.toList = some nonce) (hbig : 2 ^ 256 ≤ nonce) :
    (execute registry decodeJson msg blockNumber).run.run s = (.error (.panic fillBytesPanic), s) := by
  rw [execute_eq_handle registry decodeJson msg blockNumber sa _ hdecode hlookup]
  apply ExceptStateM.run_bind_of_error
  have hrevoke : actionDelegationRevoke ≠ actionDelegationMarkUsed := by decide
  rcases haction with hmark | hrev
  · simp only [delegationHandler, hmark, if_true, hpayload]
    exact handleMarkUsed_panics keccak256 ⟨msg.sender, msg.amount, blockNumber⟩ p nonce s hp hn hbig
  · simp only [delegationHandler, hrev, hrevoke, if_false, if_true, hpayload]
    exact handleRevoke_panics keccak256 ⟨msg.sender, msg.amount, blockNumber⟩ p nonce s hp hn hbig

end Handlers

/-! ## A failing input -/

/-- The smallest nonce that does not fit 32 bytes, 2^256, in decimal. -/
def largeNonce : String :=
  "115792089237316195423570985008687907853269984665640564039457584007913129639936"

/-- A `DELEGATION_MARK_USED` message from `0xa` that consumes the nonce 2^256 of its own. -/
def largeNonceMessage : Message :=
  { toAddr := some systemActionAddress, sender := 0xA#256, sponsor := 0, nonce := 0,
    sponsorNonce := 0, sponsorExpiry := 0, amount := 0, gasLimit := 200000, txPrice := 0,
    gasFeeCap := none, data := [1], terminalClass := 0, trustTier := 0, isFake := false,
    txType := signerTxType }

/-- The delegation handler alone in the registry, with a JSON decoder that reads the message's
envelope and payload as the action and the nonce above. -/
def largeNonceRegistry : List (Handler StateDB) :=
  [delegationHandler (fun _ => 0) fun _ => .ok ⟨"0xa", largeNonce⟩]

theorem execute_panics_on_nonce_two_pow_256 :
    (execute largeNonceRegistry (fun _ => .ok ⟨actionDelegationMarkUsed, [2]⟩) largeNonceMessage 1).run.run
      StateDB.empty = (.error (.panic fillBytesPanic), StateDB.empty) :=
  execute_panics_on_large_delegation_nonce largeNonceRegistry _ (fun _ => 0)
    (fun _ => .ok ⟨"0xa", largeNonce⟩) largeNonceMessage 1 StateDB.empty
    ⟨actionDelegationMarkUsed, [2]⟩ ⟨"0xa", largeNonce⟩ (2 ^ 256) (by decide) (.inl rfl)
    rfl rfl (by decide +kernel) (by decide +kernel) le_rfl

end Gtos.Delegation
