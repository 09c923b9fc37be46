import Gtos.Core.StateTransition

/-! # Admission of a transaction to the pool (`core/tx_pool.go`)

`validateTx` is `(*TxPool).validateTxWithState` without an override state: the checks a
transaction must pass against the pool's current state before it enters the pool. A `SignerTx`
is checked here, in the source's order; the three privacy types go to validators of their own,
which are code outside the model.

Every check reads the state as it is, for one transaction alone: the payer's balance must cover
that transaction's own cost, whatever else of the same payer is pending. -/

namespace Gtos.Core

/-- The errors of `validateTx`. -/
inductive PoolError
  /-- `ErrTxTypeNotSupported`. -/
  | txTypeNotSupported
  /-- `ErrInvalidSponsor`: the sponsor does not resolve, or its authorisation expired. -/
  | invalidSponsor
  /-- `ErrOversizedData`. -/
  | oversizedData
  /-- `ErrNegativeValue`. -/
  | negativeValue
  /-- `ErrGasLimit`: `exceeds block gas limit`. -/
  | gasLimit
  /-- `ErrFeeCapVeryHigh`. -/
  | feeCapVeryHigh
  /-- `ErrTipVeryHigh`. -/
  | tipVeryHigh
  /-- `ErrTipAboveFeeCap`. -/
  | tipAboveFeeCap
  /-- `ErrUnderpriced`. -/
  | underpriced
  /-- `ErrNonceTooLow`. -/
  | nonceTooLow
  /-- `ErrInsufficientFunds`: `insufficient funds for gas * price + value`. -/
  | insufficientFunds
  /-- `ErrInsufficientFundsForTransfer`. -/
  | insufficientFundsForTransfer
  /-- `ErrIntrinsicGas`. -/
  | intrinsicGas
  /-- An error of `IntrinsicGas` itself (`ErrGasUintOverflow`). -/
  | intrinsic (err : TxError)
  /-- An error of code outside the model: the privacy validators, the sponsor nonce check. -/
  | native (reason : String)
  deriving DecidableEq, Repr

/-- `txSlotSize`. -/
def txSlotSize : ℕ := 32 * 1024

/-- `txMaxSize`: four slots. -/
def txMaxSize : ℕ := 4 * txSlotSize

/-- `GasTipCap()`: the protocol price for a `SignerTx`, zero for the privacy types. -/
def Transaction.gasTipCap (tx : Transaction) : ℤ :=
  if isPrivacyTxType tx.txType then 0 else txPriceTomi

/-- `GasFeeCap()`: the protocol price for a `SignerTx`, zero for the privacy types. -/
def Transaction.gasFeeCap (tx : Transaction) : ℤ :=
  if isPrivacyTxType tx.txType then 0 else txPriceTomi

/-- `BitLen() > 256` of a `big.Int`: its magnitude needs more than 256 bits. -/
def exceeds256Bits (x : ℤ) : Bool :=
  2 ^ 256 ≤ x.natAbs

/-- The pool's fields that `validateTx` reads. -/
structure TxPool where
  /-- `currentState`. -/
  currentState : StateDB
  /-- `currentMaxGas`: the gas limit of the current head. -/
  currentMaxGas : ℕ
  /-- `txPrice`: the least tip a remote transaction must offer. -/
  txPrice : ℤ

/-- The code `validateTx` calls that the model leaves abstract. -/
structure PoolNatives where
  /-- `ResolveSponsor(tx, signer, currentState)`: the sponsor, or `none` on an error. -/
  resolveSponsor : StateDB → Transaction → Option Address
  /-- `validateSponsoredNonce(tx, from, sponsor)`, which reads the pending set. -/
  validateSponsoredNonce : Transaction → Address → Address → Option PoolError
  /-- `validatePrivTransferTx`, `validateShieldTx` and `validateUnshieldTx`. -/
  validatePrivacyTx : Transaction → Address → Bool → Option PoolError

/-- `validateTx(tx, from, local)` at the wall-clock time `now` (milliseconds). -/
def TxPool.validateTx (pool : TxPool) (nat : PoolNatives) (now : ℕ) (tx : Transaction)
    (sender : Address) (isLocal : Bool) : Except PoolError Unit := do
  if isPrivacyTxType tx.txType then
    if let some e := nat.validatePrivacyTx tx sender isLocal then throw e
    return
  if tx.txType ≠ signerTxType then throw .txTypeNotSupported
  let sponsor ← if tx.isSponsored then
      match nat.resolveSponsor pool.currentState tx with
      | some sponsor => pure sponsor
      | none => throw .invalidSponsor
    else pure 0
  if tx.size > txMaxSize then throw .oversizedData
  if tx.value < 0 then throw .negativeValue
  if pool.currentMaxGas < tx.gas then throw .gasLimit
  if exceeds256Bits tx.gasFeeCap then throw .feeCapVeryHigh
  if exceeds256Bits tx.gasTipCap then throw .tipVeryHigh
  if tx.gasFeeCap < tx.gasTipCap then throw .tipAboveFeeCap
  if !isLocal && tx.gasTipCap < pool.txPrice then throw .underpriced
  if pool.currentState.nonce sender > tx.nonce then throw .nonceTooLow
  -- each balance is checked against this transaction's own cost
  if tx.isSponsored then
    if pool.currentState.balance sponsor < txPriceTomi * tx.gas then throw .insufficientFunds
    if pool.currentState.balance sender < tx.value then throw .insufficientFundsForTransfer
    if let some e := nat.validateSponsoredNonce tx sender sponsor then throw e
    if tx.sponsorExpiry ≠ 0 ∧ now > tx.sponsorExpiry then throw .invalidSponsor
  else if pool.currentState.balance sender < tx.cost then throw .insufficientFunds
  match intrinsicGas tx.data tx.toAddr.isNone with
  | .error e => throw (.intrinsic e)
  | .ok igas => if tx.gas < igas then throw .intrinsicGas

end Gtos.Core
