import Mathlib.Data.Int.Notation
import Mathlib.Data.Nat.Notation
import Mathlib.Algebra.Group.Nat.Defs
import Mathlib.Algebra.GroupWithZero.Nat
import Gtos.Common.Types

/-! # Transactions, messages, logs and receipts (`core/types`, `params`)

The data the block executors read and produce.

* **`Transaction`** — the fields of a `SignerTx` (or of a privacy transaction) that the miner and
  the executors read. Its `Hash` is a field: the source computes it once, as the Keccak-256 of the
  RLP encoding, and never looks inside it again.
* **`Message`** — `types.Message`, the transaction as the state transition sees it. The source's
  fields `from` and `to` are `sender` and `toAddr` here (both are Lean keywords).
* **`Log`** and **`Receipt`** — the fields the executors set. A receipt's `Bloom` is a function of
  its logs (`CreateBloom`) and is left out.
* **`ChainEnv`** — what the executors take from code outside the model: the storage slots and
  contract addresses the source derives with Keccak-256, and the system-action decoder.

Amounts of `*big.Int` are integers; `uint64` gas and nonces are natural numbers, with the
source's overflow checks written out where it makes them. -/

namespace Gtos.Core

/-! ## Protocol constants -/

/-- `types.SignerTxType`. -/
def signerTxType : UInt8 := 0

/-- `types.PrivTransferTxType`. -/
def privTransferTxType : UInt8 := 1

/-- `types.ShieldTxType`. -/
def shieldTxType : UInt8 := 2

/-- `types.UnshieldTxType`. -/
def unshieldTxType : UInt8 := 3

/-- `isPrivacyTxType`: the three transaction types of the encrypted-balance layer. -/
def isPrivacyTxType (txType : UInt8) : Bool :=
  txType == privTransferTxType || txType == shieldTxType || txType == unshieldTxType

/-- `types.ReceiptStatusFailed`. -/
def receiptStatusFailed : ℕ := 0

/-- `types.ReceiptStatusSuccessful`. -/
def receiptStatusSuccessful : ℕ := 1

/-- `params.TxGas`: the intrinsic gas of a transaction that creates no contract. -/
def txGas : ℕ := 21000

/-- `params.TxGasContractCreation`. -/
def txGasContractCreation : ℕ := 5300000

/-- `params.TxDataZeroGas`. -/
def txDataZeroGas : ℕ := 4

/-- `params.TxDataNonZeroGasReduced`. -/
def txDataNonZeroGasReduced : ℕ := 16

/-- `params.SysActionGas`: the fixed charge of a system action. -/
def sysActionGas : ℕ := 100000

/-- `params.RefundQuotientStrict`. -/
def refundQuotientStrict : ℕ := 5

/-- `params.TxPriceTomi`: the protocol-fixed price of a unit of gas. A `SignerTx` reports it as
its `TxPrice`, `GasTipCap` and `GasFeeCap`, and `CalcBaseFee` is zero, so every effective tip is
this price. -/
def txPriceTomi : ℤ := 10000000000

/-- `math.MaxUint64`. -/
def maxUint64 : ℕ := 2 ^ 64 - 1

/-- `params.SystemActionAddress`. -/
def systemActionAddress : Address := 0x1#256

/-- `params.ValidatorRegistryAddress`. -/
def validatorRegistryAddress : Address := 0x3#256

/-- `params.PrivacyRouterAddress`. -/
def privacyRouterAddress : Address := 0x4#256

/-- `params.LVMSerialAddress`: a pseudo-account that every contract call writes, so that the
level scheduler serialises them. -/
def lvmSerialAddress : Address := 0x5#256

/-- `params.CheckpointSlashIndicatorAddress`. -/
def checkpointSlashIndicatorAddress : Address := 0x109#256

/-- `params.LeaseRegistryAddress`. -/
def leaseRegistryAddress : Address := 0x10B#256

/-- `params.SponsorRegistryAddress`. -/
def sponsorRegistryAddress : Address := 0x110#256

/-! ## Messages and transactions -/

/-- `types.Message`: what the state transition executes. -/
structure Message where
  /-- `to`; `none` for a contract creation. -/
  toAddr : Option Address
  /-- `from`. -/
  sender : Address
  /-- `sponsor`; the zero address for an unsponsored message. -/
  sponsor : Address
  /-- `nonce`. -/
  nonce : ℕ
  /-- `sponsorNonce`. -/
  sponsorNonce : ℕ
  /-- `sponsorExpiry`; zero for none. -/
  sponsorExpiry : ℕ
  /-- `amount`, the value transferred. -/
  amount : ℤ
  /-- `gasLimit`. -/
  gasLimit : ℕ
  /-- `txPrice`. -/
  txPrice : ℤ
  /-- `gasFeeCap`; `none` for a nil pointer. -/
  gasFeeCap : Option ℤ
  /-- `data`. -/
  data : List UInt8
  /-- `terminalClass`, read by the policy-wallet check. -/
  terminalClass : UInt8
  /-- `trustTier`, read by the policy-wallet check. -/
  trustTier : UInt8
  /-- `isFake`: set for simulated calls, which skip the nonce checks and the miner fee. -/
  isFake : Bool
  /-- `txType`. -/
  txType : UInt8
  deriving DecidableEq, Repr, Inhabited

/-- `(Message).IsSponsored`. -/
def Message.isSponsored (m : Message) : Bool :=
  m.sponsor != 0

/-- A transaction: the fields of a `SignerTx` the miner and the executors read, and for a privacy
transaction the sender its public key derives. -/
structure Transaction where
  /-- `Hash()`: Keccak-256 of the typed RLP encoding. -/
  hash : Hash
  /-- `Type()`. -/
  txType : UInt8
  /-- `To()`; `none` for a contract creation. -/
  toAddr : Option Address
  /-- `Nonce()`; the `PrivNonce` for a privacy transaction. -/
  nonce : ℕ
  /-- `Value()`. -/
  value : ℤ
  /-- `Gas()`; zero for a privacy transaction. -/
  gas : ℕ
  /-- `Data()`. -/
  data : List UInt8
  /-- `SignerFrom()`: the explicit `From` of a `SignerTx`. -/
  signerFrom : Address
  /-- `PrivTxFrom()`: the address of a privacy transaction's public key. -/
  privFrom : Option Address
  /-- `SponsorFrom()`: the explicit sponsor, if the transaction is sponsored. -/
  sponsorFrom : Option Address
  /-- `SponsorNonce()`. -/
  sponsorNonce : ℕ
  /-- `SponsorExpiry()`. -/
  sponsorExpiry : ℕ
  /-- `Size()`: the encoded size in bytes. -/
  size : ℕ
  deriving DecidableEq, Repr, Inhabited

/-- `(*Transaction).IsSponsored`. -/
def Transaction.isSponsored (tx : Transaction) : Bool :=
  tx.sponsorFrom.isSome

/-- `(*Transaction).Cost`: the price of all the gas plus the value. -/
def Transaction.cost (tx : Transaction) : ℤ :=
  txPriceTomi * tx.gas + tx.value

/-! ## Logs and receipts -/

/-- `types.Log`: the fields the executors set; `Removed` is never set by them. -/
structure Log where
  /-- `Address`. -/
  address : Address
  /-- `Topics`. -/
  topics : List Hash
  /-- `Data`. -/
  data : List UInt8
  /-- `BlockNumber`. -/
  blockNumber : ℕ
  /-- `TxHash`. -/
  txHash : Hash
  /-- `TxIndex`. -/
  txIndex : ℕ
  /-- `BlockHash`. -/
  blockHash : Hash
  /-- `Index`: the log's position in the block. -/
  index : ℕ
  deriving DecidableEq, Repr

/-- `types.Receipt`, without the `Bloom` its logs determine. -/
structure Receipt where
  /-- `Type`. -/
  txType : UInt8
  /-- `Status`. -/
  status : ℕ
  /-- `CumulativeGasUsed`. -/
  cumulativeGasUsed : ℕ
  /-- `TxHash`. -/
  txHash : Hash
  /-- `GasUsed`. -/
  gasUsed : ℕ
  /-- `ContractAddress`; the zero address unless the transaction creates a contract. -/
  contractAddress : Address
  /-- `BlockHash`. -/
  blockHash : Hash
  /-- `BlockNumber`. -/
  blockNumber : ℕ
  /-- `TransactionIndex`. -/
  transactionIndex : ℕ
  /-- `Logs`. -/
  logs : List Log
  deriving DecidableEq, Repr

/-! ## Errors -/

/-- The errors of the state transition that invalidate a block (`core/error.go` and the
wrapping messages of `state_transition.go`), with the data their messages print. -/
inductive TxError
  /-- `ErrNonceTooHigh`: of the sender or, for a sponsored message, of the sponsor. -/
  | nonceTooHigh (address : Address) (txNonce stateNonce : ℕ)
  /-- `ErrNonceTooLow`. -/
  | nonceTooLow (address : Address) (txNonce stateNonce : ℕ)
  /-- `ErrNonceMax`: the state nonce cannot be incremented in `uint64`. -/
  | nonceMax (address : Address) (stateNonce : ℕ)
  /-- `sponsor authorization expired`. -/
  | sponsorExpired (sponsor : Address) (expiry time : ℕ)
  /-- `ErrSenderNoEOA`: the sender holds code. -/
  | senderNoEOA (address : Address)
  /-- `ErrInsufficientFunds`: the gas payer cannot cover `gas * price` (and the value). -/
  | insufficientFunds (address : Address) (available required : ℤ)
  /-- `ErrGasLimitReached` of package `core`. -/
  | gasLimitReached
  /-- `ErrIntrinsicGas`. -/
  | intrinsicGas (available required : ℕ)
  /-- `ErrGasUintOverflow`. -/
  | gasUintOverflow
  /-- `ErrInsufficientFundsForTransfer`. -/
  | insufficientFundsForTransfer (address : Address)
  /-- `lease.ErrLeaseTombstoned`. -/
  | leaseTombstoned
  /-- An error of code outside the model (lease, account abstraction, policy wallet). -/
  | native (reason : String)
  deriving DecidableEq, Repr

/-- A failure of the message's own execution, which the block keeps with a failed receipt. -/
inductive VmError
  /-- `vm.ErrOutOfGas`. -/
  | outOfGas
  /-- An error returned by code outside the model (the virtual machine, system actions). -/
  | native (reason : String)
  deriving DecidableEq, Repr

/-- `core.ExecutionResult`, without the return data nothing here reads. -/
structure ExecutionResult where
  /-- `UsedGas`. -/
  usedGas : ℕ
  /-- `Err`: the failure of the execution, if any. -/
  err : Option VmError
  deriving DecidableEq, Repr

/-! ## The environment outside the model -/

/-- `vm.BlockContext`: the fields the state transition reads. -/
structure BlockContext where
  /-- `Coinbase`: the recipient of the fees. -/
  coinbase : Address
  /-- `BlockNumber`. -/
  blockNumber : ℕ
  /-- `Time`; zero stands for a nil or zero time, which disables the sponsor expiry check. -/
  time : ℕ
  deriving DecidableEq, Repr

/-- What the executors take from code outside the model. -/
structure ChainEnv where
  /-- `sponsorNonceSlot`: `Keccak256("tos.sponsor.nonce", sponsor)`. -/
  sponsorNonceSlot : Address → Hash
  /-- `lease.tombstoneSlot(addr, "marker")` in the lease registry. -/
  tombstoneMarkerSlot : Address → Hash
  /-- `aaMarkerSlot`: the slot an account contract sets in its own storage. -/
  aaMarkerSlot : Hash
  /-- `crypto.CreateAddress(sender, nonce)`. -/
  createAddress : Address → ℕ → Address
  /-- Whether `sysaction.Decode(data)` succeeds with the action `ActionLeaseDeploy`. -/
  isLeaseDeploy : List UInt8 → Bool

end Gtos.Core
