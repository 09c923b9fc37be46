import Gtos.Core.TxPool
import Gtos.Parallel.Executor

/-! # Importing a block (`core/state_processor.go`, `core/block_validator.go`)

`process` is `(*StateProcessor).Process`: it builds every message of the block against the
state at the block's start, runs the scheduled tasks, executes the transactions with
`ExecuteTransactions`, and finalises the state with the consensus engine. `validateState` is the
part of `(*BlockValidator).ValidateState` that compares the result with the block: the gas used,
the receipts and the state root.

A header's roots are Keccak-256 commitments to the post state and to the receipts' consensus
encoding. The model's block carries the committed values themselves, so two roots are equal
exactly when the committed values are: a commitment that never collides.

The consensus engine, the scheduled tasks and sender resolution are code outside the model; they
are the fields of `BlockNatives`, together with the natives of the state transition. -/

namespace Gtos.Core

open Gtos.Parallel

/-- `types.Header`: the fields the miner and the processor read and write. -/
structure Header where
  /-- `Number`. -/
  number : ℕ
  /-- `GasLimit`. -/
  gasLimit : ℕ
  /-- `GasUsed`. -/
  gasUsed : ℕ
  /-- `Time`. -/
  time : ℕ
  /-- `Coinbase`. -/
  coinbase : Address
  deriving DecidableEq, Repr

/-- `misc.CalcBaseFee`: zero for every header. -/
def calcBaseFee (_ : Header) : ℤ :=
  0

/-- A block: its header, its body's transactions, and the values the header's `Root` and
`ReceiptHash` commit to. -/
structure Block where
  /-- The header. -/
  header : Header
  /-- `Transactions()`. -/
  txs : List Transaction
  /-- The state `Root` commits to. -/
  root : StateDB
  /-- The receipts `ReceiptHash` commits to. -/
  receipts : List Receipt

/-- The consensus encoding of a receipt, which `ReceiptHash` commits to: the type, the status,
the cumulative gas and the logs' address, topics and data. The bloom is a function of the logs;
the hashes, numbers and indices of a receipt and of its logs are derived fields. -/
def Receipt.consensusFields (r : Receipt) : UInt8 × ℕ × ℕ × List (Address × List Hash × List UInt8) :=
  (r.txType, r.status, r.cumulativeGasUsed, r.logs.map fun l => (l.address, l.topics, l.data))

/-- The code outside the model that block production and import call. -/
structure BlockNatives where
  /-- The derivations the executors take from outside. -/
  env : ChainEnv
  /-- The state transition's natives on a write buffer. -/
  natBuf : Natives WriteBuf
  /-- The state transition's natives on the state database. -/
  natDb : Natives StateDB
  /-- The batch of privacy transactions of the serial executor. -/
  executePrivacyTx : StateDB → Transaction → ℕ → StateDB × Bool
  /-- `ResolveSender(tx, signer, statedb)`. -/
  resolveSender : StateDB → Transaction → Except TxError Address
  /-- `ResolveSponsor(tx, signer, statedb)`. -/
  resolveSponsor : StateDB → Transaction → Except TxError Address
  /-- `RunScheduledTasks(statedb, blockCtx, config, number, gp)`: the state, and the gas the
  tasks used and the gas pool after them, or an error. -/
  runScheduledTasks : StateDB → BlockContext → ℕ → StateDB × Except String (ℕ × ℕ)
  /-- The engine's `Finalize`: the prune sweep and the block reward. -/
  finalize : Header → StateDB → StateDB
  /-- `VerifyFinalizedState` of the engine. -/
  verifyFinalizedState : Header → StateDB → Option String
  /-- The engine's `Author`: the account a sealed header pays. -/
  author : Header → Address
  /-- `Hash()` of a header. -/
  headerHash : Header → Hash

/-- `NewVMBlockContext(header, chain, author)`: the coinbase is the given author. -/
def blockContext (header : Header) (coinbase : Address) : BlockContext :=
  ⟨coinbase, header.number, header.time⟩

/-- `TxAsMessageWithAccountSigner(tx, signer, baseFee, statedb)`: the message of a transaction,
with its sender and sponsor resolved against `statedb`. The terminal class and trust tier are
not copied from the transaction. -/
def txAsMessageWithAccountSigner (nat : BlockNatives) (tx : Transaction) (baseFee : ℤ)
    (statedb : StateDB) : Except TxError Message := do
  let txPrice := min (tx.gasTipCap + baseFee) tx.gasFeeCap
  let sender ← nat.resolveSender statedb tx
  let msg : Message :=
    { toAddr := tx.toAddr, sender := sender, sponsor := 0, nonce := tx.nonce, sponsorNonce := 0,
      sponsorExpiry := 0, amount := tx.value, gasLimit := tx.gas, txPrice := txPrice,
      gasFeeCap := some tx.gasFeeCap, data := tx.data, terminalClass := 0, trustTier := 0,
      isFake := false, txType := tx.txType }
  if tx.isSponsored then
    let sponsor ← nat.resolveSponsor statedb tx
    return { msg with
      sponsor := sponsor, sponsorNonce := tx.sponsorNonce, sponsorExpiry := tx.sponsorExpiry }
  return msg

/-- `ExecuteTransactions` with the block natives. -/
def BlockNatives.executeTransactions (nat : BlockNatives) (ctx : BlockContext) (statedb : StateDB)
    (txs : List Transaction) (blockHash : Hash) (blockNumber gp : ℕ) (msgs : List Message) :
    BlockRun :=
  Parallel.executeTransactions nat.env nat.natBuf nat.natDb nat.executePrivacyTx ctx statedb txs
    blockHash blockNumber gp msgs

/-- The errors of `Process`. -/
inductive ProcessError
  /-- A message that cannot be built, or an error of `ExecuteTransactions`. -/
  | exec (err : ExecError)
  /-- An error of the scheduled tasks. -/
  | scheduledTasks (reason : String)
  /-- An error of `VerifyFinalizedState`. -/
  | finalizedState (reason : String)
  deriving DecidableEq, Repr

/-- The messages of a block, built in order against the state at the block's start; the first
failure names its transaction. -/
def buildMessages (nat : BlockNatives) (baseFee : ℤ) (statedb : StateDB) :
    ℕ → List Transaction → Except ExecError (List Message)
  | _, [] => .ok []
  | i, tx :: rest =>
    match txAsMessageWithAccountSigner nat tx baseFee statedb with
    | .error e => .error (.couldNotApply i tx.hash e)
    | .ok msg => (buildMessages nat baseFee statedb (i + 1) rest).map (msg :: ·)

/-- `Process(block, statedb)`: the state after the block, and its receipts, logs and gas used. -/
def process (nat : BlockNatives) (block : Block) (statedb : StateDB) :
    StateDB × Except ProcessError (List Receipt × List Log × ℕ) :=
  let header := block.header
  let ctx := blockContext header (nat.author header)
  match buildMessages nat (calcBaseFee header) statedb 0 block.txs with
  | .error e => (statedb, .error (.exec e))
  | .ok msgs =>
    let (statedb, r) := nat.runScheduledTasks statedb ctx header.gasLimit
    match r with
    | .error e => (statedb, .error (.scheduledTasks e))
    | .ok (scheduledGas, gp) =>
      let ((statedb, _), r) := nat.executeTransactions ctx statedb block.txs
        (nat.headerHash header) header.number gp msgs
      match r with
      | .error e => (statedb, .error (.exec e))
      | .ok (receipts, allLogs, txGas) =>
        let receipts := if scheduledGas ≠ 0 then
            receipts.map fun r => { r with cumulativeGasUsed := r.cumulativeGasUsed + scheduledGas }
          else receipts
        let statedb := nat.finalize header statedb
        match nat.verifyFinalizedState header statedb with
        | some e => (statedb, .error (.finalizedState e))
        | none => (statedb, .ok (receipts, allLogs, scheduledGas + txGas))

/-- `ValidateState`: the block's gas used, receipts and state root are the ones `Process`
reached. -/
def validateState (block : Block) (statedb : StateDB) (receipts : List Receipt) (usedGas : ℕ) :
    Prop :=
  block.header.gasUsed = usedGas ∧
    block.receipts.map Receipt.consensusFields = receipts.map Receipt.consensusFields ∧
    block.root.SameAccounts statedb

end Gtos.Core
