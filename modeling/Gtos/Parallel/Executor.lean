import Mathlib.Data.List.Sort
import Gtos.Parallel.Dag
import Gtos.Parallel.Analyze
import Gtos.Parallel.WriteBuf
import Gtos.Core.StateTransition

/-! # Executing a block's transactions (`core/parallel/executor.go`, `core/state_processor.go`)

Two executors run a block's messages against the state database.

* **`executeParallel`** — `ExecuteParallel`: the messages' access sets give execution levels
  (`BuildLevels`, or one level per message when the coinbase pays for one). Level by level, every
  message runs on a write buffer over a copy of the state at the level's start; then, in index
  order, each result is checked (a fatal error, the block gas) and its buffer merged into the
  state, its logs numbered after those so far. Receipts are built last, in transaction order.
* **`executeTransactionsSerial`** — the loop of `executeTransactionsSerial`: each message runs on
  the state database itself, in order, through `publicExecutionResult`, which checks the block
  gas after the message ran. Privacy transactions run through `executePrivacyTx`, a stand-in for
  the batch of encrypted-balance transactions that the model leaves abstract.

`executeTransactions` is `ExecuteTransactions`, the single entry point of validation and mining:
the serial executor for a block with privacy transactions, the parallel one otherwise, with
`ApplyMessage` as the function run on each buffer.

Both executors change the state database and the gas pool in place and keep the changes when
they fail; the model returns the state and the pool after the run beside the result. -/

namespace Gtos.Parallel

open Gtos.Core

/-- `TxResult`: the gas a message used and its failure, if any. -/
structure TxResult where
  /-- `UsedGas`. -/
  usedGas : ℕ
  /-- `VMErr`: a failure that keeps the message in the block with a failed receipt. -/
  vmErr : Option VmError
  deriving DecidableEq, Repr

/-- `(*TxResult).Failed`. -/
def TxResult.failed (r : TxResult) : Bool :=
  r.vmErr.isSome

/-- `ApplyMsgFn`: runs one message on a write buffer; an error invalidates the block, and a
missing result (`nil`) is one too. -/
abbrev ApplyMsgFn := BlockContext → Message → WriteBuf → WriteBuf × Except TxError (Option TxResult)

/-- The errors of the executors. -/
inductive ExecError
  /-- `message count mismatch: txs=%d msgs=%d`. -/
  | messageCountMismatch (txs msgs : ℕ)
  /-- `could not apply tx %d [%v]: %w`. -/
  | couldNotApply (index : ℕ) (hash : Hash) (err : TxError)
  /-- `could not apply tx %d [%v]: nil result`. -/
  | nilResult (index : ℕ) (hash : Hash)
  /-- `ErrGasLimitReached` of package `parallel`. -/
  | gasLimitReached
  /-- `missing receipt for tx index %d`. -/
  | missingReceipt (index : ℕ)
  deriving DecidableEq, Repr

/-- What an executor returns: the state and the gas pool after the run, and the receipts, the
logs and the gas used, or the error. -/
abbrev BlockRun := (StateDB × ℕ) × Except ExecError (List Receipt × List Log × ℕ)

/-- `receiptData`: a receipt before its cumulative gas is known. -/
structure ReceiptData where
  /-- `txHash`; zero for a slot never filled. -/
  txHash : Hash
  /-- `txType`. -/
  txType : UInt8
  /-- `gasUsed`. -/
  gasUsed : ℕ
  /-- `status`. -/
  status : ℕ
  /-- `txLogs`. -/
  txLogs : List Log
  /-- `contractAddress`. -/
  contractAddress : Address
  deriving DecidableEq, Repr

/-- The zero `receiptData` of a slot no message filled. -/
def ReceiptData.empty : ReceiptData :=
  ⟨0, 0, 0, 0, [], 0⟩

/-- The logs of one message as the block records them: stamped with the block and numbered on
from `allLogs`. -/
def collectLogs (blockHash : Hash) (blockNumber : ℕ) (allLogs logs : List Log) : List Log :=
  logs.mapIdx fun i l =>
    { l with blockHash := blockHash, blockNumber := blockNumber, index := allLogs.length + i }

/-- The receipt status of a result. -/
def statusOf (failed : Bool) : ℕ :=
  if failed then receiptStatusFailed else receiptStatusSuccessful

/-- `ContractAddress` of a receipt: the derived address for a creation, zero otherwise. -/
def contractAddressOf (env : ChainEnv) (tx : Transaction) (sender : Address) : Address :=
  if tx.toAddr.isNone then env.createAddress sender tx.nonce else 0

/-! ## The parallel executor -/

/-- The variables `ExecuteParallel`'s level loop mutates. -/
structure ParallelAcc where
  /-- `statedb`. -/
  statedb : StateDB
  /-- `gp.Gas()`. -/
  gp : ℕ
  /-- `allLogs`. -/
  allLogs : List Log
  /-- `totalGas`. -/
  totalGas : ℕ
  /-- `receiptDataByTx`. -/
  receiptDataByTx : ℕ → ReceiptData

/-- The merge loop's computations: they update the accumulator and may stop with an error that
keeps the updates made before it. -/
abbrev ParM := ExceptT ExecError (StateM ParallelAcc)

/-- One step of the serial merge: check the message's outcome and the block gas, merge its
buffer, collect its logs and record its receipt data. -/
def mergeTx (env : ChainEnv) (txs : List Transaction) (msgs : List Message) (blockHash : Hash)
    (blockNumber : ℕ) (results : ℕ → WriteBuf × Except TxError (Option TxResult)) (txIdx : ℕ) :
    ParM Unit := do
  let tx := txs[txIdx]!
  let (buf, gr) := results txIdx
  match gr with
  | .error e => throw (.couldNotApply txIdx tx.hash e)
  | .ok none => throw (.nilResult txIdx tx.hash)
  | .ok (some result) =>
    let acc ← get
    -- the declared gas must fit, as in `buyGas`; the gas used is what is taken
    if msgs[txIdx]!.gasLimit > acc.gp then throw .gasLimitReached
    if acc.gp < result.usedGas then throw .gasLimitReached
    let txLogs := collectLogs blockHash blockNumber acc.allLogs buf.logs
    let receipt : ReceiptData :=
      { txHash := tx.hash, txType := tx.txType, gasUsed := result.usedGas,
        status := statusOf result.failed, txLogs := txLogs,
        contractAddress := contractAddressOf env tx msgs[txIdx]!.sender }
    set { acc with
      statedb := buf.merge acc.statedb
      gp := acc.gp - result.usedGas
      allLogs := acc.allLogs ++ txLogs
      totalGas := acc.totalGas + result.usedGas
      receiptDataByTx := Function.update acc.receiptDataByTx txIdx receipt }

/-- One level: every message runs on its own buffer over a copy of the state at the level's
start; the results are then merged in increasing index order (`sortedInts`). -/
def runLevel (env : ChainEnv) (ctx : BlockContext) (txs : List Transaction) (msgs : List Message)
    (blockHash : Hash) (blockNumber : ℕ) (applyMsg : ApplyMsgFn) (level : List ℕ) : ParM Unit := do
  let start := (← get).statedb
  let results := fun txIdx =>
    applyMsg ctx msgs[txIdx]! ((WriteBuf.new start).prepare txs[txIdx]!.hash txIdx)
  (level.insertionSort (· ≤ ·)).forM (mergeTx env txs msgs blockHash blockNumber results)

/-- The receipts, in transaction order, with the cumulative gas; a slot no message filled is an
error. -/
def buildReceipts (blockHash : Hash) (blockNumber : ℕ) (data : ℕ → ReceiptData) :
    ℕ → List ℕ → Except ExecError (List Receipt)
  | _, [] => .ok []
  | cumulative, i :: rest =>
    let d := data i
    if d.txHash = 0 then .error (.missingReceipt i)
    else
      let cumulative := cumulative + d.gasUsed
      let receipt : Receipt :=
        { txType := d.txType, status := d.status, cumulativeGasUsed := cumulative,
          txHash := d.txHash, gasUsed := d.gasUsed, contractAddress := d.contractAddress,
          blockHash := blockHash, blockNumber := blockNumber, transactionIndex := i,
          logs := d.txLogs }
      (buildReceipts blockHash blockNumber data cumulative rest).map (receipt :: ·)

/-- The execution levels `ExecuteParallel` uses: `BuildLevels` of the access sets, or one level
per message when the coinbase sends or sponsors one. -/
def executionLevels (env : ChainEnv) (ctx : BlockContext) (statedb : StateDB)
    (msgs : List Message) : List (List ℕ) :=
  if hasCoinbaseSender msgs ctx.coinbase then serialLevels msgs.length
  else buildLevels (msgs.map fun msg => analyzeTx env msg statedb)

/-- `ExecuteParallel`. -/
def executeParallel (env : ChainEnv) (ctx : BlockContext) (statedb : StateDB)
    (txs : List Transaction) (blockHash : Hash) (blockNumber : ℕ) (gp : ℕ) (msgs : List Message)
    (applyMsg : ApplyMsgFn) : BlockRun :=
  if txs.length = 0 then ((statedb, gp), .ok ([], [], 0))
  else if msgs.length ≠ txs.length then
    ((statedb, gp), .error (.messageCountMismatch txs.length msgs.length))
  else
    let levels := executionLevels env ctx statedb msgs
    let init : ParallelAcc := ⟨statedb, gp, [], 0, fun _ => ReceiptData.empty⟩
    let (r, acc) :=
      (levels.forM (runLevel env ctx txs msgs blockHash blockNumber applyMsg)).run.run init
    ((acc.statedb, acc.gp),
      match r with
      | .error e => .error e
      | .ok () =>
        (buildReceipts blockHash blockNumber acc.receiptDataByTx 0 (List.range txs.length)).map
          fun receipts => (receipts, acc.allLogs, acc.totalGas))

/-! ## The serial executor -/

/-- `publicExecutionResult`: run the message on the state with its own gas pool, then check the
block gas: the declared gas must fit, and the gas used is taken. -/
def publicExecutionResult
    (applyMessage : Message → ℕ → StateDB → StateDB × Except TxError ExecutionResult)
    (msg : Message) (gp : ℕ) (statedb : StateDB) : (StateDB × ℕ) × Except TxError ExecutionResult :=
  let (statedb, r) := applyMessage msg msg.gasLimit statedb
  match r with
  | .error e => ((statedb, gp), .error e)
  | .ok result =>
    if msg.gasLimit > gp then ((statedb, gp), .error .gasLimitReached)
    else if gp < result.usedGas then ((statedb, gp), .error .gasLimitReached)
    else ((statedb, gp - result.usedGas), .ok result)

/-- The variables of `executeTransactionsSerial`'s loop. -/
structure SerialAcc where
  /-- `statedb`. -/
  statedb : StateDB
  /-- `gp.Gas()`. -/
  gp : ℕ
  /-- `allLogs`. -/
  allLogs : List Log
  /-- `totalGas`. -/
  totalGas : ℕ
  /-- `cumulativeGasUsed`. -/
  cumulativeGasUsed : ℕ
  /-- `receiptsByTx`, in order. -/
  receipts : List Receipt

/-- The serial loop's computations. -/
abbrev SerM := ExceptT ExecError (StateM SerialAcc)

/-- `txReceipt`. -/
def txReceipt (env : ChainEnv) (tx : Transaction) (txIndex : ℕ) (blockHash : Hash)
    (blockNumber gasUsed cumulativeGasUsed status : ℕ) (txLogs : List Log) (sender : Address) :
    Receipt :=
  { txType := tx.txType, status := status, cumulativeGasUsed := cumulativeGasUsed,
    txHash := tx.hash, gasUsed := gasUsed, contractAddress := contractAddressOf env tx sender,
    blockHash := blockHash, blockNumber := blockNumber, transactionIndex := txIndex,
    logs := txLogs }

/-- One public message of the serial loop: `Prepare`, `publicExecutionResult`, its logs
(`txExecutionLogs`) and its receipt. -/
def serialPublicStep (env : ChainEnv)
    (applyMessage : Message → ℕ → StateDB → StateDB × Except TxError ExecutionResult)
    (blockHash : Hash) (blockNumber : ℕ) (i : ℕ) (tx : Transaction) (msg : Message) : SerM Unit := do
  let acc ← get
  let ((statedb, gp), r) := publicExecutionResult applyMessage msg acc.gp (acc.statedb.prepare tx.hash i)
  set { acc with statedb := statedb, gp := gp }
  match r with
  | .error e => throw (.couldNotApply i tx.hash e)
  | .ok result =>
    let txLogs := collectLogs blockHash blockNumber acc.allLogs (statedb.getLogs tx.hash blockHash)
    let cumulative := acc.cumulativeGasUsed + result.usedGas
    let receipt := txReceipt env tx i blockHash blockNumber result.usedGas cumulative
      (statusOf result.err.isSome) txLogs msg.sender
    set { acc with
      statedb := statedb, gp := gp, allLogs := acc.allLogs ++ txLogs,
      totalGas := acc.totalGas + result.usedGas, cumulativeGasUsed := cumulative,
      receipts := acc.receipts ++ [receipt] }

/-- One privacy transaction of the serial loop, through `executePrivacyTx`, which runs it on the
state and reports whether it succeeded; its receipt uses no gas. -/
def serialPrivacyStep (env : ChainEnv)
    (executePrivacyTx : StateDB → Transaction → ℕ → StateDB × Bool)
    (blockHash : Hash) (blockNumber : ℕ) (i : ℕ) (tx : Transaction) (msg : Message) : SerM Unit := do
  let acc ← get
  let (statedb, ok) := executePrivacyTx (acc.statedb.prepare tx.hash i) tx i
  let receipt := txReceipt env tx i blockHash blockNumber 0 acc.cumulativeGasUsed
    (statusOf !ok) [] msg.sender
  set { acc with statedb := statedb, receipts := acc.receipts ++ [receipt] }

/-- `executeTransactionsSerial`: the messages in order on the state database itself. -/
def executeTransactionsSerial (env : ChainEnv)
    (applyMessage : Message → ℕ → StateDB → StateDB × Except TxError ExecutionResult)
    (executePrivacyTx : StateDB → Transaction → ℕ → StateDB × Bool) (statedb : StateDB)
    (txs : List Transaction) (blockHash : Hash) (blockNumber : ℕ) (gp : ℕ)
    (msgs : List Message) : BlockRun :=
  let step := fun i =>
    if isPrivacyTxType txs[i]!.txType then
      serialPrivacyStep env executePrivacyTx blockHash blockNumber i txs[i]! msgs[i]!
    else serialPublicStep env applyMessage blockHash blockNumber i txs[i]! msgs[i]!
  let (r, acc) := ((List.range txs.length).forM step).run.run ⟨statedb, gp, [], 0, 0, []⟩
  ((acc.statedb, acc.gp),
    match r with
    | .error e => .error e
    | .ok () => .ok (acc.receipts, acc.allLogs, acc.totalGas))

/-! ## The entry point -/

/-- `hasPrivacyTransactions`. -/
def hasPrivacyTransactions (txs : List Transaction) : Bool :=
  txs.any fun tx => isPrivacyTxType tx.txType

/-- The function `ExecuteTransactions` hands the parallel executor: `ApplyMessage` on the buffer
with a gas pool of the message's own gas. -/
def applyMsgFn (env : ChainEnv) (nat : Natives WriteBuf) : ApplyMsgFn := fun ctx msg buf =>
  let (buf, r) := applyMessage env nat ctx msg msg.gasLimit buf
  (buf, r.map fun result => some ⟨result.usedGas, result.err⟩)

/-- `ExecuteTransactions`: the serial executor for a block with privacy transactions, the
parallel one otherwise. The natives are the code outside the model, run on a buffer or on the
database. -/
def executeTransactions (env : ChainEnv) (natBuf : Natives WriteBuf) (natDb : Natives StateDB)
    (executePrivacyTx : StateDB → Transaction → ℕ → StateDB × Bool) (ctx : BlockContext)
    (statedb : StateDB) (txs : List Transaction) (blockHash : Hash) (blockNumber : ℕ) (gp : ℕ)
    (msgs : List Message) : BlockRun :=
  if hasPrivacyTransactions txs then
    executeTransactionsSerial env (fun msg gp s => applyMessage env natDb ctx msg gp s)
      executePrivacyTx statedb txs blockHash blockNumber gp msgs
  else executeParallel env ctx statedb txs blockHash blockNumber gp msgs (applyMsgFn env natBuf)

end Gtos.Parallel
