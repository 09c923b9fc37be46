import Gtos.Miner.Select

/-! # Building a block (`miner/worker.go`)

The worker builds a block on an environment prepared from the parent (`prepareWork`): it runs the
scheduled tasks, chooses a batch of pool transactions (`selectTransactions`), executes the whole
batch at once with `ExecuteTransactions` on the environment's state, and assembles the block with
the consensus engine.

* **`fillTransactions`** — chooses and executes the batch. When the execution fails the batch is
  dropped from the environment, but the state keeps what the executor merged before the failure:
  `ExecuteParallel` merges level by level into the state it is given.
* **`generateWork`** — the block of a `getWork` request: it ignores the error of
  `fillTransactions` and assembles the block from the environment as it stands.
* **`commitWork`** — the blocks handed to the sealer: an empty block first, then the filled one,
  unless `fillTransactions` failed, in which case the work is discarded.

The last section runs the worker on one pool content: two transfers of one sender, each
affordable alone. The pool admits both, the selection takes both, and the batch fails on the
second; `commitWork` then seals only the empty block, and `generateWork` assembles a block
whose state holds the first transfer while its body holds none. -/

namespace Gtos.Miner

open Gtos.Core Gtos.Parallel

/-- `environment`: the block under construction. -/
structure Environment where
  /-- `state`. -/
  state : StateDB
  /-- `gasPool`; `nil` until the first use. -/
  gasPool : Option ℕ
  /-- `header`. -/
  header : Header
  /-- `coinbase`. -/
  coinbase : Address
  /-- `txs`. -/
  txs : List Transaction
  /-- `receipts`. -/
  receipts : List Receipt

/-- The errors of `fillTransactions` when no interrupt is raised. -/
inductive WorkerError
  /-- `errBlockInterruptedByNewHead`, also returned when the batch fails. -/
  | blockInterruptedByNewHead
  deriving DecidableEq, Repr

/-- What the worker reads besides the environment: the natives and the pool's content. -/
structure WorkerEnv where
  /-- The natives of block execution. -/
  nat : BlockNatives
  /-- `types.Sender(signer, tx)`. -/
  recoverSender : Transaction → Option Address
  /-- `priv.GetPrivNonce`. -/
  getPrivNonce : StateDB → Address → ℕ
  /-- `TxPool().Pending(true)`: each account's pending transactions in nonce order. -/
  pending : List (Address × List Transaction)
  /-- `TxPool().Locals()`. -/
  locals : List Address

/-- The selection's view of an environment. -/
def WorkerEnv.selectEnv (w : WorkerEnv) (env : Environment) : SelectEnv :=
  ⟨w.nat, w.recoverSender, w.getPrivNonce, env.state, calcBaseFee env.header⟩

/-- The split of `fillTransactions`: the pending transactions of local accounts, and the rest. -/
def splitLocals (pending : List (Address × List Transaction)) (locals : List Address) :
    List (Address × List Transaction) × List (Address × List Transaction) :=
  (pending.filter fun e => e.1 ∈ locals ∧ e.2.length > 0,
    pending.filter fun e => ¬(e.1 ∈ locals ∧ e.2.length > 0))

/-- `FinalizeAndAssemble(chain, header, state, txs, uncles, receipts)`: the engine finalises the
state, and the header's root commits to the result. -/
def finalizeAndAssemble (nat : BlockNatives) (env : Environment) : Block :=
  ⟨env.header, env.txs, nat.finalize env.header env.state, env.receipts⟩

/-- `fillTransactions(nil, env)`; `none` only if the selection ran out of fuel. -/
def fillTransactions (w : WorkerEnv) (env : Environment) :
    Option (Environment × Except WorkerError Unit) := do
  let gasPool := env.gasPool.getD env.header.gasLimit
  let env := { env with gasPool := some gasPool }
  let (localTxs, remoteTxs) := splitLocals w.pending w.locals
  let (selected, msgs) ← selectTransactions (w.selectEnv env) gasPool localTxs remoteTxs
  if selected.length = 0 then return (env, .ok ())
  let ctx := blockContext env.header env.coinbase
  let ((state, gasPool), r) := w.nat.executeTransactions ctx env.state selected
    (w.nat.headerHash env.header) env.header.number gasPool msgs
  -- the executor's writes to the state and the pool stay, whatever its result
  let env := { env with state := state, gasPool := some gasPool }
  match r with
  | .error _ => return (env, .error .blockInterruptedByNewHead)
  | .ok (receipts, _, gasUsed) =>
    let prevGas := env.header.gasUsed
    let receipts := receipts.map fun r => { r with cumulativeGasUsed := r.cumulativeGasUsed + prevGas }
    return ({ env with
      header := { env.header with gasUsed := prevGas + gasUsed },
      txs := env.txs ++ selected, receipts := env.receipts ++ receipts }, .ok ())

/-- The scheduled tasks at the start of a block, which `generateWork` and `commitWork` both
run: on success the environment with the tasks' state, gas pool and gas used. -/
def runTasks (w : WorkerEnv) (work : Environment) : Except String Environment :=
  let gasPool := work.gasPool.getD work.header.gasLimit
  let (state, r) := w.nat.runScheduledTasks work.state (blockContext work.header work.coinbase)
    gasPool
  match r with
  | .error e => .error e
  | .ok (taskGas, gasPool) =>
    .ok { work with
      state := state, gasPool := some gasPool,
      header := { work.header with gasUsed := work.header.gasUsed + taskGas } }

/-- `generateWork` after `prepareWork`: the scheduled tasks, the transactions unless `noTxs`
(the error of `fillTransactions` is ignored), then `FinalizeAndAssemble`. -/
def generateWork (w : WorkerEnv) (work : Environment) (noTxs : Bool) :
    Option (Except String Block) := do
  match runTasks w work with
  | .error e => return .error e
  | .ok work =>
    let work ← if noTxs then pure work else (fillTransactions w work).map Prod.fst
    return .ok (finalizeAndAssemble w.nat work)

/-- `commitWork` after `prepareWork`, with the worker running and no interrupt: the blocks it
hands to the sealer. -/
def commitWork (w : WorkerEnv) (work : Environment) (noempty : Bool) : Option (List Block) := do
  match runTasks w work with
  | .error _ => return []
  | .ok work =>
    let empty := if noempty then [] else [finalizeAndAssemble w.nat work]
    let (work, r) ← fillTransactions w work
    match r with
    | .error .blockInterruptedByNewHead => return empty
    | .ok () => return empty ++ [finalizeAndAssemble w.nat work]

/-! ## Two transfers of one sender

The pool holds two transfers of the sender `0xA`, with nonces 0 and 1, each of 21000 gas and
1000 of value, to accounts without code. The sender's balance pays for one of them, fees
included, and not for both. Sender resolution reads the explicit `From`, the scheduled tasks and
the engine change nothing, and the code outside the model is never reached. -/

/-- The block natives of the two transfers. -/
def twoTransfersNatives : BlockNatives where
  env := ⟨fun _ => 0, fun _ => 0, 1#256, fun _ _ => 0, fun _ => false⟩
  natBuf := inertNatives WriteBuf
  natDb := inertNatives StateDB
  executePrivacyTx s _ _ := (s, true)
  resolveSender _ tx := .ok tx.signerFrom
  resolveSponsor _ tx := .ok (tx.sponsorFrom.getD 0)
  runScheduledTasks s _ gp := (s, .ok (0, gp))
  finalize _ s := s
  verifyFinalizedState _ _ := none
  author h := h.coinbase
  headerHash _ := 0x99#256

/-- The sender of the two transfers. -/
def twoTransfersSender : Address := 0xA#256

/-- The state: the sender holds exactly the cost of one transfer. -/
def twoTransfersState : StateDB :=
  ⟨fun a => if a = twoTransfersSender then txPriceTomi * 21000 + 1000 else 0, fun _ => 0,
    fun _ => [], fun _ _ => 0, 0, 0, fun _ => []⟩

/-- A transfer of 1000 with 21000 gas from the sender. -/
def twoTransfersTx (nonce : ℕ) (dst : Address) (hash : Hash) : Transaction :=
  ⟨hash, signerTxType, some dst, nonce, 1000, 21000, [], twoTransfersSender, none, none, 0, 0, 100⟩

/-- The sender's pending transactions. -/
def twoTransfersPending : List Transaction :=
  [twoTransfersTx 0 0xB#256 0x11#256, twoTransfersTx 1 0xC#256 0x22#256]

/-- The worker, with the two transfers pending as remote transactions. -/
def twoTransfersWorker : WorkerEnv :=
  ⟨twoTransfersNatives, fun _ => none, fun _ _ => 0, [(twoTransfersSender, twoTransfersPending)],
    []⟩

/-- The prepared environment: block 1, gas limit 10^6, coinbase `0xCB`. -/
def twoTransfersWork : Environment :=
  ⟨twoTransfersState, none, ⟨1, 1000000, 0, 0, 0xCB#256⟩, 0xCB#256, [], []⟩

/-- The pool, at the same state, and its natives. -/
def twoTransfersPool : TxPool × PoolNatives :=
  (⟨twoTransfersState, 1000000, txPriceTomi⟩,
    ⟨fun _ tx => tx.sponsorFrom, fun _ _ _ => none, fun _ _ _ => none⟩)

/-- **The batch of two affordable transfers fails.** Each transfer passes `validateTx` against
the state, the selection takes both, and `ExecuteTransactions` fails on the second, whose sender
has nothing left; `commitWork` then hands the sealer the empty block only. -/
theorem commitWork_discards_affordable_transfers :
    (∀ tx ∈ twoTransfersPending,
      twoTransfersPool.1.validateTx twoTransfersPool.2 0 tx twoTransfersSender false = .ok ()) ∧
    (selectTransactions (twoTransfersWorker.selectEnv twoTransfersWork) 1000000 []
      twoTransfersWorker.pending).map Prod.fst = some twoTransfersPending ∧
    (selectTransactions (twoTransfersWorker.selectEnv twoTransfersWork) 1000000 []
      twoTransfersWorker.pending).map (fun (selected, msgs) =>
        (twoTransfersNatives.executeTransactions (blockContext twoTransfersWork.header 0xCB#256)
          twoTransfersState selected 0x99#256 1 1000000 msgs).2) =
      some (.error (.couldNotApply 1 0x22#256
        (.insufficientFunds twoTransfersSender 0 (21000 * txPriceTomi + 1000)))) ∧
    (commitWork twoTransfersWorker twoTransfersWork false).map (·.map Block.txs) = some [[]] := by
  decide +kernel

/-- **`generateWork` assembles the failed batch's writes.** The block it returns has no
transactions, but its state root holds the first transfer (the sender's nonce is 1). `Process`
runs the block on the parent state without error and reaches nonce 0, so the block fails
`ValidateState` whatever receipts and gas are compared. -/
theorem generateWork_assembles_partial_batch :
    ∃ block, generateWork twoTransfersWorker twoTransfersWork false = some (.ok block) ∧
      block.txs = [] ∧
      (process twoTransfersNatives block twoTransfersState).2.isOk = true ∧
      ∀ receipts usedGas,
        ¬ validateState block (process twoTransfersNatives block twoTransfersState).1 receipts
          usedGas := by
  -- the block's body, its root's nonce, and `Process`'s nonce and success, by evaluation
  have hrun : (generateWork twoTransfersWorker twoTransfersWork false).map (Except.map fun b =>
      (b.txs, b.root.nonce twoTransfersSender,
        (process twoTransfersNatives b twoTransfersState).1.nonce twoTransfersSender,
        (process twoTransfersNatives b twoTransfersState).2.isOk)) = some (.ok ([], 1, 0, true)) := by
    decide +kernel
  obtain ⟨r, hr, hmap⟩ := Option.map_eq_some_iff.mp hrun
  cases r with
  | error e => simp [Except.map] at hmap
  | ok block =>
    simp only [Except.map, Except.ok.injEq, Prod.mk.injEq] at hmap
    obtain ⟨htxs, hroot, hprocess, hok⟩ := hmap
    refine ⟨block, hr, htxs, hok, fun receipts usedGas hvalid => ?_⟩
    -- equal roots would give the sender equal nonces
    have hnonce := congrFun hvalid.2.2.nonce twoTransfersSender
    rw [hroot, hprocess] at hnonce
    exact absurd hnonce (by decide)

end Gtos.Miner
