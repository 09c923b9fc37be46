import Gtos.Task.State

/-! # Running the tasks due at a block (`task/processor.go`)

Before the transactions of a block, `ProcessDueTasks` takes the queue of the block and goes
through its IDs in order. It skips an ID whose task is missing or no longer pending, and stops
after `TaskMaxPerBlock` tasks: the IDs left are deferred to the next block. A pending task is
called with the scheduler as the caller and its gas limit as the gas, and then:

* if the callback logged, its writes are reverted and the task expires, with no refund;
* if it failed, its writes are reverted, and a fatal failure ends the block with an error;
* otherwise the unused gas is refunded and the run counted. A one-shot task is done, and a
  repeating one that reached `MaxRuns` expires; any other is queued again `IntervalBlocks`
  later, when that block is a `uint64` and the scheduler can pay the deposit again, and expires
  when not.

The callback is the executor `exec`, which the block processor builds from the LVM; it returns
the state it leaves and its result. `RevertToSnapshot` goes back to the state before the call.
The block context and the chain configuration an executor is given are the same for every call
of a block, and are left to the executor. -/

namespace Gtos.Task

open Gtos.Core

/-- `ExecResult`. -/
structure ExecResult where
  /-- `GasUsed`. -/
  gasUsed : ℕ
  /-- `Err`. -/
  err : Option String
  /-- `Fatal`: the error invalidates the block. -/
  fatal : Bool
  deriving DecidableEq, Repr

/-- `ExecutorFn`: the state, the caller, the target, the call data and the gas limit of a call,
to the state the call leaves and its result. -/
abbrev ExecutorFn : Type :=
  StateDB → Address → Address → List UInt8 → ℕ → StateDB × ExecResult

/-- `len(db.Logs())`: the logs recorded under the current transaction hash, where a callback's
logs go. -/
def logCount (s : StateDB) : ℕ :=
  (s.logs s.thash).length

/-- What the loop body did with one ID. -/
inductive TaskStep
  /-- `continue` before the call: the task is missing or not pending. -/
  | skip
  /-- The task was processed; the state and the gas its callback used. -/
  | ran (s : StateDB) (gasUsed : ℕ)
  /-- The callback failed fatally: the state, the gas used, and the error. -/
  | fatal (s : StateDB) (gasUsed : ℕ) (err : String)

section Process

variable (keccak256 : List UInt8 → Hash)

/-- A task leaving the queue for good: written with its final status, and uncounted. -/
def retireTask (s : StateDB) (taskId : Hash) (task : TaskRecord) (status : UInt8) : StateDB :=
  adjustActiveCount keccak256 (writeTask keccak256 s taskId { task with status := status })
    task.scheduler (-1)

/-- The loop body after a callback whose writes stand or were reverted: refund the unused gas,
count the run, and finish the task or queue it again. -/
def settleTask (s : StateDB) (blockNum : ℕ) (taskId : Hash) (task : TaskRecord) (gasUsed : ℕ) :
    StateDB :=
  let refundGas := task.gasLimit - gasUsed
  let s :=
    if refundGas > 0 then
      let refund := gasCost refundGas
      VmStateDB.addBalance (VmStateDB.subBalance s taskSchedulerAddress refund) task.scheduler refund
    else s
  let task := { task with runs := (task.runs + 1) % 2 ^ 64 }
  let exhausted := task.maxRuns > 0 ∧ task.runs ≥ task.maxRuns
  let isOneShot := task.intervalBlocks = 0
  if isOneShot ∨ exhausted then
    retireTask keccak256 s taskId task (if exhausted ∧ ¬ isOneShot then taskExpired else taskDone)
  else
    let nextBlock := (blockNum + task.intervalBlocks) % 2 ^ 64
    -- a `uint64` overflow expires the task rather than wrapping around
    if nextBlock < blockNum then retireTask keccak256 s taskId task taskExpired
    else
      let task := { task with targetBlock := nextBlock }
      let reDeposit := gasCost task.gasLimit
      if VmStateDB.getBalance s task.scheduler ≥ reDeposit then
        let s := VmStateDB.subBalance s task.scheduler reDeposit
        let s := VmStateDB.addBalance s taskSchedulerAddress reDeposit
        enqueueTask keccak256 (writeTask keccak256 s taskId task) nextBlock taskId
      else retireTask keccak256 s taskId task taskExpired

/-- The loop body of `ProcessDueTasks` for one ID. -/
def runDueTask (exec : ExecutorFn) (s : StateDB) (blockNum : ℕ) (taskId : Hash) : TaskStep :=
  match readTask keccak256 s taskId with
  | none => .skip
  | some task =>
    if task.status ≠ taskPending then .skip
    else
      let calldata := Bytes.toBytesBE task.selector 4 ++ wordBytes task.taskData
      let (s', res) := exec s taskSchedulerAddress task.target calldata task.gasLimit
      let gasUsed := if res.gasUsed > task.gasLimit then task.gasLimit else res.gasUsed
      if logCount s' ≠ logCount s then .ran (retireTask keccak256 s taskId task taskExpired) gasUsed
      else
        match res.err with
        | some e =>
          if res.fatal then .fatal s gasUsed e
          else .ran (settleTask keccak256 s blockNum taskId task gasUsed) gasUsed
        | none => .ran (settleTask keccak256 s' blockNum taskId task gasUsed) gasUsed

/-- The result of the loop: the state, the tasks processed, the gas used, the IDs deferred to the
next block, and the error that fails the block. -/
structure LoopResult where
  /-- The state. -/
  state : StateDB
  /-- `processed`. -/
  processed : ℕ
  /-- `totalGasUsed`. -/
  gasUsed : ℕ
  /-- `deferred`. -/
  deferred : List Hash
  /-- The fatal error. -/
  err : Option String

/-- The loop of `ProcessDueTasks` over the IDs from the `processed`-th task on. -/
def processLoop (exec : ExecutorFn) (blockNum : ℕ) :
    StateDB → ℕ → ℕ → List Hash → LoopResult
  | s, processed, gasUsed, [] => ⟨s, processed, gasUsed, [], none⟩
  | s, processed, gasUsed, taskId :: rest =>
    if processed ≥ taskMaxPerBlock then ⟨s, processed, gasUsed, taskId :: rest, none⟩
    else
      match runDueTask keccak256 exec s blockNum taskId with
      | .skip => processLoop exec blockNum s processed gasUsed rest
      | .ran s' g => processLoop exec blockNum s' (processed + 1) ((gasUsed + g) % 2 ^ 64) rest
      | .fatal s' g e => ⟨s', processed, (gasUsed + g) % 2 ^ 64, [], some e⟩

/-- One deferred ID queued at the next block, with its target block moved there, while its task
is pending. -/
def requeueDeferred (blockNum : ℕ) (s : StateDB) (tid : Hash) : StateDB :=
  match readTask keccak256 s tid with
  | some task =>
    if task.status = taskPending then
      let next := (blockNum + 1) % 2 ^ 64
      enqueueTask keccak256 (writeTask keccak256 s tid { task with targetBlock := next }) next tid
    else s
  | none => s

/-- `ProcessDueTasks(db, blockCtx, chainCfg, blockNum, exec)`: the state, the number of tasks
processed, the gas the callbacks used, and the error that invalidates the block. -/
def processDueTasks (exec : ExecutorFn) (s : StateDB) (blockNum : ℕ) :
    StateDB × ℕ × ℕ × Option String :=
  let (s, taskIds) := dequeueTasksAt keccak256 s blockNum
  if taskIds.length = 0 then (s, 0, 0, none)
  else
    let r := processLoop keccak256 exec blockNum s 0 0 taskIds
    match r.err with
    | some e => (r.state, r.processed, r.gasUsed, some e)
    | none => (r.deferred.foldl (requeueDeferred keccak256 blockNum) r.state, r.processed, r.gasUsed,
        none)

end Process

end Gtos.Task
