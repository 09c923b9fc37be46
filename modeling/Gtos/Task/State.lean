import Gtos.Common.Hex
import Gtos.Core.StateDB

/-! # Scheduled tasks: records, slots and queues (`task/types.go`, `task/state.go`)

A contract or an account schedules a call of a target contract at a future block and pays for
its gas up front: the deposit `GasLimit * TxPriceTomi` moves to `TaskSchedulerAddress`, which
holds the state of every task in its storage. A task is written field by field at slots named by
Keccak-256 of `task\x00`, the task's ID and the field name. Each block has a queue of task IDs,
its length at `blockQlenSlot(block)` and its entries at `blockQEntrySlot(block, i)`; each
scheduler has a nonce, from which task IDs are minted, and a count of its pending tasks.

* **`TaskRecord`**, **`readTask`**, **`writeTask`** — a task, ten words. A task whose scheduler
  word is zero reads as missing.
* **`enqueueTask`**, **`dequeueTasksAt`** — the block queues. `DequeueTasksAt` resets the length
  and leaves the entries in place.
* **`incrementContractNonce`**, **`readActiveCount`**, **`adjustActiveCount`** — the per-scheduler
  counters; the active count saturates at zero when decremented.

A task's status is a byte, of which the code writes four values. `uint64` words are natural
numbers below `2 ^ 64`: a reader keeps the last eight bytes of the word, and a `uint64` sum that
the code does not guard wraps (`% 2 ^ 64`). Keccak-256 is the parameter `keccak256`. -/

namespace Gtos.Task

open Gtos.Core

/-! ## Parameters and types -/

/-- `params.TaskSchedulerAddress`. -/
def taskSchedulerAddress : Address := 0x108#256

/-- `params.TaskMinGasLimit`. -/
def taskMinGasLimit : ℕ := 10000

/-- `params.TaskMaxGasLimit`. -/
def taskMaxGasLimit : ℕ := 500000

/-- `params.TaskMaxPerBlock`. -/
def taskMaxPerBlock : ℕ := 50

/-- `params.TaskMaxPerContract`. -/
def taskMaxPerContract : ℕ := 100

/-- `params.TaskMinIntervalBlocks`. -/
def taskMinIntervalBlocks : ℕ := 10

/-- `params.TaskMaxHorizonBlocks`. -/
def taskMaxHorizonBlocks : ℕ := 1000000

/-- `TaskPending`. -/
def taskPending : UInt8 := 0

/-- `TaskDone`. -/
def taskDone : UInt8 := 1

/-- `TaskCancelled`. -/
def taskCancelled : UInt8 := 2

/-- `TaskExpired`. -/
def taskExpired : UInt8 := 3

/-- What an amount of gas costs at `TxPriceTomi`: a task's deposit, refund and re-deposit. -/
def gasCost (gas : ℕ) : ℤ :=
  gas * txPriceTomi

/-- `TaskRecord`. -/
structure TaskRecord where
  /-- `Scheduler`: the account that created the task. -/
  scheduler : Address
  /-- `Target`: the contract to call. -/
  target : Address
  /-- `Selector`: four bytes, as a big-endian number. -/
  selector : ℕ
  /-- `TaskData`: the 32 bytes passed after the selector. -/
  taskData : Hash
  /-- `GasLimit`: the gas paid for by the deposit. -/
  gasLimit : ℕ
  /-- `TargetBlock`: the block whose queue holds the task. -/
  targetBlock : ℕ
  /-- `IntervalBlocks`: zero for a one-shot task. -/
  intervalBlocks : ℕ
  /-- `MaxRuns`: zero for no limit. -/
  maxRuns : ℕ
  /-- `Runs`: the executions so far. -/
  runs : ℕ
  /-- `Status`. -/
  status : UInt8
  deriving DecidableEq, Repr

/-! ## Slots (`state.go`) -/

section Slots

variable (keccak256 : List UInt8 → Hash)

/-- `taskFieldSlot(taskId, field)`: Keccak-256 of `task\x00`, the ID and the field name. -/
def taskFieldSlot (taskId : Hash) (field : String) : Hash :=
  keccak256 ("task\x00".toUTF8.toList ++ wordBytes taskId ++ field.toUTF8.toList)

/-- `contractNonceSlot(addr)`. -/
def contractNonceSlot (addr : Address) : Hash :=
  keccak256 ("task\x00nonce\x00".toUTF8.toList ++ wordBytes addr)

/-- `contractActiveSlot(addr)`. -/
def contractActiveSlot (addr : Address) : Hash :=
  keccak256 ("task\x00active\x00".toUTF8.toList ++ wordBytes addr)

/-- `blockQlenSlot(blockNum)`. -/
def blockQlenSlot (blockNum : ℕ) : Hash :=
  keccak256 ("task\x00qlen\x00".toUTF8.toList ++ Bytes.toBytesBE blockNum 8)

/-- `blockQEntrySlot(blockNum, i)`. -/
def blockQEntrySlot (blockNum i : ℕ) : Hash :=
  keccak256 ("task\x00q\x00".toUTF8.toList ++ Bytes.toBytesBE blockNum 8 ++ Bytes.toBytesBE i 8)

/-- `NewTaskID(scheduler, targetBlock, nonce)`: Keccak-256 of the scheduler, the target block and
the nonce. -/
def newTaskID (scheduler : Address) (targetBlock nonce : ℕ) : Hash :=
  keccak256 (wordBytes scheduler ++ Bytes.toBytesBE targetBlock 8 ++ Bytes.toBytesBE nonce 8)

end Slots

/-! ## Words -/

/-- A word of the scheduler's storage read as a `uint64`: `.Big().Uint64()`. -/
def readUint64 (s : StateDB) (slot : Hash) : ℕ :=
  (VmStateDB.getState s taskSchedulerAddress slot).toNat % 2 ^ 64

/-- A `uint64` stored big-endian in the last eight bytes of a word. -/
def writeUint64 (s : StateDB) (slot : Hash) (v : ℕ) : StateDB :=
  VmStateDB.setState s taskSchedulerAddress slot (BitVec.ofNat 256 (v % 2 ^ 64))

/-! ## Records, queues and counters -/

section Storage

variable (keccak256 : List UInt8 → Hash)

/-- `ReadTask(db, taskId)`: none while the scheduler word is zero. The selector is the last four
bytes of its word, and the status the last byte of the `uint64` its word holds. -/
def readTask (s : StateDB) (taskId : Hash) : Option TaskRecord :=
  let schedulerRaw := VmStateDB.getState s taskSchedulerAddress
    (taskFieldSlot keccak256 taskId "scheduler")
  if schedulerRaw = 0 then none
  else some
    { scheduler := schedulerRaw
      target := VmStateDB.getState s taskSchedulerAddress (taskFieldSlot keccak256 taskId "target")
      selector :=
        (VmStateDB.getState s taskSchedulerAddress (taskFieldSlot keccak256 taskId "selector")).toNat %
          2 ^ 32
      taskData := VmStateDB.getState s taskSchedulerAddress (taskFieldSlot keccak256 taskId "taskdata")
      gasLimit := readUint64 s (taskFieldSlot keccak256 taskId "gaslimit")
      targetBlock := readUint64 s (taskFieldSlot keccak256 taskId "nextblock")
      intervalBlocks := readUint64 s (taskFieldSlot keccak256 taskId "interval")
      maxRuns := readUint64 s (taskFieldSlot keccak256 taskId "maxruns")
      runs := readUint64 s (taskFieldSlot keccak256 taskId "runs")
      status := UInt8.ofNat (readUint64 s (taskFieldSlot keccak256 taskId "status")) }

/-- `WriteTask(db, taskId, t)`: one word per field, in the order of the source. -/
def writeTask (s : StateDB) (taskId : Hash) (t : TaskRecord) : StateDB :=
  let store (s : StateDB) (field : String) (val : Hash) : StateDB :=
    VmStateDB.setState s taskSchedulerAddress (taskFieldSlot keccak256 taskId field) val
  let s := store s "scheduler" t.scheduler
  let s := store s "target" t.target
  let s := store s "selector" (BitVec.ofNat 256 (t.selector % 2 ^ 32))
  let s := store s "taskdata" t.taskData
  let s := store s "gaslimit" (BitVec.ofNat 256 (t.gasLimit % 2 ^ 64))
  let s := store s "nextblock" (BitVec.ofNat 256 (t.targetBlock % 2 ^ 64))
  let s := store s "interval" (BitVec.ofNat 256 (t.intervalBlocks % 2 ^ 64))
  let s := store s "maxruns" (BitVec.ofNat 256 (t.maxRuns % 2 ^ 64))
  let s := store s "runs" (BitVec.ofNat 256 (t.runs % 2 ^ 64))
  store s "status" (BitVec.ofNat 256 t.status.toNat)

/-- `EnqueueTask(db, blockNum, taskId)`: the ID goes at the end of the block's queue. -/
def enqueueTask (s : StateDB) (blockNum : ℕ) (taskId : Hash) : StateDB :=
  let n := readUint64 s (blockQlenSlot keccak256 blockNum)
  let s := VmStateDB.setState s taskSchedulerAddress (blockQEntrySlot keccak256 blockNum n) taskId
  writeUint64 s (blockQlenSlot keccak256 blockNum) (n + 1)

/-- `DequeueTasksAt(db, blockNum)`: the IDs in the block's queue, after which its length is
reset. An empty queue is left as it is. -/
def dequeueTasksAt (s : StateDB) (blockNum : ℕ) : StateDB × List Hash :=
  let n := readUint64 s (blockQlenSlot keccak256 blockNum)
  if n = 0 then (s, [])
  else
    let ids := (List.range n).map fun i =>
      VmStateDB.getState s taskSchedulerAddress (blockQEntrySlot keccak256 blockNum i)
    (VmStateDB.setState s taskSchedulerAddress (blockQlenSlot keccak256 blockNum) 0, ids)

/-- `IncrementContractNonce(db, addr)`: the nonce before the increment is returned. -/
def incrementContractNonce (s : StateDB) (addr : Address) : StateDB × ℕ :=
  let n := readUint64 s (contractNonceSlot keccak256 addr)
  (writeUint64 s (contractNonceSlot keccak256 addr) (n + 1), n)

/-- `ReadActiveCount(db, addr)`. -/
def readActiveCount (s : StateDB) (addr : Address) : ℕ :=
  readUint64 s (contractActiveSlot keccak256 addr)

/-- `AdjustActiveCount(db, addr, delta)`: up by one for a positive `delta`, down by one for a
negative one unless the count is zero. -/
def adjustActiveCount (s : StateDB) (addr : Address) (delta : ℤ) : StateDB :=
  let n := readUint64 s (contractActiveSlot keccak256 addr)
  let n := if delta > 0 then n + 1 else if delta < 0 ∧ n > 0 then n - 1 else n
  writeUint64 s (contractActiveSlot keccak256 addr) n

end Storage

end Gtos.Task
