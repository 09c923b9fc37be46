import Gtos.Lib.ExceptState
import Gtos.Sysaction.Execute
import Gtos.Task.State

/-! # Scheduling and cancelling tasks (`task/handler.go`, `core/vm/lvm.go`)

A task is scheduled by the system action `TASK_SCHEDULE` of an account, or by a contract through
the LVM primitive `tos.schedule`; it is cancelled by `TASK_CANCEL` or `tos.canceltask`. Each pair
runs the same code once its checks pass (`scheduleTask`, `cancelTask`): scheduling moves the
deposit to `TaskSchedulerAddress`, mints the ID from the scheduler's nonce, writes and queues the
task, counts it and logs `TaskScheduled`; cancelling refunds the whole deposit, marks the task
cancelled and uncounts it.

The checks differ: a system action fails with an error, which `TransitionDb` reverts, and a
primitive returns `nil` or `false` having written nothing. `tos.schedule` makes every check of
`handleSchedule` but one: it does not bound the interval by `TaskMaxHorizonBlocks`
(`lvmSchedule_interval_beyond_horizon`). Its arguments are Lua integers, which `uint64(...)`
reads modulo `2 ^ 64`. The gas a primitive charges is left to the LVM's gas meter, which the model
does not run. -/

namespace Gtos.Task

open Gtos.Core Gtos.Sysaction ExceptStateM

/-! ## Errors and payloads -/

/-- `ErrTaskGasLimitTooLow`. -/
def errTaskGasLimitTooLow : String := "task: gas_limit below minimum"

/-- `ErrTaskGasLimitTooHigh`. -/
def errTaskGasLimitTooHigh : String := "task: gas_limit above maximum"

/-- `ErrTaskDelayZero`. -/
def errTaskDelayZero : String := "task: delay_blocks must be >= 1"

/-- `ErrTaskDelayTooFar`. -/
def errTaskDelayTooFar : String := "task: delay_blocks exceeds horizon"

/-- `ErrTaskIntervalTooShort`. -/
def errTaskIntervalTooShort : String := "task: interval_blocks below minimum"

/-- `ErrTaskActiveLimit`. -/
def errTaskActiveLimit : String := "task: per-contract active task limit reached"

/-- `ErrTaskInsufficientDeposit`. -/
def errTaskInsufficientDeposit : String := "task: insufficient balance for gas deposit"

/-- `ErrTaskNotPending`. -/
def errTaskNotPending : String := "task: task is not in Pending state"

/-- `ErrTaskNotScheduler`. -/
def errTaskNotScheduler : String := "task: caller is not the task scheduler"

/-- `ErrTaskIntervalTooFar`. -/
def errTaskIntervalTooFar : String := "task: interval_blocks exceeds horizon"

/-- `ActionTaskSchedule`. -/
def actionTaskSchedule : String := "TASK_SCHEDULE"

/-- `ActionTaskCancel`. -/
def actionTaskCancel : String := "TASK_CANCEL"

/-- `schedulePayload`. -/
structure SchedulePayload where
  /-- `Target`, hexadecimal. -/
  target : String
  /-- `Selector`, hexadecimal. -/
  selector : String
  /-- `TaskData`, hexadecimal. -/
  taskData : String
  /-- `GasLimit`. -/
  gasLimit : UInt64
  /-- `DelayBlocks`. -/
  delayBlocks : UInt64
  /-- `IntervalBlocks`. -/
  intervalBlocks : UInt64
  /-- `MaxRuns`. -/
  maxRuns : UInt64
  deriving DecidableEq, Repr

/-- `cancelPayload`. -/
structure CancelPayload where
  /-- `TaskID`, hexadecimal. -/
  taskId : String
  deriving DecidableEq, Repr

/-- A task action with the payload its JSON decoder returned. -/
inductive TaskAction
  /-- `TASK_SCHEDULE`. -/
  | schedule (payload : Except String SchedulePayload)
  /-- `TASK_CANCEL`. -/
  | cancel (payload : Except String CancelPayload)
  deriving DecidableEq, Repr

/-! ## The shared parts -/

/-- `copy(dst[:], src)` into an `n`-byte array of zeros: the first `n` bytes, padded on the
right. -/
def copyBytes (n : ℕ) (src : List UInt8) : List UInt8 :=
  (src ++ List.replicate n 0).take n

/-- The selector parsed from text: `copy(selector[:], common.FromHex(hex))`. -/
def parseSelector (hex : String) : ℕ :=
  Bytes.ofBytesBE (copyBytes 4 (fromHex hex))

/-- The task data parsed from text: `copy(taskData[:], common.FromHex(hex))`. -/
def parseTaskData (hex : String) : Hash :=
  BitVec.ofNat 256 (Bytes.ofBytesBE (copyBytes 32 (fromHex hex)))

section Shared

variable (keccak256 : List UInt8 → Hash)

/-- `TaskScheduledTopic`: Keccak-256 of the event's signature. -/
def taskScheduledTopic : Hash :=
  keccak256 "TaskScheduled(bytes32,address,address,uint64)".toUTF8.toList

/-- The `TaskScheduled` log: the ID as a topic, and the scheduler, the target and the target
block as three words of data. -/
def taskScheduledLog (taskId : Hash) (scheduler target : Address) (targetBlock : ℕ) : Log :=
  { address := taskSchedulerAddress
    topics := [taskScheduledTopic keccak256, taskId]
    data := wordBytes scheduler ++ wordBytes target ++ List.replicate 24 0 ++
      Bytes.toBytesBE targetBlock 8
    blockNumber := 0
    txHash := 0
    txIndex := 0
    blockHash := 0
    index := 0 }

/-- The part of `handleSchedule` after its checks, which `tos.schedule` runs too: move the
deposit, mint the ID, write, queue and count the task, and log it. The ID is returned. -/
def scheduleTask (s : StateDB) (scheduler target : Address) (selector : ℕ) (taskData : Hash)
    (gasLimit blockNum delayBlocks intervalBlocks maxRuns : ℕ) : StateDB × Hash :=
  let deposit := gasCost gasLimit
  let s := VmStateDB.subBalance s scheduler deposit
  let s := VmStateDB.addBalance s taskSchedulerAddress deposit
  let targetBlock := (blockNum + delayBlocks) % 2 ^ 64
  let (s, nonce) := incrementContractNonce keccak256 s scheduler
  let taskId := newTaskID keccak256 scheduler targetBlock nonce
  let task : TaskRecord :=
    { scheduler := scheduler
      target := target
      selector := selector
      taskData := taskData
      gasLimit := gasLimit
      targetBlock := targetBlock
      intervalBlocks := intervalBlocks
      maxRuns := maxRuns
      runs := 0
      status := taskPending }
  let s := writeTask keccak256 s taskId task
  let s := enqueueTask keccak256 s targetBlock taskId
  let s := adjustActiveCount keccak256 s scheduler 1
  (VmStateDB.addLog s (taskScheduledLog keccak256 taskId scheduler target targetBlock), taskId)

/-- The checks of a cancellation, which `tos.canceltask` makes too: the task is pending, and the
caller scheduled it. The task is returned. -/
def checkCancel (s : StateDB) (caller : Address) (taskId : Hash) : Except String TaskRecord :=
  match readTask keccak256 s taskId with
  | none => .error errTaskNotPending
  | some task =>
    if task.status ≠ taskPending then .error errTaskNotPending
    else if caller ≠ task.scheduler then .error errTaskNotScheduler
    else .ok task

/-- The part of `handleCancel` after its checks, which `tos.canceltask` runs too: refund the
whole deposit, mark the task cancelled and uncount it. -/
def cancelTask (s : StateDB) (taskId : Hash) (task : TaskRecord) : StateDB :=
  let deposit := gasCost task.gasLimit
  let s := VmStateDB.subBalance s taskSchedulerAddress deposit
  let s := VmStateDB.addBalance s task.scheduler deposit
  let s := writeTask keccak256 s taskId { task with status := taskCancelled }
  adjustActiveCount keccak256 s task.scheduler (-1)

end Shared

/-! ## The system actions (`task/handler.go`) -/

section Handle

variable (keccak256 : List UInt8 → Hash)

/-- `handleSchedule`: the checks of the payload, in the order of the source, then the active
count and the balance. -/
def handleSchedule (ctx : Context) (payload : Except String SchedulePayload) :
    HandlerM StateDB Unit := do
  let p ← match payload with
    | .ok p => pure p
    | .error e => throw (.error e)
  if p.gasLimit.toNat < taskMinGasLimit then throw (.error errTaskGasLimitTooLow)
  if p.gasLimit.toNat > taskMaxGasLimit then throw (.error errTaskGasLimitTooHigh)
  if p.delayBlocks.toNat < 1 then throw (.error errTaskDelayZero)
  if p.delayBlocks.toNat > taskMaxHorizonBlocks then throw (.error errTaskDelayTooFar)
  if p.intervalBlocks.toNat ≠ 0 ∧ p.intervalBlocks.toNat < taskMinIntervalBlocks then
    throw (.error errTaskIntervalTooShort)
  if p.intervalBlocks.toNat > taskMaxHorizonBlocks then throw (.error errTaskIntervalTooFar)
  let db ← get
  if readActiveCount keccak256 db ctx.sender ≥ taskMaxPerContract then
    throw (.error errTaskActiveLimit)
  if VmStateDB.getBalance db ctx.sender < gasCost p.gasLimit.toNat then
    throw (.error errTaskInsufficientDeposit)
  set (scheduleTask keccak256 db ctx.sender (hexToAddress p.target) (parseSelector p.selector)
    (parseTaskData p.taskData) p.gasLimit.toNat (ctx.blockNumber % 2 ^ 64) p.delayBlocks.toNat
    p.intervalBlocks.toNat p.maxRuns.toNat).1

/-- `handleCancel`. -/
def handleCancel (ctx : Context) (payload : Except String CancelPayload) :
    HandlerM StateDB Unit := do
  let p ← match payload with
    | .ok p => pure p
    | .error e => throw (.error e)
  let taskId := hexToHash p.taskId
  let db ← get
  match checkCancel keccak256 db ctx.sender taskId with
  | .error e => throw (.error e)
  | .ok task => set (cancelTask keccak256 db taskId task)

/-- `Handle`, on a decoded action. -/
def handle (ctx : Context) : TaskAction → HandlerM StateDB Unit
  | .schedule payload => handleSchedule keccak256 ctx payload
  | .cancel payload => handleCancel keccak256 ctx payload

/-- The JSON decoders of the two payload types. -/
structure PayloadDecoders where
  /-- `json.Unmarshal` into `schedulePayload`. -/
  schedule : List UInt8 → Except String SchedulePayload
  /-- `json.Unmarshal` into `cancelPayload`. -/
  cancel : List UInt8 → Except String CancelPayload

/-- The task action a system action names, its payload decoded; `none` for a name `Handle` does
not switch on. -/
def toTaskAction (dec : PayloadDecoders) (sa : SysAction) : Option TaskAction :=
  if sa.action = actionTaskSchedule then some (.schedule (dec.schedule sa.payload))
  else if sa.action = actionTaskCancel then some (.cancel (dec.cancel sa.payload))
  else none

/-- The handler of the two task actions; an action of another name does nothing. -/
def taskHandler (dec : PayloadDecoders) : Handler StateDB where
  actions := [actionTaskSchedule, actionTaskCancel]
  handle ctx sa :=
    match toTaskAction dec sa with
    | some a => handle keccak256 ctx a
    | none => pure ()

end Handle

/-! ## The LVM primitives (`core/vm/lvm.go`) -/

/-- `uint64(L.CheckInt64(n))`: a Lua integer modulo `2 ^ 64`. -/
def luaUint64 (n : ℤ) : ℕ :=
  (n % 2 ^ 64).toNat

/-- The arguments of `tos.schedule(target, selector, taskData, gasLimit, delayBlocks,
intervalBlocks, maxRuns)`. -/
structure ScheduleArgs where
  /-- The target, hexadecimal. -/
  target : String
  /-- The selector, hexadecimal. -/
  selector : String
  /-- The task data, hexadecimal. -/
  taskData : String
  /-- The gas limit. -/
  gasLimit : ℤ
  /-- The delay. -/
  delayBlocks : ℤ
  /-- The interval. -/
  intervalBlocks : ℤ
  /-- The limit on runs. -/
  maxRuns : ℤ
  deriving DecidableEq, Repr

/-- The error a write primitive raises in a static call. -/
def errLvmReadonly (name : String) : String :=
  name ++ ": state modification not allowed in staticcall"

section Lvm

variable (keccak256 : List UInt8 → Hash)

/-- `tos.schedule`, called by the contract `contractAddr` in block `blockNumber`: the task's ID, or
`nil` when a check fails. -/
def lvmSchedule (readonly : Bool) (s : StateDB) (contractAddr : Address) (blockNumber : ℕ)
    (args : ScheduleArgs) : Except String (StateDB × Option Hash) :=
  if readonly then .error (errLvmReadonly "tos.schedule") else
  let gasLimit := luaUint64 args.gasLimit
  let delayBlocks := luaUint64 args.delayBlocks
  let intervalBlocks := luaUint64 args.intervalBlocks
  let maxRuns := luaUint64 args.maxRuns
  if gasLimit < taskMinGasLimit ∨ gasLimit > taskMaxGasLimit then .ok (s, none)
  else if delayBlocks < 1 ∨ delayBlocks > taskMaxHorizonBlocks then .ok (s, none)
  else if intervalBlocks ≠ 0 ∧ intervalBlocks < taskMinIntervalBlocks then .ok (s, none)
  else if readActiveCount keccak256 s contractAddr ≥ taskMaxPerContract then .ok (s, none)
  else if VmStateDB.getBalance s contractAddr < gasCost gasLimit then .ok (s, none)
  else
    let (s, taskId) := scheduleTask keccak256 s contractAddr (hexToAddress args.target)
      (parseSelector args.selector) (parseTaskData args.taskData) gasLimit (blockNumber % 2 ^ 64)
      delayBlocks intervalBlocks maxRuns
    .ok (s, some taskId)

/-- `tos.canceltask(taskIdHex)`, called by the contract `contractAddr`: whether the task was
cancelled. -/
def lvmCancelTask (readonly : Bool) (s : StateDB) (contractAddr : Address) (taskIdHex : String) :
    Except String (StateDB × Bool) :=
  if readonly then .error (errLvmReadonly "tos.canceltask") else
  let taskId := hexToHash taskIdHex
  match checkCancel keccak256 s contractAddr taskId with
  | .error _ => .ok (s, false)
  | .ok task => .ok (cancelTask keccak256 s taskId task, true)

end Lvm

/-! ## What an action that went through did -/

section Spec

variable {keccak256 : List UInt8 → Hash}

/-- **A schedule that went through** passed the checks, the gas limit among them, and ran
`scheduleTask` on the sender's behalf. -/
theorem handleSchedule_ok {ctx : Context} {payload : Except String SchedulePayload}
    {s s' : StateDB} {u : Unit} (h : (handleSchedule keccak256 ctx payload).run.run s = (.ok u, s')) :
    ∃ p, payload = .ok p ∧ p.gasLimit.toNat ≤ taskMaxGasLimit ∧
      p.intervalBlocks.toNat ≤ taskMaxHorizonBlocks ∧
      s' = (scheduleTask keccak256 s ctx.sender (hexToAddress p.target) (parseSelector p.selector)
        (parseTaskData p.taskData) p.gasLimit.toNat (ctx.blockNumber % 2 ^ 64) p.delayBlocks.toNat
        p.intervalBlocks.toNat p.maxRuns.toNat).1 := by
  unfold handleSchedule at h
  rcases payload with e | p
  · rw [run_bind_of_error (by rfl)] at h
    cases h
  · rw [run_bind_of_ok (run_pure p s)] at h
    obtain ⟨-, h⟩ := run_guard_eq_ok h
    obtain ⟨hmax, h⟩ := run_guard_eq_ok h
    obtain ⟨-, h⟩ := run_guard_eq_ok h
    obtain ⟨-, h⟩ := run_guard_eq_ok h
    obtain ⟨-, h⟩ := run_guard_eq_ok h
    obtain ⟨hfar, h⟩ := run_guard_eq_ok h
    rw [run_get_bind] at h
    obtain ⟨-, h⟩ := run_guard_eq_ok h
    obtain ⟨-, h⟩ := run_guard_eq_ok h
    rw [run_set] at h
    cases h
    exact ⟨p, rfl, not_lt.mp hmax, not_lt.mp hfar, rfl⟩

/-- The checks of a cancellation pass on a pending task of the caller's. -/
theorem checkCancel_eq_ok {s : StateDB} {caller : Address} {taskId : Hash} {task : TaskRecord} :
    checkCancel keccak256 s caller taskId = .ok task ↔
      readTask keccak256 s taskId = some task ∧ task.status = taskPending ∧
        caller = task.scheduler := by
  unfold checkCancel
  rcases hr : readTask keccak256 s taskId with _ | t
  · simp
  · dsimp only
    constructor
    · intro h
      split_ifs at h with hp hc
      cases h
      exact ⟨rfl, not_not.mp hp, not_not.mp hc⟩
    · rintro ⟨ht, hp, hc⟩
      obtain rfl := Option.some.inj ht
      rw [if_neg (not_not.mpr hp), if_neg (not_not.mpr hc)]

/-- **A cancellation that went through** ran `cancelTask` on a pending task of the sender's. -/
theorem handleCancel_ok {ctx : Context} {payload : Except String CancelPayload} {s s' : StateDB}
    {u : Unit} (h : (handleCancel keccak256 ctx payload).run.run s = (.ok u, s')) :
    ∃ p task, payload = .ok p ∧ checkCancel keccak256 s ctx.sender (hexToHash p.taskId) = .ok task ∧
      s' = cancelTask keccak256 s (hexToHash p.taskId) task := by
  unfold handleCancel at h
  rcases payload with e | p
  · rw [run_bind_of_error (by rfl)] at h
    cases h
  · rw [run_bind_of_ok (run_pure p s), run_get_bind] at h
    split at h
    · exact absurd h (run_throw_ne_ok _ _ _ _)
    · rename_i task hcheck
      rw [run_set] at h
      cases h
      exact ⟨p, task, rfl, hcheck, rfl⟩

/-- `tos.schedule` returns `nil` and writes nothing, or schedules the task with the arguments
read as `uint64`s, the gas limit among those the checks allow. -/
theorem lvmSchedule_eq_ok {readonly : Bool} {s s' : StateDB} {contractAddr : Address}
    {blockNumber : ℕ} {args : ScheduleArgs} {result : Option Hash}
    (h : lvmSchedule keccak256 readonly s contractAddr blockNumber args = .ok (s', result)) :
    s' = s ∨ luaUint64 args.gasLimit ≤ taskMaxGasLimit ∧
      s' = (scheduleTask keccak256 s contractAddr (hexToAddress args.target)
        (parseSelector args.selector) (parseTaskData args.taskData) (luaUint64 args.gasLimit)
        (blockNumber % 2 ^ 64) (luaUint64 args.delayBlocks) (luaUint64 args.intervalBlocks)
        (luaUint64 args.maxRuns)).1 := by
  unfold lvmSchedule at h
  dsimp only at h
  split_ifs at h with hro hgas
  -- a check that fails returns `nil` with the state as it was
  · cases h
    exact .inl rfl
  · cases h
    exact .inl rfl
  · cases h
    exact .inl rfl
  · cases h
    exact .inl rfl
  · cases h
    exact .inl rfl
  · cases h
    exact .inr ⟨not_lt.mp (not_or.mp hgas).2, rfl⟩

/-- `tos.canceltask` returns `false` and writes nothing, or cancels a pending task of the
calling contract's. -/
theorem lvmCancelTask_eq_ok {readonly : Bool} {s s' : StateDB} {contractAddr : Address}
    {taskIdHex : String} {cancelled : Bool}
    (h : lvmCancelTask keccak256 readonly s contractAddr taskIdHex = .ok (s', cancelled)) :
    s' = s ∨ ∃ task, checkCancel keccak256 s contractAddr (hexToHash taskIdHex) = .ok task ∧
      s' = cancelTask keccak256 s (hexToHash taskIdHex) task := by
  unfold lvmCancelTask at h
  split_ifs at h
  dsimp only at h
  split at h
  · cases h
    exact .inl rfl
  · rename_i task hcheck
    cases h
    exact .inr ⟨task, hcheck, rfl⟩

end Spec

end Gtos.Task
