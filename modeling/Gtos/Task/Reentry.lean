import Gtos.Task.Invariant

/-! # A callback that cancels its own task

`RunScheduledTasks` runs a task's callback as a call of its target, and the LVM primitives act for
the contract called (`contractAddr := ctx.To`). A task whose target is its own scheduler may then
call `tos.canceltask` on itself from its callback. The cancellation records no log, so its writes
stand, and the processor goes on from the record it read before the call (`runDueTask`): it
refunds the unused gas on top of the deposit the cancellation returned, and writes a one-shot task
back as done, uncounting it a second time (`self_cancelling_task_refunded_twice`).

The balance then pays out a deposit and a refund for a task that paid one deposit, and may fall
short of the deposits of the tasks still pending; the count may fall below their number. The
callback is one that `ExecFrame` excludes, and the books of `Invariant` do not cover it. -/

namespace Gtos.Task

open Gtos.Core

section Logs

variable {keccak256 : List UInt8 → Hash}

theorem logCount_writeKeys (s : StateDB) (ws : List (TaskKey × Hash)) :
    logCount (writeKeys keccak256 s ws) = logCount s := by
  induction ws generalizing s with
  | nil => rfl
  | cons w ws ih => exact ih _

/-- A cancellation records no log. -/
theorem logCount_cancelTask (s : StateDB) (taskId : Hash) (task : TaskRecord) :
    logCount (cancelTask keccak256 s taskId task) = logCount s := by
  simp only [cancelTask]
  rw [adjustActiveCount_eq, logCount_writeKeys, writeTask_eq, logCount_writeKeys]
  rfl

end Logs

/-- A callback that calls `tos.canceltask` on the task of ID `taskIdHex`, as the contract called,
and returns having used `gasUsed`. -/
def cancellingExec (keccak256 : List UInt8 → Hash) (taskIdHex : String) (gasUsed : ℕ) :
    ExecutorFn :=
  fun s _ target _ _ =>
    match lvmCancelTask keccak256 false s target taskIdHex with
    | .ok (s', _) => (s', ⟨gasUsed, none, false⟩)
    | .error e => (s, ⟨gasUsed, some e, false⟩)

section SelfCancel

variable {keccak256 : List UInt8 → Hash} {A : Finset Address} {T : Finset Hash}

/-- The callback cancels a pending task of the contract called. -/
theorem cancellingExec_eq {s : StateDB} {taskId : Hash} {task : TaskRecord}
    (htask : readTask keccak256 s taskId = some task) (hp : task.status = taskPending)
    {taskIdHex : String} (hhex : hexToHash taskIdHex = taskId) (gasUsed : ℕ) (caller : Address)
    (calldata : List UInt8) (gas : ℕ) :
    cancellingExec keccak256 taskIdHex gasUsed s caller task.scheduler calldata gas =
      (cancelTask keccak256 s taskId task, ⟨gasUsed, none, false⟩) := by
  have hcheck : checkCancel keccak256 s task.scheduler taskId = .ok task :=
    checkCancel_eq_ok.mpr ⟨htask, hp, rfl⟩
  simp only [cancellingExec, lvmCancelTask, Bool.false_eq_true, if_false, hhex, hcheck]

/-- An ID queued at a `uint64` block is one of `T`. -/
theorem mem_of_queueAt {s : StateDB} (h : Books (newTaskID keccak256) A T (schedulerView keccak256 A T s))
    {b : ℕ} (hb : b < 2 ^ 64) {taskId : Hash} (hmem : taskId ∈ queueAt keccak256 s b) :
    taskId ∈ T := by
  have hq : taskId ∈ (schedulerView keccak256 A T s).queue b := by
    rw [schedulerView_queue, if_pos hb]
    exact hmem
  obtain ⟨r, hr⟩ := Option.ne_none_iff_exists'.mp (h.queues.task b taskId hq)
  exact (readTask_of_view hr).1

variable (hs : TaskScope keccak256 A T)
include hs

/-- **A block whose one due task cancels itself**: the cancellation stands, and the processor
settles the task from the record it read before the call. -/
theorem processDueTasks_cancellingExec {s : StateDB} {b : ℕ} (hb : b < 2 ^ 64) {taskId : Hash}
    (hid : taskId ∈ T) (hq : queueAt keccak256 s b = [taskId]) {task : TaskRecord}
    (htask : readTask keccak256 s taskId = some task) (hp : task.status = taskPending)
    (hself : task.target = task.scheduler) {taskIdHex : String}
    (hhex : hexToHash taskIdHex = taskId) {gasUsed : ℕ} (hgas : gasUsed ≤ task.gasLimit) :
    processDueTasks keccak256 (cancellingExec keccak256 taskIdHex gasUsed) s b =
      (settleTask keccak256 (cancelTask keccak256 (writeKeys keccak256 s [(.qlen b, 0)]) taskId task)
        b taskId task gasUsed, 1, gasUsed % 2 ^ 64, none) := by
  have hlen : qlen keccak256 s b = 1 := by
    rw [← length_queueAt, hq]
    rfl
  have hdq : dequeueTasksAt keccak256 s b = (writeKeys keccak256 s [(.qlen b, 0)], [taskId]) := by
    rw [dequeueTasksAt_eq, if_neg (by omega), hq]
  -- the queue's length is all the dequeue writes: the task reads as before
  have hv1 := schedulerView_dequeueTasksAt (A := A) hs.slots s hb
  rw [hdq] at hv1
  have htask1 : readTask keccak256 (writeKeys keccak256 s [(.qlen b, 0)]) taskId = some task := by
    refine (readTask_of_view (A := A) (T := T) ?_).2
    rw [hv1, SchedulerView.clearQueue_task]
    exact view_of_readTask hid htask
  have hcall := cancellingExec_eq htask1 hp hhex gasUsed taskSchedulerAddress
    (Bytes.toBytesBE task.selector 4 ++ wordBytes task.taskData) task.gasLimit
  rw [← hself] at hcall
  have hstep : runDueTask keccak256 (cancellingExec keccak256 taskIdHex gasUsed)
      (writeKeys keccak256 s [(.qlen b, 0)]) b taskId = _ :=
    runDueTask_of_success htask1 hp hcall hgas (logCount_cancelTask _ _ _) rfl
  simp only [processDueTasks, hdq, processLoop, hstep, taskMaxPerBlock]
  simp

/-- **The books after that block**, for a one-shot task: cancelled by its callback, refunded its
unused gas once more, written back as done from its record before the call, and uncounted
again. -/
theorem schedulerView_processDueTasks_cancellingExec {s : StateDB}
    (h : Books (newTaskID keccak256) A T (schedulerView keccak256 A T s)) {b : ℕ}
    (hb : b < 2 ^ 64) {taskId : Hash} (hq : queueAt keccak256 s b = [taskId]) {task : TaskRecord}
    (htask : readTask keccak256 s taskId = some task) (hp : task.status = taskPending)
    (hself : task.target = task.scheduler) (hone : task.intervalBlocks = 0) {taskIdHex : String}
    (hhex : hexToHash taskIdHex = taskId) {gasUsed : ℕ} (hgas : gasUsed ≤ task.gasLimit) :
    schedulerView keccak256 A T
        (processDueTasks keccak256 (cancellingExec keccak256 taskIdHex gasUsed) s b).1 =
      ((((schedulerView keccak256 A T s).clearQueue b).cancel taskId task).addEscrow
        (-gasCost (task.gasLimit - gasUsed))).retire taskId
          { task with runs := (task.runs + 1) % 2 ^ 64 } taskDone := by
  have hid := mem_of_queueAt h hb (by rw [hq]; exact List.mem_singleton_self _)
  have ha := h.tasks.scheduler taskId task (view_of_readTask hid htask)
  have hn := readTask_normal keccak256 htask
  have hsch : task.scheduler ≠ taskSchedulerAddress := fun he => hs.sched (he ▸ ha)
  have h0 : task.scheduler ≠ 0 := fun he => hs.zero (he ▸ ha)
  rw [processDueTasks_cancellingExec hs hb hid hq htask hp hself hhex hgas]
  -- the cancellation, on the state the dequeue left
  have hv1 := schedulerView_dequeueTasksAt (A := A) (T := T) hs.slots s hb
  rw [dequeueTasksAt_eq, if_neg (by rw [← length_queueAt, hq]; simp)] at hv1
  have hv2 : schedulerView keccak256 A T
      (cancelTask keccak256 (writeKeys keccak256 s [(.qlen b, 0)]) taskId task) =
        ((schedulerView keccak256 A T s).clearQueue b).cancel taskId task := by
    rw [schedulerView_cancelTask hs.slots _ hid hn ha hsch h0, hv1]
  have hroom : ∀ b', ((((schedulerView keccak256 A T s).clearQueue b).cancel taskId task).queue
      b').length + 1 < 2 ^ 64 := by
    intro b'
    simp only [SchedulerView.cancel, SchedulerView.decActive_queue, SchedulerView.setTask_queue,
      SchedulerView.addEscrow_queue, SchedulerView.clearQueue_queue, Function.update_apply]
    split_ifs
    · norm_num
    · exact h.length_queue_lt hs.card b'
  -- then the settlement from the stale record, which retires a one-shot task as done
  obtain ⟨afford, hset⟩ := schedulerView_settleTask hs.slots _ b hid hn ha hsch h0 gasUsed
    (hv2 ▸ hroom)
  rw [hset, hv2]
  simp [SchedulerView.settle, hone]

end SelfCancel

section Runs

variable {keccak256 : List UInt8 → Hash} {A : Finset Address} {T : Finset Hash}

theorem self_cancelling_task_refunded_twice (hs : TaskScope keccak256 A T) {s : StateDB}
    (h : Books (newTaskID keccak256) A T (schedulerView keccak256 A T s)) {b : ℕ}
    (hb : b < 2 ^ 64) {taskId : Hash} (hq : queueAt keccak256 s b = [taskId]) {task : TaskRecord}
    (htask : readTask keccak256 s taskId = some task) (hp : task.status = taskPending)
    (hself : task.target = task.scheduler) (hone : task.intervalBlocks = 0) {taskIdHex : String}
    (hhex : hexToHash taskIdHex = taskId) {gasUsed : ℕ} (hgas : gasUsed ≤ task.gasLimit) :
    let r := processDueTasks keccak256 (cancellingExec keccak256 taskIdHex gasUsed) s b
    r.2.2.2 = none ∧
      r.1.balance taskSchedulerAddress = s.balance taskSchedulerAddress - gasCost task.gasLimit -
        gasCost (task.gasLimit - gasUsed) ∧
      readActiveCount keccak256 r.1 task.scheduler = readActiveCount keccak256 s task.scheduler - 2 ∧
      readTask keccak256 r.1 taskId =
        some { task with runs := (task.runs + 1) % 2 ^ 64, status := taskDone } := by
  intro r
  have hid := mem_of_queueAt h hb (by rw [hq]; exact List.mem_singleton_self _)
  have ha := h.tasks.scheduler taskId task (view_of_readTask hid htask)
  have hview : schedulerView keccak256 A T r.1 = _ :=
    schedulerView_processDueTasks_cancellingExec hs h hb hq htask hp hself hone hhex hgas
  have hr : r = _ := processDueTasks_cancellingExec hs hb hid hq htask hp hself hhex hgas
  refine ⟨by rw [hr], ?_, ?_, ?_⟩
  · -- the balance is the books' escrow: the deposit and the unused gas left it
    calc r.1.balance taskSchedulerAddress = (schedulerView keccak256 A T r.1).escrow := rfl
      _ = s.balance taskSchedulerAddress - gasCost task.gasLimit -
          gasCost (task.gasLimit - gasUsed) := by
        rw [hview]
        simp only [SchedulerView.retire, SchedulerView.cancel, SchedulerView.decActive_escrow,
          SchedulerView.setTask_escrow, SchedulerView.addEscrow_escrow,
          SchedulerView.clearQueue_escrow, schedulerView_escrow]
        ring
  · -- the count is the books' count, down by one twice
    have hcount : ∀ t : StateDB, readActiveCount keccak256 t task.scheduler =
        (schedulerView keccak256 A T t).active task.scheduler := fun t => by
      rw [schedulerView_active, if_pos ha]
    rw [hcount, hcount, hview]
    simp only [SchedulerView.retire, SchedulerView.cancel, SchedulerView.decActive_active,
      SchedulerView.setTask_active, SchedulerView.addEscrow_active,
      SchedulerView.clearQueue_active, Function.update_self]
    omega
  · refine (readTask_of_view (A := A) (T := T) ?_).2
    rw [hview]
    simp [SchedulerView.retire]

end Runs

end Gtos.Task
