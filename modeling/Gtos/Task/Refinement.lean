import Gtos.Task.Storage

/-! # The task code on the books

Each part of `task/handler.go`, `task/processor.go` and the LVM's task primitives changes the books
a state holds (`schedulerView`) by the update the ledger names for it: scheduling
(`schedulerView_scheduleTask`), cancelling (`schedulerView_cancelTask`), finishing a task
(`schedulerView_retireTask`), settling it after its callback (`schedulerView_settleTask`), and
deferring it (`schedulerView_requeueDeferred`). The tasks are those of `T`, with schedulers of `A`
other than the zero address and `TaskSchedulerAddress`, the words of which Keccak-256 keeps apart.

A task is written back with its numbers cut to their widths; a task read from the storage fits
them, and so does each record the processor derives from it (`TaskRecord.Normal`), so the task
written is the one the ledger writes. The loop body `runDueTask` is taken apart once
(`runDueTask_cases`): it skips a task that is not pending, or runs one and then retires it after
a log, or settles it from the state before the call after a failure, or from the state the call
left after a success. -/

namespace Gtos.Task

open Gtos.Core

/-! ## The records the code writes fit their widths -/

namespace TaskRecord.Normal

variable {t : TaskRecord}

theorem withStatus (h : t.Normal) (status : UInt8) : ({ t with status := status } : TaskRecord).Normal :=
  ⟨h.selector, h.gasLimit, h.targetBlock, h.intervalBlocks, h.maxRuns, h.runs⟩

theorem withRuns (h : t.Normal) (runs : ℕ) :
    ({ t with runs := runs % 2 ^ 64 } : TaskRecord).Normal :=
  ⟨h.selector, h.gasLimit, h.targetBlock, h.intervalBlocks, h.maxRuns, Nat.mod_lt _ (by norm_num)⟩

theorem withTargetBlock (h : t.Normal) (b : ℕ) :
    ({ t with targetBlock := b % 2 ^ 64 } : TaskRecord).Normal :=
  ⟨h.selector, h.gasLimit, Nat.mod_lt _ (by norm_num), h.intervalBlocks, h.maxRuns, h.runs⟩

end TaskRecord.Normal

/-! ## The parts of the handlers and of the processor -/

section Composite

variable {keccak256 : List UInt8 → Hash} {A : Finset Address} {T : Finset Hash}

/-- The ID `scheduleTask` mints: of the scheduler, the target block and the scheduler's nonce. -/
theorem scheduleTask_taskId (s : StateDB) {scheduler : Address} (ha : scheduler ∈ A)
    (target : Address) (selector : ℕ) (taskData : Hash)
    (gasLimit blockNum delayBlocks intervalBlocks maxRuns : ℕ) :
    (scheduleTask keccak256 s scheduler target selector taskData gasLimit blockNum delayBlocks
        intervalBlocks maxRuns).2 =
      newTaskID keccak256 scheduler ((blockNum + delayBlocks) % 2 ^ 64)
        ((schedulerView keccak256 A T s).nonce scheduler) := by
  rw [schedulerView_nonce, if_pos ha]
  rfl

/-- The refund of `settleTask`: the unused gas moves from the scheduler's balance to the task's
scheduler. -/
theorem schedulerView_refund (s : StateDB) {scheduler : Address}
    (hsch : scheduler ≠ taskSchedulerAddress) (refundGas : ℕ) :
    schedulerView keccak256 A T
        (if refundGas > 0 then
          VmStateDB.addBalance (VmStateDB.subBalance s taskSchedulerAddress (gasCost refundGas))
            scheduler (gasCost refundGas)
        else s) =
      (schedulerView keccak256 A T s).addEscrow (-gasCost refundGas) := by
  split_ifs with hpos
  · rw [schedulerView_addBalance_of_ne _ hsch, schedulerView_subBalance_self]
  · rw [Nat.eq_zero_of_not_pos hpos]
    simp [gasCost]

variable (hslots : TaskSlotsDistinct keccak256 A T)
include hslots

/-- **Scheduling** (`handleSchedule` and `tos.schedule` after their checks) is the ledger's
`schedule` of the task it writes, at the ID it mints. -/
theorem schedulerView_scheduleTask (s : StateDB) {scheduler : Address} (ha : scheduler ∈ A)
    (hsch : scheduler ≠ taskSchedulerAddress) (h0 : scheduler ≠ 0) (target : Address)
    (selector : ℕ) (taskData : Hash) {gasLimit : ℕ} (hgas : gasLimit < 2 ^ 64)
    (blockNum delayBlocks intervalBlocks maxRuns : ℕ)
    (hid : newTaskID keccak256 scheduler ((blockNum + delayBlocks) % 2 ^ 64)
      ((schedulerView keccak256 A T s).nonce scheduler) ∈ T)
    (hroom : ((schedulerView keccak256 A T s).queue ((blockNum + delayBlocks) % 2 ^ 64)).length + 1 <
      2 ^ 64) :
    schedulerView keccak256 A T (scheduleTask keccak256 s scheduler target selector taskData
        gasLimit blockNum delayBlocks intervalBlocks maxRuns).1 =
      (schedulerView keccak256 A T s).schedule
        (newTaskID keccak256 scheduler ((blockNum + delayBlocks) % 2 ^ 64)
          ((schedulerView keccak256 A T s).nonce scheduler))
        ({ scheduler := scheduler, target := target, selector := selector, taskData := taskData,
           gasLimit := gasLimit, targetBlock := (blockNum + delayBlocks) % 2 ^ 64,
           intervalBlocks := intervalBlocks, maxRuns := maxRuns, runs := 0,
           status := taskPending } : TaskRecord).stored := by
  have htb : (blockNum + delayBlocks) % 2 ^ 64 < 2 ^ 64 := Nat.mod_lt _ (by norm_num)
  -- the deposit moves first; then the nonce is drawn
  obtain ⟨s2, hs2⟩ : ∃ s2, s2 = VmStateDB.addBalance (VmStateDB.subBalance s scheduler
      (gasCost gasLimit)) taskSchedulerAddress (gasCost gasLimit) := ⟨_, rfl⟩
  have hv2 : schedulerView keccak256 A T s2 =
      (schedulerView keccak256 A T s).addEscrow (gasCost gasLimit) := by
    rw [hs2, schedulerView_addBalance_self, schedulerView_subBalance_of_ne _ hsch]
  have hv3 := schedulerView_incrementContractNonce hslots s2 ha
  have hn3 : (incrementContractNonce keccak256 s2 scheduler).2 =
      (schedulerView keccak256 A T s2).nonce scheduler := incrementContractNonce_nonce s2 ha
  simp only [scheduleTask]
  rw [← hs2]
  rcases hinc : incrementContractNonce keccak256 s2 scheduler with ⟨s3, nonce⟩
  rw [hinc] at hv3 hn3
  dsimp only at hv3 hn3
  rw [hv2, SchedulerView.addEscrow_nonce] at hn3
  subst hn3
  -- then the task is written, queued and counted, and the log changes nothing of the books
  rw [schedulerView_addLog, schedulerView_adjustActiveCount_one hslots _ ha,
    schedulerView_enqueueTask hslots _ htb, schedulerView_writeTask hslots _ hid _ h0, hv3, hv2]
  · simp only [SchedulerView.schedule, TaskRecord.stored, Nat.mod_eq_of_lt hgas, Nat.mod_mod]
  · -- the queue of the target block, before the task is queued there
    rw [schedulerView_writeTask hslots _ hid _ h0, hv3, hv2]
    simpa only [SchedulerView.setTask_queue, SchedulerView.bumpNonce_queue,
      SchedulerView.addEscrow_queue] using hroom

/-- **Cancelling** (`handleCancel` and `tos.canceltask` after their checks) a task read from the
storage is the ledger's `cancel`. -/
theorem schedulerView_cancelTask (s : StateDB) {taskId : Hash} (hid : taskId ∈ T) {task : TaskRecord}
    (hn : task.Normal) (ha : task.scheduler ∈ A) (hsch : task.scheduler ≠ taskSchedulerAddress)
    (h0 : task.scheduler ≠ 0) :
    schedulerView keccak256 A T (cancelTask keccak256 s taskId task) =
      (schedulerView keccak256 A T s).cancel taskId task := by
  simp only [cancelTask]
  rw [schedulerView_adjustActiveCount_neg_one hslots _ ha,
    schedulerView_writeTask hslots _ hid { task with status := taskCancelled } h0,
    schedulerView_addBalance_of_ne _ hsch, schedulerView_subBalance_self,
    TaskRecord.stored_of_normal (hn.withStatus _)]
  rfl

/-- **Finishing a task** read from the storage is the ledger's `retire`. -/
theorem schedulerView_retireTask (s : StateDB) {taskId : Hash} (hid : taskId ∈ T) {task : TaskRecord}
    (hn : task.Normal) (ha : task.scheduler ∈ A) (h0 : task.scheduler ≠ 0) (status : UInt8) :
    schedulerView keccak256 A T (retireTask keccak256 s taskId task status) =
      (schedulerView keccak256 A T s).retire taskId task status := by
  rw [retireTask, schedulerView_adjustActiveCount_neg_one hslots _ ha,
    schedulerView_writeTask hslots _ hid { task with status := status } h0,
    TaskRecord.stored_of_normal (hn.withStatus _)]
  rfl

/-- **Settling a task** after its callback is the ledger's `settle`, the scheduler being able to
pay the deposit again or not. -/
theorem schedulerView_settleTask (s : StateDB) (blockNum : ℕ) {taskId : Hash} (hid : taskId ∈ T) {task : TaskRecord} (hn : task.Normal)
    (ha : task.scheduler ∈ A) (hsch : task.scheduler ≠ taskSchedulerAddress)
    (h0 : task.scheduler ≠ 0) (gasUsed : ℕ)
    (hroom : ∀ b, ((schedulerView keccak256 A T s).queue b).length + 1 < 2 ^ 64) :
    ∃ afford, schedulerView keccak256 A T (settleTask keccak256 s blockNum taskId task gasUsed) =
      (schedulerView keccak256 A T s).settle blockNum taskId task gasUsed afford := by
  -- the refund comes first, whatever follows
  obtain ⟨s1, hs1⟩ : ∃ s1, s1 = (if task.gasLimit - gasUsed > 0 then
      VmStateDB.addBalance (VmStateDB.subBalance s taskSchedulerAddress
        (gasCost (task.gasLimit - gasUsed))) task.scheduler (gasCost (task.gasLimit - gasUsed))
      else s) := ⟨_, rfl⟩
  have hv1 : schedulerView keccak256 A T s1 =
      (schedulerView keccak256 A T s).addEscrow (-gasCost (task.gasLimit - gasUsed)) := by
    rw [hs1, schedulerView_refund _ hsch]
  have hrun : ({ task with runs := (task.runs + 1) % 2 ^ 64 } : TaskRecord).Normal := hn.withRuns _
  have hretire : ∀ (r : TaskRecord), r.Normal → r.scheduler = task.scheduler → ∀ st,
      schedulerView keccak256 A T (retireTask keccak256 s1 taskId r st) =
        ((schedulerView keccak256 A T s).addEscrow (-gasCost (task.gasLimit - gasUsed))).retire
          taskId r st := by
    intro r hr hrs st
    rw [schedulerView_retireTask hslots _ hid hr (hrs ▸ ha) (hrs ▸ h0), hv1]
  refine ⟨decide (VmStateDB.getBalance s1 task.scheduler ≥ gasCost task.gasLimit), ?_⟩
  simp only [settleTask, SchedulerView.settle, ← hs1, decide_eq_true_eq]
  split_ifs with hdone hexp hover hafford
  · exact hretire _ hrun rfl _
  · exact hretire _ hrun rfl _
  · exact hretire _ hrun rfl _
  · -- queued again: the deposit paid anew, the task written and queued at its next block
    have hnb : (blockNum + task.intervalBlocks) % 2 ^ 64 < 2 ^ 64 := Nat.mod_lt _ (by norm_num)
    have hwr := schedulerView_writeTask hslots (VmStateDB.addBalance (VmStateDB.subBalance s1
      task.scheduler (gasCost task.gasLimit)) taskSchedulerAddress (gasCost task.gasLimit)) hid
      { task with
        runs := (task.runs + 1) % 2 ^ 64
        targetBlock := (blockNum + task.intervalBlocks) % 2 ^ 64 } h0
    rw [schedulerView_enqueueTask hslots _ hnb, hwr, schedulerView_addBalance_self,
      schedulerView_subBalance_of_ne _ hsch, hv1,
      TaskRecord.stored_of_normal (hrun.withTargetBlock _)]
    · rfl
    · rw [hwr, schedulerView_addBalance_self, schedulerView_subBalance_of_ne _ hsch, hv1]
      exact hroom _
  · exact hretire _ (hrun.withTargetBlock _) rfl _

/-- **Deferring a pending task** read from the storage to the next block is the ledger's
`requeue`. -/
theorem schedulerView_requeueDeferred (s : StateDB) {blockNum : ℕ} {tid : Hash} (hid : tid ∈ T)
    {task : TaskRecord} (htask : readTask keccak256 s tid = some task)
    (hp : task.status = taskPending)
    (hroom : ∀ b, ((schedulerView keccak256 A T s).queue b).length + 1 < 2 ^ 64) :
    schedulerView keccak256 A T (requeueDeferred keccak256 blockNum s tid) =
      (schedulerView keccak256 A T s).requeue tid task ((blockNum + 1) % 2 ^ 64) := by
  have hn := readTask_normal keccak256 htask
  have h0 := readTask_scheduler_ne keccak256 htask
  have hnb : (blockNum + 1) % 2 ^ 64 < 2 ^ 64 := Nat.mod_lt _ (by norm_num)
  have hwr := schedulerView_writeTask hslots s hid
    { task with targetBlock := (blockNum + 1) % 2 ^ 64 } h0
  simp only [requeueDeferred, htask]
  rw [if_pos hp]
  rw [schedulerView_enqueueTask hslots _ hnb, hwr, TaskRecord.stored_of_normal (hn.withTargetBlock _)]
  · rfl
  · rw [hwr]
    exact hroom _

end Composite

/-! ## The loop body -/

section Body

variable {keccak256 : List UInt8 → Hash} {exec : ExecutorFn} {s : StateDB} {blockNum : ℕ}
  {taskId : Hash}

/-- The loop body skips only an ID that names no pending task. -/
theorem runDueTask_eq_skip (h : runDueTask keccak256 exec s blockNum taskId = .skip) :
    ∀ task, readTask keccak256 s taskId = some task → task.status ≠ taskPending := by
  intro task htask hp
  simp only [runDueTask, htask, hp, ne_eq, not_true_eq_false, if_false] at h
  split at h
  · split at h <;> cases h
  · split at h
    · split at h <;> cases h
    · cases h

/-- **The loop body on a pending task**: after a log the task expires from the state before the
call; after a failure that does not end the block it is settled from the state before the call;
after a success, from the state the call left. The gas counted is at most the task's limit. -/
theorem runDueTask_eq_ran {s' : StateDB} {gasUsed : ℕ}
    (h : runDueTask keccak256 exec s blockNum taskId = .ran s' gasUsed) :
    ∃ task, readTask keccak256 s taskId = some task ∧ task.status = taskPending ∧
      gasUsed ≤ task.gasLimit ∧
      (s' = retireTask keccak256 s taskId task taskExpired ∨
        s' = settleTask keccak256 s blockNum taskId task gasUsed ∨
        ∃ sCall res, exec s taskSchedulerAddress task.target
            (Bytes.toBytesBE task.selector 4 ++ wordBytes task.taskData) task.gasLimit = (sCall, res) ∧
          res.err = none ∧ logCount sCall = logCount s ∧
          s' = settleTask keccak256 sCall blockNum taskId task gasUsed) := by
  unfold runDueTask at h
  split at h
  · cases h
  · rename_i task htask
    split_ifs at h with hp
    rcases hcall : exec s taskSchedulerAddress task.target
      (Bytes.toBytesBE task.selector 4 ++ wordBytes task.taskData) task.gasLimit with ⟨sCall, res⟩
    dsimp only at h
    rw [hcall] at h
    dsimp only at h
    have hgas : (if res.gasUsed > task.gasLimit then task.gasLimit else res.gasUsed) ≤
        task.gasLimit := by
      split_ifs <;> omega
    generalize (if res.gasUsed > task.gasLimit then task.gasLimit else res.gasUsed) = g at h hgas
    refine ⟨task, htask, not_not.mp hp, ?_⟩
    by_cases hlog : logCount sCall = logCount s
    · rw [if_neg (not_not.mpr hlog)] at h
      rcases herr : res.err with _ | e
      · -- a success: settled from the state the call left
        rw [herr] at h
        cases h
        exact ⟨hgas, .inr (.inr ⟨sCall, res, hcall, herr, hlog, rfl⟩)⟩
      · -- a failure: fatal ends the loop, and a task that fails otherwise is settled
        rw [herr] at h
        dsimp only at h
        by_cases hf : res.fatal = true
        · rw [if_pos hf] at h
          cases h
        · rw [if_neg hf] at h
          cases h
          exact ⟨hgas, .inr (.inl rfl)⟩
    · -- a log: the task expires
      rw [if_pos hlog] at h
      cases h
      exact ⟨hgas, .inl rfl⟩

/-- **The loop body on a pending task whose callback succeeds** within its gas and records no
log: the task is settled from the state the call left. -/
theorem runDueTask_of_success {task : TaskRecord} (htask : readTask keccak256 s taskId = some task)
    (hp : task.status = taskPending) {sCall : StateDB} {res : ExecResult}
    (hcall : exec s taskSchedulerAddress task.target
      (Bytes.toBytesBE task.selector 4 ++ wordBytes task.taskData) task.gasLimit = (sCall, res))
    (hgas : res.gasUsed ≤ task.gasLimit) (hlog : logCount sCall = logCount s)
    (herr : res.err = none) :
    runDueTask keccak256 exec s blockNum taskId =
      .ran (settleTask keccak256 sCall blockNum taskId task res.gasUsed) res.gasUsed := by
  unfold runDueTask
  rw [htask]
  dsimp only
  rw [if_neg (not_not.mpr hp), hcall]
  dsimp only
  rw [if_neg (not_lt.mpr hgas), if_neg (not_not.mpr hlog), herr]

/-- A fatal failure leaves the state before the call. -/
theorem runDueTask_eq_fatal {s' : StateDB} {gasUsed : ℕ} {e : String}
    (h : runDueTask keccak256 exec s blockNum taskId = .fatal s' gasUsed e) : s' = s := by
  unfold runDueTask at h
  split at h
  · cases h
  · rename_i task htask
    split_ifs at h with hp
    rcases hcall : exec s taskSchedulerAddress task.target
      (Bytes.toBytesBE task.selector 4 ++ wordBytes task.taskData) task.gasLimit with ⟨sCall, res⟩
    dsimp only at h
    rw [hcall] at h
    dsimp only at h
    generalize (if res.gasUsed > task.gasLimit then task.gasLimit else res.gasUsed) = g at h
    by_cases hlog : logCount sCall = logCount s
    · rw [if_neg (not_not.mpr hlog)] at h
      rcases herr : res.err with _ | e
      · rw [herr] at h
        cases h
      · rw [herr] at h
        dsimp only at h
        by_cases hf : res.fatal = true
        · rw [if_pos hf] at h
          cases h
          rfl
        · rw [if_neg hf] at h
          cases h
    · rw [if_pos hlog] at h
      cases h

end Body

/-! ## Callbacks -/

section Frame

variable (keccak256 : List UInt8 → Hash) (A : Finset Address) (T : Finset Hash)

/-- **A callback that keeps off the books**: one that returns without an error and without a log
leaves the scheduler's words of `A`, `T` and the queues as they were, and its balance no lower. A
callback that schedules a task logs, and is reverted; this says that it cancels none. -/
def ExecFrame (exec : ExecutorFn) : Prop :=
  ∀ s caller target calldata gas sCall res,
    exec s caller target calldata gas = (sCall, res) → res.err = none → logCount sCall = logCount s →
      (∀ k, k.Within A T → keyed keccak256 sCall k = keyed keccak256 s k) ∧
        s.balance taskSchedulerAddress ≤ sCall.balance taskSchedulerAddress

variable {keccak256 A T}

/-- The books after such a callback: the same, but for a balance that may have grown. -/
theorem schedulerView_of_keyed {s s' : StateDB}
    (hk : ∀ k, k.Within A T → keyed keccak256 s' k = keyed keccak256 s k) :
    schedulerView keccak256 A T s' =
      { schedulerView keccak256 A T s with escrow := s'.balance taskSchedulerAddress } :=
  booksOf_congr hk _

end Frame

/-- What the run theorems assume: Keccak-256 keeps the words of `A`, `T` and the queues apart and
mints distinct IDs; `T` is smaller than the last `uint64`; and no scheduler of `A` is the zero
address or the scheduler's own account. -/
structure TaskScope (keccak256 : List UInt8 → Hash) (A : Finset Address) (T : Finset Hash) :
    Prop where
  /-- The words are kept apart. -/
  slots : TaskSlotsDistinct keccak256 A T
  /-- The IDs are minted apart. -/
  mint : MintDistinct (newTaskID keccak256) A
  /-- A queue of IDs of `T` fits its `uint64` length. -/
  card : T.card + 1 < 2 ^ 64
  /-- The scheduler's account schedules nothing. -/
  sched : taskSchedulerAddress ∉ A
  /-- Nor does the zero address. -/
  zero : (0 : Address) ∉ A

end Gtos.Task
