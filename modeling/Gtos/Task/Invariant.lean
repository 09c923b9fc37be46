import Gtos.Task.Refinement

/-! # The scheduler's books over every run

The books (`Books`) hold in every state a run of task events reaches from one where they hold
(`books_runEvents`): schedules and cancellations, by system action or by LVM primitive, and the
processing of a block's due tasks. A failed system action and a primitive that raises are
reverted, and a block whose processing fails is not applied.

The processing of a block is a loop over the IDs taken from its queue, which the books follow
with those IDs in flight (`InFlight`): a skipped ID leaves them, a processed task is settled or
retired (`inFlight_runDueTask`), and the IDs left when the loop stops at `TaskMaxPerBlock` are
deferred to the next block (`inFlight_requeueDeferred`). Each callback is assumed to keep off the
books (`ExecFrame`).

What the run assumes of Keccak-256 and of the schedulers `A` and task IDs `T` is `TaskScope`; a
run stays within it when every scheduler is of `A` and every ID minted or cancelled is of `T`
(`RunWithin`). -/

namespace Gtos.Task

open Gtos.Core Gtos.Sysaction

section Process

variable {keccak256 : List UInt8 → Hash} {A : Finset Address} {T : Finset Hash}
  {exec : ExecutorFn} {b : ℕ}

/-- A task the books hold is one of `T`, read from the storage. -/
theorem readTask_of_view {s : StateDB} {taskId : Hash} {r : TaskRecord}
    (h : (schedulerView keccak256 A T s).task taskId = some r) :
    taskId ∈ T ∧ readTask keccak256 s taskId = some r := by
  rw [schedulerView_task] at h
  split_ifs at h with hid
  exact ⟨hid, h⟩

/-- A task of `T` read from the storage is one the books hold. -/
theorem view_of_readTask {s : StateDB} {taskId : Hash} (hid : taskId ∈ T) {r : TaskRecord}
    (h : readTask keccak256 s taskId = some r) :
    (schedulerView keccak256 A T s).task taskId = some r := by
  rw [schedulerView_task, if_pos hid, h]

/-- An ID in flight is one of `T`. -/
theorem mem_of_inFlight {v : SchedulerView} {taskId : Hash} {rest : List Hash}
    {s : StateDB} (hv : v = schedulerView keccak256 A T s)
    (h : InFlight (newTaskID keccak256) A T b (taskId :: rest) v) : taskId ∈ T := by
  by_contra hid
  exact h.queues.inflight_task taskId List.mem_cons_self (by rw [hv, schedulerView_task, if_neg hid])

/-- The loop body passes over an ID that names no pending task. -/
theorem inFlight_skip {s : StateDB} {taskId : Hash} {rest : List Hash}
    (h : InFlight (newTaskID keccak256) A T b (taskId :: rest) (schedulerView keccak256 A T s))
    (hskip : runDueTask keccak256 exec s b taskId = .skip) :
    InFlight (newTaskID keccak256) A T b rest (schedulerView keccak256 A T s) :=
  h.skip fun r hr => runDueTask_eq_skip hskip r (readTask_of_view hr).2

/-- **The loop body processes a pending task**: retired after a log, or settled from the state
before its callback or from the one the callback left. -/
theorem inFlight_runDueTask (hs : TaskScope keccak256 A T) (hexec : ExecFrame keccak256 A T exec)
    {s s' : StateDB} {taskId : Hash} {rest : List Hash} {gasUsed : ℕ}
    (h : InFlight (newTaskID keccak256) A T b (taskId :: rest) (schedulerView keccak256 A T s))
    (hrun : runDueTask keccak256 exec s b taskId = .ran s' gasUsed) :
    InFlight (newTaskID keccak256) A T b rest (schedulerView keccak256 A T s') := by
  obtain ⟨task, htask, hp, -, hcases⟩ := runDueTask_eq_ran hrun
  have hidT := mem_of_inFlight rfl h
  have hview : (schedulerView keccak256 A T s).task taskId = some task := view_of_readTask hidT htask
  have ha := h.tasks.scheduler taskId task hview
  have hn := readTask_normal keccak256 htask
  have hsch : task.scheduler ≠ taskSchedulerAddress := fun he => hs.sched (he ▸ ha)
  have h0 : task.scheduler ≠ 0 := fun he => hs.zero (he ▸ ha)
  rcases hcases with rfl | rfl | ⟨sCall, res, hcall, herr, hlog, rfl⟩
  · -- a log: the task expires, and its deposit stays
    have hproc : Processed b taskId task (schedulerView keccak256 A T s)
        (((schedulerView keccak256 A T s).addEscrow (-0)).retire taskId task taskExpired) :=
      .retire 0 task taskExpired (gasCost_nonneg _) (by decide) ⟨rfl, rfl, rfl, Nat.le_succ _⟩
    rw [neg_zero, SchedulerView.addEscrow_zero] at hproc
    rw [schedulerView_retireTask hs.slots _ hidT hn ha h0]
    exact h.processed hproc hview hp
  · -- a failure: settled from the state before the call
    obtain ⟨afford, hset⟩ := schedulerView_settleTask hs.slots s b hidT hn ha hsch h0 gasUsed
      (h.length_queue_lt hs.card)
    rw [hset]
    exact h.processed (settle_processed _ hp hn.intervalBlocks _ _) hview hp
  · -- a success: the callback kept off the books, and the task is settled after it
    obtain ⟨hk, hbal⟩ := hexec _ _ _ _ _ _ _ hcall herr hlog
    have hv := schedulerView_of_keyed hk
    have h' : InFlight (newTaskID keccak256) A T b (taskId :: rest)
        (schedulerView keccak256 A T sCall) := h.congr (by rw [hv]) (by rw [hv]) (by rw [hv])
          (by rw [hv]) (by rw [hv]; exact hbal)
    have hview' : (schedulerView keccak256 A T sCall).task taskId = some task := by
      rw [hv]
      exact hview
    obtain ⟨afford, hset⟩ := schedulerView_settleTask hs.slots sCall b hidT hn ha hsch h0 gasUsed
      (h'.length_queue_lt hs.card)
    rw [hset]
    exact h'.processed (settle_processed _ hp hn.intervalBlocks _ _) hview' hp

/-- **The loop keeps the books in flight**: unless a callback fails the block, the IDs the loop
defers are in flight at its end. -/
theorem inFlight_processLoop (hs : TaskScope keccak256 A T) (hexec : ExecFrame keccak256 A T exec)
    (L : List Hash) (s : StateDB) (processed gasUsed : ℕ)
    (h : InFlight (newTaskID keccak256) A T b L (schedulerView keccak256 A T s))
    (herr : (processLoop keccak256 exec b s processed gasUsed L).err = none) :
    InFlight (newTaskID keccak256) A T b (processLoop keccak256 exec b s processed gasUsed L).deferred
      (schedulerView keccak256 A T (processLoop keccak256 exec b s processed gasUsed L).state) := by
  induction L generalizing s processed gasUsed with
  | nil => exact h
  | cons taskId rest ih =>
    unfold processLoop at herr ⊢
    split_ifs at herr ⊢ with hmax
    · -- the block's quota is reached: the rest is deferred as it is
      exact h
    · rcases hstep : runDueTask keccak256 exec s b taskId with _ | ⟨s', g⟩ | ⟨s', g, e⟩ <;>
        simp only [hstep] at herr ⊢
      · exact ih s processed gasUsed (inFlight_skip h hstep) herr
      · exact ih s' _ _ (inFlight_runDueTask hs hexec h hstep) herr
      · cases herr

/-- The successor of a `uint64` block, as a `uint64`, is another block. -/
theorem succ_mod_ne (hb : b < 2 ^ 64) : (b + 1) % 2 ^ 64 ≠ b := by
  by_cases hlt : b + 1 < 2 ^ 64
  · rw [Nat.mod_eq_of_lt hlt]
    omega
  · have heq : b + 1 = 2 ^ 64 := by omega
    rw [heq, Nat.mod_self]
    omega

/-- **Deferring keeps the books**: each deferred ID whose task is still pending is queued at the
next block. -/
theorem inFlight_requeueDeferred (hs : TaskScope keccak256 A T) (hb : b < 2 ^ 64)
    (L : List Hash) (s : StateDB)
    (h : InFlight (newTaskID keccak256) A T b L (schedulerView keccak256 A T s)) :
    InFlight (newTaskID keccak256) A T b []
      (schedulerView keccak256 A T (L.foldl (requeueDeferred keccak256 b) s)) := by
  induction L generalizing s with
  | nil => exact h
  | cons taskId rest ih =>
    have hidT := mem_of_inFlight rfl h
    rw [List.foldl_cons]
    apply ih
    rcases htask : readTask keccak256 s taskId with _ | task
    · -- no task: left as it is
      have hr : requeueDeferred keccak256 b s taskId = s := by simp [requeueDeferred, htask]
      rw [hr]
      exact h.skip fun r hr' => by
        rw [schedulerView_task, if_pos hidT, htask] at hr'
        cases hr'
    · by_cases hp : task.status = taskPending
      · rw [schedulerView_requeueDeferred hs.slots s hidT htask hp (h.length_queue_lt hs.card)]
        exact h.requeue (view_of_readTask (A := A) hidT htask) hp (succ_mod_ne hb)
      · have hr : requeueDeferred keccak256 b s taskId = s := by simp [requeueDeferred, htask, hp]
        rw [hr]
        exact h.skip fun r hr' => by
          rw [view_of_readTask (A := A) hidT htask] at hr'
          cases hr'
          exact hp

/-- The IDs `DequeueTasksAt` takes from a block's queue are in flight in the books it leaves. -/
theorem inFlight_dequeueTasksAt (hs : TaskScope keccak256 A T) {s : StateDB} (hb : b < 2 ^ 64)
    (h : Books (newTaskID keccak256) A T (schedulerView keccak256 A T s)) :
    InFlight (newTaskID keccak256) A T b (dequeueTasksAt keccak256 s b).2
      (schedulerView keccak256 A T (dequeueTasksAt keccak256 s b).1) := by
  rw [schedulerView_dequeueTasksAt hs.slots s hb, dequeueTasksAt_ids s hb]
  exact h.clearQueue b

/-- **A block's processing keeps the books**, unless a callback fails the block. -/
theorem books_processDueTasks (hs : TaskScope keccak256 A T) (hexec : ExecFrame keccak256 A T exec)
    {s : StateDB} (hb : b < 2 ^ 64)
    (h : Books (newTaskID keccak256) A T (schedulerView keccak256 A T s))
    (herr : (processDueTasks keccak256 exec s b).2.2.2 = none) :
    Books (newTaskID keccak256) A T
      (schedulerView keccak256 A T (processDueTasks keccak256 exec s b).1) := by
  have hids : (dequeueTasksAt keccak256 s b).2 = (schedulerView keccak256 A T s).queue b :=
    dequeueTasksAt_ids s hb
  have hview := schedulerView_dequeueTasksAt hs.slots s hb
  unfold processDueTasks at herr ⊢
  rcases hdq : dequeueTasksAt keccak256 s b with ⟨s1, ids⟩
  rw [hdq] at hids hview herr
  dsimp only at hids hview herr ⊢
  split_ifs at herr ⊢ with hlen
  · -- an empty queue: nothing changes
    have hnil : (schedulerView keccak256 A T s).queue b = [] := by
      rw [← hids]
      exact List.eq_nil_of_length_eq_zero hlen
    rw [hview, SchedulerView.clearQueue_of_nil hnil]
    exact h
  · have hin := inFlight_dequeueTasksAt hs hb h
    rw [hdq] at hin
    split
    · rename_i e he
      simp [he] at herr
    · rename_i hloop
      exact (inFlight_requeueDeferred hs hb _ _ (inFlight_processLoop hs hexec ids s1 0 0 hin
        hloop)).books

end Process

/-! ## Scheduling and cancelling -/

section Actions

variable {keccak256 : List UInt8 → Hash} {A : Finset Address} {T : Finset Hash}
  (hs : TaskScope keccak256 A T)
include hs

/-- **Scheduling keeps the books**, for a scheduler of `A` whose next ID is one of `T`. -/
theorem books_scheduleTask {s : StateDB}
    (h : Books (newTaskID keccak256) A T (schedulerView keccak256 A T s)) {scheduler : Address}
    (ha : scheduler ∈ A) (target : Address) (selector : ℕ) (taskData : Hash) {gasLimit : ℕ}
    (hgas : gasLimit ≤ taskMaxGasLimit) (blockNum delayBlocks intervalBlocks maxRuns : ℕ)
    (hid : newTaskID keccak256 scheduler ((blockNum + delayBlocks) % 2 ^ 64)
      (contractNonce keccak256 s scheduler) ∈ T) :
    Books (newTaskID keccak256) A T (schedulerView keccak256 A T (scheduleTask keccak256 s scheduler
      target selector taskData gasLimit blockNum delayBlocks intervalBlocks maxRuns).1) := by
  have hsch : scheduler ≠ taskSchedulerAddress := fun he => hs.sched (he ▸ ha)
  have h0 : scheduler ≠ 0 := fun he => hs.zero (he ▸ ha)
  have hgas64 : gasLimit < 2 ^ 64 := lt_of_le_of_lt hgas (by norm_num [taskMaxGasLimit])
  have htb : (blockNum + delayBlocks) % 2 ^ 64 < 2 ^ 64 := Nat.mod_lt _ (by norm_num)
  have hnonce : (schedulerView keccak256 A T s).nonce scheduler = contractNonce keccak256 s scheduler := by
    rw [schedulerView_nonce, if_pos ha]
  rw [← hnonce] at hid
  rw [schedulerView_scheduleTask hs.slots s ha hsch h0 target selector taskData hgas64 blockNum
    delayBlocks intervalBlocks maxRuns hid (h.length_queue_lt hs.card _)]
  -- the task as stored: its target block and gas limit already fit their widths
  have hbooks := h.schedule hs.mint hs.card
    (r := TaskRecord.stored ⟨scheduler, target, selector, taskData, gasLimit,
      (blockNum + delayBlocks) % 2 ^ 64, intervalBlocks, maxRuns, 0, taskPending⟩)
    ha (by simpa only [TaskRecord.stored, Nat.mod_mod] using htb)
    (by simpa only [TaskRecord.stored, Nat.mod_eq_of_lt hgas64] using hgas) rfl rfl
    (by simpa only [TaskRecord.stored, Nat.mod_mod] using hid)
  simpa only [TaskRecord.stored, Nat.mod_mod] using hbooks

/-- **Cancelling keeps the books**, for a task of `T` whose checks pass. -/
theorem books_cancelTask {s : StateDB}
    (h : Books (newTaskID keccak256) A T (schedulerView keccak256 A T s)) {caller : Address}
    {taskId : Hash} (hid : taskId ∈ T) {task : TaskRecord}
    (hcheck : checkCancel keccak256 s caller taskId = .ok task) :
    Books (newTaskID keccak256) A T (schedulerView keccak256 A T (cancelTask keccak256 s taskId task)) := by
  obtain ⟨htask, hp, -⟩ := checkCancel_eq_ok.mp hcheck
  have hview : (schedulerView keccak256 A T s).task taskId = some task := view_of_readTask hid htask
  have ha := h.tasks.scheduler taskId task hview
  rw [schedulerView_cancelTask hs.slots s hid (readTask_normal keccak256 htask) ha
    (fun he => hs.sched (he ▸ ha)) (fun he => hs.zero (he ▸ ha))]
  exact h.cancel hview hp

end Actions

/-! ## Runs -/

/-- An event of the scheduler's run. -/
inductive TaskEvent
  /-- A `TASK_SCHEDULE` system action. -/
  | schedule (ctx : Context) (payload : Except String SchedulePayload)
  /-- A `TASK_CANCEL` system action. -/
  | cancel (ctx : Context) (payload : Except String CancelPayload)
  /-- A call of `tos.schedule` by a contract. -/
  | lvmSchedule (readonly : Bool) (contractAddr : Address) (blockNumber : ℕ) (args : ScheduleArgs)
  /-- A call of `tos.canceltask` by a contract. -/
  | lvmCancelTask (readonly : Bool) (contractAddr : Address) (taskIdHex : String)
  /-- The due tasks of a block, run before its transactions with the block's executor. -/
  | process (exec : ExecutorFn) (blockNum : ℕ)

section Run

variable (keccak256 : List UInt8 → Hash)

/-- An event applied to the state. A failed system action is reverted, as is a primitive that
raises; a block whose tasks fail it is not applied. -/
def applyEvent (s : StateDB) : TaskEvent → StateDB
  | .schedule ctx payload => commit (handleSchedule keccak256 ctx payload) s
  | .cancel ctx payload => commit (handleCancel keccak256 ctx payload) s
  | .lvmSchedule readonly contractAddr blockNumber args =>
    match lvmSchedule keccak256 readonly s contractAddr blockNumber args with
    | .ok (s', _) => s'
    | .error _ => s
  | .lvmCancelTask readonly contractAddr taskIdHex =>
    match lvmCancelTask keccak256 readonly s contractAddr taskIdHex with
    | .ok (s', _) => s'
    | .error _ => s
  | .process exec blockNum =>
    match processDueTasks keccak256 exec s blockNum with
    | (s', _, _, none) => s'
    | (_, _, _, some _) => s

/-- A run of events. -/
def runEvents (s : StateDB) (evs : List TaskEvent) : StateDB :=
  evs.foldl (applyEvent keccak256) s

variable (A : Finset Address) (T : Finset Hash)

/-- An event within the scope of `A` and `T` in the state `s`: a scheduler of `A` whose next ID is
one of `T`, a cancellation of an ID of `T`, or a `uint64` block whose callbacks keep off the
books. -/
def TaskEvent.Within (s : StateDB) : TaskEvent → Prop
  | .schedule ctx payload => ctx.sender ∈ A ∧ ∀ p, payload = .ok p →
      newTaskID keccak256 ctx.sender ((ctx.blockNumber % 2 ^ 64 + p.delayBlocks.toNat) % 2 ^ 64)
        (contractNonce keccak256 s ctx.sender) ∈ T
  | .cancel _ payload => ∀ p, payload = .ok p → hexToHash p.taskId ∈ T
  | .lvmSchedule _ contractAddr blockNumber args => contractAddr ∈ A ∧
      newTaskID keccak256 contractAddr ((blockNumber % 2 ^ 64 + luaUint64 args.delayBlocks) % 2 ^ 64)
        (contractNonce keccak256 s contractAddr) ∈ T
  | .lvmCancelTask _ _ taskIdHex => hexToHash taskIdHex ∈ T
  | .process exec blockNum => blockNum < 2 ^ 64 ∧ ExecFrame keccak256 A T exec

/-- A run whose every event is within the scope of `A` and `T` in the state it meets. -/
def RunWithin : StateDB → List TaskEvent → Prop
  | _, [] => True
  | s, ev :: evs => ev.Within keccak256 A T s ∧ RunWithin (applyEvent keccak256 s ev) evs

end Run

section RunBooks

variable {keccak256 : List UInt8 → Hash} {A : Finset Address} {T : Finset Hash}
  (hs : TaskScope keccak256 A T)
include hs

/-- **An event keeps the books.** -/
theorem books_applyEvent {s : StateDB}
    (h : Books (newTaskID keccak256) A T (schedulerView keccak256 A T s)) {ev : TaskEvent}
    (hev : ev.Within keccak256 A T s) :
    Books (newTaskID keccak256) A T (schedulerView keccak256 A T (applyEvent keccak256 s ev)) := by
  cases ev with
  | schedule ctx payload =>
    obtain ⟨ha, hid⟩ := hev
    refine commit_induction (fun t => Books (newTaskID keccak256) A T (schedulerView keccak256 A T t))
      h fun u s' hrun => ?_
    obtain ⟨p, rfl, hgas, -, rfl⟩ := handleSchedule_ok hrun
    exact books_scheduleTask hs h ha _ _ _ hgas _ _ _ _ (hid p rfl)
  | cancel ctx payload =>
    refine commit_induction (fun t => Books (newTaskID keccak256) A T (schedulerView keccak256 A T t))
      h fun u s' hrun => ?_
    obtain ⟨p, task, rfl, hcheck, rfl⟩ := handleCancel_ok hrun
    exact books_cancelTask hs h (hev p rfl) hcheck
  | lvmSchedule readonly contractAddr blockNumber args =>
    obtain ⟨ha, hid⟩ := hev
    simp only [applyEvent]
    split
    · rename_i s' result hrun
      rcases lvmSchedule_eq_ok hrun with rfl | ⟨hgas, rfl⟩
      · exact h
      · exact books_scheduleTask hs h ha _ _ _ hgas _ _ _ _ hid
    · exact h
  | lvmCancelTask readonly contractAddr taskIdHex =>
    simp only [applyEvent]
    split
    · rename_i s' cancelled hrun
      rcases lvmCancelTask_eq_ok hrun with rfl | ⟨task, hcheck, rfl⟩
      · exact h
      · exact books_cancelTask hs h hev hcheck
    · exact h
  | process exec blockNum =>
    obtain ⟨hb, hexec⟩ := hev
    simp only [applyEvent]
    split
    · rename_i s' processed gasUsed hrun
      have herr : (processDueTasks keccak256 exec s blockNum).2.2.2 = none := by rw [hrun]
      have hbooks := books_processDueTasks hs hexec hb h herr
      rwa [hrun] at hbooks
    · exact h

/-- **The books over every run** within the scope of `A` and `T`. -/
theorem books_runEvents (evs : List TaskEvent) (s : StateDB)
    (h : Books (newTaskID keccak256) A T (schedulerView keccak256 A T s))
    (hevs : RunWithin keccak256 A T s evs) :
    Books (newTaskID keccak256) A T (schedulerView keccak256 A T (runEvents keccak256 s evs)) := by
  induction evs generalizing s with
  | nil => exact h
  | cons ev evs ih => exact ih _ (books_applyEvent hs h hevs.1) hevs.2

end RunBooks

/-! ## What the books say of the state -/

section Empty

variable {keccak256 : List UInt8 → Hash} {A : Finset Address} {T : Finset Hash}

/-- The books of a scheduler whose storage is empty: no task, no queue, no count and no nonce. -/
theorem schedulerView_of_empty {s : StateDB} (hempty : s.storage taskSchedulerAddress = fun _ => 0) :
    schedulerView keccak256 A T s =
      ⟨fun _ => none, fun _ => [], fun _ => 0, fun _ => 0, s.balance taskSchedulerAddress⟩ := by
  have hk : ∀ k, keyed keccak256 s k = 0 := fun k => by simp [keyed, hempty]
  ext1
  · funext taskId
    simp [schedulerView, booksOf, hk, taskOfWords]
  · funext b
    simp [schedulerView, booksOf, hk]
  · funext a
    simp [schedulerView, booksOf, hk]
  · funext a
    simp [schedulerView, booksOf, hk]
  · rfl

/-- **The books hold after every run** within the scope of `A` and `T` from a scheduler with
empty storage and a balance that is not negative. -/
theorem books_of_empty_run (hs : TaskScope keccak256 A T) {s : StateDB}
    (hempty : s.storage taskSchedulerAddress = fun _ => 0) (hbal : 0 ≤ s.balance taskSchedulerAddress)
    {evs : List TaskEvent} (hevs : RunWithin keccak256 A T s evs) :
    Books (newTaskID keccak256) A T (schedulerView keccak256 A T (runEvents keccak256 s evs)) := by
  have h₀ : Books (newTaskID keccak256) A T (schedulerView keccak256 A T s) := by
    rw [schedulerView_of_empty hempty]
    exact Books.empty hbal
  exact books_runEvents hs evs s h₀ hevs

end Empty

/-! ## What every run keeps -/

section Runs

variable {keccak256 : List UInt8 → Hash} {A : Finset Address} {T : Finset Hash}

theorem scheduler_balance_covers_pending_deposits (hs : TaskScope keccak256 A T) {s : StateDB}
    (hempty : s.storage taskSchedulerAddress = fun _ => 0)
    (hbal : 0 ≤ s.balance taskSchedulerAddress) {evs : List TaskEvent}
    (hevs : RunWithin keccak256 A T s evs) :
    gasCost (∑ taskId ∈ T, (readTask keccak256 (runEvents keccak256 s evs) taskId).elim 0
        fun r => if r.status = taskPending then r.gasLimit else 0) ≤
      (runEvents keccak256 s evs).balance taskSchedulerAddress := by
  have hsolv := (books_of_empty_run hs hempty hbal hevs).solvent
  -- the books' deposits are those of the pending tasks read from the storage
  have howed : ∀ taskId ∈ T,
      (schedulerView keccak256 A T (runEvents keccak256 s evs)).owed taskId =
        (readTask keccak256 (runEvents keccak256 s evs) taskId).elim 0
          fun r => if r.status = taskPending then r.gasLimit else 0 := by
    intro taskId hid
    rw [SchedulerView.owed, schedulerView_task, if_pos hid]
    cases readTask keccak256 (runEvents keccak256 s evs) taskId <;> rfl
  rw [← Finset.sum_congr rfl howed]
  exact hsolv

theorem active_count_eq_pending_tasks (hs : TaskScope keccak256 A T) {s : StateDB}
    (hempty : s.storage taskSchedulerAddress = fun _ => 0)
    (hbal : 0 ≤ s.balance taskSchedulerAddress) {evs : List TaskEvent}
    (hevs : RunWithin keccak256 A T s evs) (a : Address) (ha : a ∈ A) :
    readActiveCount keccak256 (runEvents keccak256 s evs) a =
      (T.filter fun taskId => (readTask keccak256 (runEvents keccak256 s evs) taskId).any
        fun r => r.status = taskPending ∧ r.scheduler = a).card := by
  have hactive := (books_of_empty_run hs hempty hbal hevs).active a ha
  rw [schedulerView_active, if_pos ha, SchedulerView.pendingCount] at hactive
  rw [hactive]
  -- the books' pending tasks of `a` are those read from the storage
  congr 1
  refine Finset.filter_congr fun taskId hid => ?_
  rw [SchedulerView.pendingBy, schedulerView_task, if_pos hid]
  cases readTask keccak256 (runEvents keccak256 s evs) taskId <;> rfl

theorem pending_task_queued_at_target (hs : TaskScope keccak256 A T) {s : StateDB}
    (hempty : s.storage taskSchedulerAddress = fun _ => 0)
    (hbal : 0 ≤ s.balance taskSchedulerAddress) {evs : List TaskEvent}
    (hevs : RunWithin keccak256 A T s evs) (taskId : Hash) (hid : taskId ∈ T) (r : TaskRecord)
    (hr : readTask keccak256 (runEvents keccak256 s evs) taskId = some r)
    (hp : r.status = taskPending) :
    taskId ∈ queueAt keccak256 (runEvents keccak256 s evs) r.targetBlock := by
  have hview : (schedulerView keccak256 A T (runEvents keccak256 s evs)).task taskId = some r :=
    view_of_readTask hid hr
  have hq := ((books_of_empty_run hs hempty hbal hevs).queues.queued taskId r hview hp).resolve_right
    List.not_mem_nil
  rwa [schedulerView_queue, if_pos (readTask_normal keccak256 hr).targetBlock] at hq

theorem queues_hold_distinct_tasks (hs : TaskScope keccak256 A T) {s : StateDB}
    (hempty : s.storage taskSchedulerAddress = fun _ => 0)
    (hbal : 0 ≤ s.balance taskSchedulerAddress) {evs : List TaskEvent}
    (hevs : RunWithin keccak256 A T s evs) (b : ℕ) (hb : b < 2 ^ 64) :
    (queueAt keccak256 (runEvents keccak256 s evs) b).Nodup ∧
      ∀ taskId ∈ queueAt keccak256 (runEvents keccak256 s evs) b,
        taskId ∈ T ∧ readTask keccak256 (runEvents keccak256 s evs) taskId ≠ none := by
  have hq := (books_of_empty_run hs hempty hbal hevs).queues
  have hqueue : (schedulerView keccak256 A T (runEvents keccak256 s evs)).queue b =
      queueAt keccak256 (runEvents keccak256 s evs) b := by
    rw [schedulerView_queue, if_pos hb]
  refine ⟨hqueue ▸ hq.nodup b, fun taskId hmem => ?_⟩
  -- a queued ID names a task of the books, which is one of `T` read from the storage
  obtain ⟨r, hr⟩ := Option.ne_none_iff_exists'.mp (hq.task b taskId (hqueue ▸ hmem))
  obtain ⟨hid, hread⟩ := readTask_of_view hr
  exact ⟨hid, by rw [hread]; exact Option.some_ne_none r⟩

theorem task_runs_within_maxRuns (hs : TaskScope keccak256 A T) {s : StateDB}
    (hempty : s.storage taskSchedulerAddress = fun _ => 0)
    (hbal : 0 ≤ s.balance taskSchedulerAddress) {evs : List TaskEvent}
    (hevs : RunWithin keccak256 A T s evs) (taskId : Hash) (hid : taskId ∈ T) (r : TaskRecord)
    (hr : readTask keccak256 (runEvents keccak256 s evs) taskId = some r) (hmax : 0 < r.maxRuns) :
    r.runs ≤ r.maxRuns ∧ (r.status = taskPending → r.runs < r.maxRuns) :=
  (books_of_empty_run hs hempty hbal hevs).tasks.runs taskId r (view_of_readTask hid hr) hmax

theorem next_task_id_fresh (hs : TaskScope keccak256 A T) {s : StateDB}
    (hempty : s.storage taskSchedulerAddress = fun _ => 0)
    (hbal : 0 ≤ s.balance taskSchedulerAddress) {evs : List TaskEvent}
    (hevs : RunWithin keccak256 A T s evs) (a : Address) (ha : a ∈ A) (tb : ℕ) (htb : tb < 2 ^ 64)
    (hid : newTaskID keccak256 a tb (contractNonce keccak256 (runEvents keccak256 s evs) a) ∈ T) :
    readTask keccak256 (runEvents keccak256 s evs)
      (newTaskID keccak256 a tb (contractNonce keccak256 (runEvents keccak256 s evs) a)) = none := by
  have hfresh := (books_of_empty_run hs hempty hbal hevs).tasks.task_mint_nonce hs.mint ha htb
  rwa [schedulerView_nonce, if_pos ha, schedulerView_task, if_pos hid] at hfresh

end Runs

end Gtos.Task
