import Mathlib.Data.Set.Function
import Gtos.Lib.WriteLoop
import Gtos.Task.Handler
import Gtos.Task.Ledger
import Gtos.Task.Processor

/-! # The scheduler's storage, word by word, and the books it holds

Every word the task code keeps in the storage of `TaskSchedulerAddress` is named by a `TaskKey`:
a field of a task, the nonce or the count of a scheduler, the length of a block's queue, or an
entry of it. Keccak-256 is assumed to have no collision among the slots of the words of a set `T`
of task IDs, of a set `A` of schedulers, and of every `uint64` block and position
(`TaskSlotsDistinct`); under it a word keeps its value unless a writer writes it
(`keyed_writeKeys_of_forall_ne`, `keyed_writeKeys_of_mem`).

`schedulerView` reads the books (`SchedulerView`) out of a state: the tasks of `T`, the queues of
the `uint64` blocks, the counts and nonces of `A`, and the balance. Each writer of `task/state.go`
changes them by one of the updates of the books (`schedulerView_writeTask`,
`schedulerView_enqueueTask`, …), and so do the parts of the handlers and of the block processor
built from them (`schedulerView_scheduleTask`, `schedulerView_cancelTask`,
`schedulerView_settleTask`). A task is read back with its numbers cut to their widths
(`TaskRecord.stored`); a task read from the storage is already so (`TaskRecord.Normal`). -/

namespace Gtos.Task

open Gtos.Core

/-! ## Keys -/

/-- The ten words of a task. -/
inductive TaskField
  | scheduler
  | target
  | selector
  | taskdata
  | gaslimit
  | nextblock
  | interval
  | maxruns
  | runs
  | status
  deriving DecidableEq, Repr

/-- The field name the slot of a task word hashes. -/
def TaskField.name : TaskField → String
  | .scheduler => "scheduler"
  | .target => "target"
  | .selector => "selector"
  | .taskdata => "taskdata"
  | .gaslimit => "gaslimit"
  | .nextblock => "nextblock"
  | .interval => "interval"
  | .maxruns => "maxruns"
  | .runs => "runs"
  | .status => "status"

/-- The fields, in the order `WriteTask` writes them. -/
def taskFields : List TaskField :=
  [.scheduler, .target, .selector, .taskdata, .gaslimit, .nextblock, .interval, .maxruns, .runs,
    .status]

theorem mem_taskFields (f : TaskField) : f ∈ taskFields := by
  cases f <;> decide

theorem taskFields_nodup : taskFields.Nodup := by decide

/-- A word of the scheduler's storage, named by what it stores. -/
inductive TaskKey
  | field (taskId : Hash) (f : TaskField)
  | nonce (addr : Address)
  | active (addr : Address)
  | qlen (blockNum : ℕ)
  | entry (blockNum i : ℕ)
  deriving DecidableEq, Repr

/-- The slot of each word. -/
def taskKeySlot (keccak256 : List UInt8 → Hash) : TaskKey → Hash
  | .field taskId f => taskFieldSlot keccak256 taskId f.name
  | .nonce addr => contractNonceSlot keccak256 addr
  | .active addr => contractActiveSlot keccak256 addr
  | .qlen blockNum => blockQlenSlot keccak256 blockNum
  | .entry blockNum i => blockQEntrySlot keccak256 blockNum i

/-- The words of the tasks of `T`, of the schedulers of `A`, and of the queues of the `uint64`
blocks. -/
@[reducible] def TaskKey.Within (A : Finset Address) (T : Finset Hash) : TaskKey → Prop
  | .field taskId _ => taskId ∈ T
  | .nonce addr => addr ∈ A
  | .active addr => addr ∈ A
  | .qlen blockNum => blockNum < 2 ^ 64
  | .entry blockNum i => blockNum < 2 ^ 64 ∧ i < 2 ^ 64

/-- Keccak-256 has no collision among the slots of the words of `A`, `T` and the queues. -/
def TaskSlotsDistinct (keccak256 : List UInt8 → Hash) (A : Finset Address) (T : Finset Hash) :
    Prop :=
  Set.InjOn (taskKeySlot keccak256) {k | k.Within A T}

/-- The scheduler's storage, read by key. -/
def keyed (keccak256 : List UInt8 → Hash) (s : StateDB) (k : TaskKey) : Hash :=
  s.storage taskSchedulerAddress (taskKeySlot keccak256 k)

/-- A sequence of word writes, in order. -/
def writeKeys (keccak256 : List UInt8 → Hash) (s : StateDB) (ws : List (TaskKey × Hash)) :
    StateDB :=
  ws.foldl (fun s w => VmStateDB.setState s taskSchedulerAddress (taskKeySlot keccak256 w.1) w.2) s

section Keyed

variable {keccak256 : List UInt8 → Hash} {A : Finset Address} {T : Finset Hash}

theorem keyed_writeKeys (s : StateDB) (ws : List (TaskKey × Hash)) (k : TaskKey) :
    keyed keccak256 (writeKeys keccak256 s ws) k =
      WriteLoop.run (fun w => taskKeySlot keccak256 w.1) Prod.snd ws
        (s.storage taskSchedulerAddress) (taskKeySlot keccak256 k) := by
  rw [keyed, writeKeys, StateDB.storage_foldl_setState]

@[simp] theorem balance_writeKeys (s : StateDB) (ws : List (TaskKey × Hash)) :
    (writeKeys keccak256 s ws).balance = s.balance := by
  induction ws generalizing s with
  | nil => rfl
  | cons w ws ih => exact ih _

/-- **A word the writes do not name keeps its value.** -/
theorem keyed_writeKeys_of_forall_ne (hslots : TaskSlotsDistinct keccak256 A T) (s : StateDB)
    {ws : List (TaskKey × Hash)} (hws : ∀ w ∈ ws, w.1.Within A T) {k : TaskKey}
    (hk : k.Within A T) (hne : ∀ w ∈ ws, w.1 ≠ k) :
    keyed keccak256 (writeKeys keccak256 s ws) k = keyed keccak256 s k := by
  rw [keyed_writeKeys, WriteLoop.run_apply_of_forall_ne]
  · rfl
  · exact fun w hw heq => hne w hw (hslots (hws w hw) hk heq)

/-- **A word written once holds what was written.** -/
theorem keyed_writeKeys_of_mem (hslots : TaskSlotsDistinct keccak256 A T) (s : StateDB)
    {ws : List (TaskKey × Hash)} (hws : ∀ w ∈ ws, w.1.Within A T)
    (hnodup : (ws.map Prod.fst).Nodup) {k : TaskKey} {v : Hash} (hmem : (k, v) ∈ ws) :
    keyed keccak256 (writeKeys keccak256 s ws) k = v := by
  rw [keyed_writeKeys]
  refine WriteLoop.run_apply_key _ Prod.snd ws _ (k, v) hmem fun w hw heq => ?_
  -- the slots are equal, so the keys are, and a key is written once
  have hkey : w.1 = k := hslots (hws w hw) (hws (k, v) hmem) heq
  exact List.inj_on_of_nodup_map hnodup hw hmem hkey

end Keyed

/-! ## The readers and writers by key -/

/-- The word `WriteTask` stores for a field. -/
def taskWord (t : TaskRecord) : TaskField → Hash
  | .scheduler => t.scheduler
  | .target => t.target
  | .selector => BitVec.ofNat 256 (t.selector % 2 ^ 32)
  | .taskdata => t.taskData
  | .gaslimit => BitVec.ofNat 256 (t.gasLimit % 2 ^ 64)
  | .nextblock => BitVec.ofNat 256 (t.targetBlock % 2 ^ 64)
  | .interval => BitVec.ofNat 256 (t.intervalBlocks % 2 ^ 64)
  | .maxruns => BitVec.ofNat 256 (t.maxRuns % 2 ^ 64)
  | .runs => BitVec.ofNat 256 (t.runs % 2 ^ 64)
  | .status => BitVec.ofNat 256 t.status.toNat

/-- The task `ReadTask` makes of the ten words of an ID. -/
def taskOfWords (w : TaskField → Hash) : Option TaskRecord :=
  if w .scheduler = 0 then none
  else some
    { scheduler := w .scheduler
      target := w .target
      selector := (w .selector).toNat % 2 ^ 32
      taskData := w .taskdata
      gasLimit := (w .gaslimit).toNat % 2 ^ 64
      targetBlock := (w .nextblock).toNat % 2 ^ 64
      intervalBlocks := (w .interval).toNat % 2 ^ 64
      maxRuns := (w .maxruns).toNat % 2 ^ 64
      runs := (w .runs).toNat % 2 ^ 64
      status := UInt8.ofNat ((w .status).toNat % 2 ^ 64) }

/-- A task as it is read back after `WriteTask`: the selector modulo `2 ^ 32` and the `uint64`
fields modulo `2 ^ 64`. -/
def TaskRecord.stored (t : TaskRecord) : TaskRecord :=
  { t with
    selector := t.selector % 2 ^ 32
    gasLimit := t.gasLimit % 2 ^ 64
    targetBlock := t.targetBlock % 2 ^ 64
    intervalBlocks := t.intervalBlocks % 2 ^ 64
    maxRuns := t.maxRuns % 2 ^ 64
    runs := t.runs % 2 ^ 64 }

/-- A task whose numbers fit their widths, as every task read from the storage does. -/
structure TaskRecord.Normal (t : TaskRecord) : Prop where
  /-- The selector. -/
  selector : t.selector < 2 ^ 32
  /-- The gas limit. -/
  gasLimit : t.gasLimit < 2 ^ 64
  /-- The target block. -/
  targetBlock : t.targetBlock < 2 ^ 64
  /-- The interval. -/
  intervalBlocks : t.intervalBlocks < 2 ^ 64
  /-- The limit on runs. -/
  maxRuns : t.maxRuns < 2 ^ 64
  /-- The runs. -/
  runs : t.runs < 2 ^ 64

theorem TaskRecord.stored_of_normal {t : TaskRecord} (h : t.Normal) : t.stored = t := by
  simp only [TaskRecord.stored, Nat.mod_eq_of_lt h.selector, Nat.mod_eq_of_lt h.gasLimit,
    Nat.mod_eq_of_lt h.targetBlock, Nat.mod_eq_of_lt h.intervalBlocks, Nat.mod_eq_of_lt h.maxRuns,
    Nat.mod_eq_of_lt h.runs]

theorem TaskRecord.normal_stored (t : TaskRecord) : t.stored.Normal :=
  ⟨Nat.mod_lt _ (by norm_num), Nat.mod_lt _ (by norm_num), Nat.mod_lt _ (by norm_num),
    Nat.mod_lt _ (by norm_num), Nat.mod_lt _ (by norm_num), Nat.mod_lt _ (by norm_num)⟩

theorem uint64Word_toNat (v : ℕ) :
    (BitVec.ofNat 256 (v % 2 ^ 64)).toNat % 2 ^ 64 = v % 2 ^ 64 := by
  rw [BitVec.toNat_ofNat, Nat.mod_mod_of_dvd _ (by norm_num), Nat.mod_mod]

theorem taskOfWords_taskWord (t : TaskRecord) :
    taskOfWords (taskWord t) = if t.scheduler = 0 then none else some t.stored := by
  have hsel : (BitVec.ofNat 256 (t.selector % 2 ^ 32)).toNat % 2 ^ 32 = t.selector % 2 ^ 32 := by
    rw [BitVec.toNat_ofNat, Nat.mod_mod_of_dvd _ (by norm_num), Nat.mod_mod]
  -- the status word holds one byte, which the `uint64` reader keeps
  have hst : UInt8.ofNat ((BitVec.ofNat 256 t.status.toNat).toNat % 2 ^ 64) = t.status := by
    have hlt : t.status.toNat < 2 ^ 64 := lt_trans t.status.toNat_lt (by norm_num)
    rw [BitVec.toNat_ofNat, Nat.mod_mod_of_dvd _ (by norm_num), Nat.mod_eq_of_lt hlt]
    exact UInt8.ofNat_toNat
  by_cases h : t.scheduler = 0
  · simp [taskOfWords, taskWord, h]
  · simp only [taskOfWords, taskWord, h, if_false, hsel, uint64Word_toNat, hst]
    rfl

/-- The ten words of a task, in `WriteTask`'s order. -/
def taskWrites (taskId : Hash) (t : TaskRecord) : List (TaskKey × Hash) :=
  taskFields.map fun f => (.field taskId f, taskWord t f)

section Access

variable (keccak256 : List UInt8 → Hash)

/-- The length of a block's queue. -/
def qlen (s : StateDB) (blockNum : ℕ) : ℕ :=
  readUint64 s (blockQlenSlot keccak256 blockNum)

/-- The IDs queued at a block: the entries below the queue's length. -/
def queueAt (s : StateDB) (blockNum : ℕ) : List Hash :=
  (List.range (qlen keccak256 s blockNum)).map fun i => keyed keccak256 s (.entry blockNum i)

/-- The nonce of a scheduler. -/
def contractNonce (s : StateDB) (addr : Address) : ℕ :=
  readUint64 s (contractNonceSlot keccak256 addr)

theorem readTask_eq (s : StateDB) (taskId : Hash) :
    readTask keccak256 s taskId = taskOfWords fun f => keyed keccak256 s (.field taskId f) := rfl

theorem writeTask_eq (s : StateDB) (taskId : Hash) (t : TaskRecord) :
    writeTask keccak256 s taskId t = writeKeys keccak256 s (taskWrites taskId t) := rfl

theorem qlen_eq (s : StateDB) (b : ℕ) :
    qlen keccak256 s b = (keyed keccak256 s (.qlen b)).toNat % 2 ^ 64 := rfl

theorem readActiveCount_eq (s : StateDB) (a : Address) :
    readActiveCount keccak256 s a = (keyed keccak256 s (.active a)).toNat % 2 ^ 64 := rfl

theorem contractNonce_eq (s : StateDB) (a : Address) :
    contractNonce keccak256 s a = (keyed keccak256 s (.nonce a)).toNat % 2 ^ 64 := rfl

theorem enqueueTask_eq (s : StateDB) (b : ℕ) (taskId : Hash) :
    enqueueTask keccak256 s b taskId =
      writeKeys keccak256 s [(.entry b (qlen keccak256 s b), taskId),
        (.qlen b, BitVec.ofNat 256 ((qlen keccak256 s b + 1) % 2 ^ 64))] := rfl

theorem dequeueTasksAt_eq (s : StateDB) (b : ℕ) :
    dequeueTasksAt keccak256 s b =
      if qlen keccak256 s b = 0 then (s, [])
      else (writeKeys keccak256 s [(.qlen b, 0)], queueAt keccak256 s b) := rfl

theorem incrementContractNonce_eq (s : StateDB) (a : Address) :
    incrementContractNonce keccak256 s a =
      (writeKeys keccak256 s [(.nonce a, BitVec.ofNat 256 ((contractNonce keccak256 s a + 1) % 2 ^ 64))],
        contractNonce keccak256 s a) := rfl

theorem adjustActiveCount_eq (s : StateDB) (a : Address) (delta : ℤ) :
    adjustActiveCount keccak256 s a delta =
      writeKeys keccak256 s [(.active a, BitVec.ofNat 256 ((
        if delta > 0 then readActiveCount keccak256 s a + 1
        else if delta < 0 ∧ readActiveCount keccak256 s a > 0 then readActiveCount keccak256 s a - 1
        else readActiveCount keccak256 s a) % 2 ^ 64))] := rfl

theorem qlen_lt (s : StateDB) (b : ℕ) : qlen keccak256 s b < 2 ^ 64 :=
  Nat.mod_lt _ (by norm_num)

theorem readActiveCount_lt (s : StateDB) (a : Address) : readActiveCount keccak256 s a < 2 ^ 64 :=
  Nat.mod_lt _ (by norm_num)

theorem contractNonce_lt (s : StateDB) (a : Address) : contractNonce keccak256 s a < 2 ^ 64 :=
  Nat.mod_lt _ (by norm_num)

theorem length_queueAt (s : StateDB) (b : ℕ) : (queueAt keccak256 s b).length = qlen keccak256 s b := by
  simp [queueAt]

/-- **Every task read from the storage fits its widths.** -/
theorem readTask_normal {s : StateDB} {taskId : Hash} {t : TaskRecord}
    (h : readTask keccak256 s taskId = some t) : t.Normal := by
  rw [readTask_eq, taskOfWords] at h
  split_ifs at h
  cases h
  exact ⟨Nat.mod_lt _ (by norm_num), Nat.mod_lt _ (by norm_num), Nat.mod_lt _ (by norm_num),
    Nat.mod_lt _ (by norm_num), Nat.mod_lt _ (by norm_num), Nat.mod_lt _ (by norm_num)⟩

/-- A task read from the storage has a scheduler that is not zero. -/
theorem readTask_scheduler_ne {s : StateDB} {taskId : Hash} {t : TaskRecord}
    (h : readTask keccak256 s taskId = some t) : t.scheduler ≠ 0 := by
  rw [readTask_eq, taskOfWords] at h
  split_ifs at h with h0
  cases h
  exact h0

end Access

/-! ## The books a state holds -/

section View

variable (keccak256 : List UInt8 → Hash) (A : Finset Address) (T : Finset Hash)

/-- The books that the scheduler's words `w` and its balance `escrow` hold: the tasks of `T`, the
queues of the `uint64` blocks, and the counts and nonces of `A`. -/
def booksOf (w : TaskKey → Hash) (escrow : ℤ) : SchedulerView where
  task id := if id ∈ T then taskOfWords fun f => w (.field id f) else none
  queue b :=
    if b < 2 ^ 64 then (List.range ((w (.qlen b)).toNat % 2 ^ 64)).map fun i => w (.entry b i)
    else []
  active a := if a ∈ A then (w (.active a)).toNat % 2 ^ 64 else 0
  nonce a := if a ∈ A then (w (.nonce a)).toNat % 2 ^ 64 else 0
  escrow := escrow

/-- The books a state holds. -/
def schedulerView (s : StateDB) : SchedulerView :=
  booksOf A T (keyed keccak256 s) (s.balance taskSchedulerAddress)

theorem schedulerView_task (s : StateDB) (taskId : Hash) :
    (schedulerView keccak256 A T s).task taskId =
      if taskId ∈ T then readTask keccak256 s taskId else none := rfl

theorem schedulerView_queue (s : StateDB) (b : ℕ) :
    (schedulerView keccak256 A T s).queue b = if b < 2 ^ 64 then queueAt keccak256 s b else [] :=
  rfl

theorem schedulerView_active (s : StateDB) (a : Address) :
    (schedulerView keccak256 A T s).active a =
      if a ∈ A then readActiveCount keccak256 s a else 0 := rfl

theorem schedulerView_nonce (s : StateDB) (a : Address) :
    (schedulerView keccak256 A T s).nonce a = if a ∈ A then contractNonce keccak256 s a else 0 :=
  rfl

theorem schedulerView_escrow (s : StateDB) :
    (schedulerView keccak256 A T s).escrow = s.balance taskSchedulerAddress := rfl

end View

section BooksOf

variable {A : Finset Address} {T : Finset Hash} {w w' : TaskKey → Hash} {e : ℤ}

/-- **The books read only the words of `A`, `T` and the `uint64` queues.** -/
theorem booksOf_congr (h : ∀ k, k.Within A T → w' k = w k) (e : ℤ) :
    booksOf A T w' e = booksOf A T w e := by
  ext1
  · funext x
    simp only [booksOf]
    split_ifs with hx
    · exact congrArg taskOfWords (funext fun f => h _ hx)
    · rfl
  · funext b
    simp only [booksOf]
    split_ifs with hb
    · -- the entries read are those below the length, which is a `uint64`
      rw [h _ hb]
      refine List.map_congr_left fun i hi => h _ ⟨hb, ?_⟩
      exact lt_trans (List.mem_range.mp hi) (Nat.mod_lt _ (by norm_num))
    · rfl
  · funext a
    simp only [booksOf]
    split_ifs with ha
    · rw [h _ ha]
    · rfl
  · funext a
    simp only [booksOf]
    split_ifs with ha
    · rw [h _ ha]
    · rfl
  · rfl

theorem booksOf_task_of_agree {x : Hash} (h : ∀ f, w' (.field x f) = w (.field x f)) (e' : ℤ) :
    (booksOf A T w' e).task x = (booksOf A T w e').task x := by
  simp only [booksOf, h]

theorem booksOf_queue_of_agree {b : ℕ} (hq : w' (.qlen b) = w (.qlen b))
    (he : ∀ i, w' (.entry b i) = w (.entry b i)) (e' : ℤ) :
    (booksOf A T w' e).queue b = (booksOf A T w e').queue b := by
  simp only [booksOf, hq, he]

theorem booksOf_active_of_agree {a : Address} (h : w' (.active a) = w (.active a)) (e' : ℤ) :
    (booksOf A T w' e).active a = (booksOf A T w e').active a := by
  simp only [booksOf, h]

theorem booksOf_nonce_of_agree {a : Address} (h : w' (.nonce a) = w (.nonce a)) (e' : ℤ) :
    (booksOf A T w' e).nonce a = (booksOf A T w e').nonce a := by
  simp only [booksOf, h]

/-! Each writer of `state.go`, at the level of the words: one update of the books. -/

theorem run_taskWrites_field (taskId : Hash) (t : TaskRecord) (f : TaskField) :
    WriteLoop.run Prod.fst Prod.snd (taskWrites taskId t) w (.field taskId f) = taskWord t f := by
  refine WriteLoop.run_apply_key Prod.fst Prod.snd _ w (.field taskId f, taskWord t f)
    (List.mem_map.mpr ⟨f, mem_taskFields f, rfl⟩) fun j hj heq => ?_
  obtain ⟨g, -, rfl⟩ := List.mem_map.mp hj
  cases heq
  rfl

theorem run_taskWrites_of_ne (taskId : Hash) (t : TaskRecord) {k : TaskKey}
    (hk : ∀ f, k ≠ .field taskId f) : WriteLoop.run Prod.fst Prod.snd (taskWrites taskId t) w k = w k :=
  WriteLoop.run_apply_of_forall_ne _ _ _ _ _ fun j hj => by
    obtain ⟨g, -, rfl⟩ := List.mem_map.mp hj
    exact (hk g).symm

/-- Writing a task. -/
theorem booksOf_taskWrites {taskId : Hash} (hid : taskId ∈ T) {t : TaskRecord}
    (h0 : t.scheduler ≠ 0) (e : ℤ) :
    booksOf A T (WriteLoop.run Prod.fst Prod.snd (taskWrites taskId t) w) e =
      (booksOf A T w e).setTask taskId t.stored := by
  have hne : ∀ {k : TaskKey}, (∀ f, k ≠ .field taskId f) →
      WriteLoop.run Prod.fst Prod.snd (taskWrites taskId t) w k = w k := run_taskWrites_of_ne _ _
  ext1
  · funext x
    rw [SchedulerView.setTask_task, Function.update_apply]
    split_ifs with hx
    · subst hx
      simp only [booksOf, if_pos hid, run_taskWrites_field]
      rw [show (fun f => taskWord t f) = taskWord t from rfl, taskOfWords_taskWord, if_neg h0]
    · exact booksOf_task_of_agree (fun f => hne fun g heq => hx (TaskKey.field.inj heq).1) e
  · funext b
    exact booksOf_queue_of_agree (hne fun _ => TaskKey.noConfusion)
      (fun _ => hne fun _ => TaskKey.noConfusion) e
  · funext a
    exact booksOf_active_of_agree (hne fun _ => TaskKey.noConfusion) e
  · funext a
    exact booksOf_nonce_of_agree (hne fun _ => TaskKey.noConfusion) e
  · rfl

/-- Appending to a queue whose length `n` is not the last `uint64`. -/
theorem booksOf_enqueueWrites {b n : ℕ} (hb : b < 2 ^ 64) (hn : (w (.qlen b)).toNat % 2 ^ 64 = n)
    (hroom : n + 1 < 2 ^ 64) (taskId : Hash) (e : ℤ) :
    booksOf A T (Function.update (Function.update w (.entry b n) taskId) (.qlen b)
        (BitVec.ofNat 256 ((n + 1) % 2 ^ 64))) e = (booksOf A T w e).enqueue b taskId := by
  ext1
  · funext x
    exact booksOf_task_of_agree (fun f => by simp) e
  · funext b'
    rw [SchedulerView.enqueue_queue, Function.update_apply]
    split_ifs with hb'
    · -- the queue of `b`: the entries below `n` as they were, then the ID at `n`
      subst hb'
      have hlen : (BitVec.ofNat 256 ((n + 1) % 2 ^ 64)).toNat % 2 ^ 64 = n + 1 := by
        rw [uint64Word_toNat, Nat.mod_eq_of_lt hroom]
      simp only [booksOf, if_pos hb, Function.update_self, hlen, hn, List.range_succ,
        List.map_append, List.map_singleton]
      simp only [Function.update_apply, reduceCtorEq, if_false, TaskKey.entry.injEq, true_and,
        if_true]
      exact congrArg (· ++ [taskId])
        (List.map_congr_left fun i hi => if_neg (List.mem_range.mp hi).ne)
    · exact booksOf_queue_of_agree (by simp [hb'])
        (fun i => by simp [hb']) e
  · funext a
    exact booksOf_active_of_agree (by simp) e
  · funext a
    exact booksOf_nonce_of_agree (by simp) e
  · rfl

/-- Resetting a queue's length. -/
theorem booksOf_clearWrites (b : ℕ) (e : ℤ) :
    booksOf A T (Function.update w (.qlen b) 0) e = (booksOf A T w e).clearQueue b := by
  ext1
  · funext x
    exact booksOf_task_of_agree (fun f => by simp) e
  · funext b'
    rw [SchedulerView.clearQueue_queue, Function.update_apply]
    split_ifs with hb'
    · subst hb'
      simp [booksOf]
    · exact booksOf_queue_of_agree (by simp [hb'])
        (fun i => by simp) e
  · funext a
    exact booksOf_active_of_agree (by simp) e
  · funext a
    exact booksOf_nonce_of_agree (by simp) e
  · rfl

/-- Counting a nonce up. -/
theorem booksOf_nonceWrites {a : Address} (ha : a ∈ A) (e : ℤ) :
    booksOf A T (Function.update w (.nonce a)
        (BitVec.ofNat 256 (((w (.nonce a)).toNat % 2 ^ 64 + 1) % 2 ^ 64))) e =
      (booksOf A T w e).bumpNonce a := by
  ext1
  · funext x
    exact booksOf_task_of_agree (fun f => by simp) e
  · funext b
    exact booksOf_queue_of_agree (by simp)
      (fun i => by simp) e
  · funext x
    exact booksOf_active_of_agree (by simp) e
  · funext x
    rw [SchedulerView.bumpNonce_nonce, Function.update_apply]
    split_ifs with hx
    · subst hx
      simp only [booksOf, if_pos ha, Function.update_self, uint64Word_toNat]
    · exact booksOf_nonce_of_agree (by simp [hx]) e
  · rfl

/-- Setting a count. -/
theorem booksOf_activeWrites {a : Address} (ha : a ∈ A) (m : ℕ) (e : ℤ) :
    booksOf A T (Function.update w (.active a) (BitVec.ofNat 256 (m % 2 ^ 64))) e =
      { booksOf A T w e with
        active := Function.update (booksOf A T w e).active a (m % 2 ^ 64) } := by
  ext1
  · funext x
    exact booksOf_task_of_agree (fun f => by simp) e
  · funext b
    exact booksOf_queue_of_agree (by simp)
      (fun i => by simp) e
  · funext x
    dsimp only
    rw [Function.update_apply]
    split_ifs with hx
    · subst hx
      simp only [booksOf, if_pos ha, Function.update_self, uint64Word_toNat]
    · exact booksOf_active_of_agree (by simp [hx]) e
  · funext x
    exact booksOf_nonce_of_agree (by simp) e
  · rfl

end BooksOf

/-! ## The writers as updates of the books -/

section Balances

variable {keccak256 : List UInt8 → Hash} {A : Finset Address} {T : Finset Hash}

theorem schedulerView_addBalance_self (s : StateDB) (x : ℤ) :
    schedulerView keccak256 A T (VmStateDB.addBalance s taskSchedulerAddress x) =
      (schedulerView keccak256 A T s).addEscrow x := by
  show booksOf A T (keyed keccak256 s) _ = _
  rw [StateDB.balance_addBalance, if_pos rfl]
  rfl

theorem schedulerView_subBalance_self (s : StateDB) (x : ℤ) :
    schedulerView keccak256 A T (VmStateDB.subBalance s taskSchedulerAddress x) =
      (schedulerView keccak256 A T s).addEscrow (-x) := by
  show booksOf A T (keyed keccak256 s) _ = _
  rw [StateDB.balance_subBalance, if_pos rfl, sub_eq_add_neg]
  rfl

theorem schedulerView_addBalance_of_ne (s : StateDB) {a : Address} (ha : a ≠ taskSchedulerAddress)
    (x : ℤ) : schedulerView keccak256 A T (VmStateDB.addBalance s a x) = schedulerView keccak256 A T s := by
  show booksOf A T (keyed keccak256 s) _ = _
  rw [StateDB.balance_addBalance, if_neg ha.symm]
  rfl

theorem schedulerView_subBalance_of_ne (s : StateDB) {a : Address} (ha : a ≠ taskSchedulerAddress)
    (x : ℤ) : schedulerView keccak256 A T (VmStateDB.subBalance s a x) = schedulerView keccak256 A T s := by
  show booksOf A T (keyed keccak256 s) _ = _
  rw [StateDB.balance_subBalance, if_neg ha.symm]
  rfl

theorem schedulerView_addLog (s : StateDB) (l : Log) :
    schedulerView keccak256 A T (VmStateDB.addLog s l) = schedulerView keccak256 A T s := rfl

theorem dequeueTasksAt_ids (s : StateDB) {b : ℕ} (hb : b < 2 ^ 64) :
    (dequeueTasksAt keccak256 s b).2 = (schedulerView keccak256 A T s).queue b := by
  rw [dequeueTasksAt_eq, schedulerView_queue, if_pos hb]
  split_ifs with h0
  · simp [queueAt, h0]
  · rfl

theorem incrementContractNonce_nonce (s : StateDB) {a : Address} (ha : a ∈ A) :
    (incrementContractNonce keccak256 s a).2 = (schedulerView keccak256 A T s).nonce a := by
  rw [incrementContractNonce_eq, schedulerView_nonce, if_pos ha]

end Balances

section Refine

variable {keccak256 : List UInt8 → Hash} {A : Finset Address} {T : Finset Hash}
  (hslots : TaskSlotsDistinct keccak256 A T)
include hslots

/-- **Writes of the words of `A`, `T` and the queues** are writes of the keys, as the books read
them. -/
theorem keyed_writeKeys_eq (s : StateDB) {ws : List (TaskKey × Hash)}
    (hws : ∀ w ∈ ws, w.1.Within A T) {k : TaskKey} (hk : k.Within A T) :
    keyed keccak256 (writeKeys keccak256 s ws) k =
      WriteLoop.run Prod.fst Prod.snd ws (keyed keccak256 s) k := by
  rw [keyed_writeKeys]
  exact WriteLoop.run_comp_apply (taskKeySlot keccak256) Prod.fst Prod.snd ws _ k
    fun w hw heq => hslots (hws w hw) hk heq

theorem schedulerView_writeKeys (s : StateDB) {ws : List (TaskKey × Hash)}
    (hws : ∀ w ∈ ws, w.1.Within A T) :
    schedulerView keccak256 A T (writeKeys keccak256 s ws) =
      booksOf A T (WriteLoop.run Prod.fst Prod.snd ws (keyed keccak256 s))
        (s.balance taskSchedulerAddress) := by
  rw [schedulerView, balance_writeKeys]
  exact booksOf_congr (fun k hk => keyed_writeKeys_eq hslots s hws hk) _

/-- `WriteTask` of a task of `T` with a scheduler: the task is read back with its numbers cut to
their widths. -/
theorem schedulerView_writeTask (s : StateDB) {taskId : Hash} (hid : taskId ∈ T) (t : TaskRecord)
    (h0 : t.scheduler ≠ 0) :
    schedulerView keccak256 A T (writeTask keccak256 s taskId t) =
      (schedulerView keccak256 A T s).setTask taskId t.stored := by
  have hws : ∀ w ∈ taskWrites taskId t, w.1.Within A T := fun w hw => by
    obtain ⟨f, -, rfl⟩ := List.mem_map.mp hw
    exact hid
  rw [writeTask_eq, schedulerView_writeKeys hslots s hws, booksOf_taskWrites hid h0]
  rfl

/-- `EnqueueTask` at a `uint64` block whose queue is shorter than the last `uint64`. -/
theorem schedulerView_enqueueTask (s : StateDB) {b : ℕ} (hb : b < 2 ^ 64)
    (hroom : ((schedulerView keccak256 A T s).queue b).length + 1 < 2 ^ 64) (taskId : Hash) :
    schedulerView keccak256 A T (enqueueTask keccak256 s b taskId) =
      (schedulerView keccak256 A T s).enqueue b taskId := by
  have hlen : ((schedulerView keccak256 A T s).queue b).length = qlen keccak256 s b := by
    rw [schedulerView_queue, if_pos hb, length_queueAt]
  have hws : ∀ w ∈ [(TaskKey.entry b (qlen keccak256 s b), taskId),
      (TaskKey.qlen b, BitVec.ofNat 256 ((qlen keccak256 s b + 1) % 2 ^ 64))], w.1.Within A T := by
    intro w hw
    simp only [List.mem_cons, List.not_mem_nil, or_false] at hw
    rcases hw with rfl | rfl
    · exact ⟨hb, qlen_lt keccak256 s b⟩
    · exact hb
  rw [enqueueTask_eq, schedulerView_writeKeys hslots s hws]
  simp only [WriteLoop.run_cons, WriteLoop.run_nil]
  exact booksOf_enqueueWrites hb (qlen_eq keccak256 s b).symm (hlen ▸ hroom) taskId _

/-- `DequeueTasksAt` at a `uint64` block empties its queue. -/
theorem schedulerView_dequeueTasksAt (s : StateDB) {b : ℕ} (hb : b < 2 ^ 64) :
    schedulerView keccak256 A T (dequeueTasksAt keccak256 s b).1 =
      (schedulerView keccak256 A T s).clearQueue b := by
  rw [dequeueTasksAt_eq]
  split_ifs with h0
  · -- an empty queue is left as it is
    rw [SchedulerView.clearQueue_of_nil]
    rw [schedulerView_queue, if_pos hb]
    simp [queueAt, h0]
  · have hws : ∀ w ∈ [(TaskKey.qlen b, (0 : Hash))], w.1.Within A T := by
      intro w hw
      rw [List.mem_singleton] at hw
      subst hw
      exact hb
    rw [schedulerView_writeKeys hslots s hws]
    simp only [WriteLoop.run_cons, WriteLoop.run_nil]
    exact booksOf_clearWrites b _

/-- `IncrementContractNonce` of a scheduler of `A`. -/
theorem schedulerView_incrementContractNonce (s : StateDB) {a : Address} (ha : a ∈ A) :
    schedulerView keccak256 A T (incrementContractNonce keccak256 s a).1 =
      (schedulerView keccak256 A T s).bumpNonce a := by
  have hws : ∀ w ∈ [(TaskKey.nonce a,
      BitVec.ofNat 256 ((contractNonce keccak256 s a + 1) % 2 ^ 64))], w.1.Within A T := by
    intro w hw
    rw [List.mem_singleton] at hw
    subst hw
    exact ha
  rw [incrementContractNonce_eq, schedulerView_writeKeys hslots s hws]
  simp only [WriteLoop.run_cons, WriteLoop.run_nil]
  exact booksOf_nonceWrites ha _

/-- `AdjustActiveCount` of a scheduler of `A`: its count set as the code computes it. -/
theorem schedulerView_adjustActiveCount (s : StateDB) {a : Address} (ha : a ∈ A) (delta : ℤ) :
    schedulerView keccak256 A T (adjustActiveCount keccak256 s a delta) =
      let n := (schedulerView keccak256 A T s).active a
      { schedulerView keccak256 A T s with
        active := Function.update (schedulerView keccak256 A T s).active a
          ((if delta > 0 then n + 1 else if delta < 0 ∧ n > 0 then n - 1 else n) % 2 ^ 64) } := by
  have hws : ∀ w ∈ [(TaskKey.active a, BitVec.ofNat 256 ((
      if delta > 0 then readActiveCount keccak256 s a + 1
      else if delta < 0 ∧ readActiveCount keccak256 s a > 0 then readActiveCount keccak256 s a - 1
      else readActiveCount keccak256 s a) % 2 ^ 64))], w.1.Within A T := by
    intro w hw
    rw [List.mem_singleton] at hw
    subst hw
    exact ha
  have hn : (schedulerView keccak256 A T s).active a = readActiveCount keccak256 s a := by
    rw [schedulerView_active, if_pos ha]
  rw [adjustActiveCount_eq, schedulerView_writeKeys hslots s hws]
  simp only [WriteLoop.run_cons, WriteLoop.run_nil]
  rw [booksOf_activeWrites ha, hn]
  rfl

theorem schedulerView_adjustActiveCount_one (s : StateDB) {a : Address} (ha : a ∈ A) :
    schedulerView keccak256 A T (adjustActiveCount keccak256 s a 1) =
      (schedulerView keccak256 A T s).incActive a := by
  rw [schedulerView_adjustActiveCount hslots s ha]
  simp only [gt_iff_lt, Int.reduceLT, if_true]
  rfl

/-- A count taken down, as `decActive` does: by one, or left at zero. -/
theorem schedulerView_adjustActiveCount_neg_one (s : StateDB) {a : Address} (ha : a ∈ A) :
    schedulerView keccak256 A T (adjustActiveCount keccak256 s a (-1)) =
      (schedulerView keccak256 A T s).decActive a := by
  have hlt : (schedulerView keccak256 A T s).active a < 2 ^ 64 := by
    rw [schedulerView_active, if_pos ha]
    exact readActiveCount_lt keccak256 s a
  -- the code's saturating decrement is truncated subtraction
  have hval : ∀ n : ℕ, n < 2 ^ 64 → (if 0 < n then n - 1 else n) % 2 ^ 64 = n - 1 := by
    intro n hn
    split_ifs with hpos
    · exact Nat.mod_eq_of_lt (by omega)
    · rw [Nat.mod_eq_of_lt hn]
      omega
  rw [schedulerView_adjustActiveCount hslots s ha]
  simp only [gt_iff_lt, Int.reduceLT, Int.reduceNeg, if_false, true_and, hval _ hlt]
  rfl

end Refine

end Gtos.Task
