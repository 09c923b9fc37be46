import Mathlib.Algebra.BigOperators.Group.Finset.Basic
import Mathlib.Data.Set.Function
import Mathlib.Tactic.Linarith
import Gtos.Lib.Tally
import Gtos.Task.State

/-! # The scheduler's books

What the task code keeps in the account of `TaskSchedulerAddress`, as the code reads it
(`SchedulerView`): the task of each ID, the queue of each block, the count of pending tasks and
the nonce of each scheduler, and the balance, which holds the deposits. Each path of the code
changes these by a few updates: scheduling (`schedule`), cancelling (`cancel`), and, for a task the
block processor takes from its queue, finishing it (`retire`), queueing it again with a new
deposit (`reschedule`), or deferring it (`requeue`); `settle` chooses among these as the code
does after a callback.

`Books` is what these updates keep, over a set `A` of schedulers and a set `T` of task IDs, the IDs
being minted by `mint` from a scheduler, a target block and a nonce:

* **`TasksInv`** — every task has an ID of `T` and a scheduler of `A`, a gas limit the checks
  allow, at most `MaxRuns` runs, and was minted with a nonce its scheduler has used; and every
  nonce used minted a task. Minting is injective (`MintDistinct`), so the ID of the next nonce
  names no task (`task_mint_nonce`).
* **`QueuesInv b inflight`** — every pending task is in the queue of its target block, queues have
  no repeated ID and name only tasks. While the block processor works through the IDs `inflight`
  it took from the queue of block `b`, a pending task may be among them instead.
* **`ActiveInv`** — each scheduler's count is its number of pending tasks.
* **`Solvent`** — the balance covers the deposits of the pending tasks. -/

namespace Gtos.Task

/-- The account of `TaskSchedulerAddress` as the task code reads it. -/
@[ext] structure SchedulerView where
  /-- `ReadTask`. -/
  task : Hash → Option TaskRecord
  /-- The IDs queued at each block. -/
  queue : ℕ → List Hash
  /-- `ReadActiveCount`. -/
  active : Address → ℕ
  /-- The nonce of each scheduler. -/
  nonce : Address → ℕ
  /-- The balance. -/
  escrow : ℤ

namespace SchedulerView

/-! ## The updates -/

section Updates

variable (v : SchedulerView)

/-- A task written. -/
@[simps -fullyApplied] def setTask (id : Hash) (r : TaskRecord) : SchedulerView :=
  { v with task := Function.update v.task id (some r) }

/-- An ID appended to a queue. -/
@[simps -fullyApplied] def enqueue (b : ℕ) (id : Hash) : SchedulerView :=
  { v with queue := Function.update v.queue b (v.queue b ++ [id]) }

/-- A queue emptied. -/
@[simps -fullyApplied] def clearQueue (b : ℕ) : SchedulerView :=
  { v with queue := Function.update v.queue b [] }

/-- A count up by one, as a `uint64`. -/
@[simps -fullyApplied] def incActive (a : Address) : SchedulerView :=
  { v with active := Function.update v.active a ((v.active a + 1) % 2 ^ 64) }

/-- A count down by one, or left at zero. -/
@[simps -fullyApplied] def decActive (a : Address) : SchedulerView :=
  { v with active := Function.update v.active a (v.active a - 1) }

/-- A nonce up by one, as a `uint64`. -/
@[simps -fullyApplied] def bumpNonce (a : Address) : SchedulerView :=
  { v with nonce := Function.update v.nonce a ((v.nonce a + 1) % 2 ^ 64) }

/-- The balance moved by `x`. -/
@[simps -fullyApplied] def addEscrow (x : ℤ) : SchedulerView :=
  { v with escrow := v.escrow + x }

/-- `scheduleTask`: the deposit, the scheduler's nonce, the task, its queue and its count. -/
def schedule (id : Hash) (r : TaskRecord) : SchedulerView :=
  ((((v.addEscrow (gasCost r.gasLimit)).bumpNonce r.scheduler).setTask id r).enqueue r.targetBlock
    id).incActive r.scheduler

/-- `cancelTask`: the deposit refunded, the task cancelled and uncounted. -/
def cancel (id : Hash) (r : TaskRecord) : SchedulerView :=
  ((v.addEscrow (-gasCost r.gasLimit)).setTask id { r with status := taskCancelled }).decActive
    r.scheduler

/-- `retireTask`: the task written with its final status, and uncounted. -/
def retire (id : Hash) (r : TaskRecord) (status : UInt8) : SchedulerView :=
  (v.setTask id { r with status := status }).decActive r.scheduler

/-- A task queued again at block `nb`, its deposit paid again. -/
def reschedule (id : Hash) (r : TaskRecord) (nb : ℕ) : SchedulerView :=
  ((v.addEscrow (gasCost r.gasLimit)).setTask id { r with targetBlock := nb }).enqueue nb id

/-- A deferred task queued at block `nb`. -/
def requeue (id : Hash) (r : TaskRecord) (nb : ℕ) : SchedulerView :=
  (v.setTask id { r with targetBlock := nb }).enqueue nb id

/-- `settleTask` at block `b`: the unused gas refunded and the run counted, then the task retired
or, when `afford` (the scheduler can pay the deposit again), queued again. -/
def settle (b : ℕ) (id : Hash) (r : TaskRecord) (gasUsed : ℕ) (afford : Bool) : SchedulerView :=
  let v := v.addEscrow (-gasCost (r.gasLimit - gasUsed))
  let r := { r with runs := (r.runs + 1) % 2 ^ 64 }
  let exhausted := r.maxRuns > 0 ∧ r.runs ≥ r.maxRuns
  let isOneShot := r.intervalBlocks = 0
  if isOneShot ∨ exhausted then
    v.retire id r (if exhausted ∧ ¬ isOneShot then taskExpired else taskDone)
  else
    let nb := (b + r.intervalBlocks) % 2 ^ 64
    if nb < b then v.retire id r taskExpired
    else if afford then v.reschedule id r nb
    else v.retire id { r with targetBlock := nb } taskExpired

end Updates

/-! ## What the books owe -/

/-- Whether `id` names a task of `a` that is pending. -/
def pendingBy (v : SchedulerView) (a : Address) (id : Hash) : Bool :=
  match v.task id with
  | some r => r.status = taskPending ∧ r.scheduler = a
  | none => false

/-- The gas a task's deposit pays for, while it is pending. -/
def owed (v : SchedulerView) (id : Hash) : ℕ :=
  match v.task id with
  | some r => if r.status = taskPending then r.gasLimit else 0
  | none => 0

/-- The number of pending tasks of `a` among the IDs of `T`. -/
def pendingCount (T : Finset Hash) (v : SchedulerView) (a : Address) : ℕ :=
  (T.filter fun id => v.pendingBy a id).card

theorem pendingBy_setTask (v : SchedulerView) (id : Hash) (r : TaskRecord) (a : Address)
    (x : Hash) : (v.setTask id r).pendingBy a x =
      if x = id then decide (r.status = taskPending ∧ r.scheduler = a) else v.pendingBy a x := by
  by_cases hx : x = id
  · subst hx
    simp [pendingBy]
  · simp [pendingBy, hx]

theorem owed_setTask (v : SchedulerView) (id : Hash) (r : TaskRecord) (x : Hash) :
    (v.setTask id r).owed x =
      if x = id then (if r.status = taskPending then r.gasLimit else 0) else v.owed x := by
  by_cases hx : x = id
  · subst hx
    simp [owed]
  · simp [owed, hx]

theorem owed_of_task {v : SchedulerView} {id : Hash} {r : TaskRecord} (h : v.task id = some r)
    (hp : r.status = taskPending) : v.owed id = r.gasLimit := by
  simp [owed, h, hp]

theorem pendingBy_of_task {v : SchedulerView} {id : Hash} {r : TaskRecord}
    (h : v.task id = some r) (hp : r.status = taskPending) : v.pendingBy r.scheduler id = true := by
  simp [pendingBy, h, hp]

end SchedulerView

open SchedulerView

/-! ## The invariants -/

section Invariants

variable (mint : Address → ℕ → ℕ → Hash) (A : Finset Address) (T : Finset Hash)

/-- Minting is one-to-one on the schedulers of `A` and the `uint64` blocks and nonces. -/
def MintDistinct : Prop :=
  Set.InjOn (fun x : Address × ℕ × ℕ => mint x.1 x.2.1 x.2.2)
    {x | x.1 ∈ A ∧ x.2.1 < 2 ^ 64 ∧ x.2.2 < 2 ^ 64}

/-- The tasks. -/
structure TasksInv (v : SchedulerView) : Prop where
  /-- Every task has an ID of `T`. -/
  mem : ∀ id r, v.task id = some r → id ∈ T
  /-- Every task has a scheduler of `A`. -/
  scheduler : ∀ id r, v.task id = some r → r.scheduler ∈ A
  /-- Every gas limit is one the checks allow. -/
  gasLimit : ∀ id r, v.task id = some r → r.gasLimit ≤ taskMaxGasLimit
  /-- A task with a limit on its runs has not run more often, and a pending one less often. -/
  runs : ∀ id r, v.task id = some r → 0 < r.maxRuns →
    r.runs ≤ r.maxRuns ∧ (r.status = taskPending → r.runs < r.maxRuns)
  /-- Every task was minted by its scheduler with a nonce it has used. -/
  minted : ∀ id r, v.task id = some r →
    ∃ tb n, tb < 2 ^ 64 ∧ n < v.nonce r.scheduler ∧ id = mint r.scheduler tb n
  /-- Every nonce a scheduler has used minted a task. -/
  used : ∀ a ∈ A, ∀ n < v.nonce a, ∃ tb, tb < 2 ^ 64 ∧ v.task (mint a tb n) ≠ none
  /-- The nonces are `uint64`s. -/
  nonce_lt : ∀ a ∈ A, v.nonce a < 2 ^ 64

/-- The queues, while the IDs `inflight` from the queue of block `b` are being processed. -/
structure QueuesInv (b : ℕ) (inflight : List Hash) (v : SchedulerView) : Prop where
  /-- No queue repeats an ID. -/
  nodup : ∀ b', (v.queue b').Nodup
  /-- A queue names only tasks. -/
  task : ∀ b' id, id ∈ v.queue b' → v.task id ≠ none
  /-- A pending task in a queue is in the queue of its target block. -/
  target : ∀ b' id r, id ∈ v.queue b' → v.task id = some r → r.status = taskPending →
    r.targetBlock = b'
  /-- Every pending task is queued at its target block, or in flight. -/
  queued : ∀ id r, v.task id = some r → r.status = taskPending →
    id ∈ v.queue r.targetBlock ∨ id ∈ inflight
  /-- No ID is in flight twice. -/
  inflight_nodup : inflight.Nodup
  /-- The IDs in flight name tasks. -/
  inflight_task : ∀ id ∈ inflight, v.task id ≠ none
  /-- A pending task in flight is due at `b`. -/
  inflight_target : ∀ id ∈ inflight, ∀ r, v.task id = some r → r.status = taskPending →
    r.targetBlock = b
  /-- The IDs in flight have left the queue of `b`. -/
  inflight_off : ∀ id ∈ inflight, id ∉ v.queue b

/-- Each scheduler's count is its number of pending tasks. -/
def ActiveInv (v : SchedulerView) : Prop :=
  ∀ a ∈ A, v.active a = pendingCount T v a

/-- The balance covers the deposits of the pending tasks. -/
def Solvent (v : SchedulerView) : Prop :=
  gasCost (∑ id ∈ T, v.owed id) ≤ v.escrow

/-- **The books**, outside a block's processing. -/
structure Books (v : SchedulerView) : Prop where
  /-- The tasks. -/
  tasks : TasksInv mint A T v
  /-- The queues. -/
  queues : QueuesInv 0 [] v
  /-- The counts. -/
  active : ActiveInv A T v
  /-- The balance. -/
  solvent : Solvent T v

end Invariants

/-- Two IDs minted alike came from the same scheduler, block and nonce. -/
theorem MintDistinct.eq {mint : Address → ℕ → ℕ → Hash} {A : Finset Address}
    (hmint : MintDistinct mint A) {a a' : Address} {tb tb' n n' : ℕ} (ha : a ∈ A) (ha' : a' ∈ A)
    (htb : tb < 2 ^ 64) (htb' : tb' < 2 ^ 64) (hn : n < 2 ^ 64) (hn' : n' < 2 ^ 64)
    (h : mint a tb n = mint a' tb' n') : a = a' ∧ tb = tb' ∧ n = n' := by
  have hmem : (a, tb, n) ∈ {x : Address × ℕ × ℕ | x.1 ∈ A ∧ x.2.1 < 2 ^ 64 ∧ x.2.2 < 2 ^ 64} :=
    ⟨ha, htb, hn⟩
  have hmem' : (a', tb', n') ∈ {x : Address × ℕ × ℕ | x.1 ∈ A ∧ x.2.1 < 2 ^ 64 ∧ x.2.2 < 2 ^ 64} :=
    ⟨ha', htb', hn'⟩
  simpa only [Prod.mk.injEq] using hmint hmem hmem' h

/-! ## Costs -/

theorem gasCost_add (a b : ℕ) : gasCost (a + b) = gasCost a + gasCost b := by
  simp only [gasCost, Nat.cast_add, add_mul]

theorem gasCost_mono {a b : ℕ} (h : a ≤ b) : gasCost a ≤ gasCost b :=
  Int.mul_le_mul_of_nonneg_right (Int.ofNat_le.mpr h) (by decide)

theorem gasCost_nonneg (a : ℕ) : 0 ≤ gasCost a :=
  Int.mul_nonneg (Int.natCast_nonneg a) (by decide)

namespace SchedulerView

/-- A task read after a write: the written one, or the one before. -/
theorem setTask_task_eq_some {v : SchedulerView} {id x : Hash} {r q : TaskRecord}
    (h : (v.setTask id r).task x = some q) : (x = id ∧ q = r) ∨ (x ≠ id ∧ v.task x = some q) := by
  rw [setTask_task, Function.update_apply] at h
  split_ifs at h with hx
  · exact .inl ⟨hx, (Option.some_inj.mp h).symm⟩
  · exact .inr ⟨hx, h⟩

theorem setTask_task_ne_none {v : SchedulerView} {id x : Hash} {r : TaskRecord}
    (h : v.task x ≠ none) : (v.setTask id r).task x ≠ none := by
  rw [setTask_task, Function.update_apply]
  split_ifs
  · exact Option.some_ne_none r
  · exact h

@[simp] theorem addEscrow_zero (v : SchedulerView) : v.addEscrow 0 = v := by
  simp [addEscrow]

/-- Emptying an empty queue changes nothing. -/
theorem clearQueue_of_nil {v : SchedulerView} {b : ℕ} (h : v.queue b = []) : v.clearQueue b = v := by
  ext1
  · rfl
  · rw [clearQueue_queue, ← h, Function.update_eq_self]
  all_goals rfl

end SchedulerView

/-! ## What the updates keep: the tasks -/

namespace TasksInv

variable {mint : Address → ℕ → ℕ → Hash} {A : Finset Address} {T : Finset Hash}
  {v : SchedulerView}

/-- The tasks and the nonces are all the invariant reads. -/
theorem congr (h : TasksInv mint A T v) {v' : SchedulerView} (htask : v'.task = v.task)
    (hnonce : v'.nonce = v.nonce) : TasksInv mint A T v' where
  mem id r hr := h.mem id r (htask ▸ hr)
  scheduler id r hr := h.scheduler id r (htask ▸ hr)
  gasLimit id r hr := h.gasLimit id r (htask ▸ hr)
  runs id r hr := h.runs id r (htask ▸ hr)
  minted id r hr := hnonce ▸ h.minted id r (htask ▸ hr)
  used a ha n hn := htask ▸ h.used a ha n (hnonce ▸ hn)
  nonce_lt a ha := hnonce ▸ h.nonce_lt a ha

/-- **A scheduler has used no more nonces than there are IDs**: each nonce minted a task of its
own. -/
theorem nonce_le_card (h : TasksInv mint A T v) (hmint : MintDistinct mint A) {a : Address}
    (ha : a ∈ A) : v.nonce a ≤ T.card := by
  classical
  choose tb htb hne using h.used a ha
  let f : ℕ → Hash := fun n => if hn : n < v.nonce a then mint a (tb n hn) n else 0
  have hmaps : Set.MapsTo f (Finset.range (v.nonce a)) T := by
    intro n hn
    have hn' : n < v.nonce a := Finset.mem_range.mp hn
    obtain ⟨r, hr⟩ := Option.ne_none_iff_exists'.mp (hne n hn')
    simp only [f, dif_pos hn']
    exact h.mem _ r hr
  have hinj : Set.InjOn f (Finset.range (v.nonce a)) := by
    intro n hn m hm hfm
    have hn' : n < v.nonce a := Finset.mem_range.mp hn
    have hm' : m < v.nonce a := Finset.mem_range.mp hm
    simp only [f, dif_pos hn', dif_pos hm'] at hfm
    have hlt := h.nonce_lt a ha
    exact (hmint.eq ha ha (htb n hn') (htb m hm') (by omega) (by omega) hfm).2.2
  simpa using Finset.card_le_card_of_injOn f hmaps hinj

/-- **The next ID is fresh**: the ID minted with a scheduler's next nonce names no task. -/
theorem task_mint_nonce (h : TasksInv mint A T v) (hmint : MintDistinct mint A) {a : Address}
    (ha : a ∈ A) {tb : ℕ} (htb : tb < 2 ^ 64) : v.task (mint a tb (v.nonce a)) = none := by
  rcases hr : v.task (mint a tb (v.nonce a)) with _ | r
  · rfl
  · obtain ⟨tb', n', htb', hn', heq⟩ := h.minted _ r hr
    have hsa := h.scheduler _ r hr
    obtain ⟨rfl, -, hn⟩ := hmint.eq ha hsa htb htb' (h.nonce_lt a ha)
      (lt_trans hn' (h.nonce_lt _ hsa)) heq
    omega

/-- Rewriting a task with the same scheduler and gas limit, and runs within its limit. -/
theorem setTask_of_task (h : TasksInv mint A T v) {id : Hash} {r r' : TaskRecord}
    (hid : v.task id = some r) (hs : r'.scheduler = r.scheduler) (hg : r'.gasLimit = r.gasLimit)
    (hruns : 0 < r'.maxRuns → r'.runs ≤ r'.maxRuns ∧ (r'.status = taskPending → r'.runs < r'.maxRuns)) :
    TasksInv mint A T (v.setTask id r') where
  mem x q hq := by
    rcases setTask_task_eq_some hq with ⟨rfl, -⟩ | ⟨-, hq⟩
    · exact h.mem x r hid
    · exact h.mem x q hq
  scheduler x q hq := by
    rcases setTask_task_eq_some hq with ⟨-, rfl⟩ | ⟨-, hq⟩
    · exact hs ▸ h.scheduler id r hid
    · exact h.scheduler x q hq
  gasLimit x q hq := by
    rcases setTask_task_eq_some hq with ⟨-, rfl⟩ | ⟨-, hq⟩
    · exact hg ▸ h.gasLimit id r hid
    · exact h.gasLimit x q hq
  runs x q hq := by
    rcases setTask_task_eq_some hq with ⟨-, rfl⟩ | ⟨-, hq⟩
    · exact hruns
    · exact h.runs x q hq
  minted x q hq := by
    rcases setTask_task_eq_some hq with ⟨rfl, rfl⟩ | ⟨-, hq⟩
    · rw [setTask_nonce, hs]
      exact h.minted x r hid
    · exact h.minted x q hq
  used a ha n hn := by
    obtain ⟨tb, htb, hne⟩ := h.used a ha n hn
    exact ⟨tb, htb, setTask_task_ne_none hne⟩
  nonce_lt := h.nonce_lt

/-- **Scheduling keeps the tasks**: the new task is minted with its scheduler's next nonce. -/
theorem schedule (h : TasksInv mint A T v) (hmint : MintDistinct mint A) (hT : T.card + 1 < 2 ^ 64)
    {r : TaskRecord} (ha : r.scheduler ∈ A) (htb : r.targetBlock < 2 ^ 64)
    (hgas : r.gasLimit ≤ taskMaxGasLimit) (hruns : r.runs = 0)
    (hid : mint r.scheduler r.targetBlock (v.nonce r.scheduler) ∈ T) :
    TasksInv mint A T (v.schedule (mint r.scheduler r.targetBlock (v.nonce r.scheduler)) r) := by
  set id := mint r.scheduler r.targetBlock (v.nonce r.scheduler) with hid_def
  have hn : v.nonce r.scheduler + 1 < 2 ^ 64 := by
    have := h.nonce_le_card hmint ha
    omega
  have htask : (v.schedule id r).task = (v.setTask id r).task := by simp [SchedulerView.schedule]
  have hnonce : (v.schedule id r).nonce =
      Function.update v.nonce r.scheduler (v.nonce r.scheduler + 1) := by
    rw [← Nat.mod_eq_of_lt hn]
    simp [SchedulerView.schedule]
  -- the nonces only grow, and only the scheduler's does
  have hle : ∀ a, v.nonce a ≤ (v.schedule id r).nonce a := by
    intro a
    rw [hnonce, Function.update_apply]
    split_ifs with hs
    · rw [hs]
      exact Nat.le_succ _
    · exact le_rfl
  refine ⟨?_, ?_, ?_, ?_, ?_, ?_, ?_⟩
  · intro x q hq
    rcases setTask_task_eq_some (htask ▸ hq) with ⟨rfl, -⟩ | ⟨-, hq⟩
    · exact hid
    · exact h.mem x q hq
  · intro x q hq
    rcases setTask_task_eq_some (htask ▸ hq) with ⟨-, rfl⟩ | ⟨-, hq⟩
    · exact ha
    · exact h.scheduler x q hq
  · intro x q hq
    rcases setTask_task_eq_some (htask ▸ hq) with ⟨-, rfl⟩ | ⟨-, hq⟩
    · exact hgas
    · exact h.gasLimit x q hq
  · intro x q hq hmax
    rcases setTask_task_eq_some (htask ▸ hq) with ⟨-, rfl⟩ | ⟨-, hq⟩
    · rw [hruns]
      exact ⟨Nat.zero_le _, fun _ => hmax⟩
    · exact h.runs x q hq hmax
  · intro x q hq
    rcases setTask_task_eq_some (htask ▸ hq) with ⟨rfl, rfl⟩ | ⟨-, hq⟩
    · refine ⟨q.targetBlock, v.nonce q.scheduler, htb, ?_, rfl⟩
      rw [hnonce, Function.update_self]
      exact Nat.lt_succ_self _
    · obtain ⟨tb, n, htb', hn', heq⟩ := h.minted x q hq
      exact ⟨tb, n, htb', lt_of_lt_of_le hn' (hle _), heq⟩
  · intro a ha' n hn'
    rw [htask]
    by_cases has : a = r.scheduler
    · subst has
      rw [hnonce, Function.update_self] at hn'
      rcases Nat.lt_succ_iff_lt_or_eq.mp hn' with hlt | rfl
      · obtain ⟨tb, htb', hne⟩ := h.used _ ha' n hlt
        exact ⟨tb, htb', setTask_task_ne_none hne⟩
      · refine ⟨r.targetBlock, htb, ?_⟩
        rw [setTask_task, Function.update_self]
        exact Option.some_ne_none r
    · rw [hnonce, Function.update_of_ne has] at hn'
      obtain ⟨tb, htb', hne⟩ := h.used a ha' n hn'
      exact ⟨tb, htb', setTask_task_ne_none hne⟩
  · intro a ha'
    rw [hnonce, Function.update_apply]
    split_ifs
    · exact hn
    · exact h.nonce_lt a ha'

end TasksInv

/-! ## What the updates keep: the queues -/

namespace QueuesInv

variable {b : ℕ} {L : List Hash} {v : SchedulerView} {id : Hash} {rest : List Hash}

/-- The tasks and the queues are all the invariant reads. -/
theorem congr (h : QueuesInv b L v) {v' : SchedulerView} (htask : v'.task = v.task)
    (hqueue : v'.queue = v.queue) : QueuesInv b L v' where
  nodup b' := hqueue ▸ h.nodup b'
  task b' id hid := htask ▸ h.task b' id (hqueue ▸ hid)
  target b' id r hid hr hp := h.target b' id r (hqueue ▸ hid) (htask ▸ hr) hp
  queued id r hr hp := hqueue ▸ h.queued id r (htask ▸ hr) hp
  inflight_nodup := h.inflight_nodup
  inflight_task id hid := htask ▸ h.inflight_task id hid
  inflight_target id hid r hr hp := h.inflight_target id hid r (htask ▸ hr) hp
  inflight_off id hid := hqueue ▸ h.inflight_off id hid

/-- With nothing in flight, the block does not matter. -/
theorem rebase (h : QueuesInv b [] v) (b' : ℕ) : QueuesInv b' [] v where
  nodup := h.nodup
  task := h.task
  target := h.target
  queued := h.queued
  inflight_nodup := List.nodup_nil
  inflight_task _ hx := absurd hx List.not_mem_nil
  inflight_target _ hx := absurd hx List.not_mem_nil
  inflight_off _ hx := absurd hx List.not_mem_nil

/-- A task that stops being pending stays where it is queued. -/
theorem setTask_not_pending (h : QueuesInv b L v) {r' : TaskRecord}
    (hst : r'.status ≠ taskPending) : QueuesInv b L (v.setTask id r') where
  nodup := h.nodup
  task b' x hx := setTask_task_ne_none (h.task b' x hx)
  target b' x q hx hq hp := by
    rcases setTask_task_eq_some hq with ⟨-, rfl⟩ | ⟨-, hq⟩
    · exact absurd hp hst
    · exact h.target b' x q hx hq hp
  queued x q hq hp := by
    rcases setTask_task_eq_some hq with ⟨-, rfl⟩ | ⟨-, hq⟩
    · exact absurd hp hst
    · exact h.queued x q hq hp
  inflight_nodup := h.inflight_nodup
  inflight_task x hx := setTask_task_ne_none (h.inflight_task x hx)
  inflight_target x hx q hq hp := by
    rcases setTask_task_eq_some hq with ⟨-, rfl⟩ | ⟨-, hq⟩
    · exact absurd hp hst
    · exact h.inflight_target x hx q hq hp
  inflight_off := h.inflight_off

/-- **Scheduling keeps the queues**: a fresh ID is queued at the new task's target block. -/
theorem schedule (h : QueuesInv b [] v) {r : TaskRecord} (hfresh : v.task id = none)
    (hp : r.status = taskPending) : QueuesInv b [] (v.schedule id r) := by
  have htask : (v.schedule id r).task = (v.setTask id r).task := by simp [SchedulerView.schedule]
  have hqueue : (v.schedule id r).queue = (v.enqueue r.targetBlock id).queue := by simp [SchedulerView.schedule]
  -- a fresh ID is in no queue yet
  have hout : ∀ b', id ∉ v.queue b' := fun b' hmem => h.task b' id hmem hfresh
  -- an ID in a queue afterwards was there before, or is the new one at its target block
  have hmem : ∀ b' x, x ∈ (v.schedule id r).queue b' → x ∈ v.queue b' ∨ (x = id ∧ b' = r.targetBlock) := by
    intro b' x hx
    rw [hqueue, enqueue_queue, Function.update_apply] at hx
    split_ifs at hx with hb
    · rcases List.mem_append.mp hx with hx | hx
      · exact .inl (hb ▸ hx)
      · exact .inr ⟨List.mem_singleton.mp hx, hb⟩
    · exact .inl hx
  refine ⟨?_, ?_, ?_, ?_, List.nodup_nil, ?_, ?_, ?_⟩
  · intro b'
    rw [hqueue, enqueue_queue, Function.update_apply]
    split_ifs with hb
    · exact (h.nodup _).append (List.nodup_singleton id)
        (List.disjoint_singleton.mpr (hout _))
    · exact h.nodup b'
  · intro b' x hx
    rw [htask]
    rcases hmem b' x hx with hx | ⟨rfl, -⟩
    · exact setTask_task_ne_none (h.task b' x hx)
    · rw [setTask_task, Function.update_self]
      exact Option.some_ne_none r
  · intro b' x q hx hq hq'
    rcases setTask_task_eq_some (htask ▸ hq) with ⟨rfl, rfl⟩ | ⟨hxid, hq⟩
    · rcases hmem b' x hx with hx | ⟨-, hb⟩
      · exact absurd hx (hout b')
      · exact hb.symm
    · rcases hmem b' x hx with hx | ⟨hx, -⟩
      · exact h.target b' x q hx hq hq'
      · exact absurd hx hxid
  · intro x q hq hq'
    rcases setTask_task_eq_some (htask ▸ hq) with ⟨rfl, rfl⟩ | ⟨-, hq⟩
    · left
      rw [hqueue, enqueue_queue, Function.update_self]
      exact List.mem_append_right _ (List.mem_singleton_self x)
    · rcases h.queued x q hq hq' with hx | hx
      · left
        rw [hqueue, enqueue_queue, Function.update_apply]
        split_ifs with hb
        · exact List.mem_append_left _ (hb ▸ hx)
        · exact hx
      · exact absurd hx List.not_mem_nil
  · intro x hx
    exact absurd hx List.not_mem_nil
  · intro x hx
    exact absurd hx List.not_mem_nil
  · intro x hx
    exact absurd hx List.not_mem_nil

/-- **Taking the queue of a block**: its IDs go in flight, and the queue is emptied. -/
theorem clearQueue (h : QueuesInv b [] v) : QueuesInv b (v.queue b) (v.clearQueue b) where
  nodup b' := by
    rw [clearQueue_queue, Function.update_apply]
    split_ifs
    · exact List.nodup_nil
    · exact h.nodup b'
  task b' x hx := by
    rw [clearQueue_queue, Function.update_apply] at hx
    split_ifs at hx
    · exact absurd hx List.not_mem_nil
    · exact h.task b' x hx
  target b' x q hx hq hp := by
    rw [clearQueue_queue, Function.update_apply] at hx
    split_ifs at hx
    · exact absurd hx List.not_mem_nil
    · exact h.target b' x q hx hq hp
  queued x q hq hp := by
    rw [clearQueue_queue, Function.update_apply]
    rcases h.queued x q hq hp with hx | hx
    · split_ifs with hb
      · exact .inr (hb ▸ hx)
      · exact .inl hx
    · exact absurd hx List.not_mem_nil
  inflight_nodup := h.nodup b
  inflight_task x hx := h.task b x hx
  inflight_target x hx q hq hp := h.target b x q hx hq hp
  inflight_off x _ := by
    rw [clearQueue_queue, Function.update_self]
    exact List.not_mem_nil

/-- An ID in flight that names no pending task is passed over. -/
theorem pop_skip (h : QueuesInv b (id :: rest) v)
    (hnp : ∀ r, v.task id = some r → r.status ≠ taskPending) : QueuesInv b rest v where
  nodup := h.nodup
  task := h.task
  target := h.target
  queued x q hq hp := by
    rcases h.queued x q hq hp with hx | hx
    · exact .inl hx
    · rcases List.mem_cons.mp hx with rfl | hx
      · exact absurd hp (hnp q hq)
      · exact .inr hx
  inflight_nodup := (List.nodup_cons.mp h.inflight_nodup).2
  inflight_task x hx := h.inflight_task x (List.mem_cons_of_mem id hx)
  inflight_target x hx := h.inflight_target x (List.mem_cons_of_mem id hx)
  inflight_off x hx := h.inflight_off x (List.mem_cons_of_mem id hx)

/-- An ID in flight whose task stops being pending. -/
theorem pop_retire (h : QueuesInv b (id :: rest) v) {r' : TaskRecord}
    (hst : r'.status ≠ taskPending) : QueuesInv b rest (v.setTask id r') :=
  ((h.setTask_not_pending hst).pop_skip fun q hq hp => by
    rw [setTask_task, Function.update_self, Option.some_inj] at hq
    exact hst (hq ▸ hp))

/-- A pending task in flight is in no queue. -/
theorem not_mem_queue_of_pending (h : QueuesInv b (id :: rest) v) {r : TaskRecord}
    (hid : v.task id = some r) (hp : r.status = taskPending) (b' : ℕ) : id ∉ v.queue b' := by
  intro hmem
  have hb' := h.target b' id r hmem hid hp
  have hb := h.inflight_target id List.mem_cons_self r hid hp
  exact h.inflight_off id List.mem_cons_self (hb ▸ hb'.symm ▸ hmem)

/-- **A pending task in flight queued at another block**, with that block as its target. -/
theorem pop_requeue (h : QueuesInv b (id :: rest) v) {r r' : TaskRecord} {nb : ℕ}
    (hid : v.task id = some r) (hp : r.status = taskPending) (hp' : r'.status = taskPending)
    (ht : r'.targetBlock = nb) (hnb : nb ≠ b) : QueuesInv b rest ((v.setTask id r').enqueue nb id) := by
  have hout := h.not_mem_queue_of_pending hid hp
  have hrest := List.nodup_cons.mp h.inflight_nodup
  -- an ID in a queue afterwards was there before, or is this one at `nb`
  have hmem : ∀ b' x, x ∈ ((v.setTask id r').enqueue nb id).queue b' →
      x ∈ v.queue b' ∨ (x = id ∧ b' = nb) := by
    intro b' x hx
    rw [enqueue_queue, setTask_queue, Function.update_apply] at hx
    split_ifs at hx with hb
    · rcases List.mem_append.mp hx with hx | hx
      · exact .inl (hb ▸ hx)
      · exact .inr ⟨List.mem_singleton.mp hx, hb⟩
    · exact .inl hx
  refine ⟨?_, ?_, ?_, ?_, hrest.2, ?_, ?_, ?_⟩
  · intro b'
    rw [enqueue_queue, setTask_queue, Function.update_apply]
    split_ifs with hb
    · exact (h.nodup _).append (List.nodup_singleton id) (List.disjoint_singleton.mpr (hout _))
    · exact h.nodup b'
  · intro b' x hx
    rcases hmem b' x hx with hx | ⟨rfl, -⟩
    · exact setTask_task_ne_none (h.task b' x hx)
    · rw [enqueue_task, setTask_task, Function.update_self]
      exact Option.some_ne_none r'
  · intro b' x q hx hq hq'
    rw [enqueue_task] at hq
    rcases setTask_task_eq_some hq with ⟨rfl, rfl⟩ | ⟨hxid, hq⟩
    · rcases hmem b' x hx with hx | ⟨-, hb⟩
      · exact absurd hx (hout b')
      · rw [ht, hb]
    · rcases hmem b' x hx with hx | ⟨hx, -⟩
      · exact h.target b' x q hx hq hq'
      · exact absurd hx hxid
  · intro x q hq hq'
    rw [enqueue_task] at hq
    rcases setTask_task_eq_some hq with ⟨rfl, rfl⟩ | ⟨hxid, hq⟩
    · left
      rw [enqueue_queue, setTask_queue, ht, Function.update_self]
      exact List.mem_append_right _ (List.mem_singleton_self x)
    · rcases h.queued x q hq hq' with hx | hx
      · left
        rw [enqueue_queue, setTask_queue, Function.update_apply]
        split_ifs with hb
        · exact List.mem_append_left _ (hb ▸ hx)
        · exact hx
      · rcases List.mem_cons.mp hx with hx | hx
        · exact absurd hx hxid
        · exact .inr hx
  · intro x hx
    rw [enqueue_task]
    exact setTask_task_ne_none (h.inflight_task x (List.mem_cons_of_mem id hx))
  · intro x hx q hq hq'
    have hxid : x ≠ id := fun e => hrest.1 (e ▸ hx)
    rw [enqueue_task, setTask_task, Function.update_of_ne hxid] at hq
    exact h.inflight_target x (List.mem_cons_of_mem id hx) q hq hq'
  · intro x hx
    rw [enqueue_queue, setTask_queue, Function.update_of_ne hnb.symm]
    exact h.inflight_off x (List.mem_cons_of_mem id hx)

end QueuesInv

/-! ## What the updates keep: the counts -/

namespace ActiveInv

variable {A : Finset Address} {T : Finset Hash} {v : SchedulerView} {id : Hash}

theorem pendingCount_congr {v' : SchedulerView} (htask : v'.task = v.task) (a : Address) :
    pendingCount T v' a = pendingCount T v a := by
  have hby : v'.pendingBy = v.pendingBy := by
    funext a x
    simp only [pendingBy, htask]
  rw [pendingCount, pendingCount, hby]

theorem pendingCount_le (v : SchedulerView) (a : Address) : pendingCount T v a ≤ T.card :=
  Finset.card_filter_le _ _

/-- The tasks and the counts are all the invariant reads. -/
theorem congr (h : ActiveInv A T v) {v' : SchedulerView} (htask : v'.task = v.task)
    (hactive : v'.active = v.active) : ActiveInv A T v' := by
  intro a ha
  rw [hactive, pendingCount_congr htask]
  exact h a ha

/-- A task of `T` that becomes pending for `a` adds one to `a`'s number of pending tasks. -/
theorem pendingCount_setTask_add_one {r : TaskRecord} {a : Address} (hid : id ∈ T)
    (hnot : v.pendingBy a id = false) (hr : r.status = taskPending ∧ r.scheduler = a) :
    pendingCount T (v.setTask id r) a = pendingCount T v a + 1 := by
  unfold pendingCount
  refine Tally.card_filter_eq_add_one hid (by simp [hnot]) (by simp [pendingBy_setTask, hr]) ?_
  intro x _ hx
  simp [pendingBy_setTask, hx]

/-- A rewrite that leaves whether the task is pending, and for whom, leaves every count. -/
theorem pendingCount_setTask_of_eq {r : TaskRecord} {a : Address}
    (hsame : decide (r.status = taskPending ∧ r.scheduler = a) = v.pendingBy a id) :
    pendingCount T (v.setTask id r) a = pendingCount T v a := by
  unfold pendingCount
  congr 1
  apply Finset.filter_congr
  intro x _
  rw [pendingBy_setTask]
  split_ifs with hx
  · rw [hx, hsame]
  · rfl

/-- **Scheduling keeps the counts**: a fresh task of `T` counts for its scheduler. -/
theorem schedule (h : ActiveInv A T v) (hT : T.card + 1 < 2 ^ 64) {r : TaskRecord} (hid : id ∈ T)
    (hfresh : v.task id = none) (hp : r.status = taskPending) : ActiveInv A T (v.schedule id r) := by
  have hnot : ∀ a, v.pendingBy a id = false := fun a => by simp [pendingBy, hfresh]
  intro a ha
  have htask : (v.schedule id r).task = (v.setTask id r).task := by simp [SchedulerView.schedule]
  rw [pendingCount_congr htask]
  simp only [SchedulerView.schedule, incActive_active, Function.update_apply]
  split_ifs with has
  · subst has
    rw [pendingCount_setTask_add_one hid (hnot _) ⟨hp, rfl⟩, enqueue_active, setTask_active,
      bumpNonce_active, addEscrow_active, h _ ha]
    exact Nat.mod_eq_of_lt (by have := pendingCount_le (T := T) v r.scheduler; omega)
  · have hsame : decide (r.status = taskPending ∧ r.scheduler = a) = v.pendingBy a id := by
      rw [hnot]
      simp [Ne.symm has]
    rw [pendingCount_setTask_of_eq hsame, enqueue_active, setTask_active, bumpNonce_active,
      addEscrow_active]
    exact h a ha

/-- **A pending task that stops being pending** is uncounted from its scheduler. -/
theorem setTask_decActive (h : ActiveInv A T v) {r q : TaskRecord} (hid : id ∈ T)
    (htask : v.task id = some r) (hp : r.status = taskPending) (hq : q.status ≠ taskPending) :
    ActiveInv A T ((v.setTask id q).decActive r.scheduler) := by
  intro a ha
  have htask' : ((v.setTask id q).decActive r.scheduler).task = (v.setTask id q).task := rfl
  rw [pendingCount_congr htask', decActive_active, Function.update_apply, setTask_active]
  split_ifs with has
  · -- one pending task fewer for its scheduler, and the count one lower
    subst has
    have hmore : pendingCount T v r.scheduler = pendingCount T (v.setTask id q) r.scheduler + 1 := by
      have hnow : (v.setTask id q).pendingBy r.scheduler id = false := by
        simp [pendingBy_setTask, hq]
      unfold pendingCount
      refine Tally.card_filter_eq_add_one hid (by simp [hnow]) (by simp [pendingBy_of_task htask hp])
        fun x _ hx => ?_
      simp [pendingBy_setTask, hx]
    rw [h _ ha, hmore, Nat.add_sub_cancel]
  · have hsame : decide (q.status = taskPending ∧ q.scheduler = a) = v.pendingBy a id := by
      simp [pendingBy, htask, hq, hp, Ne.symm has]
    rw [pendingCount_setTask_of_eq hsame]
    exact h a ha

/-- A pending task rewritten as pending for the same scheduler changes no count. -/
theorem setTask_of_pending (h : ActiveInv A T v) {r q : TaskRecord} (htask : v.task id = some r)
    (hp : r.status = taskPending) (hq : q.status = taskPending) (hs : q.scheduler = r.scheduler) :
    ActiveInv A T (v.setTask id q) := by
  intro a ha
  have hsame : decide (q.status = taskPending ∧ q.scheduler = a) = v.pendingBy a id := by
    simp [pendingBy, htask, hq, hp, hs]
  rw [pendingCount_setTask_of_eq hsame, setTask_active]
  exact h a ha

end ActiveInv

/-! ## What the updates keep: the balance -/

namespace Solvent

variable {T : Finset Hash} {v : SchedulerView} {id : Hash}

/-- **The balance after a change of one task**: it still covers the deposits if it moved by at
least the change of that task's deposit. -/
theorem of_change (h : Solvent T v) {v' : SchedulerView} (hid : id ∈ T)
    (hoff : ∀ x ∈ T, x ≠ id → v'.owed x = v.owed x)
    (hesc : gasCost (v'.owed id) + v.escrow ≤ gasCost (v.owed id) + v'.escrow) : Solvent T v' := by
  have hsum := Tally.sum_add_eq_of_eq_off hid hoff
  have hcost := congrArg gasCost hsum
  rw [gasCost_add, gasCost_add] at hcost
  unfold Solvent at h ⊢
  linarith

/-- The tasks and the balance are all the invariant reads, and a larger balance covers more. -/
theorem congr (h : Solvent T v) {v' : SchedulerView} (htask : v'.task = v.task)
    (hesc : v.escrow ≤ v'.escrow) : Solvent T v' := by
  have howed : v'.owed = v.owed := by
    funext x
    simp only [owed, htask]
  unfold Solvent
  rw [howed]
  exact le_trans h hesc

/-- **Scheduling keeps the balance**: the deposit comes in with the task. -/
theorem schedule (h : Solvent T v) {r : TaskRecord} (hid : id ∈ T) (hfresh : v.task id = none)
    (hp : r.status = taskPending) : Solvent T (v.schedule id r) := by
  have htask : (v.schedule id r).task = (v.setTask id r).task := by simp [SchedulerView.schedule]
  have howed : ∀ x, (v.schedule id r).owed x = (v.setTask id r).owed x := fun x => by
    simp only [owed, htask]
  refine h.of_change hid (fun x _ hx => by rw [howed, owed_setTask, if_neg hx]) ?_
  rw [howed, owed_setTask, if_pos rfl, if_pos hp]
  simp only [SchedulerView.schedule, owed, hfresh, incActive_escrow, enqueue_escrow,
    setTask_escrow, bumpNonce_escrow, addEscrow_escrow, gasCost, Nat.cast_zero, zero_mul]
  linarith

/-- **A pending task retired after a refund of at most its deposit.** -/
theorem retire (h : Solvent T v) {r q : TaskRecord} (hid : id ∈ T) (htask : v.task id = some r)
    (hp : r.status = taskPending) (hq : q.status ≠ taskPending) {x : ℤ}
    (hx : x ≤ gasCost r.gasLimit) (a : Address) :
    Solvent T (((v.addEscrow (-x)).setTask id q).decActive a) := by
  have howed : ∀ y, (((v.addEscrow (-x)).setTask id q).decActive a).owed y =
      (v.setTask id q).owed y := fun y => rfl
  refine h.of_change hid (fun y _ hy => by rw [howed, owed_setTask, if_neg hy]) ?_
  rw [howed, owed_setTask, if_pos rfl, if_neg hq, owed_of_task htask hp]
  simp only [decActive_escrow, setTask_escrow, addEscrow_escrow, gasCost, Nat.cast_zero, zero_mul]
  unfold gasCost at hx
  linarith

/-- **A pending task queued again** after a refund of at most its deposit, which it pays again. -/
theorem reschedule (h : Solvent T v) {r q : TaskRecord} (hid : id ∈ T)
    (htask : v.task id = some r) (hp : r.status = taskPending) (hq : q.status = taskPending)
    (hg : q.gasLimit = r.gasLimit) {x : ℤ} (hx : x ≤ gasCost r.gasLimit) (nb : ℕ) :
    Solvent T ((((v.addEscrow (-x)).addEscrow (gasCost q.gasLimit)).setTask id q).enqueue nb id) := by
  have howed : ∀ y,
      ((((v.addEscrow (-x)).addEscrow (gasCost q.gasLimit)).setTask id q).enqueue nb id).owed y =
        (v.setTask id q).owed y := fun y => rfl
  refine h.of_change hid (fun y _ hy => by rw [howed, owed_setTask, if_neg hy]) ?_
  rw [howed, owed_setTask, if_pos rfl, if_pos hq, owed_of_task htask hp, hg]
  simp only [enqueue_escrow, setTask_escrow, addEscrow_escrow]
  linarith

/-- A pending task queued again as it stands. -/
theorem requeue (h : Solvent T v) {r q : TaskRecord} (htask : v.task id = some r)
    (hp : r.status = taskPending) (hq : q.status = taskPending) (hg : q.gasLimit = r.gasLimit)
    (nb : ℕ) : Solvent T ((v.setTask id q).enqueue nb id) := by
  have howed : ((v.setTask id q).enqueue nb id).owed = v.owed := by
    funext y
    change (v.setTask id q).owed y = v.owed y
    by_cases hy : y = id
    · rw [hy, owed_setTask, if_pos rfl, if_pos hq, owed_of_task htask hp, hg]
    · rw [owed_setTask, if_neg hy]
  unfold Solvent
  rw [howed, enqueue_escrow, setTask_escrow]
  exact h

end Solvent

/-! ## Processing one task -/

/-- `r'` is the task `r` with only its status, its target block and its runs (one more at most)
changed. -/
structure SameTask (r r' : TaskRecord) : Prop where
  /-- The scheduler. -/
  scheduler : r'.scheduler = r.scheduler
  /-- The gas limit. -/
  gasLimit : r'.gasLimit = r.gasLimit
  /-- The limit on runs. -/
  maxRuns : r'.maxRuns = r.maxRuns
  /-- The runs. -/
  runs : r'.runs ≤ r.runs + 1

/-- What the block processor can do with the pending task `r` at `id`, taken from the queue of
block `b`: refund at most its deposit, then retire it, or queue it again at another block with a
new deposit. -/
inductive Processed (b : ℕ) (id : Hash) (r : TaskRecord) (v : SchedulerView) :
    SchedulerView → Prop
  /-- Retired with a final status. -/
  | retire (x : ℤ) (r' : TaskRecord) (status : UInt8) (hx : x ≤ gasCost r.gasLimit)
      (hst : status ≠ taskPending) (hr : SameTask r r') :
      Processed b id r v ((v.addEscrow (-x)).retire id r' status)
  /-- Queued again at `nb`. -/
  | reschedule (x : ℤ) (r' : TaskRecord) (nb : ℕ) (hx : x ≤ gasCost r.gasLimit) (hnb : nb ≠ b)
      (hp : r'.status = taskPending) (hruns : 0 < r'.maxRuns → r'.runs < r'.maxRuns)
      (hr : SameTask r r') :
      Processed b id r v ((v.addEscrow (-x)).reschedule id r' nb)

theorem gasCost_sub_le (a b : ℕ) : gasCost (a - b) ≤ gasCost a :=
  gasCost_mono (Nat.sub_le a b)

/-- **`settle` is a processing step**: after a callback, a pending task is retired or queued again,
never at its own block. -/
theorem settle_processed (v : SchedulerView) {b : ℕ} {id : Hash}
    {r : TaskRecord} (hp : r.status = taskPending) (hi : r.intervalBlocks < 2 ^ 64) (gasUsed : ℕ)
    (afford : Bool) : Processed b id r v (v.settle b id r gasUsed afford) := by
  have hx := gasCost_sub_le r.gasLimit gasUsed
  have hruns : (r.runs + 1) % 2 ^ 64 ≤ r.runs + 1 := Nat.mod_le _ _
  unfold SchedulerView.settle
  dsimp only
  split_ifs with hdone hexp hover hafford
  · apply Processed.retire <;> first | exact hx | decide | exact ⟨rfl, rfl, rfl, hruns⟩
  · apply Processed.retire <;> first | exact hx | decide | exact ⟨rfl, rfl, rfl, hruns⟩
  · apply Processed.retire <;> first | exact hx | decide | exact ⟨rfl, rfl, rfl, hruns⟩
  · -- a repeating task moves on by its interval, which is not a multiple of `2 ^ 64`
    simp only [not_or, not_and, not_le] at hdone
    apply Processed.reschedule
    · exact hx
    · intro hnb
      omega
    · exact hp
    · exact hdone.2
    · exact ⟨rfl, rfl, rfl, hruns⟩
  · apply Processed.retire <;> first | exact hx | decide | exact ⟨rfl, rfl, rfl, hruns⟩

namespace Processed

variable {mint : Address → ℕ → ℕ → Hash} {A : Finset Address} {T : Finset Hash} {b : ℕ}
  {id : Hash} {r : TaskRecord} {v v' : SchedulerView}

theorem tasksInv (hproc : Processed b id r v v') (h : TasksInv mint A T v)
    (hid : v.task id = some r) (hp : r.status = taskPending) : TasksInv mint A T v' := by
  have hlt : 0 < r.maxRuns → r.runs < r.maxRuns := fun hmax => (h.runs id r hid hmax).2 hp
  cases hproc with
  | retire x r' status hx hst hr =>
    -- a retired task has run at most once more than a pending one, which ran less than its limit
    have hle : 0 < r'.maxRuns → r'.runs ≤ r'.maxRuns := by
      intro hmax
      have := hlt (hr.maxRuns ▸ hmax)
      have := hr.runs
      have := hr.maxRuns
      omega
    have h' : TasksInv mint A T (v.setTask id { r' with status := status }) :=
      h.setTask_of_task hid hr.scheduler hr.gasLimit fun hmax => ⟨hle hmax, fun hp' => absurd hp' hst⟩
    exact h'.congr rfl rfl
  | reschedule x r' nb hx hnb hp' hruns hr =>
    have h' : TasksInv mint A T (v.setTask id { r' with targetBlock := nb }) :=
      h.setTask_of_task hid hr.scheduler hr.gasLimit fun hmax => ⟨(hruns hmax).le, fun _ => hruns hmax⟩
    exact h'.congr rfl rfl

theorem queuesInv (hproc : Processed b id r v v') {rest : List Hash}
    (h : QueuesInv b (id :: rest) v) (hid : v.task id = some r) (hp : r.status = taskPending) :
    QueuesInv b rest v' := by
  cases hproc with
  | retire x r' status hx hst hr =>
    have h' : QueuesInv b rest (v.setTask id { r' with status := status }) := h.pop_retire hst
    exact h'.congr rfl rfl
  | reschedule x r' nb hx hnb hp' hruns hr =>
    have h' : QueuesInv b rest ((v.setTask id { r' with targetBlock := nb }).enqueue nb id) :=
      h.pop_requeue hid hp hp' rfl hnb
    exact h'.congr rfl rfl

theorem activeInv (hproc : Processed b id r v v') (h : ActiveInv A T v) (hidT : id ∈ T)
    (hid : v.task id = some r) (hp : r.status = taskPending) : ActiveInv A T v' := by
  cases hproc with
  | retire x r' status hx hst hr =>
    have h' : ActiveInv A T ((v.setTask id { r' with status := status }).decActive r.scheduler) :=
      h.setTask_decActive hidT hid hp hst
    rw [← hr.scheduler] at h'
    exact h'.congr rfl rfl
  | reschedule x r' nb hx hnb hp' hruns hr =>
    have h' : ActiveInv A T (v.setTask id { r' with targetBlock := nb }) :=
      h.setTask_of_pending hid hp hp' hr.scheduler
    exact h'.congr rfl rfl

theorem solvent (hproc : Processed b id r v v') (h : Solvent T v) (hidT : id ∈ T)
    (hid : v.task id = some r) (hp : r.status = taskPending) : Solvent T v' := by
  cases hproc with
  | retire x r' status hx hst hr =>
    have h' : Solvent T (((v.addEscrow (-x)).setTask id { r' with status := status }).decActive
        r'.scheduler) := h.retire hidT hid hp hst hx _
    exact h'
  | reschedule x r' nb hx hnb hp' hruns hr =>
    have hq : ({ r' with targetBlock := nb } : TaskRecord).status = taskPending := hp'
    have hg : ({ r' with targetBlock := nb } : TaskRecord).gasLimit = r.gasLimit := hr.gasLimit
    exact h.reschedule hidT hid hp hq hg hx nb

end Processed

/-! ## The books over a block's processing -/

section Books

variable (mint : Address → ℕ → ℕ → Hash) (A : Finset Address) (T : Finset Hash)

/-- The books while the IDs `inflight`, taken from the queue of block `b`, are processed. -/
structure InFlight (b : ℕ) (inflight : List Hash) (v : SchedulerView) : Prop where
  /-- The tasks. -/
  tasks : TasksInv mint A T v
  /-- The queues. -/
  queues : QueuesInv b inflight v
  /-- The counts. -/
  active : ActiveInv A T v
  /-- The balance. -/
  solvent : Solvent T v

variable {mint A T} {v : SchedulerView} {id : Hash} {r : TaskRecord}

/-- **The empty books** hold, over a balance that is not negative. -/
theorem Books.empty {e : ℤ} (he : 0 ≤ e) :
    Books mint A T ⟨fun _ => none, fun _ => [], fun _ => 0, fun _ => 0, e⟩ where
  tasks :=
    { mem := fun _ _ h => by cases h
      scheduler := fun _ _ h => by cases h
      gasLimit := fun _ _ h => by cases h
      runs := fun _ _ h => by cases h
      minted := fun _ _ h => by cases h
      used := fun _ _ n hn => absurd hn (Nat.not_lt_zero n)
      nonce_lt := fun _ _ => by norm_num }
  queues :=
    { nodup := fun _ => List.nodup_nil
      task := fun _ _ h => absurd h List.not_mem_nil
      target := fun _ _ _ h => absurd h List.not_mem_nil
      queued := fun _ _ h => by cases h
      inflight_nodup := List.nodup_nil
      inflight_task := fun _ h => absurd h List.not_mem_nil
      inflight_target := fun _ h => absurd h List.not_mem_nil
      inflight_off := fun _ h => absurd h List.not_mem_nil }
  active a _ := by simp [pendingCount, SchedulerView.pendingBy]
  solvent := by simpa [Solvent, SchedulerView.owed, gasCost] using he

/-- **Scheduling keeps the books**: a scheduler of `A` schedules a pending task, with an allowed
gas limit and no runs, at a `uint64` block, and the ID its next nonce mints is one of `T`. -/
theorem Books.schedule (h : Books mint A T v) (hmint : MintDistinct mint A)
    (hT : T.card + 1 < 2 ^ 64) (ha : r.scheduler ∈ A) (htb : r.targetBlock < 2 ^ 64)
    (hgas : r.gasLimit ≤ taskMaxGasLimit) (hruns : r.runs = 0) (hp : r.status = taskPending)
    (hid : mint r.scheduler r.targetBlock (v.nonce r.scheduler) ∈ T) :
    Books mint A T (v.schedule (mint r.scheduler r.targetBlock (v.nonce r.scheduler)) r) := by
  have hfresh := h.tasks.task_mint_nonce hmint ha htb
  exact ⟨h.tasks.schedule hmint hT ha htb hgas hruns hid, h.queues.schedule hfresh hp,
    h.active.schedule hT hid hfresh hp, h.solvent.schedule hid hfresh hp⟩

/-- **Cancelling keeps the books**: a pending task is cancelled and its deposit refunded. -/
theorem Books.cancel (h : Books mint A T v) (hid : v.task id = some r)
    (hp : r.status = taskPending) : Books mint A T (v.cancel id r) := by
  have hidT := h.tasks.mem id r hid
  have hst : ({ r with status := taskCancelled } : TaskRecord).status ≠ taskPending :=
    (by decide : taskCancelled ≠ taskPending)
  have htasks : TasksInv mint A T (v.setTask id { r with status := taskCancelled }) :=
    h.tasks.setTask_of_task hid rfl rfl fun hmax =>
      ⟨(h.tasks.runs id r hid hmax).1, fun hp' => absurd hp' hst⟩
  have hqueues : QueuesInv 0 [] (v.setTask id { r with status := taskCancelled }) :=
    h.queues.setTask_not_pending hst
  have hactive : ActiveInv A T ((v.setTask id { r with status := taskCancelled }).decActive
      r.scheduler) := h.active.setTask_decActive hidT hid hp hst
  exact ⟨htasks.congr rfl rfl, hqueues.congr rfl rfl, hactive.congr rfl rfl,
    h.solvent.retire hidT hid hp hst le_rfl _⟩

/-- **Taking the queue of block `b`** puts its IDs in flight. -/
theorem Books.clearQueue (h : Books mint A T v) (b : ℕ) :
    InFlight mint A T b (v.queue b) (v.clearQueue b) :=
  ⟨h.tasks.congr rfl rfl, (h.queues.rebase b).clearQueue, h.active.congr rfl rfl,
    h.solvent.congr rfl le_rfl⟩

namespace InFlight

variable {b : ℕ} {L rest : List Hash}

/-- An ID in flight that names no pending task is passed over. -/
theorem skip (h : InFlight mint A T b (id :: rest) v)
    (hnp : ∀ r, v.task id = some r → r.status ≠ taskPending) : InFlight mint A T b rest v :=
  ⟨h.tasks, h.queues.pop_skip hnp, h.active, h.solvent⟩

/-- **A pending task in flight processed.** -/
theorem processed (h : InFlight mint A T b (id :: rest) v) {v' : SchedulerView}
    (hproc : Processed b id r v v') (hid : v.task id = some r) (hp : r.status = taskPending) :
    InFlight mint A T b rest v' :=
  have hidT := h.tasks.mem id r hid
  ⟨hproc.tasksInv h.tasks hid hp, hproc.queuesInv h.queues hid hp,
    hproc.activeInv h.active hidT hid hp, hproc.solvent h.solvent hidT hid hp⟩

/-- **A pending task in flight deferred** to another block. -/
theorem requeue (h : InFlight mint A T b (id :: rest) v) (hid : v.task id = some r)
    (hp : r.status = taskPending) {nb : ℕ} (hnb : nb ≠ b) :
    InFlight mint A T b rest (v.requeue id r nb) := by
  have hq : ({ r with targetBlock := nb } : TaskRecord).status = taskPending := hp
  have htasks : TasksInv mint A T (v.setTask id { r with targetBlock := nb }) :=
    h.tasks.setTask_of_task hid rfl rfl (h.tasks.runs id r hid)
  have hactive : ActiveInv A T (v.setTask id { r with targetBlock := nb }) :=
    h.active.setTask_of_pending hid hp hq rfl
  exact ⟨htasks.congr rfl rfl, h.queues.pop_requeue hid hp hq rfl hnb, hactive.congr rfl rfl,
    h.solvent.requeue hid hp hq rfl nb⟩

/-- With nothing left in flight, the books hold again. -/
theorem books (h : InFlight mint A T b [] v) : Books mint A T v :=
  ⟨h.tasks, h.queues.rebase 0, h.active, h.solvent⟩

/-- The books in flight read everything but the balance as it is, and the balance as a bound. -/
theorem congr (h : InFlight mint A T b L v) {v' : SchedulerView} (htask : v'.task = v.task)
    (hqueue : v'.queue = v.queue) (hactive : v'.active = v.active) (hnonce : v'.nonce = v.nonce)
    (hesc : v.escrow ≤ v'.escrow) : InFlight mint A T b L v' :=
  ⟨h.tasks.congr htask hnonce, h.queues.congr htask hqueue, h.active.congr htask hactive,
    h.solvent.congr htask hesc⟩

/-- **A queue fits its length word**: its IDs are distinct tasks of `T`. -/
theorem length_queue_lt (h : InFlight mint A T b L v) (hT : T.card + 1 < 2 ^ 64) (b' : ℕ) :
    (v.queue b').length + 1 < 2 ^ 64 := by
  classical
  have hsub : (v.queue b').toFinset ⊆ T := by
    intro x hx
    obtain ⟨r, hr⟩ := Option.ne_none_iff_exists'.mp (h.queues.task b' x (List.mem_toFinset.mp hx))
    exact h.tasks.mem x r hr
  have hle : (v.queue b').length ≤ T.card := by
    rw [← List.toFinset_card_of_nodup (h.queues.nodup b')]
    exact Finset.card_le_card hsub
  omega

end InFlight

/-- A queue of the books fits its length word. -/
theorem Books.length_queue_lt (h : Books mint A T v) (hT : T.card + 1 < 2 ^ 64) (b : ℕ) :
    (v.queue b).length + 1 < 2 ^ 64 :=
  InFlight.length_queue_lt ⟨h.tasks, h.queues, h.active, h.solvent⟩ hT b

end Books

end Gtos.Task
