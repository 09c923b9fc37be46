import Gtos.Task.Invariant

/-! # The quota of a block

`ProcessDueTasks` takes no task once it has processed `TaskMaxPerBlock` of them. The gas it counts is a `uint64` sum of the gas of the tasks it
ran, each at most the task's limit; within the books every limit is at most `TaskMaxGasLimit`, so
the sum stays below `TaskMaxPerBlock` times that and never wraps
(`processDueTasks_gasUsed_le`). -/

namespace Gtos.Task

open Gtos.Core

/-- The most gas a block's tasks can be counted, which a `uint64` holds. -/
theorem quota_gas_lt : taskMaxPerBlock * taskMaxGasLimit < 2 ^ 64 := by
  norm_num [taskMaxPerBlock, taskMaxGasLimit]

section Loop

variable {keccak256 : List UInt8 → Hash} {exec : ExecutorFn} {b : ℕ}

variable {A : Finset Address} {T : Finset Hash}

/-- A task the loop runs is counted at most `TaskMaxGasLimit`, within the books. -/
theorem runDueTask_gas_le {s s' : StateDB} {taskId : Hash} {rest : List Hash} {g : ℕ}
    (h : InFlight (newTaskID keccak256) A T b (taskId :: rest) (schedulerView keccak256 A T s))
    (hrun : runDueTask keccak256 exec s b taskId = .ran s' g) : g ≤ taskMaxGasLimit := by
  obtain ⟨task, htask, -, hg, -⟩ := runDueTask_eq_ran hrun
  have hview := view_of_readTask (A := A) (mem_of_inFlight rfl h) htask
  exact hg.trans (h.tasks.gasLimit taskId task hview)

/-- **The loop's gas within the books**: unless a callback fails the block, the gas counted is
at most `TaskMaxGasLimit` for each task processed. The invariant carried through the loop is that
bound, with the count within the quota, so that no sum wraps. -/
theorem processLoop_gasUsed_le (hs : TaskScope keccak256 A T)
    (hexec : ExecFrame keccak256 A T exec) (L : List Hash) (s : StateDB) {processed gasUsed : ℕ}
    (h : InFlight (newTaskID keccak256) A T b L (schedulerView keccak256 A T s))
    (hp : processed ≤ taskMaxPerBlock) (hg : gasUsed ≤ processed * taskMaxGasLimit)
    (herr : (processLoop keccak256 exec b s processed gasUsed L).err = none) :
    (processLoop keccak256 exec b s processed gasUsed L).gasUsed ≤
      (processLoop keccak256 exec b s processed gasUsed L).processed * taskMaxGasLimit := by
  induction L generalizing s processed gasUsed with
  | nil => exact hg
  | cons taskId rest ih =>
    unfold processLoop at herr ⊢
    split_ifs at herr ⊢ with hmax
    · exact hg
    · rcases hstep : runDueTask keccak256 exec s b taskId with _ | ⟨s', g⟩ | ⟨s', g, e⟩ <;>
        simp only [hstep] at herr ⊢
      · exact ih s (inFlight_skip h hstep) hp hg herr
      · -- one more task, of at most `TaskMaxGasLimit`: the sum stays below the quota's gas
        have hgl := runDueTask_gas_le h hstep
        have hq := Nat.mul_le_mul_right taskMaxGasLimit (show processed + 1 ≤ taskMaxPerBlock by omega)
        have hsum : gasUsed + g ≤ (processed + 1) * taskMaxGasLimit := by
          rw [Nat.succ_mul]
          omega
        have hfit : gasUsed + g < 2 ^ 64 := lt_of_le_of_lt (hsum.trans hq) quota_gas_lt
        refine ih s' (inFlight_runDueTask hs hexec h hstep) (by omega) ?_ herr
        rwa [Nat.mod_eq_of_lt hfit]
      · cases herr

end Loop

section Block

variable {keccak256 : List UInt8 → Hash} {exec : ExecutorFn}

variable {A : Finset Address} {T : Finset Hash}

theorem processDueTasks_gasUsed_le (hs : TaskScope keccak256 A T)
    (hexec : ExecFrame keccak256 A T exec) {s : StateDB} {b : ℕ} (hb : b < 2 ^ 64)
    (h : Books (newTaskID keccak256) A T (schedulerView keccak256 A T s))
    (herr : (processDueTasks keccak256 exec s b).2.2.2 = none) :
    (processDueTasks keccak256 exec s b).2.2.1 ≤
      (processDueTasks keccak256 exec s b).2.1 * taskMaxGasLimit := by
  -- the loop starts from the books in flight with the IDs of the queue
  have hin := inFlight_dequeueTasksAt hs hb h
  unfold processDueTasks at herr ⊢
  rcases hdq : dequeueTasksAt keccak256 s b with ⟨s1, ids⟩
  rw [hdq] at hin herr
  dsimp only at hin herr ⊢
  split_ifs at herr ⊢ with hlen
  · exact Nat.zero_le _
  · split
    · rename_i e he
      simp [he] at herr
    · rename_i hloop
      exact processLoop_gasUsed_le hs hexec ids s1 hin (Nat.zero_le _) (Nat.zero_le _) hloop

end Block

end Gtos.Task
