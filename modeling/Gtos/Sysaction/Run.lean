import Gtos.Lib.Simulation
import Gtos.Sysaction.Execute

/-! # Runs of actions, each kept or reverted (`core/state_transition.go`)

A run applies actions one after another, each as `TransitionDb` applies it: a failed action is
reverted (`commit`). For a handler `handle` of decoded actions of a type `A`, `applyWith`,
`runWith` and `succeedsWith` are the step, the run, and whether a step is kept, and `keptWith` the
actions a run keeps; the lemmas give the state after a kept and after a reverted step, and the
state after a prefix one action longer. -/

namespace Gtos.Sysaction

section Run

variable {σ A : Type} (handle : Context → A → HandlerM σ Unit)

/-- One action as `TransitionDb` applies it: a failed action is reverted. -/
def applyWith (db : σ) (act : Context × A) : σ :=
  commit (handle act.1 act.2) db

/-- A run of actions. -/
def runWith (db : σ) (acts : List (Context × A)) : σ :=
  acts.foldl (applyWith handle) db

/-- Whether an action succeeds from a state, and so is kept. -/
def succeedsWith (db : σ) (act : Context × A) : Bool :=
  match ((handle act.1 act.2).run.run db).1 with
  | .ok _ => true
  | .error _ => false

/-- The actions of a run that succeed, each from the state the run has reached, and so are kept. -/
def keptWith (db : σ) (acts : List (Context × A)) : List (Context × A) :=
  Simulation.kept (applyWith handle) (succeedsWith handle) db acts

/-- A kept action leaves the state its handler's run ends in. -/
theorem applyWith_of_succeeds {db : σ} {act : Context × A}
    (h : succeedsWith handle db act = true) :
    ∃ db', (handle act.1 act.2).run.run db = (.ok (), db') ∧ applyWith handle db act = db' := by
  unfold succeedsWith at h
  rcases hrun : (handle act.1 act.2).run.run db with ⟨_ | ⟨⟩, db'⟩
  · rw [hrun] at h
    cases h
  · exact ⟨db', rfl, commit_of_ok hrun⟩

/-- A failed action is reverted. -/
theorem applyWith_of_not_succeeds {db : σ} {act : Context × A}
    (h : succeedsWith handle db act = false) : applyWith handle db act = db := by
  unfold succeedsWith at h
  rcases hrun : (handle act.1 act.2).run.run db with ⟨_ | ⟨⟩, db'⟩
  · exact commit_of_error hrun
  · rw [hrun] at h
    cases h

theorem succeedsWith_of_run_ok {db db' : σ} {act : Context × A}
    (h : (handle act.1 act.2).run.run db = (.ok (), db')) : succeedsWith handle db act = true := by
  rw [succeedsWith, h]

theorem runWith_cons (db : σ) (act : Context × A) (acts : List (Context × A)) :
    runWith handle db (act :: acts) = runWith handle (applyWith handle db act) acts :=
  rfl

/-- The state after the first `k + 1` actions of a run is the `k`-th action applied to the state
after the first `k`. -/
theorem runWith_take_succ (db : σ) {acts : List (Context × A)} {k : ℕ} {act : Context × A}
    (hk : acts[k]? = some act) :
    runWith handle db (acts.take (k + 1)) =
      applyWith handle (runWith handle db (acts.take k)) act := by
  rw [List.take_add_one, hk, runWith, List.foldl_append]
  rfl

/-- **One more action**: the prefix one action longer leaves the state as it was (the action
failed, or the run had ended), or is a successful run of the action from it. -/
theorem runWith_take_succ_cases (db : σ) (acts : List (Context × A)) (i : ℕ) :
    runWith handle db (acts.take (i + 1)) = runWith handle db (acts.take i) ∨
      ∃ act x, acts[i]? = some act ∧ (handle act.1 act.2).run.run (runWith handle db (acts.take i)) =
        (.ok x, runWith handle db (acts.take (i + 1))) := by
  cases hk : acts[i]? with
  | none =>
    left
    rw [List.take_add_one, hk, Option.toList_none, List.append_nil]
  | some act =>
    rw [runWith_take_succ handle db hk]
    cases hok : succeedsWith handle (runWith handle db (acts.take i)) act
    · exact Or.inl (applyWith_of_not_succeeds handle hok)
    · obtain ⟨db', hrun, happly⟩ := applyWith_of_succeeds handle hok
      rw [happly]
      exact Or.inr ⟨act, (), rfl, hrun⟩

end Run

end Gtos.Sysaction
