import Gtos.Validator.State
import Gtos.Sysaction.Execute
import Gtos.Lib.ExceptState

/-! # The validator actions (`validator/handler.go`)

Four system actions move an address through the registry. `VALIDATOR_REGISTER` locks the
message's value as the sender's stake and makes it `Active`, appending it to the list on its first
registration only; `VALIDATOR_WITHDRAW` returns the stake and makes it `Inactive`;
`VALIDATOR_ENTER_MAINTENANCE` and `VALIDATOR_EXIT_MAINTENANCE` move it between `Active` and
`Maintenance`. Each handler checks everything before its first write, so a failure leaves the
state as it found it (`run_handleRegister` and its siblings).

`TransitionDb` runs each action through `commit`, which reverts a failed one; `applyAction` is
that, and a run of actions is its fold. The model's block number is always present, so the
handlers' `BlockNumber != nil` tests hold. -/

namespace Gtos.Validator

open Gtos.Core Gtos.Sysaction

/-- `ErrAlreadyRegistered`. -/
def errAlreadyRegistered : String := "validator: already registered"

/-- `ErrNotActive`. -/
def errNotActive : String := "validator: not active"

/-- `ErrAlreadyInMaintenance`. -/
def errAlreadyInMaintenance : String := "validator: already in maintenance"

/-- `ErrNotInMaintenance`. -/
def errNotInMaintenance : String := "validator: not in maintenance"

/-- `ErrMaintenanceExpired`. -/
def errMaintenanceExpired : String :=
  "validator: maintenance window expired; withdraw and register again"

/-- `ErrInsufficientStake`. -/
def errInsufficientStake : String := "validator: insufficient stake"

/-- `ErrInsufficientBalance`. -/
def errInsufficientBalance : String := "validator: sender balance below stake amount"

/-- `ErrValidatorRegistryBalanceBroken`. -/
def errValidatorRegistryBalanceBroken : String :=
  "validator: validator registry balance invariant violated"

section Handle

variable {σ : Type} [VmStateDB σ] (keccak256 : List UInt8 → Hash)

/-- The mutation phase of `handleRegister`: lock the stake in the registry, write the sender's
fields, and on a first registration set its flag and append it to the list. -/
def registerWrites (db : σ) (sender : Address) (value : ℤ) : σ :=
  let isNewRegistration := !readRegisteredFlag keccak256 db sender
  let db := VmStateDB.subBalance db sender value
  let db := VmStateDB.addBalance db validatorRegistryAddress value
  let db := writeSelfStake keccak256 db sender value
  let db := writeValidatorStatus keccak256 db sender active
  let db := writeMaintenanceSince keccak256 db sender 0
  if isNewRegistration then
    appendValidatorToList keccak256 (writeRegisteredFlag keccak256 db sender) sender
  else db

/-- `handleRegister`. -/
def handleRegister (ctx : Context) : HandlerM σ Unit := do
  let db ← get
  if ctx.value < dposMinValidatorStake then throw (.error errInsufficientStake)
  if VmStateDB.getBalance db ctx.sender < ctx.value then throw (.error errInsufficientBalance)
  if readSelfStake keccak256 db ctx.sender ≠ 0 then throw (.error errAlreadyRegistered)
  set (registerWrites keccak256 db ctx.sender ctx.value)

/-- The mutation phase of `handleWithdraw`: refund the stake and clear the sender's fields; the
address stays in the list. -/
def withdrawWrites (db : σ) (sender : Address) (selfStake : ℕ) : σ :=
  let db := VmStateDB.subBalance db validatorRegistryAddress selfStake
  let db := VmStateDB.addBalance db sender selfStake
  let db := writeSelfStake keccak256 db sender 0
  let db := writeValidatorStatus keccak256 db sender inactive
  writeMaintenanceSince keccak256 db sender 0

/-- `handleWithdraw`. -/
def handleWithdraw (ctx : Context) : HandlerM σ Unit := do
  let db ← get
  let status := readValidatorStatus keccak256 db ctx.sender
  if status ≠ active ∧ status ≠ maintenance then throw (.error errNotActive)
  let selfStake := readSelfStake keccak256 db ctx.sender
  if VmStateDB.getBalance db validatorRegistryAddress < selfStake then
    throw (.error errValidatorRegistryBalanceBroken)
  set (withdrawWrites keccak256 db ctx.sender selfStake)

/-- `handleEnterMaintenance`: the start block is the block number's `Uint64()`. -/
def handleEnterMaintenance (ctx : Context) : HandlerM σ Unit := do
  let db ← get
  let status := readValidatorStatus keccak256 db ctx.sender
  if status = active then
    let db := writeValidatorStatus keccak256 db ctx.sender maintenance
    set (writeMaintenanceSince keccak256 db ctx.sender (ctx.blockNumber % 2 ^ 64))
  else if status = maintenance then throw (.error errAlreadyInMaintenance)
  else throw (.error errNotActive)

/-- `handleExitMaintenance`: with a DPoS config, an expired maintenance cannot be left. -/
def handleExitMaintenance (cfg : Option MaintenanceConfig) (ctx : Context) : HandlerM σ Unit := do
  let db ← get
  if readValidatorStatus keccak256 db ctx.sender ≠ maintenance then
    throw (.error errNotInMaintenance)
  if cfg.isSome ∧ readEffectiveValidatorStatus keccak256 db ctx.sender (ctx.blockNumber % 2 ^ 64)
      cfg = maintenanceExpired then
    throw (.error errMaintenanceExpired)
  let db := writeValidatorStatus keccak256 db ctx.sender active
  set (writeMaintenanceSince keccak256 db ctx.sender 0)

/-- `Handle(ctx, sa)`: an action of another name does nothing. -/
def handle (cfg : Option MaintenanceConfig) (ctx : Context) (sa : SysAction) : HandlerM σ Unit :=
  if sa.action = actionValidatorRegister then handleRegister keccak256 ctx
  else if sa.action = actionValidatorWithdraw then handleWithdraw keccak256 ctx
  else if sa.action = actionValidatorEnterMaintenance then handleEnterMaintenance keccak256 ctx
  else if sa.action = actionValidatorExitMaintenance then handleExitMaintenance keccak256 cfg ctx
  else pure ()

/-- The handler of the four validator actions. -/
def validatorHandler (cfg : Option MaintenanceConfig) : Handler σ where
  actions := [actionValidatorRegister, actionValidatorWithdraw, actionValidatorEnterMaintenance,
    actionValidatorExitMaintenance]
  handle := handle keccak256 cfg

/-! ## What each handler does

One lemma per handler gives its outcome: the error of the first check that fails, with the state
untouched, or success with the writes of its mutation phase. -/

theorem run_handleRegister (ctx : Context) (db : σ) :
    (handleRegister keccak256 ctx).run.run db =
      if ctx.value < dposMinValidatorStake then (.error (.error errInsufficientStake), db)
      else if VmStateDB.getBalance db ctx.sender < ctx.value then
        (.error (.error errInsufficientBalance), db)
      else if readSelfStake keccak256 db ctx.sender ≠ 0 then
        (.error (.error errAlreadyRegistered), db)
      else (.ok (), registerWrites keccak256 db ctx.sender ctx.value) := by
  rw [handleRegister, ExceptStateM.run_bind_of_ok (ExceptStateM.run_get db)]
  dsimp only
  split_ifs <;> rfl

theorem run_handleWithdraw (ctx : Context) (db : σ) :
    (handleWithdraw keccak256 ctx).run.run db =
      if readValidatorStatus keccak256 db ctx.sender ≠ active ∧
          readValidatorStatus keccak256 db ctx.sender ≠ maintenance then
        (.error (.error errNotActive), db)
      else if VmStateDB.getBalance db validatorRegistryAddress <
          readSelfStake keccak256 db ctx.sender then
        (.error (.error errValidatorRegistryBalanceBroken), db)
      else (.ok (), withdrawWrites keccak256 db ctx.sender (readSelfStake keccak256 db ctx.sender)) := by
  rw [handleWithdraw, ExceptStateM.run_bind_of_ok (ExceptStateM.run_get db)]
  dsimp only
  split_ifs <;> rfl

theorem run_handleEnterMaintenance (ctx : Context) (db : σ) :
    (handleEnterMaintenance keccak256 ctx).run.run db =
      if readValidatorStatus keccak256 db ctx.sender = active then
        (.ok (), writeMaintenanceSince keccak256
          (writeValidatorStatus keccak256 db ctx.sender maintenance) ctx.sender (ctx.blockNumber % 2 ^ 64))
      else if readValidatorStatus keccak256 db ctx.sender = maintenance then
        (.error (.error errAlreadyInMaintenance), db)
      else (.error (.error errNotActive), db) := by
  rw [handleEnterMaintenance, ExceptStateM.run_bind_of_ok (ExceptStateM.run_get db)]
  dsimp only
  split_ifs <;> rfl

theorem run_handleExitMaintenance (cfg : Option MaintenanceConfig) (ctx : Context) (db : σ) :
    (handleExitMaintenance keccak256 cfg ctx).run.run db =
      if readValidatorStatus keccak256 db ctx.sender ≠ maintenance then
        (.error (.error errNotInMaintenance), db)
      else if cfg.isSome ∧ readEffectiveValidatorStatus keccak256 db ctx.sender
          (ctx.blockNumber % 2 ^ 64) cfg = maintenanceExpired then
        (.error (.error errMaintenanceExpired), db)
      else (.ok (), writeMaintenanceSince keccak256
          (writeValidatorStatus keccak256 db ctx.sender active) ctx.sender 0) := by
  rw [handleExitMaintenance, ExceptStateM.run_bind_of_ok (ExceptStateM.run_get db)]
  dsimp only
  split_ifs <;> rfl

/-- **A failed action writes nothing.** Every check of the four handlers comes before the first
write, so an error leaves the state as it was. -/
theorem handle_error_state (cfg : Option MaintenanceConfig) (ctx : Context) (sa : SysAction)
    (db db' : σ) (e : Fault) (h : (handle keccak256 cfg ctx sa).run.run db = (.error e, db')) :
    db' = db := by
  simp only [handle] at h
  split_ifs at h
  · rw [run_handleRegister] at h
    split_ifs at h <;> first | exact (Prod.mk.inj h).2.symm | cases (Prod.mk.inj h).1
  · rw [run_handleWithdraw] at h
    split_ifs at h <;> first | exact (Prod.mk.inj h).2.symm | cases (Prod.mk.inj h).1
  · rw [run_handleEnterMaintenance] at h
    split_ifs at h <;> first | exact (Prod.mk.inj h).2.symm | cases (Prod.mk.inj h).1
  · rw [run_handleExitMaintenance] at h
    split_ifs at h <;> first | exact (Prod.mk.inj h).2.symm | cases (Prod.mk.inj h).1
  · cases h

/-! The same outcomes as `TransitionDb` keeps them: a failed action leaves the state. -/

theorem commit_handleRegister (ctx : Context) (db : σ) :
    commit (handleRegister keccak256 ctx) db =
      if ctx.value < dposMinValidatorStake then db
      else if VmStateDB.getBalance db ctx.sender < ctx.value then db
      else if readSelfStake keccak256 db ctx.sender ≠ 0 then db
      else registerWrites keccak256 db ctx.sender ctx.value := by
  rw [commit, run_handleRegister]
  split_ifs <;> rfl

theorem commit_handleWithdraw (ctx : Context) (db : σ) :
    commit (handleWithdraw keccak256 ctx) db =
      if readValidatorStatus keccak256 db ctx.sender ≠ active ∧
          readValidatorStatus keccak256 db ctx.sender ≠ maintenance then db
      else if VmStateDB.getBalance db validatorRegistryAddress <
          readSelfStake keccak256 db ctx.sender then db
      else withdrawWrites keccak256 db ctx.sender (readSelfStake keccak256 db ctx.sender) := by
  rw [commit, run_handleWithdraw]
  split_ifs <;> rfl

theorem commit_handleEnterMaintenance (ctx : Context) (db : σ) :
    commit (handleEnterMaintenance keccak256 ctx) db =
      if readValidatorStatus keccak256 db ctx.sender = active then
        writeMaintenanceSince keccak256 (writeValidatorStatus keccak256 db ctx.sender maintenance)
          ctx.sender (ctx.blockNumber % 2 ^ 64)
      else db := by
  rw [commit, run_handleEnterMaintenance]
  split_ifs <;> rfl

theorem commit_handleExitMaintenance (cfg : Option MaintenanceConfig) (ctx : Context) (db : σ) :
    commit (handleExitMaintenance keccak256 cfg ctx) db =
      if readValidatorStatus keccak256 db ctx.sender ≠ maintenance then db
      else if cfg.isSome ∧ readEffectiveValidatorStatus keccak256 db ctx.sender
          (ctx.blockNumber % 2 ^ 64) cfg = maintenanceExpired then db
      else
        writeMaintenanceSince keccak256 (writeValidatorStatus keccak256 db ctx.sender active) ctx.sender 0 := by
  rw [commit, run_handleExitMaintenance]
  split_ifs <;> rfl
/-- One action as `TransitionDb` applies it: a failed action is reverted. -/
def applyAction (cfg : Option MaintenanceConfig) (db : σ) (act : Context × SysAction) : σ :=
  commit (handle keccak256 cfg act.1 act.2) db

/-- A run of actions. -/
def runActions (cfg : Option MaintenanceConfig) (db : σ) (acts : List (Context × SysAction)) : σ :=
  acts.foldl (applyAction keccak256 cfg) db

end Handle

end Gtos.Validator
