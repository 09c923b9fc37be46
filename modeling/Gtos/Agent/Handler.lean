import Gtos.Agent.State
import Gtos.Capability.State
import Gtos.Sysaction.Execute
import Gtos.Lib.ExceptState

/-! # The agent actions (`agent/handler.go`)

Six system actions manage an agent. `AGENT_REGISTER` locks the message's value as the sender's
stake and makes it `Active`, appending it to the list on its first registration only;
`AGENT_INCREASE_STAKE` adds the value to the stake of an `Active` agent; `AGENT_DECREASE_STAKE`
returns part of the stake, or all of it, which makes the agent `Inactive`;
`AGENT_UPDATE_PROFILE` writes the metadata URI; and `AGENT_SUSPEND` and `AGENT_UNSUSPEND`, for
holders of the Registrar capability, set another agent's suspended flag. Each handler checks
everything before its first write.

Each payload is JSON, and `AgentAction` is an action with the payload its decoder returned; a
payload that does not decode is an error. `TransitionDb` reverts a failed action (`commit`);
`applyAction` is one action as it applies it, and `runActions` a run.

`handleRegister_ok` and its five companions say what a successful action checked and wrote. -/

namespace Gtos.Agent

open Gtos.Core Gtos.Sysaction ExceptStateM

/-! ## Errors and payloads -/

/-- `ErrAgentAlreadyRegistered`. -/
def errAgentAlreadyRegistered : String := "agent: already registered"

/-- `ErrAgentNotRegistered`. -/
def errAgentNotRegistered : String := "agent: not registered"

/-- `ErrAgentInsufficientStake`. -/
def errAgentInsufficientStake : String := "agent: insufficient stake"

/-- `ErrAgentInsufficientBalance`. -/
def errAgentInsufficientBalance : String := "agent: sender balance below stake amount"

/-- `ErrCapabilityRequired`. -/
def errCapabilityRequired : String := "agent: Registrar capability required"

/-- `ErrAgentNotActive`. -/
def errAgentNotActive : String := "agent: not active"

/-- `ErrDecreaseExceedsStake`. -/
def errDecreaseExceedsStake : String := "agent: decrease amount exceeds current stake"

/-- `ErrRegistryBalanceBroken`. -/
def errRegistryBalanceBroken : String := "agent: registry balance invariant violated"

/-- `ErrInvalidTarget`. -/
def errInvalidTarget : String := "agent: invalid target address"

/-- `ErrURITooLong`. -/
def errURITooLong : String := "agent: URI exceeds maximum length"

/-- `registrarBit`: the capability bit of the Registrar. -/
def registrarBit : UInt8 := 0

/-- `updateProfilePayload`. -/
structure UpdateProfilePayload where
  /-- `uri`. -/
  uri : String
  deriving DecidableEq, Repr

/-- `decreaseStakePayload`. -/
structure DecreaseStakePayload where
  /-- `amount`, decimal text. -/
  amount : String
  deriving DecidableEq, Repr

/-- `targetPayload`. -/
structure TargetPayload where
  /-- `target`, hexadecimal text. -/
  target : String
  deriving DecidableEq, Repr

/-- An agent action with the payload its JSON decoder returned. -/
inductive AgentAction
  /-- `AGENT_REGISTER`: no payload is read. -/
  | register
  /-- `AGENT_UPDATE_PROFILE`. -/
  | updateProfile (payload : Except String UpdateProfilePayload)
  /-- `AGENT_INCREASE_STAKE`: no payload is read. -/
  | increaseStake
  /-- `AGENT_DECREASE_STAKE`. -/
  | decreaseStake (payload : Except String DecreaseStakePayload)
  /-- `AGENT_SUSPEND`. -/
  | suspend (payload : Except String TargetPayload)
  /-- `AGENT_UNSUSPEND`. -/
  | unsuspend (payload : Except String TargetPayload)
  deriving DecidableEq, Repr

section Handle

variable {σ : Type} [VmStateDB σ] (keccak256 : List UInt8 → Hash)

/-- A decoded payload, or the decoder's error. -/
def requireDecoded {α : Type} (payload : Except String α) : HandlerM σ α :=
  match payload with
  | .ok p => pure p
  | .error e => throw (.error e)

/-- The mutation phase of `handleRegister`: lock the stake in the registry, write the sender's
fields, and on a first registration set its flag and append it to the list. -/
def registerWrites (db : σ) (sender : Address) (value : ℤ) : σ :=
  let isNew := !readRegisteredFlag keccak256 db sender
  let db := VmStateDB.subBalance db sender value
  let db := VmStateDB.addBalance db agentRegistryAddress value
  let db := writeStake keccak256 db sender value
  let db := writeStatus keccak256 db sender agentActive
  let db := writeSuspended keccak256 db sender false
  if isNew then appendAgentToList keccak256 (writeRegisteredFlag keccak256 db sender) sender
  else db

/-- `handleRegister`. -/
def handleRegister (ctx : Context) : HandlerM σ Unit := do
  let db ← get
  if ctx.value < agentMinStake then throw (.error errAgentInsufficientStake)
  if VmStateDB.getBalance db ctx.sender < ctx.value then throw (.error errAgentInsufficientBalance)
  if readStake keccak256 db ctx.sender ≠ 0 then throw (.error errAgentAlreadyRegistered)
  set (registerWrites keccak256 db ctx.sender ctx.value)

/-- `handleUpdateProfile`: the length checked is the URI's byte length. -/
def handleUpdateProfile (ctx : Context) (payload : Except String UpdateProfilePayload) :
    HandlerM σ Unit := do
  let db ← get
  if !isRegistered keccak256 db ctx.sender then throw (.error errAgentNotRegistered)
  let p ← requireDecoded payload
  if (Text.utf8 p.uri).length > maxURILength then throw (.error errURITooLong)
  set (writeMetadata keccak256 db ctx.sender p.uri)

/-- The mutation phase of `handleIncreaseStake`: move the value to the registry and add it to the
stake. -/
def increaseWrites (db : σ) (sender : Address) (value : ℤ) : σ :=
  let db := VmStateDB.subBalance db sender value
  let db := VmStateDB.addBalance db agentRegistryAddress value
  let current := readStake keccak256 db sender
  writeStake keccak256 db sender (current + value)

/-- `handleIncreaseStake`: only a zero value is refused as too small. -/
def handleIncreaseStake (ctx : Context) : HandlerM σ Unit := do
  let db ← get
  if !isRegistered keccak256 db ctx.sender then throw (.error errAgentNotRegistered)
  if readStatus keccak256 db ctx.sender ≠ agentActive then throw (.error errAgentNotActive)
  if ctx.value = 0 then throw (.error errAgentInsufficientStake)
  if VmStateDB.getBalance db ctx.sender < ctx.value then throw (.error errAgentInsufficientBalance)
  set (increaseWrites keccak256 db ctx.sender ctx.value)

/-- `new(big.Int).SetString(amount, 10)` with the check `!ok || amount.Sign() <= 0`. -/
def parsePositiveAmount (s : String) : HandlerM σ ℤ :=
  match Decimal.parseInt s.toList with
  | some x => if x ≤ 0 then throw (.error errAgentInsufficientStake) else pure x
  | none => throw (.error errAgentInsufficientStake)

/-- The mutation phase of `handleDecreaseStake`: return the amount from the registry, write the
remaining stake, and make the agent `Inactive` when nothing remains. -/
def decreaseWrites (db : σ) (sender : Address) (amount remaining : ℤ) : σ :=
  let db := VmStateDB.subBalance db agentRegistryAddress amount
  let db := VmStateDB.addBalance db sender amount
  let db := writeStake keccak256 db sender remaining
  if remaining = 0 then writeStatus keccak256 db sender agentInactive else db

/-- `handleDecreaseStake`. -/
def handleDecreaseStake (ctx : Context) (payload : Except String DecreaseStakePayload) :
    HandlerM σ Unit := do
  let db ← get
  if !isRegistered keccak256 db ctx.sender then throw (.error errAgentNotRegistered)
  if readStatus keccak256 db ctx.sender ≠ agentActive then throw (.error errAgentNotActive)
  let p ← requireDecoded payload
  let amount ← parsePositiveAmount p.amount
  let remaining := (readStake keccak256 db ctx.sender : ℤ) - amount
  if remaining < 0 then throw (.error errDecreaseExceedsStake)
  -- a partial decrease keeps the minimum; a full one is an exit
  if remaining > 0 ∧ remaining < agentMinStake then throw (.error errAgentInsufficientStake)
  if VmStateDB.getBalance db agentRegistryAddress < amount then
    throw (.error errRegistryBalanceBroken)
  set (decreaseWrites keccak256 db ctx.sender amount remaining)

/-- `handleSuspend` and `handleUnsuspend`, which differ only in the flag they write: a holder of
the Registrar capability sets the suspended flag of a registered, non-zero target. -/
def handleSetSuspended (suspended : Bool) (ctx : Context) (payload : Except String TargetPayload) :
    HandlerM σ Unit := do
  let db ← get
  if !Capability.hasCapability keccak256 db ctx.sender registrarBit then
    throw (.error errCapabilityRequired)
  let p ← requireDecoded payload
  let target := hexToAddress p.target
  if target = 0 then throw (.error errInvalidTarget)
  if !isRegistered keccak256 db target then throw (.error errAgentNotRegistered)
  set (writeSuspended keccak256 db target suspended)

/-- `handleSuspend`. -/
def handleSuspend (ctx : Context) (payload : Except String TargetPayload) : HandlerM σ Unit :=
  handleSetSuspended keccak256 true ctx payload

/-- `handleUnsuspend`. -/
def handleUnsuspend (ctx : Context) (payload : Except String TargetPayload) : HandlerM σ Unit :=
  handleSetSuspended keccak256 false ctx payload

/-- `Handle(ctx, sa)` on a decoded action. -/
def handle (ctx : Context) : AgentAction → HandlerM σ Unit
  | .register => handleRegister keccak256 ctx
  | .updateProfile payload => handleUpdateProfile keccak256 ctx payload
  | .increaseStake => handleIncreaseStake keccak256 ctx
  | .decreaseStake payload => handleDecreaseStake keccak256 ctx payload
  | .suspend payload => handleSuspend keccak256 ctx payload
  | .unsuspend payload => handleUnsuspend keccak256 ctx payload

/-- The JSON decoders of the three payload types. -/
structure PayloadDecoders where
  /-- `json.Unmarshal` into `updateProfilePayload`. -/
  updateProfile : List UInt8 → Except String UpdateProfilePayload
  /-- `json.Unmarshal` into `decreaseStakePayload`. -/
  decreaseStake : List UInt8 → Except String DecreaseStakePayload
  /-- `json.Unmarshal` into `targetPayload`. -/
  target : List UInt8 → Except String TargetPayload

/-- The agent action a system action names, its payload decoded; `none` for a name `Handle`
does not switch on. -/
def toAgentAction (dec : PayloadDecoders) (sa : SysAction) : Option AgentAction :=
  if sa.action = actionAgentRegister then some .register
  else if sa.action = actionAgentUpdateProfile then some (.updateProfile (dec.updateProfile sa.payload))
  else if sa.action = actionAgentIncreaseStake then some .increaseStake
  else if sa.action = actionAgentDecreaseStake then some (.decreaseStake (dec.decreaseStake sa.payload))
  else if sa.action = actionAgentSuspend then some (.suspend (dec.target sa.payload))
  else if sa.action = actionAgentUnsuspend then some (.unsuspend (dec.target sa.payload))
  else none

/-- The handler of the six agent actions; an action of another name does nothing. -/
def agentHandler (dec : PayloadDecoders) : Handler σ where
  actions := [actionAgentRegister, actionAgentUpdateProfile, actionAgentIncreaseStake,
    actionAgentDecreaseStake, actionAgentSuspend, actionAgentUnsuspend]
  handle ctx sa :=
    match toAgentAction dec sa with
    | some a => handle keccak256 ctx a
    | none => pure ()

/-- One action as `TransitionDb` applies it: a failed action is reverted. -/
def applyAction (db : σ) (act : Context × AgentAction) : σ :=
  commit (handle keccak256 act.1 act.2) db

/-- A run of actions. -/
def runActions (db : σ) (acts : List (Context × AgentAction)) : σ :=
  acts.foldl (applyAction keccak256) db

/-- Whether an action succeeds from a state, and so is kept. -/
def succeeds (db : σ) (act : Context × AgentAction) : Bool :=
  match ((handle keccak256 act.1 act.2).run.run db).1 with
  | .ok _ => true
  | .error _ => false

theorem applyAction_of_succeeds {db : σ} {ctx : Context} {a : AgentAction}
    (h : succeeds keccak256 db (ctx, a) = true) :
    ∃ db', (handle keccak256 ctx a).run.run db = (.ok (), db') ∧
      applyAction keccak256 db (ctx, a) = db' := by
  unfold succeeds at h
  rcases hrun : (handle keccak256 ctx a).run.run db with ⟨_ | ⟨⟩, db'⟩
  · rw [hrun] at h
    cases h
  · exact ⟨db', rfl, commit_of_ok hrun⟩

/-- A failed action is reverted. -/
theorem applyAction_of_not_succeeds {db : σ} {ctx : Context} {a : AgentAction}
    (h : succeeds keccak256 db (ctx, a) = false) : applyAction keccak256 db (ctx, a) = db := by
  unfold succeeds at h
  rcases hrun : (handle keccak256 ctx a).run.run db with ⟨_ | ⟨⟩, db'⟩
  · exact commit_of_error hrun
  · rw [hrun] at h
    cases h

theorem runActions_cons (db : σ) (act : Context × AgentAction) (acts : List (Context × AgentAction)) :
    runActions keccak256 db (act :: acts) = runActions keccak256 (applyAction keccak256 db act) acts :=
  rfl

/-- The state after the first `k + 1` actions of a run is the `k`-th action applied to the state
after the first `k`. -/
theorem runActions_take_succ (db : σ) {acts : List (Context × AgentAction)} {k : ℕ}
    {act : Context × AgentAction} (hk : acts[k]? = some act) :
    runActions keccak256 db (acts.take (k + 1)) =
      applyAction keccak256 (runActions keccak256 db (acts.take k)) act := by
  rw [List.take_add_one, hk, runActions, List.foldl_append]
  rfl

end Handle

/-! ## What a successful action checked and wrote

One inversion lemma per handler: the checks it passed, and the state it left. -/

section Outcomes

variable {σ : Type} [VmStateDB σ] (keccak256 : List UInt8 → Hash) {ctx : Context} {db db' : σ}
  {u : Unit}

omit [VmStateDB σ] in
theorem requireDecoded_ok {α : Type} {payload : Except String α} {p : α}
    (h : (requireDecoded payload : HandlerM σ α).run.run db = (.ok p, db')) :
    payload = .ok p ∧ db = db' := by
  cases payload with
  | error e => cases h
  | ok q =>
    cases h
    exact ⟨rfl, rfl⟩

omit [VmStateDB σ] in
theorem parsePositiveAmount_ok {s : String} {x : ℤ}
    (h : (parsePositiveAmount s : HandlerM σ ℤ).run.run db = (.ok x, db')) :
    Decimal.parseInt s.toList = some x ∧ 0 < x ∧ db = db' := by
  unfold parsePositiveAmount at h
  split at h
  case h_1 y hy =>
    split at h
    case isTrue => cases h
    case isFalse hpos =>
      cases h
      exact ⟨hy, lt_of_not_ge hpos, rfl⟩
  case h_2 => cases h

theorem handleRegister_ok (h : (handleRegister keccak256 ctx).run.run db = (.ok u, db')) :
    agentMinStake ≤ ctx.value ∧ ctx.value ≤ VmStateDB.getBalance db ctx.sender ∧
      readStake keccak256 db ctx.sender = 0 ∧
      db' = registerWrites keccak256 db ctx.sender ctx.value := by
  unfold handleRegister at h
  rw [run_get_bind] at h
  obtain ⟨hmin, h⟩ := run_guard_eq_ok h
  obtain ⟨hbal, h⟩ := run_guard_eq_ok h
  obtain ⟨hstake, h⟩ := run_guard_eq_ok h
  rw [run_set] at h
  cases h
  exact ⟨le_of_not_gt hmin, le_of_not_gt hbal, not_not.mp hstake, rfl⟩

/-- A registration that passes its three checks succeeds, with the registration's writes. -/
theorem run_handleRegister (hmin : (agentMinStake : ℤ) ≤ ctx.value)
    (hbal : ctx.value ≤ VmStateDB.getBalance db ctx.sender)
    (hstake : readStake keccak256 db ctx.sender = 0) :
    (handleRegister keccak256 ctx).run.run db =
      (.ok (), registerWrites keccak256 db ctx.sender ctx.value) := by
  unfold handleRegister
  rw [run_get_bind, if_neg (not_lt.mpr hmin), if_neg (not_lt.mpr hbal),
    if_neg (not_not.mpr hstake), run_set]

theorem handleUpdateProfile_ok {payload : Except String UpdateProfilePayload}
    (h : (handleUpdateProfile keccak256 ctx payload).run.run db = (.ok u, db')) :
    isRegistered keccak256 db ctx.sender = true ∧ ∃ p, payload = .ok p ∧
      (Text.utf8 p.uri).length ≤ maxURILength ∧ db' = writeMetadata keccak256 db ctx.sender p.uri := by
  unfold handleUpdateProfile at h
  rw [run_get_bind] at h
  obtain ⟨hreg, h⟩ := run_guard_eq_ok h
  obtain ⟨p, _, hp, h⟩ := run_bind_eq_ok h
  obtain ⟨rfl, rfl⟩ := requireDecoded_ok hp
  obtain ⟨hlen, h⟩ := run_guard_eq_ok h
  rw [run_set] at h
  cases h
  exact ⟨by simpa using hreg, p, rfl, le_of_not_gt hlen, rfl⟩

theorem handleIncreaseStake_ok (h : (handleIncreaseStake keccak256 ctx).run.run db = (.ok u, db')) :
    isRegistered keccak256 db ctx.sender = true ∧ readStatus keccak256 db ctx.sender = agentActive ∧
      ctx.value ≠ 0 ∧ ctx.value ≤ VmStateDB.getBalance db ctx.sender ∧
      db' = increaseWrites keccak256 db ctx.sender ctx.value := by
  unfold handleIncreaseStake at h
  rw [run_get_bind] at h
  obtain ⟨hreg, h⟩ := run_guard_eq_ok h
  obtain ⟨hstatus, h⟩ := run_guard_eq_ok h
  obtain ⟨hzero, h⟩ := run_guard_eq_ok h
  obtain ⟨hbal, h⟩ := run_guard_eq_ok h
  rw [run_set] at h
  cases h
  exact ⟨by simpa using hreg, not_not.mp hstatus, hzero, le_of_not_gt hbal, rfl⟩

theorem handleDecreaseStake_ok {payload : Except String DecreaseStakePayload}
    (h : (handleDecreaseStake keccak256 ctx payload).run.run db = (.ok u, db')) :
    isRegistered keccak256 db ctx.sender = true ∧ readStatus keccak256 db ctx.sender = agentActive ∧
      ∃ p amount, payload = .ok p ∧ Decimal.parseInt p.amount.toList = some amount ∧ 0 < amount ∧
        amount ≤ readStake keccak256 db ctx.sender ∧
        ¬ (0 < (readStake keccak256 db ctx.sender : ℤ) - amount ∧
          (readStake keccak256 db ctx.sender : ℤ) - amount < agentMinStake) ∧
        amount ≤ VmStateDB.getBalance db agentRegistryAddress ∧
        db' = decreaseWrites keccak256 db ctx.sender amount
          ((readStake keccak256 db ctx.sender : ℤ) - amount) := by
  unfold handleDecreaseStake at h
  rw [run_get_bind] at h
  obtain ⟨hreg, h⟩ := run_guard_eq_ok h
  obtain ⟨hstatus, h⟩ := run_guard_eq_ok h
  obtain ⟨p, _, hp, h⟩ := run_bind_eq_ok h
  obtain ⟨rfl, rfl⟩ := requireDecoded_ok hp
  obtain ⟨amount, _, hamount, h⟩ := run_bind_eq_ok h
  obtain ⟨hparse, hpos, rfl⟩ := parsePositiveAmount_ok hamount
  obtain ⟨hexceeds, h⟩ := run_guard_eq_ok h
  obtain ⟨hmin, h⟩ := run_guard_eq_ok h
  obtain ⟨hbal, h⟩ := run_guard_eq_ok h
  rw [run_set] at h
  cases h
  refine ⟨by simpa using hreg, not_not.mp hstatus, p, amount, rfl, hparse, hpos, ?_, hmin,
    le_of_not_gt hbal, rfl⟩
  omega

/-- The outcome of a decrease whose payload decoded: the error of the first check that fails, with
the state untouched, or success with the decrease's writes. -/
theorem run_handleDecreaseStake (p : DecreaseStakePayload) :
    (handleDecreaseStake keccak256 ctx (.ok p)).run.run db =
      if isRegistered keccak256 db ctx.sender = false then (.error (.error errAgentNotRegistered), db)
      else if readStatus keccak256 db ctx.sender ≠ agentActive then
        (.error (.error errAgentNotActive), db)
      else match Decimal.parseInt p.amount.toList with
        | none => (.error (.error errAgentInsufficientStake), db)
        | some amount =>
          if amount ≤ 0 then (.error (.error errAgentInsufficientStake), db)
          else if (readStake keccak256 db ctx.sender : ℤ) - amount < 0 then
            (.error (.error errDecreaseExceedsStake), db)
          else if (readStake keccak256 db ctx.sender : ℤ) - amount > 0 ∧
              (readStake keccak256 db ctx.sender : ℤ) - amount < agentMinStake then
            (.error (.error errAgentInsufficientStake), db)
          else if VmStateDB.getBalance db agentRegistryAddress < amount then
            (.error (.error errRegistryBalanceBroken), db)
          else (.ok (), decreaseWrites keccak256 db ctx.sender amount
            ((readStake keccak256 db ctx.sender : ℤ) - amount)) := by
  unfold handleDecreaseStake
  rw [run_get_bind]
  cases hflag : isRegistered keccak256 db ctx.sender
  · simp
    rfl
  · by_cases hstatus : readStatus keccak256 db ctx.sender = agentActive
    · cases hparse : Decimal.parseInt p.amount.toList with
      | none =>
        simp [hstatus, hparse, requireDecoded, parsePositiveAmount]
        rfl
      | some amount =>
        simp only [hstatus, hparse, run_ite, run_bind, requireDecoded, parsePositiveAmount,
          run_pure, run_throw, run_set, Bool.not_true, Bool.false_eq_true, if_false, ne_eq,
          not_true_eq_false, Bool.true_eq_false]
        -- the amount's match is reduced once its guard is split
        split_ifs <;> simp only [] <;> split_ifs <;> rfl
    · simp [hstatus]
      rfl

theorem handleSetSuspended_ok {suspended : Bool} {payload : Except String TargetPayload}
    (h : (handleSetSuspended keccak256 suspended ctx payload).run.run db = (.ok u, db')) :
    Capability.hasCapability keccak256 db ctx.sender registrarBit = true ∧ ∃ p, payload = .ok p ∧
      hexToAddress p.target ≠ 0 ∧ isRegistered keccak256 db (hexToAddress p.target) = true ∧
      db' = writeSuspended keccak256 db (hexToAddress p.target) suspended := by
  unfold handleSetSuspended at h
  rw [run_get_bind] at h
  obtain ⟨hcap, h⟩ := run_guard_eq_ok h
  obtain ⟨p, _, hp, h⟩ := run_bind_eq_ok h
  obtain ⟨rfl, rfl⟩ := requireDecoded_ok hp
  obtain ⟨hzero, h⟩ := run_guard_eq_ok h
  obtain ⟨hreg, h⟩ := run_guard_eq_ok h
  rw [run_set] at h
  cases h
  exact ⟨by simpa using hcap, p, rfl, hzero, by simpa using hreg, rfl⟩

end Outcomes

end Gtos.Agent
