import Gtos.PolicyWallet.State
import Gtos.Sysaction.Execute
import Gtos.Lib.ExceptState

/-! # The policy-wallet actions (`policywallet/handler.go`)

Twelve system actions configure a wallet. Most of them require the sender to be the wallet's
owner, and `requireOwner` makes the first sender of such an action the owner of a wallet that
has none. Recovery is a timelocked exchange with the guardian: the guardian initiates it with a
new owner, the owner may cancel it, and the initiating guardian completes it once
`RecoveryTimelockBlocks` blocks have passed.

Each action's payload is JSON; `PolicyAction` is an action with the payload its decoder
returned, and a payload that fails to decode is an error, which the state transition reverts like
every other. `applyAction` is one action as `TransitionDb` applies it and `runActions` a run.

`handleSetSpendCaps_ok` and its eleven companions say what a successful action checked and wrote. -/

namespace Gtos.PolicyWallet

open Gtos.Core Gtos.Sysaction

/-! ## Errors and payloads -/

/-- `ErrNotOwner`. -/
def errNotOwner : String := "policywallet: caller is not wallet owner"

/-- `ErrNotGuardian`. -/
def errNotGuardian : String := "policywallet: caller is not guardian"

/-- `ErrWalletSuspended`. -/
def errWalletSuspended : String := "policywallet: wallet is suspended"

/-- `ErrWalletNotSuspended`. -/
def errWalletNotSuspended : String := "policywallet: wallet is not suspended"

/-- `ErrNoGuardianSet`. -/
def errNoGuardianSet : String := "policywallet: no guardian configured"

/-- `ErrRecoveryNotActive`. -/
def errRecoveryNotActive : String := "policywallet: no active recovery"

/-- `ErrRecoveryAlreadyActive`. -/
def errRecoveryAlreadyActive : String := "policywallet: recovery already active"

/-- `ErrRecoveryTimelockNotMet`. -/
def errRecoveryTimelockNotMet : String := "policywallet: recovery timelock not elapsed"

/-- `ErrInvalidAmount`. -/
def errInvalidAmount : String := "policywallet: invalid amount string"

/-- `ErrInvalidTerminalClass`. -/
def errInvalidTerminalClass : String := "policywallet: invalid terminal class"

/-- `ErrZeroAddress`. -/
def errZeroAddress : String := "policywallet: zero address not allowed"

/-- `ErrOwnerNotSet`. -/
def errOwnerNotSet : String := "policywallet: wallet has no owner"

/-- `ErrNegativeAmount`. -/
def errNegativeAmount : String := "policywallet: negative amount not allowed"

/-- `ErrTimelockOverflow`. -/
def errTimelockOverflow : String := "policywallet: timelock arithmetic overflow"

/-- `ErrZeroAllowance`. -/
def errZeroAllowance : String := "policywallet: zero allowance not allowed for delegate"

/-- `SetSpendCapsPayload`. -/
structure SetSpendCapsPayload where
  /-- `account`. -/
  account : Address
  /-- `daily_limit`, decimal text. -/
  dailyLimit : String
  /-- `single_tx_limit`, decimal text. -/
  singleTxLimit : String
  deriving DecidableEq, Repr

/-- `SetAllowlistPayload`. -/
structure SetAllowlistPayload where
  /-- `account`. -/
  account : Address
  /-- `target`. -/
  target : Address
  /-- `allowed`. -/
  allowed : Bool
  deriving DecidableEq, Repr

/-- `SetTerminalPolicyPayload`. -/
structure SetTerminalPolicyPayload where
  /-- `account`. -/
  account : Address
  /-- `terminal_class`. -/
  terminalClass : UInt8
  /-- `max_single`, decimal text. -/
  maxSingle : String
  /-- `max_daily`, decimal text. -/
  maxDaily : String
  /-- `min_trust_tier`. -/
  minTrustTier : UInt8
  deriving DecidableEq, Repr

/-- `AuthorizeDelegatePayload`. -/
structure AuthorizeDelegatePayload where
  /-- `account`. -/
  account : Address
  /-- `delegate`. -/
  delegate : Address
  /-- `allowance`, decimal text. -/
  allowance : String
  /-- `expiry`, a `uint64`. -/
  expiry : ℕ
  deriving DecidableEq, Repr

/-- An action with its decoded payload: the payload types of `policywallet/types.go`, of which
`CancelRecoveryPayload`, `CompleteRecoveryPayload` and `SuspendPayload` hold the account only. -/
inductive PolicyAction
  /-- `POLICY_SET_SPEND_CAPS`. -/
  | setSpendCaps (p : SetSpendCapsPayload)
  /-- `POLICY_SET_ALLOWLIST`. -/
  | setAllowlist (p : SetAllowlistPayload)
  /-- `POLICY_SET_TERMINAL_POLICY`. -/
  | setTerminalPolicy (p : SetTerminalPolicyPayload)
  /-- `POLICY_AUTHORIZE_DELEGATE`. -/
  | authorizeDelegate (p : AuthorizeDelegatePayload)
  /-- `POLICY_REVOKE_DELEGATE`: the account and the delegate. -/
  | revokeDelegate (account delegate : Address)
  /-- `POLICY_SET_GUARDIAN`: the account and the guardian. -/
  | setGuardian (account guardian : Address)
  /-- `POLICY_INITIATE_RECOVERY`: the account and the new owner. -/
  | initiateRecovery (account newOwner : Address)
  /-- `POLICY_CANCEL_RECOVERY`. -/
  | cancelRecovery (account : Address)
  /-- `POLICY_COMPLETE_RECOVERY`. -/
  | completeRecovery (account : Address)
  /-- `POLICY_SUSPEND`. -/
  | suspend (account : Address)
  /-- `POLICY_UNSUSPEND`. -/
  | unsuspend (account : Address)
  /-- `POLICY_SET_AUDITOR_KEY`: the account and the 32-byte key. -/
  | setAuditorKey (account : Address) (auditorKey : Hash)
  deriving DecidableEq, Repr

/-- The wallet an action is about: its payload's `account`. -/
def PolicyAction.account : PolicyAction → Address
  | .setSpendCaps p => p.account
  | .setAllowlist p => p.account
  | .setTerminalPolicy p => p.account
  | .authorizeDelegate p => p.account
  | .revokeDelegate account _ => account
  | .setGuardian account _ => account
  | .initiateRecovery account _ => account
  | .cancelRecovery account => account
  | .completeRecovery account => account
  | .suspend account => account
  | .unsuspend account => account
  | .setAuditorKey account _ => account

section Handle

variable {σ : Type} [VmStateDB σ] (keccak256 : List UInt8 → Hash)

/-- `requireOwner`: the sender must not be the zero address; a wallet without an owner takes the
sender as owner, and otherwise the sender must be the owner. -/
def requireOwner (ctx : Context) (wallet : Address) : HandlerM σ Unit := do
  if ctx.sender = 0 then throw (.error errZeroAddress)
  let owner := readOwner keccak256 (← get) wallet
  if owner = 0 then modify fun db => writeOwner keccak256 db wallet ctx.sender
  else if owner ≠ ctx.sender then throw (.error errNotOwner)

/-- What `requireOwner` lets through: a non-zero sender that owns the wallet, or any non-zero
sender when the wallet has no owner. -/
def ownerAccepts (db : σ) (wallet sender : Address) : Prop :=
  sender ≠ 0 ∧ (readOwner keccak256 db wallet = 0 ∨ readOwner keccak256 db wallet = sender)

/-- The state `requireOwner` leaves when it lets the sender through. -/
def claimOwner (db : σ) (wallet sender : Address) : σ :=
  if readOwner keccak256 db wallet = 0 then writeOwner keccak256 db wallet sender else db

/-- `requireNotSuspended`. -/
def requireNotSuspended (wallet : Address) : HandlerM σ Unit := do
  if readSuspended keccak256 (← get) wallet then throw (.error errWalletSuspended)

/-- `new(big.Int).SetString(s, 10)` followed by the sign check every handler makes. -/
def parseAmount (s : String) : HandlerM σ ℕ :=
  match Decimal.parseInt s.toList with
  | none => throw (.error errInvalidAmount)
  | some x => if x < 0 then throw (.error errNegativeAmount) else pure x.toNat

/-- `handleSetSpendCaps`. -/
def handleSetSpendCaps (ctx : Context) (p : SetSpendCapsPayload) : HandlerM σ Unit := do
  requireOwner keccak256 ctx p.account
  requireNotSuspended keccak256 p.account
  let daily ← parseAmount p.dailyLimit
  let single ← parseAmount p.singleTxLimit
  modify fun db => writeDailyLimit keccak256 db p.account daily
  modify fun db => writeSingleTxLimit keccak256 db p.account single

/-- `handleSetAllowlist`. -/
def handleSetAllowlist (ctx : Context) (p : SetAllowlistPayload) : HandlerM σ Unit := do
  requireOwner keccak256 ctx p.account
  requireNotSuspended keccak256 p.account
  if p.target = 0 then throw (.error errZeroAddress)
  modify fun db => writeAllowlisted keccak256 db p.account p.target p.allowed

/-- `handleSetTerminalPolicy`: the policy written is enabled. -/
def handleSetTerminalPolicy (ctx : Context) (p : SetTerminalPolicyPayload) : HandlerM σ Unit := do
  requireOwner keccak256 ctx p.account
  requireNotSuspended keccak256 p.account
  if p.terminalClass > terminalAPI then throw (.error errInvalidTerminalClass)
  let maxSingle ← parseAmount p.maxSingle
  let maxDaily ← parseAmount p.maxDaily
  modify fun db => writeTerminalPolicy keccak256 db p.account p.terminalClass
    ⟨maxSingle, maxDaily, p.minTrustTier, true⟩

/-- `handleAuthorizeDelegate`. -/
def handleAuthorizeDelegate (ctx : Context) (p : AuthorizeDelegatePayload) : HandlerM σ Unit := do
  requireOwner keccak256 ctx p.account
  requireNotSuspended keccak256 p.account
  if p.delegate = 0 then throw (.error errZeroAddress)
  let allowance ← parseAmount p.allowance
  if allowance = 0 then throw (.error errZeroAllowance)
  modify fun db => writeDelegateAuth keccak256 db p.account p.delegate allowance p.expiry true

/-- `handleRevokeDelegate`: no suspension check. -/
def handleRevokeDelegate (ctx : Context) (account delegate : Address) : HandlerM σ Unit := do
  requireOwner keccak256 ctx account
  if delegate = 0 then throw (.error errZeroAddress)
  modify fun db => writeDelegateAuth keccak256 db account delegate 0 0 false

/-- `handleSetGuardian`. -/
def handleSetGuardian (ctx : Context) (account guardian : Address) : HandlerM σ Unit := do
  requireOwner keccak256 ctx account
  requireNotSuspended keccak256 account
  if guardian = 0 then throw (.error errZeroAddress)
  modify fun db => writeGuardian keccak256 db account guardian

/-- `handleInitiateRecovery`: only the current guardian, and only when no recovery is active;
the start block is the block number's `Uint64()`. -/
def handleInitiateRecovery (ctx : Context) (account newOwner : Address) : HandlerM σ Unit := do
  let db ← get
  let guardian := readGuardian keccak256 db account
  if guardian = 0 then throw (.error errNoGuardianSet)
  if ctx.sender ≠ guardian then throw (.error errNotGuardian)
  if (readRecoveryState keccak256 db account).active then throw (.error errRecoveryAlreadyActive)
  if newOwner = 0 then throw (.error errZeroAddress)
  set (writeRecoveryState keccak256 db account
    ⟨true, guardian, newOwner, ctx.blockNumber % 2 ^ 64, recoveryTimelockBlocks⟩)

/-- `handleCancelRecovery`: the owner, as `requireOwner` decides it, clears an active recovery. -/
def handleCancelRecovery (ctx : Context) (account : Address) : HandlerM σ Unit := do
  requireOwner keccak256 ctx account
  if !(readRecoveryState keccak256 (← get) account).active then
    throw (.error errRecoveryNotActive)
  modify fun db => writeRecoveryState keccak256 db account .none

/-- `handleCompleteRecovery`: the guardian that initiated the recovery, once the `uint64`
deadline `InitiatedAt + Timelock` has passed, makes the new owner the owner. -/
def handleCompleteRecovery (ctx : Context) (account : Address) : HandlerM σ Unit := do
  let db ← get
  let rs := readRecoveryState keccak256 db account
  if !rs.active then throw (.error errRecoveryNotActive)
  if ctx.sender ≠ rs.guardian then throw (.error errNotGuardian)
  let deadline := (rs.initiatedAt + rs.timelock) % 2 ^ 64
  if deadline < rs.initiatedAt then throw (.error errTimelockOverflow)
  if ctx.blockNumber % 2 ^ 64 < deadline then throw (.error errRecoveryTimelockNotMet)
  let db := writeOwner keccak256 db account rs.newOwner
  set (writeRecoveryState keccak256 db account .none)

/-- `handleSuspend`: the owner or the guardian, on a wallet with an owner. -/
def handleSuspend (ctx : Context) (account : Address) : HandlerM σ Unit := do
  let db ← get
  let owner := readOwner keccak256 db account
  if owner = 0 then throw (.error errOwnerNotSet)
  let guardian := readGuardian keccak256 db account
  if ctx.sender ≠ owner ∧ ctx.sender ≠ guardian then throw (.error errNotOwner)
  set (writeSuspended keccak256 db account true)

/-- `handleUnsuspend`: the owner only. -/
def handleUnsuspend (ctx : Context) (account : Address) : HandlerM σ Unit := do
  requireOwner keccak256 ctx account
  if !readSuspended keccak256 (← get) account then throw (.error errWalletNotSuspended)
  modify fun db => writeSuspended keccak256 db account false

/-- `handleSetAuditorKey`. -/
def handleSetAuditorKey (ctx : Context) (account : Address) (key : Hash) : HandlerM σ Unit := do
  requireOwner keccak256 ctx account
  requireNotSuspended keccak256 account
  modify fun db => writeAuditorKey keccak256 db account key

/-- `Handle(ctx, sa)`, once the payload of the action has been decoded. -/
def handle (ctx : Context) : PolicyAction → HandlerM σ Unit
  | .setSpendCaps p => handleSetSpendCaps keccak256 ctx p
  | .setAllowlist p => handleSetAllowlist keccak256 ctx p
  | .setTerminalPolicy p => handleSetTerminalPolicy keccak256 ctx p
  | .authorizeDelegate p => handleAuthorizeDelegate keccak256 ctx p
  | .revokeDelegate account delegate => handleRevokeDelegate keccak256 ctx account delegate
  | .setGuardian account guardian => handleSetGuardian keccak256 ctx account guardian
  | .initiateRecovery account newOwner => handleInitiateRecovery keccak256 ctx account newOwner
  | .cancelRecovery account => handleCancelRecovery keccak256 ctx account
  | .completeRecovery account => handleCompleteRecovery keccak256 ctx account
  | .suspend account => handleSuspend keccak256 ctx account
  | .unsuspend account => handleUnsuspend keccak256 ctx account
  | .setAuditorKey account key => handleSetAuditorKey keccak256 ctx account key

/-- One action as `TransitionDb` applies it: a failed action is reverted. -/
def applyAction (db : σ) (act : Context × PolicyAction) : σ :=
  commit (handle keccak256 act.1 act.2) db

/-- A run of actions. -/
def runActions (db : σ) (acts : List (Context × PolicyAction)) : σ :=
  acts.foldl (applyAction keccak256) db

/-- Whether an action succeeds from a state, and so is kept. -/
def succeeds (db : σ) (act : Context × PolicyAction) : Bool :=
  match ((handle keccak256 act.1 act.2).run.run db).1 with
  | .ok _ => true
  | .error _ => false

theorem applyAction_of_succeeds {db : σ} {ctx : Context} {a : PolicyAction}
    (h : succeeds keccak256 db (ctx, a) = true) :
    ∃ db', (handle keccak256 ctx a).run.run db = (.ok (), db') ∧
      applyAction keccak256 db (ctx, a) = db' := by
  unfold succeeds at h
  rcases hrun : (handle keccak256 ctx a).run.run db with ⟨_ | ⟨⟩, db'⟩
  · rw [hrun] at h
    cases h
  · exact ⟨db', rfl, commit_of_ok hrun⟩

/-- A failed action is reverted. -/
theorem applyAction_of_not_succeeds {db : σ} {ctx : Context} {a : PolicyAction}
    (h : succeeds keccak256 db (ctx, a) = false) : applyAction keccak256 db (ctx, a) = db := by
  unfold succeeds at h
  rcases hrun : (handle keccak256 ctx a).run.run db with ⟨_ | ⟨⟩, db'⟩
  · exact commit_of_error hrun
  · rw [hrun] at h
    cases h

/-- The state after the first `k + 1` actions of a run is the `k`-th action applied to the state
after the first `k`. -/
theorem runActions_take_succ (db : σ) {acts : List (Context × PolicyAction)} {k : ℕ}
    {act : Context × PolicyAction} (hk : acts[k]? = some act) :
    runActions keccak256 db (acts.take (k + 1)) =
      applyAction keccak256 (runActions keccak256 db (acts.take k)) act := by
  rw [List.take_add_one, hk, runActions, List.foldl_append]
  rfl

end Handle

/-! ## What a successful action did

One lemma per handler: a run that succeeded passed every check of the handler, and its final
state is the handler's writes on the state `requireOwner` left. Each is proved by taking the run
apart bind by bind (`run_bind_eq_ok`, `run_guard_eq_ok`) with the lemmas of its first three
steps. -/

section Success

open ExceptStateM


variable {σ : Type} [VmStateDB σ] (keccak256 : List UInt8 → Hash) {ctx : Context} {db db' : σ}
  {u : Unit}

theorem requireOwner_ok {w : Address} (h : (requireOwner keccak256 ctx w).run.run db = (.ok u, db')) :
    ownerAccepts keccak256 db w ctx.sender ∧ db' = claimOwner keccak256 db w ctx.sender := by
  simp only [requireOwner, run_ite, run_bind, run_throw, run_get, run_modify, run_pure] at h
  split_ifs at h with h0 h1 h2 <;> cases h
  · exact ⟨⟨h0, .inl h1⟩, by rw [claimOwner, if_pos h1]⟩
  · exact ⟨⟨h0, .inr (not_not.mp h2)⟩, by rw [claimOwner, if_neg h1]⟩

theorem requireNotSuspended_ok {w : Address}
    (h : (requireNotSuspended keccak256 w).run.run db = (.ok u, db')) :
    readSuspended keccak256 db w = false ∧ db' = db := by
  simp only [requireNotSuspended, run_ite, run_bind, run_throw, run_get, run_pure] at h
  split_ifs at h with hs <;> cases h
  exact ⟨by simpa using hs, rfl⟩

omit [VmStateDB σ] in
theorem parseAmount_ok {s : String} {a : ℕ}
    (h : (parseAmount s : HandlerM σ ℕ).run.run db = (.ok a, db')) :
    (∃ x, Decimal.parseInt s.toList = some x ∧ 0 ≤ x ∧ a = x.toNat) ∧ db' = db := by
  unfold parseAmount at h
  split at h
  · cases h
  · rename_i x hx
    rw [run_ite] at h
    split_ifs at h with hneg <;> cases h
    exact ⟨⟨x, hx, by omega, rfl⟩, rfl⟩

theorem handleSetSpendCaps_ok {p : SetSpendCapsPayload}
    (h : (handleSetSpendCaps keccak256 ctx p).run.run db = (.ok u, db')) :
    ownerAccepts keccak256 db p.account ctx.sender ∧
      readSuspended keccak256 (claimOwner keccak256 db p.account ctx.sender) p.account = false ∧
      ∃ daily single : ℕ, db' = writeSingleTxLimit keccak256
        (writeDailyLimit keccak256 (claimOwner keccak256 db p.account ctx.sender) p.account daily)
        p.account single := by
  unfold handleSetSpendCaps at h
  obtain ⟨_, _, hown, h⟩ := run_bind_eq_ok h
  obtain ⟨hacc, rfl⟩ := requireOwner_ok keccak256 hown
  obtain ⟨_, _, hrun, h⟩ := run_bind_eq_ok h
  obtain ⟨hsus, rfl⟩ := requireNotSuspended_ok keccak256 hrun
  obtain ⟨daily, _, hd, h⟩ := run_bind_eq_ok h
  obtain ⟨-, rfl⟩ := parseAmount_ok hd
  obtain ⟨single, _, hs, h⟩ := run_bind_eq_ok h
  obtain ⟨-, rfl⟩ := parseAmount_ok hs
  obtain ⟨_, _, hw, h⟩ := run_bind_eq_ok h
  rw [run_modify] at hw h
  cases hw
  cases h
  exact ⟨hacc, hsus, daily, single, rfl⟩

theorem handleSetAllowlist_ok {p : SetAllowlistPayload}
    (h : (handleSetAllowlist keccak256 ctx p).run.run db = (.ok u, db')) :
    ownerAccepts keccak256 db p.account ctx.sender ∧
      readSuspended keccak256 (claimOwner keccak256 db p.account ctx.sender) p.account = false ∧
      p.target ≠ 0 ∧ db' = writeAllowlisted keccak256
        (claimOwner keccak256 db p.account ctx.sender) p.account p.target p.allowed := by
  unfold handleSetAllowlist at h
  obtain ⟨_, _, hown, h⟩ := run_bind_eq_ok h
  obtain ⟨hacc, rfl⟩ := requireOwner_ok keccak256 hown
  obtain ⟨_, _, hrun, h⟩ := run_bind_eq_ok h
  obtain ⟨hsus, rfl⟩ := requireNotSuspended_ok keccak256 hrun
  obtain ⟨htarget, h⟩ := run_guard_eq_ok h
  rw [run_modify] at h
  cases h
  exact ⟨hacc, hsus, htarget, rfl⟩

theorem handleSetTerminalPolicy_ok {p : SetTerminalPolicyPayload}
    (h : (handleSetTerminalPolicy keccak256 ctx p).run.run db = (.ok u, db')) :
    ownerAccepts keccak256 db p.account ctx.sender ∧
      readSuspended keccak256 (claimOwner keccak256 db p.account ctx.sender) p.account = false ∧
      p.terminalClass ≤ terminalAPI ∧ ∃ maxSingle maxDaily : ℕ, db' = writeTerminalPolicy keccak256
        (claimOwner keccak256 db p.account ctx.sender) p.account p.terminalClass
        ⟨maxSingle, maxDaily, p.minTrustTier, true⟩ := by
  unfold handleSetTerminalPolicy at h
  obtain ⟨_, _, hown, h⟩ := run_bind_eq_ok h
  obtain ⟨hacc, rfl⟩ := requireOwner_ok keccak256 hown
  obtain ⟨_, _, hrun, h⟩ := run_bind_eq_ok h
  obtain ⟨hsus, rfl⟩ := requireNotSuspended_ok keccak256 hrun
  obtain ⟨hcls, h⟩ := run_guard_eq_ok h
  obtain ⟨maxSingle, _, hms, h⟩ := run_bind_eq_ok h
  obtain ⟨-, rfl⟩ := parseAmount_ok hms
  obtain ⟨maxDaily, _, hmd, h⟩ := run_bind_eq_ok h
  obtain ⟨-, rfl⟩ := parseAmount_ok hmd
  rw [run_modify] at h
  cases h
  exact ⟨hacc, hsus, UInt8.not_lt.mp hcls, maxSingle, maxDaily, rfl⟩

theorem handleAuthorizeDelegate_ok {p : AuthorizeDelegatePayload}
    (h : (handleAuthorizeDelegate keccak256 ctx p).run.run db = (.ok u, db')) :
    ownerAccepts keccak256 db p.account ctx.sender ∧
      readSuspended keccak256 (claimOwner keccak256 db p.account ctx.sender) p.account = false ∧
      p.delegate ≠ 0 ∧ ∃ allowance : ℕ, allowance ≠ 0 ∧ db' = writeDelegateAuth keccak256
        (claimOwner keccak256 db p.account ctx.sender) p.account p.delegate allowance p.expiry true := by
  unfold handleAuthorizeDelegate at h
  obtain ⟨_, _, hown, h⟩ := run_bind_eq_ok h
  obtain ⟨hacc, rfl⟩ := requireOwner_ok keccak256 hown
  obtain ⟨_, _, hrun, h⟩ := run_bind_eq_ok h
  obtain ⟨hsus, rfl⟩ := requireNotSuspended_ok keccak256 hrun
  obtain ⟨hdel, h⟩ := run_guard_eq_ok h
  obtain ⟨allowance, _, ha, h⟩ := run_bind_eq_ok h
  obtain ⟨-, rfl⟩ := parseAmount_ok ha
  obtain ⟨hzero, h⟩ := run_guard_eq_ok h
  rw [run_modify] at h
  cases h
  exact ⟨hacc, hsus, hdel, allowance, hzero, rfl⟩

theorem handleRevokeDelegate_ok {account delegate : Address}
    (h : (handleRevokeDelegate keccak256 ctx account delegate).run.run db = (.ok u, db')) :
    ownerAccepts keccak256 db account ctx.sender ∧ delegate ≠ 0 ∧
      db' = writeDelegateAuth keccak256 (claimOwner keccak256 db account ctx.sender) account
        delegate 0 0 false := by
  unfold handleRevokeDelegate at h
  obtain ⟨_, _, hown, h⟩ := run_bind_eq_ok h
  obtain ⟨hacc, rfl⟩ := requireOwner_ok keccak256 hown
  obtain ⟨hdel, h⟩ := run_guard_eq_ok h
  rw [run_modify] at h
  cases h
  exact ⟨hacc, hdel, rfl⟩

theorem handleSetGuardian_ok {account guardian : Address}
    (h : (handleSetGuardian keccak256 ctx account guardian).run.run db = (.ok u, db')) :
    ownerAccepts keccak256 db account ctx.sender ∧
      readSuspended keccak256 (claimOwner keccak256 db account ctx.sender) account = false ∧
      guardian ≠ 0 ∧
      db' = writeGuardian keccak256 (claimOwner keccak256 db account ctx.sender) account guardian := by
  unfold handleSetGuardian at h
  obtain ⟨_, _, hown, h⟩ := run_bind_eq_ok h
  obtain ⟨hacc, rfl⟩ := requireOwner_ok keccak256 hown
  obtain ⟨_, _, hrun, h⟩ := run_bind_eq_ok h
  obtain ⟨hsus, rfl⟩ := requireNotSuspended_ok keccak256 hrun
  obtain ⟨hg, h⟩ := run_guard_eq_ok h
  rw [run_modify] at h
  cases h
  exact ⟨hacc, hsus, hg, rfl⟩

theorem handleInitiateRecovery_ok {account newOwner : Address}
    (h : (handleInitiateRecovery keccak256 ctx account newOwner).run.run db = (.ok u, db')) :
    readGuardian keccak256 db account ≠ 0 ∧ ctx.sender = readGuardian keccak256 db account ∧
      (readRecoveryState keccak256 db account).active = false ∧ newOwner ≠ 0 ∧
      db' = writeRecoveryState keccak256 db account
        ⟨true, ctx.sender, newOwner, ctx.blockNumber % 2 ^ 64, recoveryTimelockBlocks⟩ := by
  unfold handleInitiateRecovery at h
  rw [run_bind_of_ok (run_get db)] at h
  obtain ⟨hg, h⟩ := run_guard_eq_ok h
  obtain ⟨hsender, h⟩ := run_guard_eq_ok h
  obtain ⟨hactive, h⟩ := run_guard_eq_ok h
  obtain ⟨hnew, h⟩ := run_guard_eq_ok h
  rw [run_set] at h
  cases h
  have hsender : ctx.sender = readGuardian keccak256 db account := not_not.mp hsender
  exact ⟨hg, hsender, by simpa using hactive, hnew, by rw [hsender]⟩

theorem handleCancelRecovery_ok {account : Address}
    (h : (handleCancelRecovery keccak256 ctx account).run.run db = (.ok u, db')) :
    ownerAccepts keccak256 db account ctx.sender ∧
      (readRecoveryState keccak256 (claimOwner keccak256 db account ctx.sender) account).active ∧
      db' = writeRecoveryState keccak256 (claimOwner keccak256 db account ctx.sender) account
        .none := by
  unfold handleCancelRecovery at h
  obtain ⟨_, _, hown, h⟩ := run_bind_eq_ok h
  obtain ⟨hacc, rfl⟩ := requireOwner_ok keccak256 hown
  rw [run_bind_of_ok (run_get _)] at h
  obtain ⟨hactive, h⟩ := run_guard_eq_ok h
  rw [run_modify] at h
  cases h
  exact ⟨hacc, by simpa using hactive, rfl⟩

/-- What a completed recovery checked: an active recovery, its guardian as the sender, and a
block at or past the deadline, which did not wrap. -/
theorem handleCompleteRecovery_ok {account : Address}
    (h : (handleCompleteRecovery keccak256 ctx account).run.run db = (.ok u, db')) :
    let rs := readRecoveryState keccak256 db account
    rs.active ∧ ctx.sender = rs.guardian ∧ rs.initiatedAt ≤ (rs.initiatedAt + rs.timelock) % 2 ^ 64 ∧
      (rs.initiatedAt + rs.timelock) % 2 ^ 64 ≤ ctx.blockNumber % 2 ^ 64 ∧
      db' = writeRecoveryState keccak256 (writeOwner keccak256 db account rs.newOwner) account
        .none := by
  unfold handleCompleteRecovery at h
  rw [run_bind_of_ok (run_get db)] at h
  obtain ⟨hactive, h⟩ := run_guard_eq_ok h
  obtain ⟨hsender, h⟩ := run_guard_eq_ok h
  obtain ⟨hwrap, h⟩ := run_guard_eq_ok h
  obtain ⟨hdeadline, h⟩ := run_guard_eq_ok h
  rw [run_set] at h
  cases h
  exact ⟨by simpa using hactive, not_not.mp hsender, not_lt.mp hwrap, not_lt.mp hdeadline, rfl⟩

theorem handleSuspend_ok {account : Address}
    (h : (handleSuspend keccak256 ctx account).run.run db = (.ok u, db')) :
    readOwner keccak256 db account ≠ 0 ∧
      (ctx.sender = readOwner keccak256 db account ∨ ctx.sender = readGuardian keccak256 db account) ∧
      db' = writeSuspended keccak256 db account true := by
  unfold handleSuspend at h
  rw [run_bind_of_ok (run_get db)] at h
  obtain ⟨howner, h⟩ := run_guard_eq_ok h
  obtain ⟨hsender, h⟩ := run_guard_eq_ok h
  rw [run_set] at h
  cases h
  exact ⟨howner, (not_and_or.mp hsender).imp not_not.mp not_not.mp, rfl⟩

theorem handleUnsuspend_ok {account : Address}
    (h : (handleUnsuspend keccak256 ctx account).run.run db = (.ok u, db')) :
    ownerAccepts keccak256 db account ctx.sender ∧
      readSuspended keccak256 (claimOwner keccak256 db account ctx.sender) account ∧
      db' = writeSuspended keccak256 (claimOwner keccak256 db account ctx.sender) account false := by
  unfold handleUnsuspend at h
  obtain ⟨_, _, hown, h⟩ := run_bind_eq_ok h
  obtain ⟨hacc, rfl⟩ := requireOwner_ok keccak256 hown
  rw [run_bind_of_ok (run_get _)] at h
  obtain ⟨hsus, h⟩ := run_guard_eq_ok h
  rw [run_modify] at h
  cases h
  exact ⟨hacc, by simpa using hsus, rfl⟩

theorem handleSetAuditorKey_ok {account : Address} {key : Hash}
    (h : (handleSetAuditorKey keccak256 ctx account key).run.run db = (.ok u, db')) :
    ownerAccepts keccak256 db account ctx.sender ∧
      readSuspended keccak256 (claimOwner keccak256 db account ctx.sender) account = false ∧
      db' = writeAuditorKey keccak256 (claimOwner keccak256 db account ctx.sender) account key := by
  unfold handleSetAuditorKey at h
  obtain ⟨_, _, hown, h⟩ := run_bind_eq_ok h
  obtain ⟨hacc, rfl⟩ := requireOwner_ok keccak256 hown
  obtain ⟨_, _, hrun, h⟩ := run_bind_eq_ok h
  obtain ⟨hsus, rfl⟩ := requireNotSuspended_ok keccak256 hrun
  rw [run_modify] at h
  cases h
  exact ⟨hacc, hsus, rfl⟩

end Success

/-! ## Actions that go through

Forwards, the same steps give the run of an action whose checks pass. -/

section Forward

open ExceptStateM
variable {σ : Type} [VmStateDB σ] (keccak256 : List UInt8 → Hash) {ctx : Context} {db : σ}

end Forward

end Gtos.PolicyWallet
