import Gtos.Referral.State
import Gtos.Sysaction.Execute
import Gtos.Lib.ExceptState

/-! # `REFERRAL_BIND` (`referral/handler.go`)

An address binds itself once to a referrer. The handler refuses a self-referral, a second
binding, and a referrer below the sender within `MaxReferralDepth` steps; it then records the
referrer and the block, counts the sender among the referrer's direct referrals, and adds one to
the team size of the referrer and of each of its next referrers, at most `MaxReferralDepth` in
all. Every check comes before the first write (`run_handleBind`).

`TransitionDb` reverts a failed action; `applyBind` is one action so applied, and `runBinds` a run
of them, each given with the payload its JSON decoder returned. -/

namespace Gtos.Referral

open Gtos.Core Gtos.Sysaction

/-- `ErrReferralAlreadyBound`. -/
def errReferralAlreadyBound : String := "referral: already bound to a referrer"

/-- `ErrReferralSelf`. -/
def errReferralSelf : String := "referral: cannot refer yourself"

/-- `ErrReferralCircular`. -/
def errReferralCircular : String := "referral: would create a circular reference"

/-- `bindPayload`: the referrer as hexadecimal text. -/
structure BindPayload where
  /-- `referrer`. -/
  referrer : String
  deriving DecidableEq, Repr

section Handle

variable {σ : Type} [VmStateDB σ] (keccak256 : List UInt8 → Hash)

/-- The loop of step 6: add one to the team size of `cur`, then climb to its referrer, for at
most `n` addresses and not past an address without one. -/
def incrementTeamSizes : ℕ → σ → Address → σ
  | 0, db, _ => db
  | n + 1, db, cur =>
    let db := incrementTeamSize keccak256 db cur
    let up := readReferrer keccak256 db cur
    if up = 0 then db else incrementTeamSizes n db up

/-- The mutation phase of `handleBind`, steps 4 to 6. -/
def bindWrites (db : σ) (sender referrer : Address) (blockNumber : ℕ) : σ :=
  let db := writeReferrer keccak256 db sender referrer
  let db := writeBoundBlock keccak256 db sender (blockNumber % 2 ^ 64)
  let db := incrementDirectCount keccak256 db referrer
  incrementTeamSizes keccak256 maxReferralDepth db referrer

/-- `handleBind`. -/
def handleBind (ctx : Context) (payload : Except String BindPayload) : HandlerM σ Unit := do
  let p ← match payload with
    | .ok p => pure p
    | .error e => throw (.error e)
  let referrer := hexToAddress p.referrer
  if referrer = ctx.sender then throw (.error errReferralSelf)
  let db ← get
  if hasReferrer keccak256 db ctx.sender then throw (.error errReferralAlreadyBound)
  if isDownline keccak256 db ctx.sender referrer maxReferralDepth then
    throw (.error errReferralCircular)
  set (bindWrites keccak256 db ctx.sender referrer ctx.blockNumber)

/-- The referral handler: `Handle` binds whatever the action's name. -/
def referralHandler (decodeJson : List UInt8 → Except String BindPayload) : Handler σ where
  actions := [actionReferralBind]
  handle ctx sa := handleBind keccak256 ctx (decodeJson sa.payload)

/-- The outcome of a bind whose payload decoded: the error of the first check that fails, with
the state untouched, or success with the writes of steps 4 to 6. -/
theorem run_handleBind (ctx : Context) (p : BindPayload) (db : σ) :
    (handleBind keccak256 ctx (.ok p)).run.run db =
      if hexToAddress p.referrer = ctx.sender then (.error (.error errReferralSelf), db)
      else if hasReferrer keccak256 db ctx.sender then (.error (.error errReferralAlreadyBound), db)
      else if isDownline keccak256 db ctx.sender (hexToAddress p.referrer) maxReferralDepth then
        (.error (.error errReferralCircular), db)
      else (.ok (), bindWrites keccak256 db ctx.sender (hexToAddress p.referrer) ctx.blockNumber) := by
  rw [handleBind, ExceptStateM.run_bind_of_ok (ExceptStateM.run_pure p db)]
  dsimp only
  by_cases hself : hexToAddress p.referrer = ctx.sender
  · simp only [if_pos hself]
    rfl
  · simp only [if_neg hself]
    rw [ExceptStateM.run_bind_of_ok (ExceptStateM.run_get db)]
    split_ifs <;> rfl

theorem run_handleBind_error (ctx : Context) (e : String) (db : σ) :
    (handleBind keccak256 ctx (.error e)).run.run db = (.error (.error e), db) := rfl

/-- One bind as `TransitionDb` applies it: a failed one is reverted. -/
def applyBind (db : σ) (act : Context × Except String BindPayload) : σ :=
  commit (handleBind keccak256 act.1 act.2) db

/-- A run of binds. -/
def runBinds (db : σ) (acts : List (Context × Except String BindPayload)) : σ :=
  acts.foldl (applyBind keccak256) db

theorem applyBind_ok (ctx : Context) (p : BindPayload) (db : σ) :
    applyBind keccak256 db (ctx, .ok p) =
      if hexToAddress p.referrer = ctx.sender ∨ hasReferrer keccak256 db ctx.sender ∨
          isDownline keccak256 db ctx.sender (hexToAddress p.referrer) maxReferralDepth then db
      else bindWrites keccak256 db ctx.sender (hexToAddress p.referrer) ctx.blockNumber := by
  rw [applyBind, commit, run_handleBind]
  split_ifs <;> simp_all

theorem applyBind_error (ctx : Context) (e : String) (db : σ) :
    applyBind keccak256 db (ctx, .error e) = db := rfl

end Handle

end Gtos.Referral
