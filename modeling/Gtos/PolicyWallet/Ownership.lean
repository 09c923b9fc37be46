import Gtos.PolicyWallet.Storage

/-! # Who can take a wallet

Once a wallet has an owner, `requireOwner` only checks it, and the one handler that writes the
owner is `handleCompleteRecovery`. So over any run of policy-wallet actions, from a state with no
recovery of `W` in progress, an owner of `W` that is set changes only when the guardian that
initiated a recovery still open completes it once its timelock has passed, and it becomes the
new owner named at the initiation, which is not the zero address.

* **`ownership_handle_ok_of_ne`** — one lemma for the nine actions that do not touch a recovery,
  and the recovery actions of other wallets: they leave the owner and the recovery record of `W`,
  apart from `requireOwner`'s claim of an owner that is zero.
* **`OpenRecovery`** — an initiation of a recovery of `W` in a run that nothing has closed since,
  whose record is the one `W` holds: the invariant is that an active record is always one
  (`open_of_active`).
* **`owner_change_needs_recovery`** — the safety of ownership over a run. -/

namespace Gtos.PolicyWallet

open Gtos.Core Gtos.Sysaction

/-- The wallet whose recovery an action initiates, cancels or completes. -/
def PolicyAction.recoveryAccount : PolicyAction → Option Address
  | .initiateRecovery account _ => some account
  | .cancelRecovery account => some account
  | .completeRecovery account => some account
  | _ => none

/-- Whether an action cancels or completes a recovery of `W`. -/
def PolicyAction.closesRecovery (W : Address) : PolicyAction → Bool
  | .cancelRecovery account => account = W
  | .completeRecovery account => account = W
  | _ => false

theorem PolicyAction.recoveryAccount_of_closesRecovery {W : Address} {act : PolicyAction}
    (h : act.closesRecovery W = true) : act.recoveryAccount = some W := by
  cases act <;> simp_all [closesRecovery, recoveryAccount]

/-- The recovery record an initiation writes. -/
def initiatedRecord (ctx : Context) (newOwner : Address) : RecoveryState :=
  ⟨true, ctx.sender, newOwner, ctx.blockNumber % 2 ^ 64, recoveryTimelockBlocks⟩

/-- Both block counts of a record read as `uint64`s. -/
theorem readRecoveryState_lt (keccak256 : List UInt8 → Hash) (s : StateDB) (W : Address) :
    (readRecoveryState keccak256 s W).initiatedAt < 2 ^ 64 ∧
      (readRecoveryState keccak256 s W).timelock < 2 ^ 64 :=
  ⟨Nat.mod_lt _ (by norm_num), Nat.mod_lt _ (by norm_num)⟩

/-- A `uint64` sum that is not below its first term did not wrap. -/
theorem add_lt_of_le_add_mod {a t : ℕ} (ha : a < 2 ^ 64) (ht : t < 2 ^ 64)
    (h : a ≤ (a + t) % 2 ^ 64) : a + t < 2 ^ 64 := by
  omega

section Step

variable {keccak256 : List UInt8 → Hash} {A : List Address} {W : Address}
  (hslots : WalletSlotsDistinct keccak256 A) (hW : W ∈ A)
include hslots hW

/-! ## One action -/

/-- **The actions that leave ownership.** A successful action that initiates, cancels or completes
no recovery of `W` leaves the owner and the recovery record of `W` as `requireOwner` left them, or
as they were. -/
theorem ownership_handle_ok_of_ne {ctx : Context} {act : PolicyAction} (hact : act.Within A)
    (hrec : act.recoveryAccount ≠ some W) {s s' : StateDB} {u : Unit}
    (h : (handle keccak256 ctx act).run.run s = (.ok u, s')) :
    ownership keccak256 s' W = ownership keccak256 (claimOwner keccak256 s act.account ctx.sender) W ∨
      ownership keccak256 s' W = ownership keccak256 s W := by
  have hacc := PolicyAction.account_mem hact
  cases act
  all_goals dsimp only [PolicyAction.account] at hacc
  case setSpendCaps p =>
    obtain ⟨-, -, daily, single, rfl⟩ := handleSetSpendCaps_ok keccak256 h
    exact .inl (by rw [ownership_writeSingleTxLimit hslots hW hacc,
      ownership_writeDailyLimit hslots hW hacc]; rfl)
  case setAllowlist p =>
    obtain ⟨-, -, -, rfl⟩ := handleSetAllowlist_ok keccak256 h
    exact .inl (by rw [ownership_writeAllowlisted hslots hW hact.1 hact.2]; rfl)
  case setTerminalPolicy p =>
    obtain ⟨-, -, hcls, maxSingle, maxDaily, rfl⟩ := handleSetTerminalPolicy_ok keccak256 h
    exact .inl (by rw [ownership_writeTerminalPolicy hslots hW hacc hcls]; rfl)
  case authorizeDelegate p =>
    obtain ⟨-, -, -, allowance, -, rfl⟩ := handleAuthorizeDelegate_ok keccak256 h
    exact .inl (by rw [ownership_writeDelegateAuth hslots hW hact.1 hact.2]; rfl)
  case revokeDelegate account delegate =>
    obtain ⟨-, -, rfl⟩ := handleRevokeDelegate_ok keccak256 h
    exact .inl (by rw [ownership_writeDelegateAuth hslots hW hact.1 hact.2]; rfl)
  case setGuardian account guardian =>
    obtain ⟨-, -, -, rfl⟩ := handleSetGuardian_ok keccak256 h
    exact .inl (by rw [ownership_writeGuardian hslots hW hacc]; rfl)
  case initiateRecovery account newOwner =>
    -- a recovery of another wallet: its record is written, not `W`'s
    have hne : W ≠ account := fun he => hrec (by rw [he]; rfl)
    obtain ⟨-, -, -, -, rfl⟩ := handleInitiateRecovery_ok keccak256 h
    exact .inr (by rw [ownership_writeRecoveryState hslots hW hacc, if_neg hne]; rfl)
  case cancelRecovery account =>
    have hne : W ≠ account := fun he => hrec (by rw [he]; rfl)
    obtain ⟨-, -, rfl⟩ := handleCancelRecovery_ok keccak256 h
    exact .inl (by rw [ownership_writeRecoveryState hslots hW hacc, if_neg hne]; rfl)
  case completeRecovery account =>
    have hne : W ≠ account := fun he => hrec (by rw [he]; rfl)
    obtain ⟨-, -, -, -, rfl⟩ := handleCompleteRecovery_ok keccak256 h
    refine .inr ?_
    rw [ownership_writeRecoveryState hslots hW hacc, if_neg hne]
    have howner := ownership_writeOwner hslots hW hacc s (readRecoveryState keccak256 s account).newOwner
    rw [if_neg hne] at howner
    exact Prod.ext (congrArg Prod.fst howner) (congrArg Prod.snd howner)
  case suspend account =>
    obtain ⟨-, -, rfl⟩ := handleSuspend_ok keccak256 h
    exact .inr (ownership_writeSuspended hslots hW hacc s true)
  case unsuspend account =>
    obtain ⟨-, -, rfl⟩ := handleUnsuspend_ok keccak256 h
    exact .inl (by rw [ownership_writeSuspended hslots hW hacc]; rfl)
  case setAuditorKey account key =>
    obtain ⟨-, -, rfl⟩ := handleSetAuditorKey_ok keccak256 h
    exact .inl (by rw [ownership_writeAuditorKey hslots hW hacc]; rfl)

/-- An action that initiates, cancels or completes no recovery of `W` leaves its record. -/
theorem readRecoveryState_applyAction_of_ne {ctx : Context} {act : PolicyAction}
    (hact : act.Within A) (hrec : act.recoveryAccount ≠ some W) (s : StateDB) :
    readRecoveryState keccak256 (applyAction keccak256 s (ctx, act)) W =
      readRecoveryState keccak256 s W := by
  cases hs : succeeds keccak256 s (ctx, act)
  · rw [applyAction_of_not_succeeds keccak256 hs]
  · obtain ⟨s', hrun, happ⟩ := applyAction_of_succeeds keccak256 hs
    rw [happ]
    rcases ownership_handle_ok_of_ne hslots hW hact hrec hrun with h | h
    · rw [← readRecoveryState_claimOwner hslots hW (PolicyAction.account_mem hact) s ctx.sender]
      exact congrArg Prod.snd h
    · exact congrArg Prod.snd h

/-- A successful initiation of a recovery of `W` writes its record and leaves the owner. -/
theorem ownership_applyAction_initiate {ctx : Context} {newOwner : Address} {s : StateDB}
    (hs : succeeds keccak256 s (ctx, .initiateRecovery W newOwner) = true) :
    ownership keccak256 (applyAction keccak256 s (ctx, .initiateRecovery W newOwner)) W =
        (readOwner keccak256 s W, initiatedRecord ctx newOwner) ∧
      newOwner ≠ 0 ∧ ctx.sender = readGuardian keccak256 s W := by
  obtain ⟨s', hrun, happ⟩ := applyAction_of_succeeds keccak256 hs
  rw [happ]
  obtain ⟨-, hguardian, -, hnew, rfl⟩ := handleInitiateRecovery_ok keccak256 hrun
  refine ⟨?_, hnew, hguardian⟩
  rw [ownership_writeRecoveryState hslots hW hW, if_pos rfl]
  congr 1
  simp [RecoveryState.stored, initiatedRecord, recoveryTimelockBlocks]

/-- A successful cancellation of a recovery of `W` clears its record, and leaves an owner that is
set. -/
theorem ownership_applyAction_cancel {ctx : Context} {s : StateDB}
    (hs : succeeds keccak256 s (ctx, .cancelRecovery W) = true) :
    (readRecoveryState keccak256 (applyAction keccak256 s (ctx, .cancelRecovery W)) W).active = false ∧
      (readOwner keccak256 s W ≠ 0 →
        readOwner keccak256 (applyAction keccak256 s (ctx, .cancelRecovery W)) W =
          readOwner keccak256 s W) := by
  obtain ⟨s', hrun, happ⟩ := applyAction_of_succeeds keccak256 hs
  rw [happ]
  obtain ⟨-, -, rfl⟩ := handleCancelRecovery_ok keccak256 hrun
  have h := ownership_writeRecoveryState hslots hW hW (claimOwner keccak256 s W ctx.sender) .none
  simp only [ownership, if_pos, Prod.mk.injEq] at h
  refine ⟨by rw [h.2]; rfl, fun hset => ?_⟩
  rw [h.1]
  exact congrArg Prod.fst (ownership_claimOwner hslots hW hW hset ctx.sender)

/-- **A completed recovery.** It checked an active record, its guardian as the sender and a block
at or past the deadline, which did not wrap; it makes the record's new owner the owner and clears
the record. -/
theorem ownership_applyAction_complete {ctx : Context} {s : StateDB}
    (hs : succeeds keccak256 s (ctx, .completeRecovery W) = true) :
    let rs := readRecoveryState keccak256 s W
    rs.active ∧ ctx.sender = rs.guardian ∧ rs.initiatedAt + rs.timelock ≤ ctx.blockNumber % 2 ^ 64 ∧
      ownership keccak256 (applyAction keccak256 s (ctx, .completeRecovery W)) W =
        (rs.newOwner, RecoveryState.none) := by
  obtain ⟨s', hrun, happ⟩ := applyAction_of_succeeds keccak256 hs
  rw [happ]
  obtain ⟨hactive, hsender, hwrap, hdeadline, rfl⟩ := handleCompleteRecovery_ok keccak256 hrun
  refine ⟨hactive, hsender, ?_, ?_⟩
  · -- the `uint64` sum did not wrap, so it is the sum itself
    obtain ⟨hi, ht⟩ := readRecoveryState_lt keccak256 s W
    rwa [Nat.mod_eq_of_lt (add_lt_of_le_add_mod hi ht hwrap)] at hdeadline
  · rw [ownership_writeRecoveryState hslots hW hW, if_pos rfl]
    have h := ownership_writeOwner hslots hW hW s (readRecoveryState keccak256 s W).newOwner
    simp only [ownership, if_pos, Prod.mk.injEq] at h
    rw [h.1]
    rfl

/-- **The owner's frame.** An owner that is set is changed by no action but the completion of a
recovery. -/
theorem readOwner_applyAction {ctx : Context} {act : PolicyAction} (hact : act.Within A)
    (hne : act ≠ .completeRecovery W) {s : StateDB} (hset : readOwner keccak256 s W ≠ 0) :
    readOwner keccak256 (applyAction keccak256 s (ctx, act)) W = readOwner keccak256 s W := by
  cases hs : succeeds keccak256 s (ctx, act)
  · rw [applyAction_of_not_succeeds keccak256 hs]
  by_cases hrec : act.recoveryAccount = some W
  · -- only an initiation or a cancellation of `W`'s recovery is left
    cases act <;> simp only [PolicyAction.recoveryAccount, reduceCtorEq, Option.some.injEq] at hrec
    · subst hrec
      exact congrArg Prod.fst (ownership_applyAction_initiate hslots hW hs).1
    · subst hrec
      exact (ownership_applyAction_cancel hslots hW hs).2 hset
    · subst hrec
      exact absurd rfl hne
  · obtain ⟨s', hrun, happ⟩ := applyAction_of_succeeds keccak256 hs
    rw [happ]
    rcases ownership_handle_ok_of_ne hslots hW hact hrec hrun with h | h
    · simp only [ownership, Prod.mk.injEq] at h
      rw [h.1]
      exact congrArg Prod.fst (ownership_claimOwner hslots hW (PolicyAction.account_mem hact) hset _)
    · exact congrArg Prod.fst h

end Step

/-! ## A run -/

section Run

variable (keccak256 : List UInt8 → Hash) (s₀ : StateDB) (acts : List (Context × PolicyAction))
  (W : Address)

/-- An initiation of a recovery of `W` in a run, still open after `k` actions: the `i`-th action,
sent by the guardian of the time to a non-zero new owner, succeeded, no action since closed a
recovery of `W`, and `W`'s record is the one it wrote. -/
structure OpenRecovery (i k : ℕ) (ctx : Context) (newOwner : Address) : Prop where
  lt : i < k
  action : acts[i]? = some (ctx, .initiateRecovery W newOwner)
  succeeded : succeeds keccak256 (runActions keccak256 s₀ (acts.take i)) (ctx, .initiateRecovery W newOwner)
  by_guardian : ctx.sender = readGuardian keccak256 (runActions keccak256 s₀ (acts.take i)) W
  newOwner_ne : newOwner ≠ 0
  not_closed : ∀ m act, i < m → m < k → acts[m]? = some act →
    ¬ (act.2.closesRecovery W ∧ succeeds keccak256 (runActions keccak256 s₀ (acts.take m)) act)
  record : readRecoveryState keccak256 (runActions keccak256 s₀ (acts.take k)) W =
    initiatedRecord ctx newOwner

variable {keccak256 s₀ acts W}

/-- An open initiation stays open over an action that does not close a recovery of `W` and
leaves its record. -/
theorem OpenRecovery.extend {i k : ℕ} {ctx : Context} {newOwner : Address}
    (h : OpenRecovery keccak256 s₀ acts W i k ctx newOwner) {act : Context × PolicyAction}
    (hk : acts[k]? = some act)
    (hquiet : ¬ (act.2.closesRecovery W ∧ succeeds keccak256 (runActions keccak256 s₀ (acts.take k)) act))
    (hrec : readRecoveryState keccak256 (runActions keccak256 s₀ (acts.take (k + 1))) W =
      readRecoveryState keccak256 (runActions keccak256 s₀ (acts.take k)) W) :
    OpenRecovery keccak256 s₀ acts W i (k + 1) ctx newOwner where
  lt := Nat.lt_succ_of_lt h.lt
  action := h.action
  succeeded := h.succeeded
  by_guardian := h.by_guardian
  newOwner_ne := h.newOwner_ne
  not_closed m act' him hmk hm := by
    rcases Nat.lt_succ_iff_lt_or_eq.mp hmk with hmk | rfl
    · exact h.not_closed m act' him hmk hm
    · rw [hk] at hm
      cases hm
      exact hquiet
  record := hrec.trans h.record

variable {A : List Address} (hslots : WalletSlotsDistinct keccak256 A) (hW : W ∈ A)
  (h₀ : (readRecoveryState keccak256 s₀ W).active = false)
  (hacts : ∀ act ∈ acts, act.2.Within A)
include hslots hW h₀ hacts

/-- **The invariant of the run.** After any number of actions, an active recovery record of `W`
is the record of an open initiation. Induction on the number of actions: an action that touches
no recovery of `W` keeps the record and the initiation open, a failed one changes nothing, an
initiation opens a new one, and a cancellation or completion clears the record. -/
theorem open_of_active (k : ℕ) (hk : k ≤ acts.length)
    (hactive : (readRecoveryState keccak256 (runActions keccak256 s₀ (acts.take k)) W).active) :
    ∃ i ctx newOwner, OpenRecovery keccak256 s₀ acts W i k ctx newOwner := by
  induction k with
  | zero =>
    rw [List.take_zero, runActions, List.foldl_nil, h₀] at hactive
    cases hactive
  | succ k ih =>
    obtain ⟨act, hact⟩ : ∃ act, acts[k]? = some act := ⟨acts[k], List.getElem?_eq_getElem hk⟩
    have hwithin := hacts act (List.mem_of_getElem? hact)
    have hstep := runActions_take_succ keccak256 s₀ hact
    set s := runActions keccak256 s₀ (acts.take k)
    obtain ⟨ctx, a⟩ := act
    -- an action that leaves the record keeps an open initiation open
    have hkeep : (readRecoveryState keccak256 (applyAction keccak256 s (ctx, a)) W =
          readRecoveryState keccak256 s W) →
        ¬ (a.closesRecovery W ∧ succeeds keccak256 s (ctx, a)) →
        ∃ i ctx newOwner, OpenRecovery keccak256 s₀ acts W i (k + 1) ctx newOwner := by
      intro hrec hquiet
      rw [hstep, hrec] at hactive
      obtain ⟨i, ctxI, newOwner, hopen⟩ := ih (by omega) hactive
      exact ⟨i, ctxI, newOwner, hopen.extend hact hquiet (by rw [hstep, hrec])⟩
    by_cases hrecW : a.recoveryAccount = some W
    · cases hs : succeeds keccak256 s (ctx, a)
      · -- a failed action is reverted
        exact hkeep (by rw [applyAction_of_not_succeeds keccak256 hs]) (by simp [hs])
      cases a <;> simp only [PolicyAction.recoveryAccount, reduceCtorEq, Option.some.injEq] at hrecW
      · -- an initiation opens a new recovery
        subst hrecW
        rename_i newOwner
        obtain ⟨hown, hnew, hguardian⟩ := ownership_applyAction_initiate hslots hW hs
        refine ⟨k, ctx, newOwner, ⟨Nat.lt_succ_self k, hact, hs, hguardian, hnew, ?_, ?_⟩⟩
        · intro m _ hkm hmk
          omega
        · rw [hstep]
          exact congrArg Prod.snd hown
      · subst hrecW
        rw [hstep, (ownership_applyAction_cancel hslots hW hs).1] at hactive
        cases hactive
      · subst hrecW
        have h := (ownership_applyAction_complete hslots hW hs).2.2.2
        simp only [ownership, Prod.mk.injEq] at h
        rw [hstep, h.2] at hactive
        cases hactive
    · exact hkeep (readRecoveryState_applyAction_of_ne hslots hW hwithin hrecW s)
        fun h => hrecW (PolicyAction.recoveryAccount_of_closesRecovery h.1)

/-- **Ownership safety.** Over any run of policy-wallet actions from a state with no recovery of
`W` in progress, if the owner of `W` is set before the `j`-th action and that action changes it,
then the action is the completion of a recovery of `W` that the `i`-th action initiated and
nothing closed since: it was sent by the guardian that initiated it, at a block at least the
timelock past the initiation, and the owner it makes is the new owner named at the initiation,
which is not the zero address. -/
theorem owner_change_needs_recovery {j : ℕ} {ctxJ : Context} {a : PolicyAction}
    (hj : acts[j]? = some (ctxJ, a))
    (hset : readOwner keccak256 (runActions keccak256 s₀ (acts.take j)) W ≠ 0)
    (hchange : readOwner keccak256 (runActions keccak256 s₀ (acts.take (j + 1))) W ≠
      readOwner keccak256 (runActions keccak256 s₀ (acts.take j)) W) :
    a = .completeRecovery W ∧ ∃ i ctxI newOwner, OpenRecovery keccak256 s₀ acts W i j ctxI newOwner ∧
      ctxJ.sender = ctxI.sender ∧
      ctxI.blockNumber % 2 ^ 64 + recoveryTimelockBlocks ≤ ctxJ.blockNumber % 2 ^ 64 ∧
      readOwner keccak256 (runActions keccak256 s₀ (acts.take (j + 1))) W = newOwner ∧ newOwner ≠ 0 := by
  have hwithin := hacts _ (List.mem_of_getElem? hj)
  have hstep := runActions_take_succ keccak256 s₀ hj
  set s := runActions keccak256 s₀ (acts.take j)
  -- every other action leaves an owner that is set
  have ha : a = .completeRecovery W := by
    by_contra hne
    exact hchange (by rw [hstep]; exact readOwner_applyAction hslots hW hwithin hne hset)
  subst ha
  cases hs : succeeds keccak256 s (ctxJ, .completeRecovery W)
  · exact absurd (by rw [hstep, applyAction_of_not_succeeds keccak256 hs]) hchange
  obtain ⟨hactive, hsender, hdeadline, hown⟩ := ownership_applyAction_complete hslots hW hs
  have hjlen : j < acts.length := (List.getElem?_eq_some_iff.mp hj).1
  obtain ⟨i, ctxI, newOwner, hopen⟩ := open_of_active hslots hW h₀ hacts j hjlen.le hactive
  have hrecord := hopen.record
  refine ⟨rfl, i, ctxI, newOwner, hopen, ?_, ?_, ?_, hopen.newOwner_ne⟩
  · rw [hsender, hrecord]
    rfl
  · rw [hrecord] at hdeadline
    exact hdeadline
  · simp only [ownership, Prod.mk.injEq] at hown
    rw [hstep, hown.1, hrecord]
    rfl

end Run

/-! ## A recovery that goes through

With the stand-in hash `lengthHash`, a guardian recovers a wallet that has an owner: the owner
changes once, at the completion. -/


/-- A wallet `0x1` owned by `0x2` with guardian `0x3`. -/
def guardedWallet : StateDB :=
  writeGuardian lengthHash (writeOwner lengthHash StateDB.empty 1#256 2#256) 1#256 3#256

/-- The guardian recovers the wallet to `0x4`: it initiates at block 1 and completes at the first
block the timelock allows. -/
def recoveryRun : List (Context × PolicyAction) :=
  [(⟨3#256, 0, 1⟩, .initiateRecovery 1#256 4#256),
    (⟨3#256, 0, 1 + recoveryTimelockBlocks⟩, .completeRecovery 1#256)]

/-- The recovery run of `guardedWallet`: the owner changes at the completion, which the
initiation before it opened. -/
theorem owner_change_needs_recovery_recoveryRun :
    PolicyAction.completeRecovery 1#256 = .completeRecovery 1#256 ∧
      ∃ i ctxI newOwner, OpenRecovery lengthHash guardedWallet recoveryRun 1#256 i 1 ctxI newOwner ∧
        (3#256 : Address) = ctxI.sender ∧
        ctxI.blockNumber % 2 ^ 64 + recoveryTimelockBlocks ≤ (1 + recoveryTimelockBlocks) % 2 ^ 64 ∧
        readOwner lengthHash (runActions lengthHash guardedWallet (recoveryRun.take 2)) 1#256 = newOwner ∧
        newOwner ≠ 0 :=
  @owner_change_needs_recovery lengthHash guardedWallet recoveryRun 1#256 [1#256, 3#256]
    walletSlotsDistinct_lengthHash (by simp) (by decide +kernel)
    (by simp [recoveryRun, PolicyAction.Within, PolicyAction.account]) 1 _ _ rfl
    (by decide +kernel) (by decide +kernel)

end Gtos.PolicyWallet
