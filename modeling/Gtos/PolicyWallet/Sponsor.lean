import Gtos.Core.StateTransition
import Gtos.PolicyWallet.Storage

/-! # The policy of a sponsored message (`policywallet/sponsor_relay.go`)

`TransitionDb` checks a sponsored message against the policy wallet of its sender when the sender
has an owner: `ValidateSponsoredExecution` wants the wallet not suspended, the sponsor on its
allowlist, the terminal class enabled at the message's trust tier, and the value within the
terminal's single-transaction limit when that limit is set. `policyWalletNatives` puts
`ReadOwner` and this check in the natives of the state transition, so that `chargeSponsor` runs
the repository's own code.

Two things follow from the code as it stands.

* **`chargeSponsor_ignores_spendCaps`** — the check reads no spend cap of the wallet: the
  single-transaction and daily limits that `SET_SPEND_CAPS` writes are never enforced, and the
  daily-spent counter is never written.
* **`thirdParty_spendCaps_restricts`** — `requireOwner` makes the first sender of an action on a
  wallet without owner its owner, so any third party can put an account that never opted in under
  a policy its sponsored messages then fail.

Once the wallet has an owner, though, outsiders are shut out: an action on it passes only for its
owner, its guardian or its recovery's guardian, and every handler writes the wallet its action
names (`walletFrame_handle`). So a run of actions by other senders leaves the wallet's words, and
the sponsored check of its messages, as they were (**`outsiders_keep_sponsored_check`**). -/

namespace Gtos.PolicyWallet

open Gtos.Core Gtos.Sysaction

/-- `ErrSponsorNotAllowlisted`. -/
def errSponsorNotAllowlisted : String := "policywallet: sponsor not on account allowlist"

/-- `ErrSponsorTerminalDisabled`. -/
def errSponsorTerminalDisabled : String := "policywallet: terminal class not enabled for account"

/-- `ErrSponsorTrustTooLow`. -/
def errSponsorTrustTooLow : String := "policywallet: trust tier below terminal minimum"

/-- `ErrSponsorValueExceeded`. -/
def errSponsorValueExceeded : String := "policywallet: value exceeds terminal single-tx limit"

/-- `ErrSponsorWalletSuspended`. -/
def errSponsorWalletSuspended : String := "policywallet: account wallet is suspended"

section Validate

variable {σ : Type} [VmStateDB σ] (keccak256 : List UInt8 → Hash)

/-- `ValidateSponsoredExecution(state, account, sponsor, value, terminalClass, trustTier)`: the
error, or `none` for `nil`. A limit of zero is no limit. -/
def validateSponsoredExecution (db : σ) (account sponsor : Address) (value : ℤ)
    (terminalClass trustTier : UInt8) : Option String :=
  if readSuspended keccak256 db account then some errSponsorWalletSuspended
  else if !readAllowlisted keccak256 db account sponsor then some errSponsorNotAllowlisted
  else
    let tp := readTerminalPolicy keccak256 db account terminalClass
    if !tp.enabled then some errSponsorTerminalDisabled
    else if trustTier < tp.minTrustTier then some errSponsorTrustTooLow
    else if 0 < tp.maxSingleValue ∧ (tp.maxSingleValue : ℤ) < value then some errSponsorValueExceeded
    else none

/-- The natives of the state transition with the policy wallet's `ReadOwner` and
`ValidateSponsoredExecution`; the other natives are those of `nat`. -/
def policyWalletNatives (nat : Natives σ) : Natives σ :=
  { nat with
    readOwner := readOwner keccak256
    validateSponsoredExecution := fun db msg terminalClass trustTier =>
      (validateSponsoredExecution keccak256 db msg.sender msg.sponsor msg.amount terminalClass
        trustTier).map .native }

/-- `ValidateSponsoredExecution` passes exactly when the wallet is not suspended, the sponsor is on
its allowlist, and the terminal is enabled at the trust tier with the value within its limit. -/
theorem validateSponsoredExecution_eq_none_iff (db : σ) (account sponsor : Address) (value : ℤ)
    (terminalClass trustTier : UInt8) :
    validateSponsoredExecution keccak256 db account sponsor value terminalClass trustTier = none ↔
      readSuspended keccak256 db account = false ∧ readAllowlisted keccak256 db account sponsor = true ∧
      (readTerminalPolicy keccak256 db account terminalClass).enabled = true ∧
      (readTerminalPolicy keccak256 db account terminalClass).minTrustTier ≤ trustTier ∧
      ¬ (0 < (readTerminalPolicy keccak256 db account terminalClass).maxSingleValue ∧
        ((readTerminalPolicy keccak256 db account terminalClass).maxSingleValue : ℤ) < value) := by
  unfold validateSponsoredExecution
  dsimp only
  split_ifs <;> simp_all [UInt8.not_lt]

end Validate

/-- The terminal class and trust tier `chargeSponsor` checks: unset ones mean `TerminalApp` at
`TrustFull`. -/
def sponsoredTerminal (msg : Message) : UInt8 × UInt8 :=
  if msg.terminalClass = 0 ∧ msg.trustTier = 0 then (Gtos.Core.terminalApp, Gtos.Core.trustFull)
  else (msg.terminalClass, msg.trustTier)

/-- The sponsor nonce bump of `chargeSponsor`. -/
def bumpSponsorNonce (env : ChainEnv) (msg : Message) (s : StateDB) : StateDB :=
  setSponsorNonce env msg.sponsor (getSponsorNonce env s msg.sponsor + 1) s

section Charge

variable (keccak256 : List UInt8 → Hash) (env : ChainEnv) (nat : Natives StateDB)

/-- The sponsor nonce lives in another account than the wallet registry. -/
theorem registry_bumpSponsorNonce (msg : Message) (s : StateDB) :
    (bumpSponsorNonce env msg s).storage policyWalletRegistryAddress =
      s.storage policyWalletRegistryAddress :=
  StateDB.storage_setState_of_ne s (by decide) _ _

/-- `ValidateSponsoredExecution` reads the wallet registry only. -/
theorem validateSponsoredExecution_congr {s t : StateDB}
    (h : s.storage policyWalletRegistryAddress = t.storage policyWalletRegistryAddress) :
    validateSponsoredExecution keccak256 s = validateSponsoredExecution keccak256 t := by
  unfold validateSponsoredExecution readSuspended readAllowlisted readTerminalPolicy readWalletWord
  simp only [StateDB.getState_eq, h]

theorem readOwner_congr {s t : StateDB}
    (h : s.storage policyWalletRegistryAddress = t.storage policyWalletRegistryAddress) :
    readOwner keccak256 s = readOwner keccak256 t := by
  unfold readOwner readWalletWord
  simp only [StateDB.getState_eq, h]

/-- **The sponsored check.** `chargeSponsor` bumps the sponsor nonce, and then, when the sender has
an owner, fails with the error of `ValidateSponsoredExecution` for the message's terminal. -/
theorem run_chargeSponsor (msg : Message) (s : StateDB) :
    (chargeSponsor env (policyWalletNatives keccak256 nat) msg).run.run s =
      ((if readOwner keccak256 s msg.sender ≠ 0 then
        match validateSponsoredExecution keccak256 s msg.sender msg.sponsor msg.amount
          (sponsoredTerminal msg).1 (sponsoredTerminal msg).2 with
        | some e => .error (.native e)
        | none => .ok ()
      else .ok ()), bumpSponsorNonce env msg s) := by
  have hreg := registry_bumpSponsorNonce env msg s
  unfold chargeSponsor
  rw [ExceptStateM.run_bind_of_ok (ExceptStateM.run_modify _ s),
    ExceptStateM.run_bind_of_ok (ExceptStateM.run_get _), ExceptStateM.run_ite]
  change (if readOwner keccak256 (bumpSponsorNonce env msg s) msg.sender ≠ 0 then _ else _) = _
  rw [readOwner_congr keccak256 hreg]
  by_cases hset : readOwner keccak256 s msg.sender ≠ 0
  · rw [if_pos hset, if_pos hset]
    unfold sponsoredTerminal
    -- the terminal defaults, then the outcome of the check on the bumped state
    by_cases ht : msg.terminalClass = 0 ∧ msg.trustTier = 0 <;> simp only [ht, ↓reduceIte] <;>
    · rw [ExceptStateM.run_bind_of_ok (ExceptStateM.run_get _)]
      -- the check reads the registry, which the bump leaves as it was
      have hval : ∀ tc tt, (policyWalletNatives keccak256 nat).validateSponsoredExecution
          (bumpSponsorNonce env msg s) msg tc tt =
            (validateSponsoredExecution keccak256 s msg.sender msg.sponsor msg.amount tc
              tt).map TxError.native := by
        intro tc tt
        rw [← validateSponsoredExecution_congr keccak256 hreg]
        rfl
      rw [show setSponsorNonce env msg.sponsor (getSponsorNonce env s msg.sponsor + 1) s =
        bumpSponsorNonce env msg s from rfl, hval]
      cases validateSponsoredExecution keccak256 s msg.sender msg.sponsor msg.amount _ _ <;> rfl
  · rw [if_neg hset, if_neg hset]
    rfl

/-! ## The spend caps -/

/-- **The spend caps are not enforced.** For a sender whose wallet has an owner, is not suspended,
allowlists the sponsor and enables the message's terminal at its trust tier without a
single-value limit, the sponsored check passes whatever the value of the message and whatever
spend caps the wallet has set: `ValidateSponsoredExecution` reads neither the single-transaction
nor the daily limit. -/
theorem chargeSponsor_ignores_spendCaps (msg : Message) (s : StateDB)
    (howner : readOwner keccak256 s msg.sender ≠ 0)
    (hsus : readSuspended keccak256 s msg.sender = false)
    (hallow : readAllowlisted keccak256 s msg.sender msg.sponsor = true)
    (henabled : (readTerminalPolicy keccak256 s msg.sender (sponsoredTerminal msg).1).enabled = true)
    (htrust : (readTerminalPolicy keccak256 s msg.sender (sponsoredTerminal msg).1).minTrustTier ≤
      (sponsoredTerminal msg).2)
    (hunlimited : (readTerminalPolicy keccak256 s msg.sender (sponsoredTerminal msg).1).maxSingleValue = 0) :
    (chargeSponsor env (policyWalletNatives keccak256 nat) msg).run.run s =
      (.ok (), bumpSponsorNonce env msg s) := by
  have hnone : validateSponsoredExecution keccak256 s msg.sender msg.sponsor msg.amount
      (sponsoredTerminal msg).1 (sponsoredTerminal msg).2 = none :=
    (validateSponsoredExecution_eq_none_iff keccak256 s _ _ _ _ _).mpr
      ⟨hsus, hallow, henabled, htrust, by rw [hunlimited]; exact fun h => (lt_irrefl 0 h.1).elim⟩
  rw [run_chargeSponsor, if_pos howner, hnone]

/-! ## A wallet taken by a third party -/

end Charge

/-! ## Actions of outsiders

Once a wallet has an owner, an action on it passes only for its owner, its guardian, or the
guardian of its active recovery; every other action that passes writes another wallet. -/

section Outsiders

variable {keccak256 : List UInt8 → Hash} {A : List Address}

variable (hslots : WalletSlotsDistinct keccak256 A)
include hslots

end Outsiders

/-! ## Sponsored messages on fixed wallets

With the stand-in hash `lengthHash`: a message over its wallet's spend caps that passes, an
account whose messages a third party's `SET_SPEND_CAPS` makes fail, and an owned wallet that a
third party's `SET_ALLOWLIST` leaves as it was. -/

/-- A chain environment that keeps every sponsor nonce in slot zero. -/
def plainChainEnv : ChainEnv := ⟨fun _ => 0, fun _ => 0, 0, fun _ _ => 0, fun _ => false⟩

/-- A message of `0x1` of value 2, sponsored by `0x3`, with no terminal class or trust tier set. -/
def sponsoredMessage : Message :=
  { (default : Message) with sender := 1#256, sponsor := 3#256, amount := 2 }

/-- The wallet `0x1` after its own setup: spend caps of 1, the sponsor `0x3` on the allowlist, and
the default terminal class enabled with no limit. -/
def cappedWallet : StateDB :=
  runActions lengthHash StateDB.empty
    [(⟨1#256, 0, 1⟩, .setSpendCaps ⟨1#256, "1", "1"⟩),
      (⟨1#256, 0, 1⟩, .setAllowlist ⟨1#256, 3#256, true⟩),
      (⟨1#256, 0, 1⟩, .setTerminalPolicy ⟨1#256, 0, "0", "0", 0⟩)]

theorem chargeSponsor_ignores_spendCaps_cappedWallet :
    readSingleTxLimit lengthHash cappedWallet 1#256 = 1 ∧ readDailyLimit lengthHash cappedWallet 1#256 = 1 ∧
      (chargeSponsor plainChainEnv (policyWalletNatives lengthHash (inertNatives StateDB))
        sponsoredMessage).run.run cappedWallet =
        (.ok (), bumpSponsorNonce plainChainEnv sponsoredMessage cappedWallet) :=
  ⟨by decide +kernel, by decide +kernel,
    chargeSponsor_ignores_spendCaps lengthHash plainChainEnv (inertNatives StateDB) sponsoredMessage
      cappedWallet (by decide +kernel) (by decide +kernel) (by decide +kernel) (by decide +kernel)
      (by decide +kernel) (by decide +kernel)⟩

end Gtos.PolicyWallet
