import Mathlib.Data.List.Perm.Subperm
import Gtos.Agent.Storage
import Gtos.Lib.ListSum
import Gtos.Lib.Simulation

/-! # The agent stake ledger (`agent/handler.go`, `core/state_transition.go`)

Over any run of agent actions from an empty registry, each reverted when it fails, the registry
stays consistent (`LedgerInv`): the list holds distinct addresses, exactly those whose registered
flag is set; an address is `Active` with at least `AgentMinStake` or `Inactive` with no stake; and
the registry's balance covers the sum of the stakes, so the guard of `handleDecreaseStake` against a
broken registry balance never fires. Each action moves stake and balance together: the change of
the sender's stake is the change of the registry's balance and the opposite of the change of the
sender's balance (`StakeTransfer`).

The invariant is stated for the addresses of a list `A` whose registry words have distinct slots
(`AgentSlotsDistinct`), and needs of the run what the handlers do not check:
* no action is sent by the registry account itself: its registration passes the balance check with
  the registry's own balance, moves the value from the registry to the registry, and adds a stake
  that no balance covers (`stakes_exceed_balance_of_registry_sender`);
* the values are not negative, as a transaction's value never is, and the registry's balance plus
  the values of the actions that succeed (`keptActions`) stays below 2^256: `BigToHash` keeps the
  low 32 bytes of a stake, and a failed action moves nothing;
* the targets of `AGENT_SUSPEND` and `AGENT_UNSUSPEND` are in `A`, whose words are the ones known
  not to collide.

* **`LedgerInv`** — the invariant, one field per property; **`LedgerInv.update`** — what a
  change of one address's record must satisfy to keep it.
* **`LedgerStep`** — what one successful action does; **`ledgerStep_applyAction`** its step and
  **`ledger_runActions`** its run. -/

namespace Gtos.Agent

open Gtos.Core Gtos.Sysaction ExceptStateM

/-- **The ledger invariant**, for the addresses of `A`. -/
structure LedgerInv (keccak256 : List UInt8 → Hash) (A : List Address) (s : StateDB) : Prop where
  /-- The list holds distinct addresses, -/
  nodup : (agentList keccak256 s).Nodup
  /-- all of them in `A`. -/
  subset : ∀ a ∈ agentList keccak256 s, a ∈ A
  /-- An address is listed iff its registered flag is set. -/
  mem_iff_registered :
    ∀ a ∈ A, a ∈ agentList keccak256 s ↔ readRegisteredFlag keccak256 s a = true
  /-- An address is `Active` with at least the minimum stake, or `Inactive` with none. -/
  status_stake : ∀ a ∈ A,
    (readStatus keccak256 s a = agentActive ∧ agentMinStake ≤ readStake keccak256 s a) ∨
      (readStatus keccak256 s a = agentInactive ∧ readStake keccak256 s a = 0)
  /-- An address with a stake is registered. -/
  registered_of_stake_pos :
    ∀ a ∈ A, 0 < readStake keccak256 s a → readRegisteredFlag keccak256 s a = true
  /-- The registry's balance covers the stakes of the listed addresses. -/
  stakes_le_balance : (((agentList keccak256 s).map (readStake keccak256 s)).sum : ℤ) ≤
    s.balance agentRegistryAddress

/-- **A matched transfer.** From `s` to `s'`, only the stake of `f` among the addresses of `A`
changes, by what the registry's balance gains; `f`'s balance loses it; no other balance moves. -/
structure StakeTransfer (keccak256 : List UInt8 → Hash) (A : List Address) (f : Address)
    (s s' : StateDB) : Prop where
  /-- The stakes of the other addresses stay. -/
  stake_other : ∀ b ∈ A, b ≠ f → readStake keccak256 s' b = readStake keccak256 s b
  /-- The stake of `f` changes as the registry's balance does. -/
  stake_sender : (readStake keccak256 s' f : ℤ) - readStake keccak256 s f =
    s'.balance agentRegistryAddress - s.balance agentRegistryAddress
  /-- The balance of `f` changes the other way. -/
  balance_sender : s'.balance f - s.balance f =
    s.balance agentRegistryAddress - s'.balance agentRegistryAddress
  /-- No other balance moves. -/
  balance_other : ∀ c, c ≠ f → c ≠ agentRegistryAddress → s'.balance c = s.balance c

/-- What one successful action does to a consistent ledger: it keeps the invariant, its transfer
is matched, it sets a flag only by a registration, and it adds at most its value to the registry's
balance. -/
structure LedgerStep (keccak256 : List UInt8 → Hash) (A : List Address) (ctx : Context)
    (a : AgentAction) (s s' : StateDB) : Prop where
  /-- The invariant holds after. -/
  inv : LedgerInv keccak256 A s'
  /-- The stake moves with the balances. -/
  transfer : StakeTransfer keccak256 A ctx.sender s s'
  /-- A flag is set only by a registration, and never cleared. -/
  registered : ∀ b ∈ A, readRegisteredFlag keccak256 s' b = true ↔
    readRegisteredFlag keccak256 s b = true ∨ (a = .register ∧ ctx.sender = b)
  /-- The registry gains at most the value. -/
  registryBalance : s'.balance agentRegistryAddress ≤ s.balance agentRegistryAddress + ctx.value

/-- The addresses whose suspended flag an action writes, when its payload decoded. -/
def AgentAction.targets : AgentAction → List Address
  | .suspend (.ok p) => [hexToAddress p.target]
  | .unsuspend (.ok p) => [hexToAddress p.target]
  | _ => []

/-- An action among the addresses of `A`: sent from `A` by an account other than the registry,
with a value that is not negative, and with its targets in `A`. -/
def ActionWithin (A : List Address) (act : Context × AgentAction) : Prop :=
  act.1.sender ∈ A ∧ act.1.sender ≠ agentRegistryAddress ∧ 0 ≤ act.1.value ∧
    ∀ t ∈ act.2.targets, t ∈ A

section Inv

variable {keccak256 : List UInt8 → Hash} {A : List Address} {s s' : StateDB}

/-- The list has no more entries than `A` has addresses. -/
theorem LedgerInv.count_le (hinv : LedgerInv keccak256 A s) :
    readAgentCount keccak256 s ≤ A.length := by
  rw [← length_agentList]
  exact (List.Nodup.subperm hinv.nodup hinv.subset).length_le

/-- An unregistered address of `A` still has a list slot below `A.length`. -/
theorem LedgerInv.count_lt (hinv : LedgerInv keccak256 A s) {a : Address} (ha : a ∈ A)
    (hflag : readRegisteredFlag keccak256 s a = false) : readAgentCount keccak256 s < A.length := by
  have hnot : a ∉ agentList keccak256 s := by
    rw [hinv.mem_iff_registered a ha, hflag]
    decide
  have hsub : (a :: agentList keccak256 s).Subperm A :=
    List.Nodup.subperm (List.nodup_cons.mpr ⟨hnot, hinv.nodup⟩)
      (List.cons_subset.mpr ⟨ha, hinv.subset⟩)
  have hlen := hsub.length_le
  rw [List.length_cons, length_agentList] at hlen
  omega

theorem LedgerInv.balance_nonneg (hinv : LedgerInv keccak256 A s) :
    0 ≤ s.balance agentRegistryAddress :=
  le_trans (Int.natCast_nonneg _) hinv.stakes_le_balance

/-- **Each stake is covered**: the stake of an address of `A` is at most the registry's balance. -/
theorem LedgerInv.stake_le_balance (hinv : LedgerInv keccak256 A s) {a : Address} (ha : a ∈ A) :
    (readStake keccak256 s a : ℤ) ≤ s.balance agentRegistryAddress := by
  rcases Nat.eq_zero_or_pos (readStake keccak256 s a) with hzero | hpos
  · rw [hzero, Nat.cast_zero]
    exact hinv.balance_nonneg
  · -- a staked address is listed, and its stake is part of the total
    have hmem : a ∈ agentList keccak256 s :=
      (hinv.mem_iff_registered a ha).mpr (hinv.registered_of_stake_pos a ha hpos)
    have hle : readStake keccak256 s a ≤ ((agentList keccak256 s).map (readStake keccak256 s)).sum :=
      List.le_sum_of_mem (List.mem_map_of_mem hmem)
    exact le_trans (Int.ofNat_le.mpr hle) hinv.stakes_le_balance

/-- The empty registry: no address listed, registered or staked. -/
theorem ledgerInv_empty (hempty : s.storage agentRegistryAddress = fun _ => 0)
    (hbal : 0 ≤ s.balance agentRegistryAddress) : LedgerInv keccak256 A s := by
  have hkeyed : ∀ k, keyed keccak256 s k = 0 := fun k => by simp [keyed, hempty]
  have hlist : agentList keccak256 s = [] := by
    simp [agentList, readAgentCount_eq, hkeyed]
  refine ⟨?_, ?_, fun a _ => ?_, fun a _ => ?_, fun a _ h => ?_, ?_⟩
  all_goals simp [hlist, readRegisteredFlag_eq, readStake_eq, readStatus_eq, hkeyed,
    agentInactive, hbal] at *

/-- A state with the same ledger has the invariant. -/
theorem LedgerInv.congr (hinv : LedgerInv keccak256 A s) (h : SameLedger keccak256 A s s') :
    LedgerInv keccak256 A s' := by
  refine ⟨?_, fun a ha => ?_, fun a ha => ?_, fun a ha => ?_, fun a ha hpos => ?_, ?_⟩
  · rw [h.list]
    exact hinv.nodup
  · rw [h.list] at ha
    exact hinv.subset a ha
  · rw [h.list, h.registered a ha]
    exact hinv.mem_iff_registered a ha
  · rw [h.status a ha, h.stake a ha]
    exact hinv.status_stake a ha
  · rw [h.stake a ha] at hpos
    rw [h.registered a ha]
    exact hinv.registered_of_stake_pos a ha hpos
  · have hsame : (agentList keccak256 s').map (readStake keccak256 s') =
        (agentList keccak256 s).map (readStake keccak256 s) := by
      rw [h.list]
      exact List.map_congr_left fun b hb => h.stake b (hinv.subset b hb)
    rw [hsame, h.balance]
    exact hinv.stakes_le_balance

/-- **A change of one record keeps the invariant.** The record of `f` alone changes; its flag is
set, and `f` is appended to the list unless it was registered; its new status and stake are one of
the two allowed pairs; and its stake moves as the registry's balance does. -/
theorem LedgerInv.update (hinv : LedgerInv keccak256 A s) {f : Address} (hf : f ∈ A)
    (hstake : ∀ b ∈ A, b ≠ f → readStake keccak256 s' b = readStake keccak256 s b)
    (hstatus : ∀ b ∈ A, b ≠ f → readStatus keccak256 s' b = readStatus keccak256 s b)
    (hflag : ∀ b ∈ A, readRegisteredFlag keccak256 s' b =
      if b = f then true else readRegisteredFlag keccak256 s b)
    (hlist : agentList keccak256 s' = if readRegisteredFlag keccak256 s f then agentList keccak256 s
      else agentList keccak256 s ++ [f])
    (hsf : (readStatus keccak256 s' f = agentActive ∧ agentMinStake ≤ readStake keccak256 s' f) ∨
      (readStatus keccak256 s' f = agentInactive ∧ readStake keccak256 s' f = 0))
    (hmove : (readStake keccak256 s' f : ℤ) - readStake keccak256 s f =
      s'.balance agentRegistryAddress - s.balance agentRegistryAddress) :
    LedgerInv keccak256 A s' := by
  -- the list after: the same, or with `f` appended when it was not listed
  have hmem : ∀ a, a ∈ agentList keccak256 s' ↔ a = f ∨ a ∈ agentList keccak256 s := by
    intro a
    rw [hlist]
    cases hflag_f : readRegisteredFlag keccak256 s f
    · simp [or_comm]
    · have hmemf := (hinv.mem_iff_registered f hf).mpr hflag_f
      simp only [if_true]
      exact ⟨Or.inr, fun h => h.elim (fun h => h ▸ hmemf) id⟩
  -- an address that was not registered held no stake
  have hzero : readRegisteredFlag keccak256 s f = false → readStake keccak256 s f = 0 := by
    intro hflag_f
    by_contra hne
    have h := hinv.registered_of_stake_pos f hf (Nat.pos_of_ne_zero hne)
    rw [hflag_f] at h
    cases h
  refine ⟨?_, fun a ha => ?_, fun a ha => ?_, fun a ha => ?_, fun a ha hpos => ?_, ?_⟩
  · rw [hlist]
    split
    · exact hinv.nodup
    · rename_i hflag_f
      have hnot : f ∉ agentList keccak256 s := by
        rw [hinv.mem_iff_registered f hf]
        simpa using hflag_f
      exact List.nodup_append.mpr ⟨hinv.nodup, List.nodup_singleton f,
        fun a ha b hb => by rw [List.mem_singleton.mp hb]; exact fun h => hnot (h ▸ ha)⟩
  · rcases (hmem a).mp ha with rfl | ha
    · exact hf
    · exact hinv.subset a ha
  · rw [hmem a, hflag a ha]
    by_cases h : a = f
    · simp [h]
    · simp [h, hinv.mem_iff_registered a ha]
  · by_cases h : a = f
    · subst h
      exact hsf
    · rw [hstake a ha h, hstatus a ha h]
      exact hinv.status_stake a ha
  · rw [hflag a ha]
    by_cases h : a = f
    · rw [if_pos h]
    · rw [if_neg h]
      rw [hstake a ha h] at hpos
      exact hinv.registered_of_stake_pos a ha hpos
  · -- the total of the stakes moves by the change at `f`, as the registry's balance does
    have htotal : (((agentList keccak256 s').map (readStake keccak256 s')).sum : ℤ) +
        readStake keccak256 s f =
        ((agentList keccak256 s).map (readStake keccak256 s)).sum + readStake keccak256 s' f := by
      rw [hlist]
      cases hflag_f : readRegisteredFlag keccak256 s f
      · -- `f` is appended, and held no stake
        have hnot : f ∉ agentList keccak256 s := by
          rw [hinv.mem_iff_registered f hf, hflag_f]
          decide
        have hsame : (agentList keccak256 s).map (readStake keccak256 s') =
            (agentList keccak256 s).map (readStake keccak256 s) :=
          List.map_congr_left fun b hb =>
            hstake b (hinv.subset b hb) fun h => hnot (h ▸ hb)
        simp only [Bool.false_eq_true, if_false, List.map_append, List.map_singleton,
          List.sum_append, List.sum_singleton, hsame, hzero hflag_f]
        push_cast
        omega
      · -- `f` is listed already
        have h := ListSum.sum_map_add_eq_of_eq_off hinv.nodup
          ((hinv.mem_iff_registered f hf).mpr hflag_f) (f := readStake keccak256 s)
          (g := readStake keccak256 s') fun b hb hne => hstake b (hinv.subset b hb) hne
        rw [if_pos rfl]
        exact_mod_cast h
    have hle := hinv.stakes_le_balance
    omega

theorem StakeTransfer.refl (f : Address) (s : StateDB) : StakeTransfer keccak256 A f s s :=
  ⟨fun _ _ _ => rfl, by simp, by simp, fun _ _ _ => rfl⟩

/-- A state with the same ledger is reached by no transfer. -/
theorem SameLedger.stakeTransfer (h : SameLedger keccak256 A s s') {f : Address} (hf : f ∈ A) :
    StakeTransfer keccak256 A f s s' := by
  refine ⟨fun b hb _ => h.stake b hb, ?_, ?_, fun c _ _ => by rw [h.balance]⟩
  · rw [h.stake f hf, h.balance]
    simp
  · rw [h.balance]
    simp

/-- **An action that leaves the ledger** (a profile update, a suspension) is a step with no
transfer. -/
theorem ledgerStep_of_sameLedger (hinv : LedgerInv keccak256 A s) {ctx : Context} {a : AgentAction}
    (ha : a ≠ .register) (hf : ctx.sender ∈ A) (hv0 : 0 ≤ ctx.value)
    (h : SameLedger keccak256 A s s') : LedgerStep keccak256 A ctx a s s' := by
  refine ⟨hinv.congr h, h.stakeTransfer hf, fun b hb => ?_, ?_⟩
  · rw [h.registered b hb]
    simp [ha]
  · rw [h.balance]
    omega

/-- **The registry's balance covers every stake.** For any distinct addresses of `A`, the sum of
their stakes is at most the registry's balance: the addresses without a stake add nothing, and
those with one are listed. -/
theorem LedgerInv.stakes_le_balance_of_nodup (hinv : LedgerInv keccak256 A s)
    (B : List Address) (hB : B.Nodup) (hBA : ∀ b ∈ B, b ∈ A) :
    ((B.map (readStake keccak256 s)).sum : ℤ) ≤ s.balance agentRegistryAddress := by
  have hzero : ∀ b ∈ B, decide (b ∈ agentList keccak256 s) = false → readStake keccak256 s b = 0 := by
    intro b hb hnot
    by_contra hne
    have hmem := (hinv.mem_iff_registered b (hBA b hb)).mpr
      (hinv.registered_of_stake_pos b (hBA b hb) (Nat.pos_of_ne_zero hne))
    exact absurd hmem (by simpa using hnot)
  have hsub : (B.filter fun b => decide (b ∈ agentList keccak256 s)).Subperm (agentList keccak256 s) :=
    List.Nodup.subperm (hB.filter _) fun b hb => by simpa using (List.mem_filter.mp hb).2
  have hle := ListSum.sum_map_le_of_subperm hsub (readStake keccak256 s)
  rw [ListSum.sum_map_filter_eq _ B hzero] at hle
  exact le_trans (Int.ofNat_le.mpr hle) hinv.stakes_le_balance

/-- **The guard against a broken registry balance never fires** on a consistent ledger: a
decrease that reaches it asks for at most the sender's stake, which the balance covers. -/
theorem LedgerInv.decrease_guard (hinv : LedgerInv keccak256 A s) {ctx : Context}
    (hf : ctx.sender ∈ A) (p : DecreaseStakePayload) :
    ((handleDecreaseStake keccak256 ctx (.ok p)).run.run s).1 ≠
      .error (.error errRegistryBalanceBroken) := by
  have hcover := hinv.stake_le_balance hf
  rw [run_handleDecreaseStake]
  split_ifs
  · simp [errAgentNotRegistered, errRegistryBalanceBroken]
  · simp [errAgentNotActive, errRegistryBalanceBroken]
  · split
    · simp [errAgentInsufficientStake, errRegistryBalanceBroken]
    · split_ifs with hpos hneg hmin hbal
      · simp [errAgentInsufficientStake, errRegistryBalanceBroken]
      · simp [errDecreaseExceedsStake, errRegistryBalanceBroken]
      · simp [errAgentInsufficientStake, errRegistryBalanceBroken]
      · rw [StateDB.getBalance_eq] at hbal
        omega
      · simp

end Inv

/-- A move of `x` from `a` to `b ≠ a`, as `SubBalance` then `AddBalance`. -/
theorem balance_move (s : StateDB) {a b : Address} (hab : a ≠ b) (x : ℤ) (c : Address) :
    (VmStateDB.addBalance (VmStateDB.subBalance s a x) b x).balance c =
      if c = b then s.balance b + x else if c = a then s.balance a - x else s.balance c := by
  simp only [StateDB.balance_addBalance, StateDB.balance_subBalance, if_neg (Ne.symm hab)]

theorem readStake_lt (keccak256 : List UInt8 → Hash) (s : StateDB) (a : Address) :
    readStake keccak256 s a < 2 ^ 256 :=
  BitVec.isLt _

/-! ## One step -/

section Steps

variable {keccak256 : List UInt8 → Hash} {A : List Address} {s : StateDB}
  (hslots : AgentSlotsDistinct keccak256 A)
include hslots

/-- **A registration** locks the value as the sender's stake and makes it `Active`; the
registry's balance grows by the value. -/
theorem ledgerStep_register (hA : A.length < 2 ^ 64) (hinv : LedgerInv keccak256 A s)
    {ctx : Context} (hf : ctx.sender ∈ A) (hreg : ctx.sender ≠ agentRegistryAddress)
    (hfit : s.balance agentRegistryAddress + ctx.value < 2 ^ 256)
    (hmin : (agentMinStake : ℤ) ≤ ctx.value) (hstake : readStake keccak256 s ctx.sender = 0) :
    LedgerStep keccak256 A ctx .register s (registerWrites keccak256 s ctx.sender ctx.value) := by
  obtain ⟨hstake', hstatus', hflag', hlist', hbal'⟩ := registerWrites_effect hslots s ctx.sender
    ctx.value hf hinv.count_le hA (hinv.count_lt hf)
  -- the stake written is the value itself
  have hn : (ctx.value.natAbs : ℤ) = ctx.value :=
    Int.natAbs_of_nonneg (le_trans (Int.natCast_nonneg _) hmin)
  have hlt : ctx.value.natAbs < 2 ^ 256 := by
    have := hinv.balance_nonneg
    omega
  have hsf : readStake keccak256 (registerWrites keccak256 s ctx.sender ctx.value) ctx.sender =
      ctx.value.natAbs := by
    rw [hstake' _ hf, if_pos rfl, Nat.mod_eq_of_lt hlt]
  have hbal : ∀ c, (registerWrites keccak256 s ctx.sender ctx.value).balance c =
      if c = agentRegistryAddress then s.balance agentRegistryAddress + ctx.value
      else if c = ctx.sender then s.balance ctx.sender - ctx.value else s.balance c := fun c => by
    rw [hbal', balance_move s hreg]
  have hmove : (readStake keccak256 (registerWrites keccak256 s ctx.sender ctx.value) ctx.sender : ℤ) -
      readStake keccak256 s ctx.sender =
      (registerWrites keccak256 s ctx.sender ctx.value).balance agentRegistryAddress -
        s.balance agentRegistryAddress := by
    rw [hsf, hstake, hbal, if_pos rfl]
    omega
  refine ⟨hinv.update hf (fun b hb hne => by rw [hstake' b hb, if_neg hne])
      (fun b hb hne => by rw [hstatus' b hb, if_neg hne]) hflag' hlist'
      (Or.inl ⟨by rw [hstatus' _ hf, if_pos rfl], by rw [hsf]; omega⟩) hmove,
    ⟨fun b hb hne => by rw [hstake' b hb, if_neg hne], hmove, ?_,
      fun c hcf hcr => by rw [hbal, if_neg hcr, if_neg hcf]⟩, fun b hb => ?_, ?_⟩
  · rw [hbal, hbal, if_pos rfl, if_neg hreg, if_pos rfl]
    omega
  · rw [hflag' b hb]
    by_cases h : b = ctx.sender
    · simp [h]
    · simp [h, Ne.symm h]
  · rw [hbal, if_pos rfl]

/-- **An increase** adds the value to the stake of an `Active` sender; the registry's balance grows
by the value. -/
theorem ledgerStep_increase (hinv : LedgerInv keccak256 A s) {ctx : Context}
    (hf : ctx.sender ∈ A) (hreg : ctx.sender ≠ agentRegistryAddress)
    (hfit : s.balance agentRegistryAddress + ctx.value < 2 ^ 256) (hv0 : 0 ≤ ctx.value)
    (hregd : isRegistered keccak256 s ctx.sender = true)
    (hactive : readStatus keccak256 s ctx.sender = agentActive) :
    LedgerStep keccak256 A ctx .increaseStake s (increaseWrites keccak256 s ctx.sender ctx.value) := by
  obtain ⟨hstake', hstatus', hflag', hlist', hbal'⟩ :=
    increaseWrites_effect hslots s ctx.sender ctx.value hf hinv.count_le
  have hcover := hinv.stake_le_balance hf
  -- an `Active` sender holds at least the minimum
  have hmin : agentMinStake ≤ readStake keccak256 s ctx.sender := by
    rcases hinv.status_stake _ hf with ⟨-, h⟩ | ⟨h, -⟩
    · exact h
    · rw [hactive] at h
      exact absurd h (by decide)
  -- the new stake fits in the word: it is covered by the registry's balance after
  have hsum : (((readStake keccak256 s ctx.sender : ℤ) + ctx.value).natAbs : ℤ) =
      readStake keccak256 s ctx.sender + ctx.value := Int.natAbs_of_nonneg (by omega)
  have hlt : ((readStake keccak256 s ctx.sender : ℤ) + ctx.value).natAbs < 2 ^ 256 := by omega
  have hsf : (readStake keccak256 (increaseWrites keccak256 s ctx.sender ctx.value) ctx.sender : ℤ) =
      readStake keccak256 s ctx.sender + ctx.value := by
    rw [hstake' _ hf, if_pos rfl, Nat.mod_eq_of_lt hlt, hsum]
  have hbal : ∀ c, (increaseWrites keccak256 s ctx.sender ctx.value).balance c =
      if c = agentRegistryAddress then s.balance agentRegistryAddress + ctx.value
      else if c = ctx.sender then s.balance ctx.sender - ctx.value else s.balance c := fun c => by
    rw [hbal', balance_move s hreg]
  have hmove : (readStake keccak256 (increaseWrites keccak256 s ctx.sender ctx.value) ctx.sender : ℤ) -
      readStake keccak256 s ctx.sender =
      (increaseWrites keccak256 s ctx.sender ctx.value).balance agentRegistryAddress -
        s.balance agentRegistryAddress := by
    rw [hsf, hbal, if_pos rfl]
    omega
  have hregd' : readRegisteredFlag keccak256 s ctx.sender = true := hregd
  refine ⟨hinv.update hf (fun b hb hne => by rw [hstake' b hb, if_neg hne])
      (fun b hb _ => hstatus' b hb) (fun b hb => ?_) (by rw [hlist', if_pos hregd'])
      (Or.inl ⟨by rw [hstatus' _ hf, hactive], by omega⟩) hmove,
    ⟨fun b hb hne => by rw [hstake' b hb, if_neg hne], hmove, ?_,
      fun c hcf hcr => by rw [hbal, if_neg hcr, if_neg hcf]⟩, fun b hb => ?_, ?_⟩
  · rw [hflag' b hb]
    split_ifs with h
    · rw [h, hregd']
    · rfl
  · rw [hbal, hbal, if_pos rfl, if_neg hreg, if_pos rfl]
    omega
  · rw [hflag' b hb]
    simp
  · rw [hbal, if_pos rfl]

/-- **A decrease** returns part of an `Active` sender's stake, keeping the minimum, or all of it,
which makes the sender `Inactive`; the registry's balance shrinks by the amount. -/
theorem ledgerStep_decrease (hinv : LedgerInv keccak256 A s) {ctx : Context}
    (hf : ctx.sender ∈ A) (hreg : ctx.sender ≠ agentRegistryAddress) (hv0 : 0 ≤ ctx.value)
    (payload : Except String DecreaseStakePayload)
    (hregd : isRegistered keccak256 s ctx.sender = true)
    (hactive : readStatus keccak256 s ctx.sender = agentActive) {amount : ℤ} (hpos : 0 < amount)
    (hle : amount ≤ readStake keccak256 s ctx.sender)
    (hmin : ¬ (0 < (readStake keccak256 s ctx.sender : ℤ) - amount ∧
      (readStake keccak256 s ctx.sender : ℤ) - amount < agentMinStake)) :
    LedgerStep keccak256 A ctx (.decreaseStake payload) s (decreaseWrites keccak256 s ctx.sender
      amount ((readStake keccak256 s ctx.sender : ℤ) - amount)) := by
  set remaining := (readStake keccak256 s ctx.sender : ℤ) - amount with hrem
  obtain ⟨hstake', hstatus', hflag', hlist', hbal'⟩ :=
    decreaseWrites_effect hslots s ctx.sender amount remaining hf hinv.count_le
  have hslt := readStake_lt keccak256 s ctx.sender
  have hn : (remaining.natAbs : ℤ) = remaining := Int.natAbs_of_nonneg (by omega)
  have hsf : (readStake keccak256 (decreaseWrites keccak256 s ctx.sender amount remaining)
      ctx.sender : ℤ) = remaining := by
    rw [hstake' _ hf, if_pos rfl, Nat.mod_eq_of_lt (by omega), hn]
  have hbal : ∀ c, (decreaseWrites keccak256 s ctx.sender amount remaining).balance c =
      if c = ctx.sender then s.balance ctx.sender + amount
      else if c = agentRegistryAddress then s.balance agentRegistryAddress - amount
      else s.balance c := fun c => by
    rw [hbal', balance_move s (Ne.symm hreg)]
  have hmove : (readStake keccak256 (decreaseWrites keccak256 s ctx.sender amount remaining)
      ctx.sender : ℤ) - readStake keccak256 s ctx.sender =
      (decreaseWrites keccak256 s ctx.sender amount remaining).balance agentRegistryAddress -
        s.balance agentRegistryAddress := by
    rw [hsf, hbal, if_neg (Ne.symm hreg), if_pos rfl]
    omega
  have hregd' : readRegisteredFlag keccak256 s ctx.sender = true := hregd
  -- a full exit leaves `Inactive` with nothing; a partial one `Active` with at least the minimum
  have hsf' : (readStatus keccak256 (decreaseWrites keccak256 s ctx.sender amount remaining)
        ctx.sender = agentActive ∧ agentMinStake ≤
          readStake keccak256 (decreaseWrites keccak256 s ctx.sender amount remaining) ctx.sender) ∨
      (readStatus keccak256 (decreaseWrites keccak256 s ctx.sender amount remaining)
        ctx.sender = agentInactive ∧
          readStake keccak256 (decreaseWrites keccak256 s ctx.sender amount remaining) ctx.sender = 0) := by
    rw [hstatus' _ hf]
    by_cases hz : remaining = 0
    · right
      rw [if_pos ⟨rfl, hz⟩]
      exact ⟨rfl, by omega⟩
    · left
      rw [if_neg (fun h => hz h.2)]
      exact ⟨hactive, by omega⟩
  refine ⟨hinv.update hf (fun b hb hne => by rw [hstake' b hb, if_neg hne])
      (fun b hb hne => by rw [hstatus' b hb, if_neg (fun h => hne h.1)]) (fun b hb => ?_)
      (by rw [hlist', if_pos hregd']) hsf' hmove,
    ⟨fun b hb hne => by rw [hstake' b hb, if_neg hne], hmove, ?_,
      fun c hcf hcr => by rw [hbal, if_neg hcf, if_neg hcr]⟩, fun b hb => ?_, ?_⟩
  · rw [hflag' b hb]
    split_ifs with h
    · rw [h, hregd']
    · rfl
  · rw [hbal, hbal, if_pos rfl, if_neg (Ne.symm hreg), if_pos rfl]
    omega
  · rw [hflag' b hb]
    simp
  · rw [hbal, if_neg (Ne.symm hreg), if_pos rfl]
    omega

/-- **Every successful action is a ledger step** from a consistent ledger. -/
theorem ledgerStep_of_ok (hA : A.length < 2 ^ 64) (hinv : LedgerInv keccak256 A s)
    {act : Context × AgentAction} (hw : ActionWithin A act)
    (hfit : s.balance agentRegistryAddress + act.1.value < 2 ^ 256) {u : Unit} {s' : StateDB}
    (h : (handle keccak256 act.1 act.2).run.run s = (.ok u, s')) :
    LedgerStep keccak256 A act.1 act.2 s s' := by
  obtain ⟨ctx, a⟩ := act
  obtain ⟨hf, hreg, hv0, htargets⟩ := hw
  cases a with
  | register =>
    obtain ⟨hmin, -, hstake, rfl⟩ := handleRegister_ok keccak256 h
    exact ledgerStep_register hslots hA hinv hf hreg hfit hmin hstake
  | updateProfile payload =>
    obtain ⟨-, p, -, hlen, rfl⟩ := handleUpdateProfile_ok keccak256 h
    exact ledgerStep_of_sameLedger hinv (by simp) hf hv0
      (sameLedger_writeMetadata hslots hf s p.uri hlen hinv.count_le)
  | increaseStake =>
    obtain ⟨hregd, hactive, -, -, rfl⟩ := handleIncreaseStake_ok keccak256 h
    exact ledgerStep_increase hslots hinv hf hreg hfit hv0 hregd hactive
  | decreaseStake payload =>
    obtain ⟨hregd, hactive, p, amount, -, -, hpos, hle, hmin, -, rfl⟩ :=
      handleDecreaseStake_ok keccak256 h
    exact ledgerStep_decrease hslots hinv hf hreg hv0 payload hregd hactive hpos hle hmin
  -- a suspension writes the flag of its target, which is one of `A`
  | suspend payload =>
    obtain ⟨-, p, rfl, -, -, rfl⟩ := handleSetSuspended_ok keccak256 h
    exact ledgerStep_of_sameLedger hinv (by simp) hf hv0 (sameLedger_writeSuspended hslots
      (htargets _ (by simp [AgentAction.targets])) s true hinv.count_le)
  | unsuspend payload =>
    obtain ⟨-, p, rfl, -, -, rfl⟩ := handleSetSuspended_ok keccak256 h
    exact ledgerStep_of_sameLedger hinv (by simp) hf hv0 (sameLedger_writeSuspended hslots
      (htargets _ (by simp [AgentAction.targets])) s false hinv.count_le)

/-- **`applyAction` keeps the ledger**: an action that succeeds is a ledger step. -/
theorem ledgerStep_applyAction (hA : A.length < 2 ^ 64) (hinv : LedgerInv keccak256 A s)
    {act : Context × AgentAction} (hw : ActionWithin A act)
    (hfit : s.balance agentRegistryAddress + act.1.value < 2 ^ 256)
    (hok : succeeds keccak256 s act = true) :
    LedgerStep keccak256 A act.1 act.2 s (applyAction keccak256 s act) := by
  obtain ⟨ctx, a⟩ := act
  obtain ⟨s', hrun, happly⟩ := applyAction_of_succeeds keccak256 hok
  rw [happly]
  exact ledgerStep_of_ok hslots hA hinv hw hfit hrun

end Steps

/-! ## The run -/

/-- The sum of the values of a run. -/
def totalValue (acts : List (Context × AgentAction)) : ℤ :=
  (acts.map fun act => act.1.value).sum

theorem totalValue_append (acts acts' : List (Context × AgentAction)) :
    totalValue (acts ++ acts') = totalValue acts + totalValue acts' := by
  simp [totalValue]

theorem totalValue_nonneg {acts : List (Context × AgentAction)} (hv : ∀ act ∈ acts, 0 ≤ act.1.value) :
    0 ≤ totalValue acts :=
  List.sum_nonneg fun x hx => by
    obtain ⟨act, hact, rfl⟩ := List.mem_map.mp hx
    exact hv act hact

/-- The actions of a run that succeed and are kept, each from the state the run has reached. -/
def keptActions (keccak256 : List UInt8 → Hash) (s : StateDB) (acts : List (Context × AgentAction)) :
    List (Context × AgentAction) :=
  Simulation.kept (applyAction keccak256) (succeeds keccak256) s acts

theorem keptActions_cons (keccak256 : List UInt8 → Hash) (s : StateDB) (act : Context × AgentAction)
    (acts : List (Context × AgentAction)) :
    keptActions keccak256 s (act :: acts) =
      if succeeds keccak256 s act then act :: keptActions keccak256 (applyAction keccak256 s act) acts
      else keptActions keccak256 (applyAction keccak256 s act) acts :=
  Simulation.kept_cons _ _ s act acts

theorem keptActions_append (keccak256 : List UInt8 → Hash) (s : StateDB)
    (acts acts' : List (Context × AgentAction)) :
    keptActions keccak256 s (acts ++ acts') =
      keptActions keccak256 s acts ++ keptActions keccak256 (runActions keccak256 s acts) acts' :=
  Simulation.kept_append _ _ s acts acts'

/-- The kept actions of a prefix of a run whose values are not negative are worth at most those
of the run. -/
theorem totalValue_keptActions_take_le (keccak256 : List UInt8 → Hash) (s : StateDB)
    {acts : List (Context × AgentAction)} (hv : ∀ act ∈ acts, 0 ≤ act.1.value) (i : ℕ) :
    totalValue (keptActions keccak256 s (acts.take i)) ≤ totalValue (keptActions keccak256 s acts) := by
  have hsplit := keptActions_append keccak256 s (acts.take i) (acts.drop i)
  rw [List.take_append_drop] at hsplit
  rw [hsplit, totalValue_append]
  have hrest : 0 ≤ totalValue (keptActions keccak256 (runActions keccak256 s (acts.take i))
      (acts.drop i)) :=
    totalValue_nonneg fun a ha =>
      hv a (List.mem_of_mem_drop ((Simulation.kept_sublist _ _ _ _).subset ha))
  omega

/-- The kept actions of a run whose values are not negative are worth at most the whole run. -/
theorem totalValue_keptActions_le (keccak256 : List UInt8 → Hash) (s : StateDB)
    {acts : List (Context × AgentAction)} (hv : ∀ act ∈ acts, 0 ≤ act.1.value) :
    totalValue (keptActions keccak256 s acts) ≤ totalValue acts := by
  unfold totalValue
  refine ((Simulation.kept_sublist _ _ s acts).map _).sum_le_sum fun x hx => ?_
  obtain ⟨act, hact, rfl⟩ := List.mem_map.mp hx
  exact hv act hact

/-- `b` registered, with success, by one of the first `i` actions of the run from `s`. -/
def RegisteredBefore (keccak256 : List UInt8 → Hash) (s : StateDB)
    (acts : List (Context × AgentAction)) (i : ℕ) (b : Address) : Prop :=
  ∃ j < i, ∃ act, acts[j]? = some act ∧ act.2 = .register ∧ act.1.sender = b ∧
    succeeds keccak256 (runActions keccak256 s (acts.take j)) act = true

/-- Within the first `i + 1` actions, a registration is one within the first `i` or the `i`-th. -/
theorem registeredBefore_succ {keccak256 : List UInt8 → Hash} {s : StateDB}
    {acts : List (Context × AgentAction)} {i : ℕ} {act : Context × AgentAction}
    (hk : acts[i]? = some act) (b : Address) :
    RegisteredBefore keccak256 s acts (i + 1) b ↔ RegisteredBefore keccak256 s acts i b ∨
      (act.2 = .register ∧ act.1.sender = b ∧
        succeeds keccak256 (runActions keccak256 s (acts.take i)) act = true) := by
  constructor
  · rintro ⟨j, hj, act', hj', hreg⟩
    rcases Nat.lt_succ_iff_lt_or_eq.mp hj with hlt | rfl
    · exact Or.inl ⟨j, hlt, act', hj', hreg⟩
    · rw [hk, Option.some.injEq] at hj'
      subst hj'
      exact Or.inr hreg
  · rintro (⟨j, hj, act', hj', hreg⟩ | hreg)
    · exact ⟨j, Nat.lt_succ_of_lt hj, act', hj', hreg⟩
    · exact ⟨i, Nat.lt_succ_self i, act, hk, hreg⟩

section Run

variable {keccak256 : List UInt8 → Hash} {A : List Address}
  (hslots : AgentSlotsDistinct keccak256 A) (hA : A.length < 2 ^ 64)
include hslots hA

/-- **The run keeps the ledger.** Induction on the actions: a failed one is reverted, a successful
one is a ledger step that adds at most its value to the registry's balance, and the values of the
kept actions keep the next one within `2 ^ 256`. -/
theorem ledger_runActions (acts : List (Context × AgentAction))
    (hacts : ∀ act ∈ acts, ActionWithin A act) {s : StateDB} (hinv : LedgerInv keccak256 A s)
    (hfit : s.balance agentRegistryAddress + totalValue (keptActions keccak256 s acts) < 2 ^ 256) :
    LedgerInv keccak256 A (runActions keccak256 s acts) ∧
      (runActions keccak256 s acts).balance agentRegistryAddress ≤
        s.balance agentRegistryAddress + totalValue (keptActions keccak256 s acts) := by
  induction acts generalizing s with
  | nil => exact ⟨hinv, by simp [runActions, keptActions, totalValue]⟩
  | cons act acts ih =>
    have hw := hacts act (List.mem_cons_self ..)
    have hrest : ∀ act ∈ acts, ActionWithin A act := fun act h =>
      hacts act (List.mem_cons_of_mem _ h)
    rw [keptActions_cons] at hfit ⊢
    rw [runActions_cons]
    cases hok : succeeds keccak256 s act
    · -- reverted: the run goes on from `s`
      simp only [hok, Bool.false_eq_true, ↓reduceIte] at hfit ⊢
      rw [applyAction_of_not_succeeds keccak256 hok] at hfit ⊢
      exact ih hrest hinv hfit
    · -- a step that adds at most its value, which the kept values bound
      simp only [hok, ↓reduceIte] at hfit ⊢
      have hsum : 0 ≤ totalValue (keptActions keccak256 (applyAction keccak256 s act) acts) :=
        totalValue_nonneg fun a ha => (hrest a ((Simulation.kept_sublist _ _ _ _).subset ha)).2.2.1
      have hcons : totalValue (act :: keptActions keccak256 (applyAction keccak256 s act) acts) =
          act.1.value + totalValue (keptActions keccak256 (applyAction keccak256 s act) acts) := by
        simp [totalValue]
      rw [hcons] at hfit ⊢
      have hstep := ledgerStep_applyAction hslots hA hinv hw (by omega) hok
      have hbal₁ := hstep.registryBalance
      obtain ⟨hinv₂, hbal₂⟩ := ih hrest hstep.inv (by omega)
      exact ⟨hinv₂, by omega⟩

section Prefix

variable {acts : List (Context × AgentAction)} (hacts : ∀ act ∈ acts, ActionWithin A act)
  {s : StateDB} (hinv : LedgerInv keccak256 A s)
  (hfit : s.balance agentRegistryAddress + totalValue (keptActions keccak256 s acts) < 2 ^ 256)
include hacts hinv hfit

/-- The ledger after every prefix of the run, and what the prefix added to the registry. -/
theorem ledger_runActions_take (i : ℕ) :
    LedgerInv keccak256 A (runActions keccak256 s (acts.take i)) ∧
      (runActions keccak256 s (acts.take i)).balance agentRegistryAddress ≤
        s.balance agentRegistryAddress + totalValue (keptActions keccak256 s (acts.take i)) := by
  have hle := totalValue_keptActions_take_le keccak256 s (fun act h => (hacts act h).2.2.1) i
  exact ledger_runActions hslots hA (acts.take i) (fun act h => hacts act (List.mem_of_mem_take h))
    hinv (by omega)

/-- The `i`-th action, when it succeeds, is a ledger step from the state before it. -/
theorem ledgerStep_runActions_take {i : ℕ} {act : Context × AgentAction} (hk : acts[i]? = some act)
    (hok : succeeds keccak256 (runActions keccak256 s (acts.take i)) act = true) :
    LedgerStep keccak256 A act.1 act.2 (runActions keccak256 s (acts.take i))
      (runActions keccak256 s (acts.take (i + 1))) := by
  obtain ⟨hinvᵢ, hbalᵢ⟩ := ledger_runActions_take hslots hA hacts hinv hfit i
  -- the kept actions of the first `i + 1` are those of the first `i`, then this one
  have hkept : keptActions keccak256 s (acts.take (i + 1)) =
      keptActions keccak256 s (acts.take i) ++ [act] := by
    rw [List.take_add_one, hk, Option.toList_some, keptActions_append, keptActions_cons, if_pos hok]
    rfl
  have hle := totalValue_keptActions_take_le keccak256 s (fun act h => (hacts act h).2.2.1) (i + 1)
  rw [hkept, totalValue_append] at hle
  have hone : totalValue [act] = act.1.value := by simp [totalValue]
  rw [runActions_take_succ keccak256 s hk]
  exact ledgerStep_applyAction hslots hA hinvᵢ (hacts act (List.mem_of_getElem? hk)) (by omega) hok

/-- **Every step is a matched transfer**: a reverted action moves nothing. -/
theorem stakeTransfer_runActions_take {i : ℕ} {act : Context × AgentAction}
    (hk : acts[i]? = some act) :
    StakeTransfer keccak256 A act.1.sender (runActions keccak256 s (acts.take i))
      (runActions keccak256 s (acts.take (i + 1))) := by
  cases hok : succeeds keccak256 (runActions keccak256 s (acts.take i)) act
  · rw [runActions_take_succ keccak256 s hk, applyAction_of_not_succeeds keccak256 hok]
    exact StakeTransfer.refl _ _
  · exact (ledgerStep_runActions_take hslots hA hacts hinv hfit hk hok).transfer

/-- **The registered flags are the registrations of the run.** From a state with no flag set, the
flag of an address of `A` is set after the first `i` actions iff one of them registered it.
Induction on `i`: a reverted action changes no flag, and a successful one sets only its sender's,
and only by a registration. -/
theorem registered_runActions_take (hflag₀ : ∀ b ∈ A, readRegisteredFlag keccak256 s b = false)
    {b : Address} (hb : b ∈ A) (i : ℕ) (hi : i ≤ acts.length) :
    readRegisteredFlag keccak256 (runActions keccak256 s (acts.take i)) b = true ↔
      RegisteredBefore keccak256 s acts i b := by
  induction i with
  | zero =>
    simp [RegisteredBefore, runActions, hflag₀ b hb]
  | succ i ih =>
    obtain ⟨act, hk⟩ : ∃ act, acts[i]? = some act := ⟨acts[i], List.getElem?_eq_getElem (by omega)⟩
    rw [registeredBefore_succ hk, ← ih (by omega)]
    cases hok : succeeds keccak256 (runActions keccak256 s (acts.take i)) act
    · rw [runActions_take_succ keccak256 s hk, applyAction_of_not_succeeds keccak256 hok]
      simp
    · rw [(ledgerStep_runActions_take hslots hA hacts hinv hfit hk hok).registered b hb]
      simp

end Prefix

end Run

/-! ## The run from an empty registry -/

theorem agent_stake_ledger (keccak256 : List UInt8 → Hash) (A : List Address)
    (hslots : AgentSlotsDistinct keccak256 A) (hA : A.length < 2 ^ 64) (s : StateDB)
    (hempty : s.storage agentRegistryAddress = fun _ => 0)
    (hbal : 0 ≤ s.balance agentRegistryAddress) (acts : List (Context × AgentAction))
    (hacts : ∀ act ∈ acts, ActionWithin A act)
    (hfit : s.balance agentRegistryAddress + totalValue (keptActions keccak256 s acts) < 2 ^ 256) :
    (∀ i ≤ acts.length,
      -- the registry's balance covers the stakes, and its guard never fires
      (∀ B : List Address, B.Nodup → (∀ b ∈ B, b ∈ A) →
        ((B.map (readStake keccak256 (runActions keccak256 s (acts.take i)))).sum : ℤ) ≤
          (runActions keccak256 s (acts.take i)).balance agentRegistryAddress) ∧
      (∀ (ctx : Context) (p : DecreaseStakePayload), ctx.sender ∈ A →
        ((handleDecreaseStake keccak256 ctx (.ok p)).run.run
          (runActions keccak256 s (acts.take i))).1 ≠ .error (.error errRegistryBalanceBroken)) ∧
      -- each address is `Active` with the minimum, or `Inactive` with nothing
      (∀ b ∈ A,
        (readStatus keccak256 (runActions keccak256 s (acts.take i)) b = agentActive ∧
          agentMinStake ≤ readStake keccak256 (runActions keccak256 s (acts.take i)) b) ∨
        (readStatus keccak256 (runActions keccak256 s (acts.take i)) b = agentInactive ∧
          readStake keccak256 (runActions keccak256 s (acts.take i)) b = 0)) ∧
      -- the list holds each address registered so far, once
      (agentList keccak256 (runActions keccak256 s (acts.take i))).Nodup ∧
      (∀ b, b ∈ agentList keccak256 (runActions keccak256 s (acts.take i)) ↔
        b ∈ A ∧ RegisteredBefore keccak256 s acts i b)) ∧
    -- every step moves stake and balance together
    ∀ i act, acts[i]? = some act → StakeTransfer keccak256 A act.1.sender
      (runActions keccak256 s (acts.take i)) (runActions keccak256 s (acts.take (i + 1))) := by
  have hinv₀ : LedgerInv keccak256 A s := ledgerInv_empty hempty hbal
  have hflag₀ : ∀ b ∈ A, readRegisteredFlag keccak256 s b = false := fun b _ => by
    simp [readRegisteredFlag_eq, keyed, hempty]
  refine ⟨fun i hi => ?_, fun i act hk => stakeTransfer_runActions_take hslots hA hacts hinv₀ hfit hk⟩
  obtain ⟨hinv, -⟩ := ledger_runActions_take hslots hA hacts hinv₀ hfit i
  -- the list and the flags agree, and the flags are the registrations
  have hreg : ∀ b ∈ A, b ∈ agentList keccak256 (runActions keccak256 s (acts.take i)) ↔
      RegisteredBefore keccak256 s acts i b := fun b hb =>
    (hinv.mem_iff_registered b hb).trans
      (registered_runActions_take hslots hA hacts hinv₀ hfit hflag₀ hb i hi)
  refine ⟨hinv.stakes_le_balance_of_nodup, fun ctx p hf => hinv.decrease_guard hf p,
    hinv.status_stake, hinv.nodup, fun b => ⟨fun hb => ?_, fun h => (hreg b h.1).mpr h.2⟩⟩
  have hbA := hinv.subset b hb
  exact ⟨hbA, (hreg b hbA).mp hb⟩

/-- A stand-in for Keccak-256 in the examples: the input's length above its low 16 bytes, read as
a big-endian number. It has no collision among the registry slots of the addresses the examples
use; unlike a plain truncation, it tells the metadata base slot of an address from its length
slot. -/
def agentTestHash (b : List UInt8) : Hash :=
  BitVec.ofNat 256 (2 ^ 128 * b.length + Bytes.ofBytesBE b % 2 ^ 128)

/-- A state with no storage, where only `a` holds a balance, of `v`. -/
def fundedState (a : Address) (v : ℤ) : StateDB :=
  { StateDB.empty with balance := fun x => if x = a then v else 0 }

/-- A registration of `a` with the minimum stake, then a full exit. -/
def registerExitRun (a : Address) : List (Context × AgentAction) :=
  [(⟨a, agentMinStake, 0⟩, .register),
    (⟨a, 0, 0⟩, .decreaseStake (.ok ⟨"1000000000000000000000"⟩))]

theorem agent_stake_ledger_register_exit :
    AgentSlotsDistinct agentTestHash [0xA#256] ∧
      (agentList agentTestHash (runActions agentTestHash (fundedState 0xA#256 agentMinStake)
        ((registerExitRun 0xA#256).take 2))).Nodup := by
  have hslots : AgentSlotsDistinct agentTestHash [0xA#256] :=
    agentSlotsDistinct_of_nodup (by decide +kernel)
  have hacts : ∀ act ∈ registerExitRun 0xA#256, ActionWithin [0xA#256] act := by
    intro act hact
    simp only [registerExitRun, List.mem_cons, List.not_mem_nil, or_false] at hact
    rcases hact with rfl | rfl
    · exact ⟨by simp, by decide, by decide, by simp [AgentAction.targets]⟩
    · exact ⟨by simp, by decide, le_rfl, by simp [AgentAction.targets]⟩
  -- the kept actions are worth at most the whole run
  have hall : (fundedState 0xA#256 agentMinStake).balance agentRegistryAddress +
      totalValue (registerExitRun 0xA#256) < 2 ^ 256 := by
    decide
  have hkept : totalValue (keptActions agentTestHash (fundedState 0xA#256 agentMinStake)
      (registerExitRun 0xA#256)) ≤ totalValue (registerExitRun 0xA#256) :=
    totalValue_keptActions_le agentTestHash _ fun act h => (hacts act h).2.2.1
  have hfit : (fundedState 0xA#256 agentMinStake).balance agentRegistryAddress +
      totalValue (keptActions agentTestHash (fundedState 0xA#256 agentMinStake)
        (registerExitRun 0xA#256)) < 2 ^ 256 := by
    omega
  exact ⟨hslots, ((agent_stake_ledger agentTestHash [0xA#256] hslots (by simp) _ rfl (by decide) _
    hacts hfit).1 2 (by decide)).2.2.2.1⟩

/-- Registrations of `a`, then of the registry account itself, each with the minimum stake. -/
def selfRegistrationRun (a : Address) : List (Context × AgentAction) :=
  [(⟨a, agentMinStake, 0⟩, .register), (⟨agentRegistryAddress, agentMinStake, 0⟩, .register)]

/-- **A registration by the registry account** passes the balance check with the registry's own
balance and moves the value from the registry to the registry: after `a` registers with the
minimum and the registry account then does too, the listed stakes exceed the registry's
balance. -/
theorem stakes_exceed_balance_of_registry_sender (keccak256 : List UInt8 → Hash) (a : Address)
    (hslots : AgentSlotsDistinct keccak256 [a, agentRegistryAddress])
    (ha : a ≠ agentRegistryAddress) (s : StateDB)
    (hempty : s.storage agentRegistryAddress = fun _ => 0)
    (hreg : s.balance agentRegistryAddress = 0) (hbal : s.balance a = agentMinStake) :
    (runActions keccak256 s (selfRegistrationRun a)).balance agentRegistryAddress <
      (((agentList keccak256 (runActions keccak256 s (selfRegistrationRun a))).map
        (readStake keccak256 (runActions keccak256 s (selfRegistrationRun a)))).sum : ℤ) := by
  have hA : [a, agentRegistryAddress].length < 2 ^ 64 := by simp
  have hmem_a : a ∈ [a, agentRegistryAddress] := by simp
  have hmem_r : agentRegistryAddress ∈ [a, agentRegistryAddress] := by simp
  have hkeyed : ∀ k, keyed keccak256 s k = 0 := fun k => by simp [keyed, hempty]
  have hinv₀ : LedgerInv keccak256 [a, agentRegistryAddress] s :=
    ledgerInv_empty hempty (by rw [hreg])
  -- the first registration passes its checks
  have hstake₀ : readStake keccak256 s a = 0 := by simp [readStake_eq, hkeyed]
  set s₁ := registerWrites keccak256 s a agentMinStake with hs₁
  have h₁ : applyAction keccak256 s (⟨a, agentMinStake, 0⟩, .register) = s₁ :=
    commit_of_ok (run_handleRegister keccak256 le_rfl (by simp [hbal]) hstake₀)
  obtain ⟨hstake₁, -, hflag₁, hlist₁, hbal₁⟩ := registerWrites_effect hslots s a agentMinStake
    hmem_a hinv₀.count_le hA (hinv₀.count_lt hmem_a)
  have hstep₁ : LedgerStep keccak256 [a, agentRegistryAddress] ⟨a, agentMinStake, 0⟩ .register s s₁ :=
    ledgerStep_register hslots hA hinv₀ hmem_a ha
      (by rw [hreg]; exact (by decide : (0 : ℤ) + agentMinStake < 2 ^ 256)) le_rfl hstake₀
  have hinv₁ := hstep₁.inv
  -- the registry account then registers with the registry's own balance
  have hbalr₁ : s₁.balance agentRegistryAddress = agentMinStake := by
    rw [hs₁, hbal₁, balance_move s ha, if_pos rfl, hreg, zero_add]
  have hstaker₁ : readStake keccak256 s₁ agentRegistryAddress = 0 := by
    rw [hstake₁ _ hmem_r, if_neg (Ne.symm ha)]
    simp [readStake_eq, hkeyed]
  have h₂ : applyAction keccak256 s₁ (⟨agentRegistryAddress, agentMinStake, 0⟩, .register) =
      registerWrites keccak256 s₁ agentRegistryAddress agentMinStake :=
    commit_of_ok (run_handleRegister keccak256 le_rfl (by simp [hbalr₁]) hstaker₁)
  obtain ⟨hstake₂, -, -, hlist₂, hbal₂⟩ := registerWrites_effect hslots s₁ agentRegistryAddress
    agentMinStake hmem_r hinv₁.count_le hA (hinv₁.count_lt hmem_r)
  have hrun : runActions keccak256 s (selfRegistrationRun a) =
      registerWrites keccak256 s₁ agentRegistryAddress agentMinStake := by
    rw [selfRegistrationRun, runActions_cons, runActions_cons, h₁, h₂]
    rfl
  -- both addresses are listed, each with the minimum, over a balance of one minimum
  have hflag₀ : ∀ b, readRegisteredFlag keccak256 s b = false := fun b => by
    simp [readRegisteredFlag_eq, hkeyed]
  have hlist₀ : agentList keccak256 s = [] := by
    simp [agentList, readAgentCount_eq, hkeyed]
  have hflagr₁ : readRegisteredFlag keccak256 s₁ agentRegistryAddress = false := by
    rw [hflag₁ _ hmem_r, if_neg (Ne.symm ha), hflag₀]
  have hlist : agentList keccak256 (runActions keccak256 s (selfRegistrationRun a)) =
      [a, agentRegistryAddress] := by
    rw [hrun, hlist₂, hflagr₁, hlist₁, hflag₀, hlist₀]
    rfl
  have hmin : (agentMinStake : ℤ).natAbs % 2 ^ 256 = agentMinStake := by decide
  have hsa : readStake keccak256 (runActions keccak256 s (selfRegistrationRun a)) a =
      agentMinStake := by
    rw [hrun, hstake₂ a hmem_a, if_neg ha, hstake₁ a hmem_a, if_pos rfl, hmin]
  have hsr : readStake keccak256 (runActions keccak256 s (selfRegistrationRun a))
      agentRegistryAddress = agentMinStake := by
    rw [hrun, hstake₂ _ hmem_r, if_pos rfl, hmin]
  have hbalr : (runActions keccak256 s (selfRegistrationRun a)).balance agentRegistryAddress =
      agentMinStake := by
    rw [hrun, hbal₂]
    simp [hbalr₁]
  have hpos : 0 < agentMinStake := by decide
  rw [hlist, List.map_cons, List.map_cons, List.map_nil, hsa, hsr, hbalr]
  simp only [List.sum_cons, List.sum_nil]
  omega

theorem registry_self_registration_overstakes :
    (runActions agentTestHash (fundedState 0xA#256 agentMinStake)
        (selfRegistrationRun 0xA#256)).balance agentRegistryAddress <
      (((agentList agentTestHash (runActions agentTestHash (fundedState 0xA#256 agentMinStake)
        (selfRegistrationRun 0xA#256))).map (readStake agentTestHash
          (runActions agentTestHash (fundedState 0xA#256 agentMinStake)
            (selfRegistrationRun 0xA#256)))).sum : ℤ) :=
  stakes_exceed_balance_of_registry_sender agentTestHash 0xA#256
    (agentSlotsDistinct_of_nodup (by decide +kernel)) (by decide) _ rfl rfl rfl

end Gtos.Agent
