import Mathlib.Data.List.Perm.Subperm
import Gtos.Validator.Storage
import Gtos.Lib.ListSum

/-! # The registry invariant (`validator/handler.go`, `core/state_transition.go`)

Over any run of validator actions from an empty registry, each reverted when it fails, the
registry stays consistent (`RegistryInv`): the list holds distinct addresses, exactly those whose
registered flag is set; an address holds a stake iff it is `Active` or in `Maintenance`, and then
at least `DPoSMinValidatorStake`; and the registry's balance covers the sum of the stakes. The
selection of the next validator set is then the ranked one (`registry_invariant`).

The invariant is stated for the addresses of a list `A` whose registry words have distinct slots
(`RegistrySlotsDistinct`), and needs three more things of the run, each of which the handlers do
not check:
* no action is sent by the registry account itself: its registration passes the balance check
  with the registry's own balance, moves the value from the registry to the registry, and adds a
  stake that no balance covers (`stakes_exceed_balance_of_registry_sender`);
* no value reaches 2^256: `BigToHash` keeps the low 32 bytes, so a value of 2^256 would be stored
  as a stake of zero for an `Active` validator;
* fewer than 2^64 addresses register: the count is a `uint64`, and an append at 2^64 - 1 would
  leave it at zero.

* **`RegistryInv`** — the invariant, one field per property.
* **`registryInv_applyAction`**, **`registryInv_runActions`** — its step and its run. -/

namespace Gtos.Validator

open Gtos.Core Gtos.Sysaction

/-- **The registry invariant**, for the addresses of `A`. -/
structure RegistryInv (keccak256 : List UInt8 → Hash) (A : List Address) (s : StateDB) : Prop where
  /-- The list holds distinct addresses, -/
  nodup : (validatorList keccak256 s).Nodup
  /-- all of them in `A`. -/
  subset : ∀ a ∈ validatorList keccak256 s, a ∈ A
  /-- An address is listed iff its registered flag is set. -/
  mem_iff_registered :
    ∀ a ∈ A, a ∈ validatorList keccak256 s ↔ readRegisteredFlag keccak256 s a = true
  /-- An address has a stake iff it is `Active` or in `Maintenance`, -/
  stake_pos_iff : ∀ a ∈ A, 0 < readSelfStake keccak256 s a ↔
    readValidatorStatus keccak256 s a = active ∨ readValidatorStatus keccak256 s a = maintenance
  /-- and then at least `DPoSMinValidatorStake`. -/
  min_le_stake : ∀ a ∈ A, 0 < readSelfStake keccak256 s a →
    dposMinValidatorStake ≤ readSelfStake keccak256 s a
  /-- An address with a stake is listed. -/
  mem_of_stake_pos : ∀ a ∈ A, 0 < readSelfStake keccak256 s a → a ∈ validatorList keccak256 s
  /-- The registry's balance covers the stakes of the listed addresses. -/
  stakes_le_balance : (((validatorList keccak256 s).map (readSelfStake keccak256 s)).sum : ℤ) ≤
    s.balance validatorRegistryAddress

section Inv

variable {keccak256 : List UInt8 → Hash} {A : List Address} {s : StateDB}

theorem length_validatorList (s : StateDB) :
    (validatorList keccak256 s).length = readValidatorCount keccak256 s := by
  simp [validatorList]

/-- The list has no more entries than `A` has addresses. -/
theorem RegistryInv.count_le (hinv : RegistryInv keccak256 A s) :
    readValidatorCount keccak256 s ≤ A.length := by
  rw [← length_validatorList]
  exact (List.Nodup.subperm hinv.nodup hinv.subset).length_le

/-- An unregistered address of `A` still has a list slot below `A.length`. -/
theorem RegistryInv.count_lt (hinv : RegistryInv keccak256 A s) {a : Address} (ha : a ∈ A)
    (hflag : readRegisteredFlag keccak256 s a = false) :
    readValidatorCount keccak256 s < A.length := by
  have hnot : a ∉ validatorList keccak256 s := by
    rw [hinv.mem_iff_registered a ha, hflag]
    decide
  have hsub : (a :: validatorList keccak256 s).Subperm A :=
    List.Nodup.subperm (List.nodup_cons.mpr ⟨hnot, hinv.nodup⟩)
      (List.cons_subset.mpr ⟨ha, hinv.subset⟩)
  have hlen := hsub.length_le
  rw [List.length_cons, length_validatorList] at hlen
  omega

/-- The empty registry: no address listed, registered or staked. -/
theorem registryInv_empty (s : StateDB) (hempty : s.storage validatorRegistryAddress = fun _ => 0)
    (hbal : 0 ≤ s.balance validatorRegistryAddress) : RegistryInv keccak256 A s := by
  have hkeyed : ∀ k, keyed keccak256 s k = 0 := fun k => by simp [keyed, hempty]
  have hlist : validatorList keccak256 s = [] := by
    simp [validatorList, readValidatorCount_eq, hkeyed]
  refine ⟨?_, ?_, fun a _ => ?_, fun a _ => ?_, fun a _ h => ?_, fun a _ h => ?_, ?_⟩
  all_goals simp [hlist, readRegisteredFlag_eq, readSelfStake_eq, readValidatorStatus_eq, hkeyed,
    active, maintenance, hbal] at *

/-- **A registration keeps the invariant.** The value becomes the stake of `f`, at least the
minimum; `f` is listed (appended on its first registration); and the registry's balance and the
total of the stakes both grow by the value. -/
theorem registryInv_registerWrites (hslots : RegistrySlotsDistinct keccak256 A)
    (hA : A.length < 2 ^ 64) (hinv : RegistryInv keccak256 A s) {f : Address} {v : ℤ} (hf : f ∈ A)
    (hreg : f ≠ validatorRegistryAddress) (hmin : (dposMinValidatorStake : ℤ) ≤ v)
    (hv : v < 2 ^ 256) (hstake : readSelfStake keccak256 s f = 0) :
    RegistryInv keccak256 A (registerWrites keccak256 s f v) := by
  obtain ⟨hstake', hstatus', hflag', hlist'⟩ :=
    registerWrites_effect hslots s f v hf hinv.count_le hA (hinv.count_lt hf)
  -- the stake written is the value itself
  have hn : (v.natAbs : ℤ) = v := Int.natAbs_of_nonneg (le_trans (Int.natCast_nonneg _) hmin)
  have hnmod : v.natAbs % 2 ^ 256 = v.natAbs := Nat.mod_eq_of_lt (by omega)
  have hminn : dposMinValidatorStake ≤ v.natAbs := by omega
  have hpos : 0 < v.natAbs := lt_of_lt_of_le (by decide) hminn
  -- the list after: the same, or with `f` appended when it was not listed
  have hlist : ∀ a, a ∈ validatorList keccak256 (registerWrites keccak256 s f v) ↔
      a = f ∨ a ∈ validatorList keccak256 s := by
    intro a
    rw [hlist']
    cases hflag : readRegisteredFlag keccak256 s f
    · simp [or_comm]
    · have hmem := (hinv.mem_iff_registered f hf).mpr hflag
      simp only [if_true]
      exact ⟨Or.inr, fun h => h.elim (fun h => h ▸ hmem) id⟩
  refine ⟨?_, fun a ha => ?_, fun a ha => ?_, fun a ha => ?_, fun a ha hpos' => ?_,
    fun a ha hpos' => ?_, ?_⟩
  · rw [hlist']
    split
    · exact hinv.nodup
    · rename_i hflag
      have hnot : f ∉ validatorList keccak256 s := by
        rw [hinv.mem_iff_registered f hf]
        simpa using hflag
      exact List.nodup_append.mpr ⟨hinv.nodup, List.nodup_singleton f,
        fun a ha b hb => by rw [List.mem_singleton.mp hb]; exact fun h => hnot (h ▸ ha)⟩
  · rcases (hlist a).mp ha with rfl | ha
    · exact hf
    · exact hinv.subset a ha
  · rw [hlist a, hflag' a ha]
    by_cases h : a = f
    · simp [h]
    · simp [h, hinv.mem_iff_registered a ha]
  · rw [hstake' a ha, hstatus' a ha]
    by_cases h : a = f
    · rw [if_pos h, if_pos h, hnmod]
      exact iff_of_true hpos (Or.inl rfl)
    · simp only [h, if_false]
      exact hinv.stake_pos_iff a ha
  · rw [hstake' a ha] at hpos' ⊢
    by_cases h : a = f
    · rw [if_pos h, hnmod]
      exact hminn
    · simp only [h, if_false] at hpos' ⊢
      exact hinv.min_le_stake a ha hpos'
  · rw [hlist a]
    by_cases h : a = f
    · exact Or.inl h
    · rw [hstake' a ha, if_neg h] at hpos'
      exact Or.inr (hinv.mem_of_stake_pos a ha hpos')
  · -- the total of the stakes grows by the value, as the registry's balance does
    have hoff : ∀ b ∈ validatorList keccak256 s, b ≠ f →
        readSelfStake keccak256 (registerWrites keccak256 s f v) b = readSelfStake keccak256 s b :=
      fun b hb hne => by rw [hstake' b (hinv.subset b hb), if_neg hne]
    have hnew : readSelfStake keccak256 (registerWrites keccak256 s f v) f = v.natAbs := by
      rw [hstake' f hf, if_pos rfl, hnmod]
    have hsum : ((validatorList keccak256 (registerWrites keccak256 s f v)).map
        (readSelfStake keccak256 (registerWrites keccak256 s f v))).sum =
        ((validatorList keccak256 s).map (readSelfStake keccak256 s)).sum + v.natAbs := by
      rw [hlist']
      cases hflag : readRegisteredFlag keccak256 s f
      · -- `f` is appended; the stakes of the others are unchanged
        have hnot : f ∉ validatorList keccak256 s := by
          rw [hinv.mem_iff_registered f hf, hflag]
          decide
        rw [if_neg (by simp), List.map_append, List.sum_append, List.map_singleton, List.sum_singleton,
          hnew, List.map_congr_left fun b hb => hoff b hb fun h => hnot (h ▸ hb)]
      · -- `f` is listed already, with no stake before
        have h := ListSum.sum_map_add_eq_of_eq_off hinv.nodup
          ((hinv.mem_iff_registered f hf).mpr hflag) hoff
        rw [hstake, hnew, add_zero] at h
        rw [if_pos rfl, h]
    rw [balance_registerWrites s f v hreg, hsum]
    have hle := hinv.stakes_le_balance
    rw [Nat.cast_add, hn]
    omega

/-- **A withdrawal keeps the invariant.** The stake of `f` returns from the registry's balance
and leaves the total of the stakes; `f` becomes `Inactive` and stays listed. -/
theorem registryInv_withdrawWrites (hslots : RegistrySlotsDistinct keccak256 A)
    (hinv : RegistryInv keccak256 A s) {f : Address} (hf : f ∈ A)
    (hreg : f ≠ validatorRegistryAddress)
    (hstatus : readValidatorStatus keccak256 s f = active ∨
      readValidatorStatus keccak256 s f = maintenance) :
    RegistryInv keccak256 A (withdrawWrites keccak256 s f (readSelfStake keccak256 s f)) := by
  obtain ⟨hstake', hstatus', hflag', hlist'⟩ :=
    withdrawWrites_effect hslots s f (readSelfStake keccak256 s f) hf hinv.count_le
  refine ⟨?_, fun a ha => ?_, fun a ha => ?_, fun a ha => ?_, fun a ha hpos' => ?_,
    fun a ha hpos' => ?_, ?_⟩
  · rw [hlist']
    exact hinv.nodup
  · rw [hlist'] at ha
    exact hinv.subset a ha
  · rw [hlist', hflag' a ha]
    exact hinv.mem_iff_registered a ha
  · rw [hstake' a ha, hstatus' a ha]
    by_cases h : a = f
    · simp [h, inactive, active, maintenance]
    · simp only [h, if_false]
      exact hinv.stake_pos_iff a ha
  · rw [hstake' a ha] at hpos' ⊢
    by_cases h : a = f
    · simp [h] at hpos'
    · simp only [h, if_false] at hpos' ⊢
      exact hinv.min_le_stake a ha hpos'
  · rw [hlist']
    by_cases h : a = f
    · rw [hstake' a ha, if_pos h] at hpos'
      exact absurd hpos' (lt_irrefl 0)
    · rw [hstake' a ha, if_neg h] at hpos'
      exact hinv.mem_of_stake_pos a ha hpos'
  · -- `f` held a stake, so it was listed; its stake leaves the total
    have hmem : f ∈ validatorList keccak256 s :=
      hinv.mem_of_stake_pos f hf ((hinv.stake_pos_iff f hf).mpr hstatus)
    have h := ListSum.sum_map_add_eq_of_eq_off hinv.nodup hmem
      (f := readSelfStake keccak256 s) (g := readSelfStake keccak256
        (withdrawWrites keccak256 s f (readSelfStake keccak256 s f)))
      fun b hb hne => by rw [hstake' b (hinv.subset b hb), if_neg hne]
    rw [hstake' f hf, if_pos rfl, add_zero] at h
    have hle := hinv.stakes_le_balance
    rw [hlist', balance_withdrawWrites s f _ hreg]
    omega

/-- **A change between `Active` and `Maintenance` keeps the invariant**: the stake of `f` stays,
and so does the answer to whether it is `Active` or in `Maintenance`. -/
theorem registryInv_statusWrites (hslots : RegistrySlotsDistinct keccak256 A)
    (hinv : RegistryInv keccak256 A s) {f : Address} (hf : f ∈ A) {t : ValidatorStatus}
    (ht : t = active ∨ t = maintenance)
    (hstatus : readValidatorStatus keccak256 s f = active ∨
      readValidatorStatus keccak256 s f = maintenance) (n : ℕ) :
    RegistryInv keccak256 A
      (writeMaintenanceSince keccak256 (writeValidatorStatus keccak256 s f t) f n) := by
  obtain ⟨hstake', hstatus', hflag', hlist'⟩ := statusWrites_effect hslots s f t n hf hinv.count_le
  refine ⟨?_, fun a ha => ?_, fun a ha => ?_, fun a ha => ?_, fun a ha hpos' => ?_,
    fun a ha hpos' => ?_, ?_⟩
  · rw [hlist']
    exact hinv.nodup
  · rw [hlist'] at ha
    exact hinv.subset a ha
  · rw [hlist', hflag' a ha]
    exact hinv.mem_iff_registered a ha
  · rw [hstake' a ha, hstatus' a ha, hinv.stake_pos_iff a ha]
    by_cases h : a = f
    · subst h
      rw [if_pos rfl]
      exact iff_of_true hstatus ht
    · simp only [h, if_false]
  · rw [hstake' a ha] at hpos' ⊢
    exact hinv.min_le_stake a ha hpos'
  · rw [hlist']
    rw [hstake' a ha] at hpos'
    exact hinv.mem_of_stake_pos a ha hpos'
  · have hsame : (validatorList keccak256 s).map (readSelfStake keccak256
        (writeMaintenanceSince keccak256 (writeValidatorStatus keccak256 s f t) f n)) =
        (validatorList keccak256 s).map (readSelfStake keccak256 s) :=
      List.map_congr_left fun b hb => hstake' b (hinv.subset b hb)
    rw [hlist', hsame, balance_statusWrites]
    exact hinv.stakes_le_balance

/-- **The step.** Every validator action from a sender of `A` other than the registry account,
with a value below 2^256, keeps the invariant, whether it succeeds or is reverted. -/
theorem registryInv_applyAction (hslots : RegistrySlotsDistinct keccak256 A)
    (hA : A.length < 2 ^ 64) (hinv : RegistryInv keccak256 A s) (cfg : Option MaintenanceConfig)
    (act : Context × SysAction) (hsender : act.1.sender ∈ A)
    (hreg : act.1.sender ≠ validatorRegistryAddress) (hval : act.1.value < 2 ^ 256) :
    RegistryInv keccak256 A (applyAction keccak256 cfg s act) := by
  obtain ⟨ctx, sa⟩ := act
  simp only [applyAction, handle]
  split_ifs
  · rw [commit_handleRegister]
    split_ifs with hmin hbal hstake
    · exact hinv
    · exact hinv
    · exact hinv
    · exact registryInv_registerWrites hslots hA hinv hsender hreg (not_lt.mp hmin) hval
        (not_not.mp hstake)
  · rw [commit_handleWithdraw]
    split_ifs with hstatus hbal
    · exact hinv
    · exact hinv
    · refine registryInv_withdrawWrites hslots hinv hsender hreg ?_
      by_cases h : readValidatorStatus keccak256 s ctx.sender = active
      · exact Or.inl h
      · exact Or.inr (not_not.mp fun h' => hstatus ⟨h, h'⟩)
  · rw [commit_handleEnterMaintenance]
    split_ifs with hstatus
    · exact registryInv_statusWrites hslots hinv hsender (Or.inr rfl) (Or.inl hstatus) _
    · exact hinv
  · rw [commit_handleExitMaintenance]
    split_ifs with hstatus hexpired
    · exact hinv
    · exact hinv
    · exact registryInv_statusWrites hslots hinv hsender (Or.inl rfl) (Or.inr (not_not.mp hstatus)) _
  · exact hinv

/-- **The run.** The invariant holds after any run of such actions. -/
theorem registryInv_runActions (hslots : RegistrySlotsDistinct keccak256 A)
    (hA : A.length < 2 ^ 64) (cfg : Option MaintenanceConfig) (acts : List (Context × SysAction))
    (hacts : ∀ act ∈ acts, act.1.sender ∈ A ∧ act.1.sender ≠ validatorRegistryAddress ∧
      act.1.value < 2 ^ 256)
    (hinv : RegistryInv keccak256 A s) : RegistryInv keccak256 A (runActions keccak256 cfg s acts) := by
  induction acts generalizing s with
  | nil => exact hinv
  | cons act acts ih =>
    obtain ⟨hsender, hreg, hval⟩ := hacts act (List.mem_cons_self ..)
    exact ih (fun a ha => hacts a (List.mem_cons_of_mem _ ha))
      (registryInv_applyAction hslots hA hinv cfg act hsender hreg hval)

/-- **The registry's balance covers every stake.** For any distinct addresses of `A`, the sum of
their stakes is at most the registry's balance: the addresses without a stake add nothing, and
those with one are listed. -/
theorem RegistryInv.stakes_le_balance_of_nodup (hinv : RegistryInv keccak256 A s)
    (B : List Address) (hB : B.Nodup) (hBA : ∀ b ∈ B, b ∈ A) :
    ((B.map (readSelfStake keccak256 s)).sum : ℤ) ≤ s.balance validatorRegistryAddress := by
  have hzero : ∀ b ∈ B, decide (b ∈ validatorList keccak256 s) = false →
      readSelfStake keccak256 s b = 0 := by
    intro b hb hnot
    by_contra hne
    exact absurd (hinv.mem_of_stake_pos b (hBA b hb) (Nat.pos_of_ne_zero hne)) (by simpa using hnot)
  have hsub : (B.filter fun b => decide (b ∈ validatorList keccak256 s)).Subperm
      (validatorList keccak256 s) :=
    List.Nodup.subperm (hB.filter _) fun b hb => by simpa using (List.mem_filter.mp hb).2
  have hle := ListSum.sum_map_le_of_subperm hsub (readSelfStake keccak256 s)
  rw [ListSum.sum_map_filter_eq _ B hzero] at hle
  exact le_trans (Int.ofNat_le.mpr hle) hinv.stakes_le_balance

/-- **The selection from a consistent registry.** `ReadActiveValidatorsAtBlock` is the ranked
selection of the listed addresses that are effectively `Active` at the block. -/
theorem RegistryInv.readActiveValidatorsAtBlock_spec (hinv : RegistryInv keccak256 A s)
    (maxValidators currentBlock : ℕ) (cfg : Option MaintenanceConfig) :
    IsTopValidators (readSelfStake keccak256 s) maxValidators
      ((validatorList keccak256 s).filter fun a =>
        readEffectiveValidatorStatus keccak256 s a currentBlock cfg = active)
      (readActiveValidatorsAtBlock keccak256 s maxValidators currentBlock cfg) :=
  selectActive_spec keccak256 _ s maxValidators hinv.nodup

end Inv

/-! ## The run from an empty registry -/

/-- A registration of `value` by `sender`, at block zero. -/
def registerAction (sender : Address) (value : ℤ) : Context × SysAction :=
  (⟨sender, value, 0⟩, ⟨actionValidatorRegister, []⟩)

/-- A state with no storage, where only `a` holds a balance, of `v`. -/
def stakedState (a : Address) (v : ℤ) : StateDB :=
  { StateDB.empty with balance := fun x => if x = a then v else 0 }

/-- A stand-in for Keccak-256 in the examples: the input as a big-endian number, cut to 256 bits.
It has no collision among the registry slots of the addresses the examples use. -/
def truncHash (b : List UInt8) : Hash :=
  BitVec.ofNat 256 (Bytes.ofBytesBE b)

theorem registry_invariant (keccak256 : List UInt8 → Hash) (A : List Address)
    (hslots : RegistrySlotsDistinct keccak256 A) (hA : A.length < 2 ^ 64)
    (cfg : Option MaintenanceConfig) (s : StateDB)
    (hempty : s.storage validatorRegistryAddress = fun _ => 0)
    (hbal : 0 ≤ s.balance validatorRegistryAddress) (acts : List (Context × SysAction))
    (hacts : ∀ act ∈ acts, act.1.sender ∈ A ∧ act.1.sender ≠ validatorRegistryAddress ∧
      act.1.value < 2 ^ 256) :
    RegistryInv keccak256 A (runActions keccak256 cfg s acts) ∧
    (∀ B : List Address, B.Nodup → (∀ b ∈ B, b ∈ A) →
      ((B.map (readSelfStake keccak256 (runActions keccak256 cfg s acts))).sum : ℤ) ≤
        (runActions keccak256 cfg s acts).balance validatorRegistryAddress) ∧
    ∀ (maxValidators currentBlock : ℕ) (cfg' : Option MaintenanceConfig),
      IsTopValidators (readSelfStake keccak256 (runActions keccak256 cfg s acts)) maxValidators
        ((validatorList keccak256 (runActions keccak256 cfg s acts)).filter fun a =>
          readEffectiveValidatorStatus keccak256 (runActions keccak256 cfg s acts) a currentBlock
            cfg' = active)
        (readActiveValidatorsAtBlock keccak256 (runActions keccak256 cfg s acts) maxValidators
          currentBlock cfg') := by
  have hinv := registryInv_runActions hslots hA cfg acts hacts (registryInv_empty s hempty hbal)
  exact ⟨hinv, hinv.stakes_le_balance_of_nodup, hinv.readActiveValidatorsAtBlock_spec⟩

theorem registry_invariant_single_registration :
    RegistrySlotsDistinct truncHash [0xA#256] ∧
      RegistryInv truncHash [0xA#256] (runActions truncHash none
        (stakedState 0xA#256 dposMinValidatorStake) [registerAction 0xA#256 dposMinValidatorStake]) := by
  have hslots : RegistrySlotsDistinct truncHash [0xA#256] :=
    registrySlotsDistinct_of_nodup (by decide +kernel)
  exact ⟨hslots, (registry_invariant truncHash [0xA#256] hslots (by simp) none _ rfl (by decide) _
    (by decide)).1⟩

/-! ## What the invariant needs of the run -/

/-- **A registration by the registry account.** It passes the balance check with the registry's
own balance and moves the value from the registry to the registry: after an address registers
with the minimum stake and the registry account then registers with the whole of the registry's
balance, the stakes exceed that balance. -/
theorem stakes_exceed_balance_of_registry_sender (keccak256 : List UInt8 → Hash) (a : Address)
    (hslots : RegistrySlotsDistinct keccak256 [a, validatorRegistryAddress])
    (ha : a ≠ validatorRegistryAddress) (cfg : Option MaintenanceConfig) (s : StateDB)
    (hempty : s.storage validatorRegistryAddress = fun _ => 0)
    (hreg : s.balance validatorRegistryAddress = 0) (hbal : s.balance a = dposMinValidatorStake) :
    let s' := runActions keccak256 cfg s
      [registerAction a dposMinValidatorStake,
        registerAction validatorRegistryAddress dposMinValidatorStake]
    s'.balance validatorRegistryAddress <
      (((validatorList keccak256 s').map (readSelfStake keccak256 s')).sum : ℤ) := by
  intro s'
  have hA : [a, validatorRegistryAddress].length < 2 ^ 64 := by simp
  have hmem_a : a ∈ [a, validatorRegistryAddress] := by simp
  have hmem_r : validatorRegistryAddress ∈ [a, validatorRegistryAddress] := by simp
  have hkeyed : ∀ k, keyed keccak256 s k = 0 := fun k => by simp [keyed, hempty]
  have hinv0 : RegistryInv keccak256 [a, validatorRegistryAddress] s :=
    registryInv_empty s hempty (by rw [hreg])
  -- the first registration passes its checks
  have hstake0 : readSelfStake keccak256 s a = 0 := by simp [readSelfStake_eq, hkeyed]
  set s₁ := registerWrites keccak256 s a dposMinValidatorStake with hs₁
  have h1 : applyAction keccak256 cfg s (registerAction a dposMinValidatorStake) = s₁ := by
    simp only [applyAction, registerAction, handle, ↓reduceIte, commit_handleRegister]
    rw [if_neg (lt_irrefl _), if_neg (by simp [hbal]), if_neg (by simp [hstake0])]
  obtain ⟨hstake1, -, hflag1, hlist1⟩ := registerWrites_effect hslots s a dposMinValidatorStake
    hmem_a hinv0.count_le hA (hinv0.count_lt hmem_a)
  have hinv1 : RegistryInv keccak256 [a, validatorRegistryAddress] s₁ :=
    registryInv_registerWrites hslots hA hinv0 hmem_a ha le_rfl (by decide) hstake0
  -- the registry account then registers with the registry's own balance
  have hbal1 : s₁.balance validatorRegistryAddress = dposMinValidatorStake := by
    rw [hs₁, balance_registerWrites s a _ ha, hreg, zero_add]
  have hstake1r : readSelfStake keccak256 s₁ validatorRegistryAddress = 0 := by
    rw [hstake1 _ hmem_r, if_neg (Ne.symm ha)]
    simp [readSelfStake_eq, hkeyed]
  have h2 : applyAction keccak256 cfg s₁ (registerAction validatorRegistryAddress dposMinValidatorStake) =
      registerWrites keccak256 s₁ validatorRegistryAddress dposMinValidatorStake := by
    simp only [applyAction, registerAction, handle, ↓reduceIte, commit_handleRegister]
    rw [if_neg (lt_irrefl _), if_neg (by simp [hbal1]), if_neg (by simp [hstake1r])]
  obtain ⟨hstake2, -, -, hlist2⟩ := registerWrites_effect hslots s₁ validatorRegistryAddress
    dposMinValidatorStake hmem_r hinv1.count_le hA (hinv1.count_lt hmem_r)
  have hrun : s' = registerWrites keccak256 s₁ validatorRegistryAddress dposMinValidatorStake := by
    simp only [s', runActions, List.foldl_cons, List.foldl_nil, h1, h2]
  -- both addresses are listed, each with the minimum stake, over a balance of one minimum
  have hflag0 : ∀ b, readRegisteredFlag keccak256 s b = false := fun b => by
    simp [readRegisteredFlag_eq, hkeyed]
  have hlist0 : validatorList keccak256 s = [] := by
    simp [validatorList, readValidatorCount_eq, hkeyed]
  have hflag1r : readRegisteredFlag keccak256 s₁ validatorRegistryAddress = false := by
    rw [hflag1 _ hmem_r, if_neg (Ne.symm ha), hflag0]
  have hlist : validatorList keccak256 s' = [a, validatorRegistryAddress] := by
    rw [hrun, hlist2, hflag1r, hlist1, hflag0, hlist0]
    rfl
  have hmin : (dposMinValidatorStake : ℤ).natAbs % 2 ^ 256 = dposMinValidatorStake := by decide
  have hsa : readSelfStake keccak256 s' a = dposMinValidatorStake := by
    rw [hrun, hstake2 a hmem_a, if_neg ha, hstake1 a hmem_a, if_pos rfl, hmin]
  have hsr : readSelfStake keccak256 s' validatorRegistryAddress = dposMinValidatorStake := by
    rw [hrun, hstake2 _ hmem_r, if_pos rfl, hmin]
  rw [hlist, hrun, balance_registerWrites_self, hbal1]
  rw [← hrun]
  simp [hsa, hsr, dposMinValidatorStake]


theorem registry_self_registration_overdraws :
    let s' := runActions truncHash none (stakedState 0xA#256 dposMinValidatorStake)
      [registerAction 0xA#256 dposMinValidatorStake,
        registerAction validatorRegistryAddress dposMinValidatorStake]
    s'.balance validatorRegistryAddress <
      (((validatorList truncHash s').map (readSelfStake truncHash s')).sum : ℤ) :=
  stakes_exceed_balance_of_registry_sender truncHash 0xA#256
    (registrySlotsDistinct_of_nodup (by decide +kernel)) (by decide) none _ rfl rfl rfl

end Gtos.Validator
