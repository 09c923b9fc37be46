import Mathlib.Algebra.Order.BigOperators.Group.Finset
import Gtos.Lease.Storage

/-! # Deposit solvency of the lease registry

The registry holds the deposits of the leases and pays refunds out of them: `LEASE_CLOSE` pays
`RefundFor(deposit)` at once, and the sweep pays it to the owner of a pruned lease, at most what the
registry holds (`payRefund`). Solvency over a set `A` of leases is the invariant that the
registry's balance covers the refund every live lease of `A` is owed (`DepositInv`).

Every payment into the registry covers the refund it adds: a deploy's deposit `d` owes
`RefundFor(d) ≤ d`, a renewal's top-up `d` owes at most `d` more (`refundFor_add_le`); a close
and a pruning pay out exactly the refund they remove. The refunds are summed over `A`, and each
step changes one lease's term (`totalOwed_scheduleAndWrite`, `totalOwed_pruneLease`). The step
lemmas give the invariant over any run of events from a state where it holds
(`depositInv_runEvents`), and with it the close's registry check never fails and the sweep's cap
never bites: the sweep is the one that pays every refund in full (`payInFull`).

* **`LeaseEvent.Within A`** — an event about a lease of `A`, sent by an account other than the
  registry, or a sweep at a `uint64` block. -/

namespace Gtos.Lease

open Gtos.Core Gtos.Sysaction

/-! ## Events and the invariant -/

/-- The events a run over the leases of `A` is made of: actions on leases of `A` that the
registry does not send, and sweeps at `uint64` block numbers. -/
def LeaseEvent.Within (A : Finset Address) : LeaseEvent → Prop
  | .deploy ctx _ contractAddr _ => contractAddr ∈ A ∧ ctx.sender ≠ leaseRegistryAddress
  | .renew ctx p => p.contractAddr ∈ A ∧ ctx.sender ≠ leaseRegistryAddress
  | .close _ p => p.contractAddr ∈ A
  | .sweep currentBlock _ => currentBlock < 2 ^ 64

instance (A : Finset Address) : DecidablePred (LeaseEvent.Within A) := fun ev => by
  cases ev <;> unfold LeaseEvent.Within <;> infer_instance

section Owed

variable (keccak256 : List UInt8 → Hash) (A : Finset Address)

/-- The refund the lease at `a` is owed: `RefundFor` of its deposit, while it has metadata. -/
def refundOwed (s : StateDB) (a : Address) : ℕ :=
  match readMeta keccak256 s a with
  | some m => refundFor m.depositWei
  | none => 0

/-- What the registry owes the leases of `A`. -/
def totalOwed (s : StateDB) : ℕ :=
  ∑ a ∈ A, refundOwed keccak256 s a

/-- The prune queue names only leases of `A`, or no one. -/
def EntriesWithin (s : StateDB) : Prop :=
  ∀ e q, e < 2 ^ 64 → q < 2 ^ 64 →
    readPruneEntry keccak256 s e q ∈ A ∨ readPruneEntry keccak256 s e q = 0

/-- **Deposit solvency** over the leases of `A`. -/
structure DepositInv (s : StateDB) : Prop where
  /-- The sweep only ever looks at leases of `A`. -/
  entries : EntriesWithin keccak256 A s
  /-- The registry's balance covers every refund the leases of `A` are owed. -/
  solvent : (totalOwed keccak256 A s : ℤ) ≤ s.balance leaseRegistryAddress

/-- The sweep's payment without the cap: the whole refund. -/
def payInFull (s : StateDB) (owner : Address) (refund : ℕ) : StateDB :=
  if 0 < refund then
    VmStateDB.addBalance (VmStateDB.subBalance s leaseRegistryAddress refund) owner refund
  else s

theorem refundOwed_of_readMeta {s : StateDB} {a : Address} {m : Meta}
    (h : readMeta keccak256 s a = some m) : refundOwed keccak256 s a = refundFor m.depositWei := by
  rw [refundOwed, h]

theorem refundOwed_le_totalOwed (s : StateDB) {a : Address} (ha : a ∈ A) :
    refundOwed keccak256 s a ≤ totalOwed keccak256 A s :=
  Finset.single_le_sum (fun _ _ => Nat.zero_le _) ha

/-- The invariant reads the registry's storage and balance only. -/
theorem refundOwed_congr {s s' : StateDB}
    (h : s'.storage leaseRegistryAddress = s.storage leaseRegistryAddress) :
    refundOwed keccak256 s' = refundOwed keccak256 s := by
  funext a
  rw [refundOwed, refundOwed, readMeta_eq, readMeta_eq, keyed_eq_of_storage keccak256 h]

theorem totalOwed_congr {s s' : StateDB}
    (h : s'.storage leaseRegistryAddress = s.storage leaseRegistryAddress) :
    totalOwed keccak256 A s' = totalOwed keccak256 A s := by
  rw [totalOwed, totalOwed, refundOwed_congr keccak256 h]

theorem EntriesWithin.congr {s s' : StateDB}
    (h : s'.storage leaseRegistryAddress = s.storage leaseRegistryAddress)
    (hs : EntriesWithin keccak256 A s) : EntriesWithin keccak256 A s' := by
  intro e q he hq
  rw [readPruneEntry_eq, keyed_eq_of_storage keccak256 h, ← readPruneEntry_eq]
  exact hs e q he hq

end Owed

/-- Changing one term of a sum over `A` changes the sum by the change of that term. -/
theorem sum_add_eq_of_eq_off {A : Finset Address} {f g : Address → ℕ} {a : Address} (ha : a ∈ A)
    (hfg : ∀ b ∈ A, b ≠ a → g b = f b) : ∑ b ∈ A, g b + f a = ∑ b ∈ A, f b + g a := by
  rw [← Finset.add_sum_erase A g ha, ← Finset.add_sum_erase A f ha,
    Finset.sum_congr rfl fun b hb => hfg b (Finset.mem_of_mem_erase hb) (Finset.ne_of_mem_erase hb)]
  ring

/-! ## Payments -/

section Payments

theorem balance_payRegistry {src : Address} (h : src ≠ leaseRegistryAddress) (s : StateDB)
    (x : ℕ) : (payRegistry s src x).balance leaseRegistryAddress =
      s.balance leaseRegistryAddress + x := by
  simp [payRegistry, Ne.symm h]

/-- The capped payment takes at most the refund from the registry. -/
theorem balance_payRefund_ge (s : StateDB) (owner : Address) (refund : ℕ) :
    s.balance leaseRegistryAddress - refund ≤ (payRefund s owner refund).balance leaseRegistryAddress := by
  unfold payRefund
  dsimp only
  split_ifs with hpos hpay
  · by_cases ho : leaseRegistryAddress = owner
    · simp [ho]
    · simp [ho]
      omega
  · omega
  · omega

/-- **The cap does not bite** when the registry holds the refund. -/
theorem payRefund_eq_payInFull {s : StateDB} {refund : ℕ}
    (h : (refund : ℤ) ≤ s.balance leaseRegistryAddress) (owner : Address) :
    payRefund s owner refund = payInFull s owner refund := by
  unfold payRefund payInFull
  dsimp only
  split_ifs with hpos hpay
  · rw [StateDB.getBalance_eq, min_eq_left h]
  · rw [StateDB.getBalance_eq, min_eq_left h] at hpay
    omega
  · rfl

theorem balance_pruneLease {addr : Address} (hreg : addr ≠ leaseRegistryAddress)
    (keccak256 : List UInt8 → Hash) (pay : StateDB → Address → ℕ → StateDB) (currentBlock : ℕ)
    (s : StateDB) (m : Meta) :
    (pruneLease keccak256 pay currentBlock s addr m).balance leaseRegistryAddress =
      (pay s m.leaseOwner (refundFor m.depositWei)).balance leaseRegistryAddress := by
  simp [pruneLease, suicide, Function.update_of_ne (Ne.symm hreg), clearMeta_eq, writeTombstone_eq]

end Payments

/-! ## What each step does to the refunds owed -/

section Steps

variable {keccak256 : List UInt8 → Hash} {A : Finset Address} (dposEpoch : ℕ)
  (hslots : LeaseSlotsDistinct keccak256 A)
include hslots

/-- **Writing a lease's metadata** changes what that lease is owed, and nothing else. -/
theorem totalOwed_scheduleAndWrite {a : Address} (ha : a ∈ A) (t : StateDB) (m : Meta) :
    totalOwed keccak256 A (scheduleAndWrite keccak256 dposEpoch t a m) + refundOwed keccak256 t a =
      totalOwed keccak256 A t + refundFor (m.depositWei % 2 ^ 256) := by
  have hself : refundOwed keccak256 (scheduleAndWrite keccak256 dposEpoch t a m) a =
      refundFor (m.depositWei % 2 ^ 256) := by
    rw [refundOwed, readMeta_scheduleAndWrite dposEpoch hslots ha ha, if_pos rfl]
    rfl
  rw [totalOwed, totalOwed, ← hself]
  exact sum_add_eq_of_eq_off ha fun b hb hba => by
    rw [refundOwed, refundOwed, readMeta_scheduleAndWrite dposEpoch hslots ha hb, if_neg hba]

theorem EntriesWithin.scheduleAndWrite {a : Address} (ha : a ∈ A) {t : StateDB} (m : Meta)
    (ht : EntriesWithin keccak256 A t) :
    EntriesWithin keccak256 A (Gtos.Lease.scheduleAndWrite keccak256 dposEpoch t a m) := by
  intro e q he hq
  rw [readPruneEntry_scheduleAndWrite dposEpoch hslots ha t m he hq]
  split_ifs
  · exact .inl ha
  · exact ht e q he hq

omit hslots in
theorem refundOwed_sweep_bound {t : StateDB} (ht : DepositInv keccak256 A t) {a : Address}
    (ha : a ∈ A) {m : Meta} (hm : readMeta keccak256 t a = some m) :
    (refundFor m.depositWei : ℤ) ≤ t.balance leaseRegistryAddress := by
  have hle := refundOwed_le_totalOwed keccak256 A t ha
  rw [refundOwed_of_readMeta keccak256 hm] at hle
  have := ht.solvent
  omega

/-- **Pruning a lease** removes what it is owed. -/
theorem totalOwed_pruneLease {addr : Address} (haddr : addr ∈ A)
    (hreg : addr ≠ leaseRegistryAddress) (currentBlock : ℕ) (t : StateDB) (m : Meta) :
    totalOwed keccak256 A (pruneLease keccak256 payRefund currentBlock t addr m) +
      refundOwed keccak256 t addr = totalOwed keccak256 A t := by
  have hself : refundOwed keccak256 (pruneLease keccak256 payRefund currentBlock t addr m) addr = 0 := by
    rw [refundOwed, readMeta_pruneLease currentBlock hslots storage_payRefund haddr hreg haddr,
      if_pos rfl]
  have hsum := sum_add_eq_of_eq_off haddr (f := refundOwed keccak256 t)
    (g := refundOwed keccak256 (pruneLease keccak256 payRefund currentBlock t addr m))
    fun b hb hba => by
      rw [refundOwed, refundOwed,
        readMeta_pruneLease currentBlock hslots storage_payRefund haddr hreg hb, if_neg hba]
  rw [hself, add_zero] at hsum
  exact hsum

theorem EntriesWithin.pruneLease {addr : Address} (haddr : addr ∈ A)
    (hreg : addr ≠ leaseRegistryAddress) (currentBlock : ℕ) {t : StateDB} (m : Meta)
    (ht : EntriesWithin keccak256 A t) :
    EntriesWithin keccak256 A (Gtos.Lease.pruneLease keccak256 payRefund currentBlock t addr m) := by
  intro e q he hq
  rw [readPruneEntry_pruneLease currentBlock hslots storage_payRefund haddr hreg t m he hq]
  exact ht e q he hq

/-- Writes of the queue's count, cursor and head keep the invariant. -/
theorem DepositInv.writeKeys {s : StateDB} {ws : List (LeaseKey × Hash)}
    (hws : ∀ w ∈ ws, w.1.Within A)
    (hne : ∀ w ∈ ws, (∀ b f, w.1 ≠ .leaseWord b f) ∧ ∀ e q, w.1 ≠ .entry e q)
    (hs : DepositInv keccak256 A s) : DepositInv keccak256 A (Gtos.Lease.writeKeys keccak256 s ws) := by
  have hmeta : ∀ b ∈ A, readMeta keccak256 (Gtos.Lease.writeKeys keccak256 s ws) b =
      readMeta keccak256 s b := fun b hb => by
    rw [readMeta_eq, readMeta_eq]
    congr 1
    funext f
    exact keyed_writeKeys_of_forall_ne hslots s hws hb fun w hw => (hne w hw).1 b f
  constructor
  · intro e q he hq
    rw [readPruneEntry_eq, keyed_writeKeys_of_forall_ne hslots s hws (k := .entry e q) ⟨he, hq⟩
      fun w hw => (hne w hw).2 e q, ← readPruneEntry_eq]
    exact hs.entries e q he hq
  · have htotal : totalOwed keccak256 A (Gtos.Lease.writeKeys keccak256 s ws) = totalOwed keccak256 A s :=
      Finset.sum_congr rfl fun b hb => by rw [refundOwed, refundOwed, hmeta b hb]
    rw [htotal, balance_writeKeys]
    exact hs.solvent

end Steps

/-! ## The invariant over a run -/

section Run

variable {keccak256 : List UInt8 → Hash} {A : Finset Address} {dposEpoch : ℕ}
  (hslots : LeaseSlotsDistinct keccak256 A) (hreg : leaseRegistryAddress ∉ A)
include hslots hreg

omit hslots in
theorem ne_registry_of_mem {a : Address} (ha : a ∈ A) : a ≠ leaseRegistryAddress :=
  fun h => hreg (h ▸ ha)

/-- **A deploy** pays its deposit `d` into the registry and adds a lease owed `RefundFor(d) ≤ d`. -/
theorem depositInv_deploy {ctx : Context} {p : DeployAction} {contractAddr : Address}
    {pkg : List UInt8} (hca : contractAddr ∈ A) (hsender : ctx.sender ≠ leaseRegistryAddress)
    {s s' : StateDB} {u : Unit} (hs : DepositInv keccak256 A s)
    (h : (executeLeaseDeploy keccak256 dposEpoch ctx p contractAddr pkg).run.run s = (.ok u, s')) :
    DepositInv keccak256 A s' := by
  obtain ⟨d, s₁, -, -, hcl, hact⟩ := executeLeaseDeploy_ok h
  obtain ⟨m, hm, rfl⟩ := activate_ok hact
  have hdep : m.depositWei = d := by rw [newMeta_ok dposEpoch hm]
  obtain ⟨-, -, -, hstor, hbal⟩ := createLease_ok hcl
  have hca' := ne_registry_of_mem hreg hca
  -- the contract's creation leaves the registry; the payment before it adds the deposit
  have hstor₁ : s₁.storage leaseRegistryAddress = s.storage leaseRegistryAddress := by
    rw [hstor _ (Ne.symm hca')]
    split_ifs <;> rfl
  have hbal₁ : s₁.balance leaseRegistryAddress = s.balance leaseRegistryAddress + d := by
    rw [hbal _ (Ne.symm hsender) (Ne.symm hca')]
    split_ifs with hd
    · exact balance_payRegistry hsender s d
    · simp [Nat.eq_zero_of_not_pos hd]
  constructor
  · exact EntriesWithin.scheduleAndWrite dposEpoch hslots hca m (hs.entries.congr keccak256 A hstor₁)
  · have howed := totalOwed_scheduleAndWrite dposEpoch hslots hca s₁ m
    rw [totalOwed_congr keccak256 A hstor₁] at howed
    have hrefund : refundFor (m.depositWei % 2 ^ 256) ≤ d :=
      (refundFor_mono (Nat.mod_le _ _)).trans (hdep ▸ refundFor_le m.depositWei)
    have hsolv := hs.solvent
    rw [balance_scheduleAndWrite, hbal₁]
    omega

omit hreg in
/-- **A renewal** pays its deposit `d` into the registry and raises the lease's refund by at most
`d`. -/
theorem depositInv_renew {ctx : Context} {p : RenewAction} (hca : p.contractAddr ∈ A)
    (hsender : ctx.sender ≠ leaseRegistryAddress) {s s' : StateDB} {u : Unit}
    (hs : DepositInv keccak256 A s)
    (h : (handleRenew keccak256 dposEpoch ctx p).run.run s = (.ok u, s')) :
    DepositInv keccak256 A s' := by
  obtain ⟨m, d, m', hm, -, -, -, -, hren, rfl⟩ := handleRenew_ok h
  have hkeep : m'.depositWei = m.depositWei := by rw [renewMeta_ok dposEpoch hren]
  constructor
  · exact EntriesWithin.scheduleAndWrite dposEpoch hslots hca _ hs.entries
  · have howed := totalOwed_scheduleAndWrite dposEpoch hslots hca (payRegistry s ctx.sender d)
      { m' with depositWei := m'.depositWei + d }
    have hstor : (payRegistry s ctx.sender d).storage leaseRegistryAddress =
        s.storage leaseRegistryAddress := rfl
    rw [totalOwed_congr keccak256 A hstor, refundOwed_congr keccak256 hstor,
      refundOwed_of_readMeta keccak256 hm] at howed
    have hrefund : refundFor ((m'.depositWei + d) % 2 ^ 256) ≤ refundFor m.depositWei + d :=
      (refundFor_mono (Nat.mod_le _ _)).trans (hkeep ▸ refundFor_add_le m'.depositWei d)
    have hsolv := hs.solvent
    rw [balance_scheduleAndWrite, balance_payRegistry hsender]
    dsimp only at howed
    omega

omit hreg in
/-- **A close** pays the lease's refund out of the registry and leaves it owed nothing. -/
theorem depositInv_close {ctx : Context} {p : CloseAction} (hca : p.contractAddr ∈ A)
    {s s' : StateDB} {u : Unit} (hs : DepositInv keccak256 A s)
    (h : (handleClose keccak256 dposEpoch ctx p).run.run s = (.ok u, s')) :
    DepositInv keccak256 A s' := by
  obtain ⟨m, hm, -, -, -, rfl⟩ := handleClose_ok h
  set refund := refundFor m.depositWei
  set t := if 0 < refund then
    VmStateDB.addBalance (VmStateDB.subBalance s leaseRegistryAddress refund) ctx.sender refund
    else s
  have hstor : t.storage leaseRegistryAddress = s.storage leaseRegistryAddress := by
    simp only [t]
    split_ifs <;> rfl
  have hbal : s.balance leaseRegistryAddress - refund ≤ t.balance leaseRegistryAddress := by
    simp only [t]
    split_ifs
    · by_cases hs' : leaseRegistryAddress = ctx.sender
      · simp [hs']
      · simp [hs']
    · omega
  constructor
  · exact EntriesWithin.scheduleAndWrite dposEpoch hslots hca _ (hs.entries.congr keccak256 A hstor)
  · have howed := totalOwed_scheduleAndWrite dposEpoch hslots hca t
      (closeMeta m (ctx.blockNumber % 2 ^ 64))
    rw [totalOwed_congr keccak256 A hstor, refundOwed_congr keccak256 hstor,
      refundOwed_of_readMeta keccak256 hm] at howed
    have hsolv := hs.solvent
    have hzero : refundFor ((closeMeta m (ctx.blockNumber % 2 ^ 64)).depositWei % 2 ^ 256) = 0 := by
      simp [closeMeta]
    rw [hzero, add_zero] at howed
    rw [balance_scheduleAndWrite]
    omega

/-- **The sweep keeps the invariant**: a pruned lease is one of `A`, owed at most the registry's
balance, and the capped payment takes at most its refund. -/
theorem depositInv_sweepInvariant {currentBlock : ℕ} (hcb : currentBlock < 2 ^ 64) :
    SweepInvariant keccak256 dposEpoch payRefund currentBlock (fun _ _ => DepositInv keccak256 A)
      (DepositInv keccak256 A) where
  resume _ _ h := h
  entry ep c t hep hc ht := by
    have hep' : ep < 2 ^ 64 := lt_of_le_of_lt (hep.trans (Nat.div_le_self _ _)) hcb
    have hc' : c < 2 ^ 64 := hc.trans (readPruneEntryCount_lt keccak256 t ep)
    rcases pruneEntryWith_cases t ep c with h | ⟨m, h0, hm, -, -, -, h⟩ <;> rw [h]
    · exact ⟨ht, rfl⟩
    have haddr := (ht.entries ep c hep' hc').resolve_right h0
    have hne := ne_registry_of_mem hreg haddr
    refine ⟨⟨EntriesWithin.pruneLease hslots haddr hne currentBlock m ht.entries, ?_⟩, ?_⟩
    · have howed := totalOwed_pruneLease hslots haddr hne currentBlock t m
      rw [refundOwed_of_readMeta keccak256 hm] at howed
      have hpay := balance_payRefund_ge t m.leaseOwner (refundFor m.depositWei)
      have hsolv := ht.solvent
      rw [balance_pruneLease hne]
      omega
    · exact readPruneEntryCount_pruneLease currentBlock hslots storage_payRefund haddr hne t m hep'
  stop ep c t hep _ ht := by
    have hep' : ep < 2 ^ 64 := lt_of_le_of_lt (hep.trans (Nat.div_le_self _ _)) hcb
    rw [writePruneHeadEpoch_eq, writePruneCursor_eq]
    exact DepositInv.writeKeys hslots (headWrites_within _) (by simp)
      (DepositInv.writeKeys hslots (cursorWrites_within hep' _) (by simp) ht)
  clear ep c t hep _ ht := by
    have hep' : ep < 2 ^ 64 := lt_of_le_of_lt (hep.trans (Nat.div_le_self _ _)) hcb
    rw [clearPruneEpoch_eq]
    exact DepositInv.writeKeys hslots (clearEpochWrites_within hep') (by simp) ht
  final t ht := by
    rw [writePruneHeadEpoch_eq]
    exact DepositInv.writeKeys hslots (headWrites_within _) (by simp) ht

theorem depositInv_sweep {s : StateDB} (hs : DepositInv keccak256 A s) {currentBlock : ℕ}
    (hcb : currentBlock < 2 ^ 64) (budget : ℕ) :
    DepositInv keccak256 A (runPruneSweepAtBoundary keccak256 dposEpoch s currentBlock budget) := by
  unfold runPruneSweepAtBoundary runPruneSweep
  dsimp only
  split_ifs
  · exact hs
  · exact (depositInv_sweepInvariant hslots hreg hcb).sweep s (fun _ => hs) fun _ _ => hs

omit hslots hreg in
/-- The registry starts solvent: an empty state has no lease and no queue entry. -/
theorem depositInv_empty : DepositInv keccak256 A StateDB.empty where
  entries _ _ _ _ := .inr rfl
  solvent := by
    have hzero : totalOwed keccak256 A StateDB.empty = 0 := Finset.sum_eq_zero fun a _ => rfl
    rw [hzero]
    exact le_rfl

omit hslots hreg in
/-- A reverted action leaves the state, a successful one goes to a state the step keeps. -/
theorem DepositInv.commit {x : HandlerM StateDB Unit} {s : StateDB}
    (hs : DepositInv keccak256 A s)
    (hok : ∀ u s', x.run.run s = (.ok u, s') → DepositInv keccak256 A s') :
    DepositInv keccak256 A (Sysaction.commit x s) := by
  rcases hr : x.run.run s with ⟨_ | u, s'⟩
  · rw [commit_of_error hr]
    exact hs
  · rw [commit_of_ok hr]
    exact hok u s' hr

theorem depositInv_applyEvent {s : StateDB} (hs : DepositInv keccak256 A s) {ev : LeaseEvent}
    (hev : ev.Within A) : DepositInv keccak256 A (applyEvent keccak256 dposEpoch s ev) := by
  cases ev with
  | deploy ctx p contractAddr pkg =>
    exact hs.commit fun _ _ h => depositInv_deploy hslots hreg hev.1 hev.2 hs h
  | renew ctx p =>
    exact hs.commit fun _ _ h => depositInv_renew hslots hev.1 hev.2 hs h
  | close ctx p =>
    exact hs.commit fun _ _ h => depositInv_close hslots hev hs h
  | sweep currentBlock budget => exact depositInv_sweep hslots hreg hs hev budget

/-- **Solvency over every run** of events on the leases of `A`. -/
theorem depositInv_runEvents {s : StateDB} (hs : DepositInv keccak256 A s) {evs : List LeaseEvent}
    (hevs : ∀ ev ∈ evs, ev.Within A) :
    DepositInv keccak256 A (runEvents keccak256 dposEpoch s evs) := by
  induction evs generalizing s with
  | nil => exact hs
  | cons ev evs ih =>
    exact ih (depositInv_applyEvent hslots hreg hs (hevs ev List.mem_cons_self))
      fun ev' hev' => hevs ev' (List.mem_cons_of_mem ev hev')

omit hslots hreg in
/-- With the invariant, the close's registry check passes. -/
theorem handleClose_ne_registryInvariant {s : StateDB} (hs : DepositInv keccak256 A s)
    {ctx : Context} {p : CloseAction} (hca : p.contractAddr ∈ A) (t : StateDB) :
    (handleClose keccak256 dposEpoch ctx p).run.run s ≠
      (.error (.error errLeaseRegistryInvariant), t) := fun h => by
  obtain ⟨m, hm, hlt⟩ := handleClose_error_registryInvariant h
  have := refundOwed_sweep_bound hs hca hm
  omega

/-- With the invariant, the sweep is the one that pays every refund in full. -/
theorem runPruneSweep_eq_payInFull {s : StateDB} (hs : DepositInv keccak256 A s)
    {currentBlock : ℕ} (hcb : currentBlock < 2 ^ 64) (budget : ℕ) :
    runPruneSweep keccak256 dposEpoch s currentBlock budget =
      pruneSweepWith keccak256 dposEpoch payInFull currentBlock budget s := by
  refine (depositInv_sweepInvariant hslots hreg hcb).sweep_congr (fun ep c t hep hc ht => ?_) s
    fun _ _ => hs
  have hep' : ep < 2 ^ 64 := lt_of_le_of_lt (hep.trans (Nat.div_le_self _ _)) hcb
  have hc' : c < 2 ^ 64 := hc.trans (readPruneEntryCount_lt keccak256 t ep)
  -- the two sweeps differ only in the payment of a lease they prune, which the registry covers
  unfold pruneEntryWith
  dsimp only
  split_ifs with h0
  · rfl
  split
  · rfl
  rename_i m hm
  split_ifs
  · rfl
  · rfl
  have haddr := (ht.entries ep c hep' hc').resolve_right h0
  unfold pruneLease
  rw [payRefund_eq_payInFull (refundOwed_sweep_bound ht haddr hm)]

end Run

/-! ## Deposit solvency -/

section Solvency

variable {keccak256 : List UInt8 → Hash} {A : Finset Address} {dposEpoch : ℕ}

/-- **Deposit solvency**: over every run of deploys, renewals, closes and sweeps on the leases of
`A`, each failed action reverted, from a state where the registry covers what it owes, the
registry's balance covers the refund of every live lease; a close never fails its registry
check, and the sweep pays every refund in full. -/
theorem lease_deposit_solvency (hslots : LeaseSlotsDistinct keccak256 A)
    (hreg : leaseRegistryAddress ∉ A) {s : StateDB} (hs : DepositInv keccak256 A s)
    {evs : List LeaseEvent} (hevs : ∀ ev ∈ evs, ev.Within A) :
    let s' := runEvents keccak256 dposEpoch s evs
    (totalOwed keccak256 A s' : ℤ) ≤ s'.balance leaseRegistryAddress ∧
      (∀ (ctx : Context) (p : CloseAction) (t : StateDB), p.contractAddr ∈ A →
        (handleClose keccak256 dposEpoch ctx p).run.run s' ≠
          (.error (.error errLeaseRegistryInvariant), t)) ∧
      ∀ currentBlock budget, currentBlock < 2 ^ 64 →
        runPruneSweep keccak256 dposEpoch s' currentBlock budget =
          pruneSweepWith keccak256 dposEpoch payInFull currentBlock budget s' := by
  intro s'
  have hinv : DepositInv keccak256 A s' := depositInv_runEvents hslots hreg hs hevs
  exact ⟨hinv.solvent, fun ctx p t hca => handleClose_ne_registryInvariant hinv hca t,
    fun currentBlock budget hcb => runPruneSweep_eq_payInFull hslots hreg hinv hcb budget⟩

/-- A lease `0x1` deployed by `0x5` at block 10 for 100 blocks, renewed at block 20, closed at
block 30, and a sweep at the boundary of epoch 2. -/
def solvencyRun : List LeaseEvent :=
  [.deploy ⟨5#256, 0, 10⟩ ⟨[1], 100, 0⟩ 1#256 [1], .renew ⟨5#256, 0, 20⟩ ⟨1#256, 100⟩,
    .close ⟨5#256, 0, 30⟩ ⟨1#256⟩, .sweep (2 * dposEpochLength) leasePruneBudgetPerSweep]

theorem lease_deposit_solvency_run :
    let s' := runEvents tailHash 0 StateDB.empty solvencyRun
    (totalOwed tailHash {1#256, 2#256} s' : ℤ) ≤ s'.balance leaseRegistryAddress ∧
      (∀ (ctx : Context) (p : CloseAction) (t : StateDB), p.contractAddr ∈ ({1#256, 2#256} : Finset Address) →
        (handleClose tailHash 0 ctx p).run.run s' ≠ (.error (.error errLeaseRegistryInvariant), t)) ∧
      ∀ currentBlock budget, currentBlock < 2 ^ 64 →
        runPruneSweep tailHash 0 s' currentBlock budget =
          pruneSweepWith tailHash 0 payInFull currentBlock budget s' :=
  lease_deposit_solvency leaseSlotsDistinct_tailHash (by decide) depositInv_empty (by decide)

end Solvency

end Gtos.Lease
