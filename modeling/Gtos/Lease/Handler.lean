import Gtos.Sysaction.Execute
import Gtos.Lease.Prune
import Gtos.Lib.ExceptState

/-! # Deploying, renewing and closing leases (`lease/handler.go`, `executeLeaseDeploy`)

`LEASE_RENEW` and `LEASE_CLOSE` are system actions handled in `lease/handler.go`; `LEASE_DEPLOY`
is executed by the state transition itself (`executeLeaseDeploy`), which moves the deposit to the
registry, creates the contract and activates the lease. Each returns an error on a failed check,
and the state transition then reverts the action (`commit`).

What the model leaves out of the deploy is the VM's part: the address of the new contract
(`CreateAddress` of the sender and its nonce), the split of the payload into the package and the
constructor arguments, the package's manifest checks and the constructor's run. The address and
the package are given with the action; `createLease` keeps the collision check and the writes
that create the account.

A run of the registry is a sequence of events: the three actions, and the sweep that
`Finalize` runs at every block, with any budget. -/

namespace Gtos.Lease

open Gtos.Core Gtos.Sysaction

/-- `DeployAction`, with the package bytes the payload splits into. -/
structure DeployAction where
  /-- `Code`. -/
  code : List UInt8
  /-- `LeaseBlocks`. -/
  leaseBlocks : ℕ
  /-- `LeaseOwner`, zero for the sender. -/
  leaseOwner : Address
  deriving DecidableEq, Repr

/-- `RenewAction`. -/
structure RenewAction where
  /-- `ContractAddr`. -/
  contractAddr : Address
  /-- `DeltaBlocks`. -/
  deltaBlocks : ℕ
  deriving DecidableEq, Repr

/-- `CloseAction`. -/
structure CloseAction where
  /-- `ContractAddr`. -/
  contractAddr : Address
  deriving DecidableEq, Repr

/-- A lease error returned by a handler. -/
def liftLease {α : Type} : Except String α → HandlerM StateDB α
  | .ok a => pure a
  | .error e => throw (.error e)

@[simp] theorem run_liftLease_ok {α : Type} (a : α) (s : StateDB) :
    (liftLease (.ok a)).run.run s = (.ok a, s) := rfl

@[simp] theorem run_liftLease_error {α : Type} (e : String) (s : StateDB) :
    (liftLease (.error e : Except String α)).run.run s = (.error (.error e), s) := rfl

/-- A run that went past a lifted lease computation: the computation returned a value, and the
rest ran on the same state. -/
theorem run_liftLease_bind_eq_ok {α β : Type} {x : Except String α}
    {f : α → HandlerM StateDB β} {s s' : StateDB} {b : β}
    (h : (liftLease x >>= f).run.run s = (.ok b, s')) :
    ∃ a, x = .ok a ∧ (f a).run.run s = (.ok b, s') := by
  cases x with
  | error e => cases h
  | ok a => exact ⟨a, rfl, h⟩

section Handlers

variable (keccak256 : List UInt8 → Hash) (dposEpoch : ℕ)

/-- `transfer`: the registry's side of a payment, `from` pays `amount`. -/
def payRegistry (s : StateDB) (src : Address) (amount : ℕ) : StateDB :=
  VmStateDB.addBalance (VmStateDB.subBalance s src amount) leaseRegistryAddress amount

/-- `handleRenew(ctx, sa)`. -/
def handleRenew (ctx : Context) (p : RenewAction) : HandlerM StateDB Unit := do
  if ctx.value ≠ 0 then throw (.error errLeaseValueNotAllowed)
  let s ← get
  match readMeta keccak256 s p.contractAddr with
  | none => throw (.error errLeaseNotFound)
  | some m =>
    if hasTombstone keccak256 s p.contractAddr then throw (.error errLeaseTombstoned)
    if ctx.sender ≠ m.leaseOwner then throw (.error errLeaseOwnerOnly)
    let currentBlock := ctx.blockNumber % 2 ^ 64
    match effectiveStatus dposEpoch m currentBlock with
    | .active | .frozen => pure ()
    | _ => throw (.error errLeaseExpired)
    let deposit ← liftLease (depositFor m.codeBytes p.deltaBlocks)
    if s.balance ctx.sender < deposit then throw (.error errLeaseInsufficientDeposit)
    modify fun s => payRegistry s ctx.sender deposit
    let m ← liftLease (renewMeta dposEpoch m currentBlock p.deltaBlocks)
    modify fun s =>
      scheduleAndWrite keccak256 dposEpoch s p.contractAddr
        { m with depositWei := m.depositWei + deposit }

/-- `handleClose(ctx, sa)`: refund, expire now, and schedule the lease for pruning. -/
def handleClose (ctx : Context) (p : CloseAction) : HandlerM StateDB Unit := do
  if ctx.value ≠ 0 then throw (.error errLeaseValueNotAllowed)
  let s ← get
  match readMeta keccak256 s p.contractAddr with
  | none => throw (.error errLeaseNotFound)
  | some m =>
    if hasTombstone keccak256 s p.contractAddr then throw (.error errLeaseTombstoned)
    if ctx.sender ≠ m.leaseOwner then throw (.error errLeaseOwnerOnly)
    let refund := refundFor m.depositWei
    if s.balance leaseRegistryAddress < refund then throw (.error errLeaseRegistryInvariant)
    if 0 < refund then
      modify fun s =>
        VmStateDB.addBalance (VmStateDB.subBalance s leaseRegistryAddress refund) ctx.sender refund
    let currentBlock := ctx.blockNumber % 2 ^ 64
    modify fun s =>
      scheduleAndWrite keccak256 dposEpoch s p.contractAddr (closeMeta m currentBlock)

/-- `RequireRenewCapableOwner(db, owner)`: a lease owner is an account without code. -/
def requireRenewCapableOwner (s : StateDB) (owner : Address) : Except String Unit :=
  if owner = 0 then .error errLeaseOwnerRequired
  else
    let codeHash := getCodeHash keccak256 s owner
    if codeHash ≠ 0 ∧ codeHash ≠ keccak256 [] then .error errLeaseOwnerMustBeEOA else .ok ()

/-- `CreateLease(caller, pkgBytes, …)` at the address `contractAddr` it derives, as far as the
model keeps it: the collision check (a tombstone, a nonce or code at the address), then the value
moves to the new account, which gets nonce one and the package as its code, and the caller's
nonce is advanced. -/
def createLease (s : StateDB) (caller contractAddr : Address) (pkg : List UInt8) (value : ℤ) :
    Except String StateDB :=
  let codeHash := getCodeHash keccak256 s contractAddr
  if hasTombstone keccak256 s contractAddr ∨ s.nonce contractAddr ≠ 0 ∨
      (codeHash ≠ 0 ∧ codeHash ≠ keccak256 []) then .error "contract address collision"
  else if s.balance caller < value then .error "lvm: insufficient balance"
  else
    let s := VmStateDB.addBalance (VmStateDB.subBalance s caller value) contractAddr value
    let s := VmStateDB.createAccount s contractAddr
    let s := VmStateDB.setNonce s contractAddr 1
    let s := VmStateDB.setCode s contractAddr pkg
    .ok (VmStateDB.setNonce s caller (s.nonce caller + 1))

/-- `executeLeaseDeploy(sa)`, for the contract address `contractAddr` and the package `pkg` that
the payload's code splits into. -/
def executeLeaseDeploy (ctx : Context) (p : DeployAction) (contractAddr : Address)
    (pkg : List UInt8) : HandlerM StateDB Unit := do
  if p.code = [] then throw (.error errLeaseCodeRequired)
  liftLease (validateLeaseBlocks p.leaseBlocks)
  let owner := if p.leaseOwner = 0 then ctx.sender else p.leaseOwner
  let s ← get
  liftLease (requireRenewCapableOwner keccak256 s owner)
  let deposit ← liftLease (depositFor pkg.length p.leaseBlocks)
  if s.balance ctx.sender < deposit then throw (.error errLeaseInsufficientDeposit)
  let currentBlock := ctx.blockNumber % 2 ^ 64
  if 0 < deposit then modify fun s => payRegistry s ctx.sender deposit
  let s ← get
  let s ← liftLease (createLease keccak256 s ctx.sender contractAddr pkg ctx.value)
  let s ← liftLease
    (activate keccak256 dposEpoch s contractAddr owner currentBlock p.leaseBlocks pkg.length deposit)
  set s

end Handlers

/-! ## What a successful action did -/

section Effects

variable {keccak256 : List UInt8 → Hash} {dposEpoch : ℕ} {ctx : Context}

open ExceptStateM

/-- **`CreateLease`**: the address had no tombstone, nonce or code, the caller could pay the
value, and only the new account's storage and the balances of the caller and the new account
change. -/
theorem createLease_ok {s s' : StateDB} {caller contractAddr : Address} {pkg : List UInt8}
    {value : ℤ} (h : createLease keccak256 s caller contractAddr pkg value = .ok s') :
    hasTombstone keccak256 s contractAddr = false ∧ s.nonce contractAddr = 0 ∧
      value ≤ s.balance caller ∧ (∀ b, b ≠ contractAddr → s'.storage b = s.storage b) ∧
      ∀ b, b ≠ caller → b ≠ contractAddr → s'.balance b = s.balance b := by
  unfold createLease at h
  dsimp only at h
  split_ifs at h with hcollide hbal
  cases h
  simp only [not_or, not_lt, ne_eq, Decidable.not_not, Bool.not_eq_true] at hcollide hbal
  refine ⟨hcollide.1, hcollide.2.1, hbal, fun b hb => ?_, fun b hb hb' => ?_⟩
  · simp [VmStateDB.setNonce, VmStateDB.setCode, VmStateDB.createAccount, StateDB.createAccount,
      VmStateDB.addBalance, VmStateDB.subBalance, Function.update_of_ne hb]
  · simp [VmStateDB.setNonce, VmStateDB.setCode, VmStateDB.createAccount, StateDB.createAccount,
      hb, hb']

theorem activate_ok {s s' : StateDB} {addr owner : Address}
    {createdAt leaseBlocks codeBytes deposit : ℕ}
    (h : activate keccak256 dposEpoch s addr owner createdAt leaseBlocks codeBytes deposit = .ok s') :
    ∃ m, newMeta dposEpoch owner createdAt leaseBlocks codeBytes deposit = .ok m ∧
      s' = scheduleAndWrite keccak256 dposEpoch s addr m := by
  unfold activate at h
  cases hm : newMeta dposEpoch owner createdAt leaseBlocks codeBytes deposit with
  | error e =>
    rw [hm] at h
    cases h
  | ok m =>
    rw [hm] at h
    cases h
    exact ⟨m, rfl, rfl⟩

/-- **`executeLeaseDeploy`**: the deposit was paid to the registry, the contract created, and the
lease activated on the state that left. -/
theorem executeLeaseDeploy_ok {p : DeployAction} {contractAddr : Address} {pkg : List UInt8}
    {s s' : StateDB} {u : Unit}
    (h : (executeLeaseDeploy keccak256 dposEpoch ctx p contractAddr pkg).run.run s = (.ok u, s')) :
    ∃ deposit s₁, depositFor pkg.length p.leaseBlocks = .ok deposit ∧
      ↑deposit ≤ s.balance ctx.sender ∧
      createLease keccak256 (if 0 < deposit then payRegistry s ctx.sender deposit else s) ctx.sender
        contractAddr pkg ctx.value = .ok s₁ ∧
      activate keccak256 dposEpoch s₁ contractAddr
        (if p.leaseOwner = 0 then ctx.sender else p.leaseOwner) (ctx.blockNumber % 2 ^ 64)
        p.leaseBlocks pkg.length deposit = .ok s' := by
  unfold executeLeaseDeploy at h
  obtain ⟨-, h⟩ := run_guard_eq_ok h
  obtain ⟨_, -, h⟩ := run_liftLease_bind_eq_ok h
  -- the owner is a local definition
  dsimp only at h
  rw [run_get_bind] at h
  obtain ⟨_, -, h⟩ := run_liftLease_bind_eq_ok h
  obtain ⟨deposit, hdep, h⟩ := run_liftLease_bind_eq_ok h
  obtain ⟨hbal, h⟩ := run_guard_eq_ok h
  -- the deposit is paid when there is one; the creation and the activation follow on either state
  suffices hk : ∀ t, (do
      let s ← get
      let s ← liftLease (createLease keccak256 s ctx.sender contractAddr pkg ctx.value)
      let s ← liftLease (activate keccak256 dposEpoch s contractAddr
        (if p.leaseOwner = 0 then ctx.sender else p.leaseOwner) (ctx.blockNumber % 2 ^ 64)
        p.leaseBlocks pkg.length deposit)
      set s : HandlerM StateDB Unit).run.run t = (.ok u, s') →
      ∃ s₁, createLease keccak256 t ctx.sender contractAddr pkg ctx.value = .ok s₁ ∧
        activate keccak256 dposEpoch s₁ contractAddr
          (if p.leaseOwner = 0 then ctx.sender else p.leaseOwner) (ctx.blockNumber % 2 ^ 64)
          p.leaseBlocks pkg.length deposit = .ok s' by
    split at h
    · obtain ⟨_, _, hpay, h⟩ := run_bind_eq_ok h
      rw [run_modify] at hpay
      cases hpay
      obtain ⟨s₁, hc, ha⟩ := hk _ h
      exact ⟨deposit, s₁, hdep, not_lt.mp hbal, by rwa [if_pos ‹_›], ha⟩
    · obtain ⟨s₁, hc, ha⟩ := hk _ h
      exact ⟨deposit, s₁, hdep, not_lt.mp hbal, by rwa [if_neg ‹_›], ha⟩
  intro t h
  rw [run_get_bind] at h
  obtain ⟨s₁, hcl, h⟩ := run_liftLease_bind_eq_ok h
  obtain ⟨_, hac, h⟩ := run_liftLease_bind_eq_ok h
  rw [run_set] at h
  cases h
  exact ⟨s₁, hcl, hac⟩

theorem handleRenew_ok {p : RenewAction} {s s' : StateDB} {u : Unit}
    (h : (handleRenew keccak256 dposEpoch ctx p).run.run s = (.ok u, s')) :
    ∃ m deposit m', readMeta keccak256 s p.contractAddr = some m ∧
      hasTombstone keccak256 s p.contractAddr = false ∧ ctx.sender = m.leaseOwner ∧
      depositFor m.codeBytes p.deltaBlocks = .ok deposit ∧ ↑deposit ≤ s.balance ctx.sender ∧
      renewMeta dposEpoch m (ctx.blockNumber % 2 ^ 64) p.deltaBlocks = .ok m' ∧
      s' = scheduleAndWrite keccak256 dposEpoch (payRegistry s ctx.sender deposit) p.contractAddr
        { m' with depositWei := m'.depositWei + deposit } := by
  unfold handleRenew at h
  obtain ⟨-, h⟩ := run_guard_eq_ok h
  rw [run_get_bind] at h
  cases hm : readMeta keccak256 s p.contractAddr with
  | none =>
    rw [hm] at h
    exact absurd h (run_throw_ne_ok _ _ _ _)
  | some m =>
    rw [hm] at h
    obtain ⟨htomb, h⟩ := run_guard_eq_ok h
    obtain ⟨howner, h⟩ := run_guard_eq_ok h
    dsimp only at h
    -- only an active or frozen lease goes on to the deposit
    cases hst : effectiveStatus dposEpoch m (ctx.blockNumber % 2 ^ 64) <;> rw [hst] at h <;>
      dsimp only at h
    case expired | prunable =>
      obtain ⟨_, _, hthrow, -⟩ := run_bind_eq_ok h
      exact absurd hthrow (run_throw_ne_ok _ _ _ _)
    all_goals
      obtain ⟨deposit, hdep, h⟩ := run_liftLease_bind_eq_ok h
      obtain ⟨hbal, h⟩ := run_guard_eq_ok h
      obtain ⟨_, _, hpay, h⟩ := run_bind_eq_ok h
      rw [run_modify] at hpay
      cases hpay
      obtain ⟨m', hren, h⟩ := run_liftLease_bind_eq_ok h
      rw [run_modify] at h
      cases h
      exact ⟨m, deposit, m', rfl, by simpa using htomb, by simpa using howner, hdep,
        not_lt.mp hbal, hren, rfl⟩

theorem handleClose_ok {p : CloseAction} {s s' : StateDB} {u : Unit}
    (h : (handleClose keccak256 dposEpoch ctx p).run.run s = (.ok u, s')) :
    ∃ m, readMeta keccak256 s p.contractAddr = some m ∧
      hasTombstone keccak256 s p.contractAddr = false ∧ ctx.sender = m.leaseOwner ∧
      ↑(refundFor m.depositWei) ≤ s.balance leaseRegistryAddress ∧
      s' = scheduleAndWrite keccak256 dposEpoch
        (if 0 < refundFor m.depositWei then
          VmStateDB.addBalance (VmStateDB.subBalance s leaseRegistryAddress (refundFor m.depositWei))
            ctx.sender (refundFor m.depositWei)
        else s)
        p.contractAddr (closeMeta m (ctx.blockNumber % 2 ^ 64)) := by
  unfold handleClose at h
  obtain ⟨-, h⟩ := run_guard_eq_ok h
  rw [run_get_bind] at h
  cases hm : readMeta keccak256 s p.contractAddr with
  | none =>
    rw [hm] at h
    exact absurd h (run_throw_ne_ok _ _ _ _)
  | some m =>
    rw [hm] at h
    obtain ⟨htomb, h⟩ := run_guard_eq_ok h
    obtain ⟨howner, h⟩ := run_guard_eq_ok h
    obtain ⟨hbal, h⟩ := run_guard_eq_ok h
    refine ⟨m, rfl, by simpa using htomb, by simpa using howner, not_lt.mp hbal, ?_⟩
    dsimp only at h
    split at h
    · obtain ⟨_, _, hpay, h⟩ := run_bind_eq_ok h
      rw [run_modify] at hpay h
      cases hpay
      cases h
      rw [if_pos ‹_›]
    · rw [run_modify] at h
      cases h
      rw [if_neg ‹_›]

/-- **The registry check of `LEASE_CLOSE`** is the only one that fails with
`ErrLeaseRegistryInvariant`: a close that fails with it found the lease's refund above the
registry's balance. -/
theorem handleClose_error_registryInvariant {p : CloseAction} {s s' : StateDB}
    (h : (handleClose keccak256 dposEpoch ctx p).run.run s =
      (.error (.error errLeaseRegistryInvariant), s')) :
    ∃ m, readMeta keccak256 s p.contractAddr = some m ∧
      s.balance leaseRegistryAddress < refundFor m.depositWei := by
  unfold handleClose at h
  rcases run_guard_eq_error h with ⟨-, he⟩ | ⟨-, h⟩
  · simp [errLeaseRegistryInvariant, errLeaseValueNotAllowed] at he
  rw [run_get_bind] at h
  cases hm : readMeta keccak256 s p.contractAddr with
  | none =>
    rw [hm, run_throw] at h
    have he := congrArg Prod.fst h
    simp [errLeaseRegistryInvariant, errLeaseNotFound] at he
  | some m =>
    rw [hm] at h
    rcases run_guard_eq_error h with ⟨-, he⟩ | ⟨-, h⟩
    · simp [errLeaseRegistryInvariant, errLeaseTombstoned] at he
    rcases run_guard_eq_error h with ⟨-, he⟩ | ⟨-, h⟩
    · simp [errLeaseRegistryInvariant, errLeaseOwnerOnly] at he
    rcases run_guard_eq_error h with ⟨hlt, -⟩ | ⟨-, h⟩
    · exact ⟨m, rfl, hlt⟩
    -- the refund and the rescheduling that follow the checks cannot fail
    dsimp only at h
    split at h
    · rcases run_bind_eq_error h with h | ⟨_, _, -, h⟩ <;> rw [run_modify] at h <;> cases h
    · rw [run_modify] at h
      cases h

end Effects

/-! ## Runs of the registry -/

/-- What happens to the lease registry: the three actions, and a sweep at a block with a
budget. -/
inductive LeaseEvent
  /-- `LEASE_DEPLOY`, with the address and the package the VM derives. -/
  | deploy (ctx : Context) (p : DeployAction) (contractAddr : Address) (pkg : List UInt8)
  /-- `LEASE_RENEW`. -/
  | renew (ctx : Context) (p : RenewAction)
  /-- `LEASE_CLOSE`. -/
  | close (ctx : Context) (p : CloseAction)
  /-- `RunPruneSweep` at a block, with a budget. -/
  | sweep (currentBlock budget : ℕ)
  deriving DecidableEq, Repr

section Run

variable (keccak256 : List UInt8 → Hash) (dposEpoch : ℕ)

/-- An event applied to the state; a failed action is reverted. -/
def applyEvent (s : StateDB) : LeaseEvent → StateDB
  | .deploy ctx p contractAddr pkg =>
    commit (executeLeaseDeploy keccak256 dposEpoch ctx p contractAddr pkg) s
  | .renew ctx p => commit (handleRenew keccak256 dposEpoch ctx p) s
  | .close ctx p => commit (handleClose keccak256 dposEpoch ctx p) s
  | .sweep currentBlock budget => runPruneSweepAtBoundary keccak256 dposEpoch s currentBlock budget

/-- A run of events. -/
def runEvents (s : StateDB) (evs : List LeaseEvent) : StateDB :=
  evs.foldl (applyEvent keccak256 dposEpoch) s

@[simp] theorem runEvents_nil (s : StateDB) : runEvents keccak256 dposEpoch s [] = s := rfl

theorem runEvents_append (s : StateDB) (evs evs' : List LeaseEvent) :
    runEvents keccak256 dposEpoch s (evs ++ evs') =
      runEvents keccak256 dposEpoch (runEvents keccak256 dposEpoch s evs) evs' := by
  simp [runEvents, List.foldl_append]

/-- The state after the first `i + 1` events is the state after the first `i`, with the event at
`i` applied if there is one. -/
theorem runEvents_take_succ (s : StateDB) (evs : List LeaseEvent) (i : ℕ) :
    runEvents keccak256 dposEpoch s (evs.take (i + 1)) =
      runEvents keccak256 dposEpoch (runEvents keccak256 dposEpoch s (evs.take i)) evs[i]?.toList := by
  rw [List.take_add_one, runEvents_append]

end Run

end Gtos.Lease
