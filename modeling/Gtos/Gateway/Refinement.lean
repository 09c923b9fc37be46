import Gtos.Agent.Ledger
import Gtos.Gateway.Registry
import Gtos.Sysaction.Run

/-! # The gateway registry as a map of configurations

What the registry is for: every address has a configuration, and the registry counts the
registrations it accepted. `Registry.step` is one gateway action on such a map, decided from the
map and the payload alone: a registration needs an inactive gateway and a payload that passes
`checkRegisterPayload`, an update an active gateway and a payload that passes
`checkUpdatePayload`, a deregistration an active gateway. The capability check of a registration
reads the agent and capability registries, so the map accepts some registrations that the handler
refuses; it never refuses one that the handler accepts.

`Refines` relates a state to a map: the configurations of the addresses of `A` are what their
reads return, and the count is the count word. A successful action from a related state is a step
the map accepts, to a related state (`refines_step`); a failed action is reverted; so a run refines
the map's run of the actions it kept (`refines_runWith`). The count word is then the count of the
kept registrations (`readGatewayCount_runWith`). -/

namespace Gtos.Gateway

open Gtos.Core Gtos.Sysaction ExceptStateM

/-! ## The map of configurations -/

/-- The checks of an update, as `handleUpdate` makes them between its writes, and the fee amount,
zero when left out. -/
def checkUpdatePayload (p : UpdateGatewayPayload) : Except String ℤ :=
  (if p.endpoint ≠ "" ∧ (Text.utf8 p.endpoint).length > maxEndpointLength then
    throw errInvalidEndpoint else pure ()) >>= fun _ =>
  (if p.supportedKinds.length > 0 then checkKinds p.supportedKinds else pure ()) >>= fun _ =>
  (if p.feePolicy ≠ "" ∧ !validFeePolicy p.feePolicy then throw errInvalidFeePolicy
    else pure ()) >>= fun _ =>
  if p.feeAmount ≠ "" then parseFeeAmount p.feeAmount else pure 0

/-- Whether an action is a registration. -/
def GatewayAction.isRegister : GatewayAction → Bool
  | .register _ => true
  | .update _ | .deregister => false

/-- The registry: a configuration per address, and the count of the registrations it accepted. -/
structure Registry where
  /-- The configuration of each address. -/
  configs : Address → GatewayView
  /-- `ReadGatewayCount`. -/
  count : ℕ

/-- One gateway action on the registry; `none` when the registry refuses it. -/
def Registry.step (ctx : Context) : GatewayAction → Registry → Option Registry
  | .register (.ok p), r =>
    match checkRegisterPayload p with
    | .ok fee =>
      if (r.configs ctx.sender).active then none
      else some ⟨Function.update r.configs ctx.sender (registeredView p fee ctx.blockNumber),
        (r.count + 1) % 2 ^ 64⟩
    | .error _ => none
  | .register (.error _), _ => none
  | .update (.ok p), r =>
    match checkUpdatePayload p with
    | .ok fee =>
      if (r.configs ctx.sender).active then
        some ⟨Function.update r.configs ctx.sender (updatedView (r.configs ctx.sender) p fee), r.count⟩
      else none
    | .error _ => none
  | .update (.error _), _ => none
  | .deregister, r =>
    if (r.configs ctx.sender).active then
      some ⟨Function.update r.configs ctx.sender { r.configs ctx.sender with active := false },
        r.count⟩
    else none

/-- **What a step of the map does**: a registration of a payload that passes its checks for an
inactive gateway, an update whose checks pass for an active one, or a deregistration of an active
one, each with its configuration and count. -/
theorem Registry.step_cases {ctx : Context} {a : GatewayAction} {r r' : Registry}
    (h : Registry.step ctx a r = some r') :
    (∃ p fee, a = .register (.ok p) ∧ checkRegisterPayload p = .ok fee ∧
      (r.configs ctx.sender).active = false ∧
      r' = ⟨Function.update r.configs ctx.sender (registeredView p fee ctx.blockNumber),
        (r.count + 1) % 2 ^ 64⟩) ∨
    (∃ p fee, a = .update (.ok p) ∧ checkUpdatePayload p = .ok fee ∧
      (r.configs ctx.sender).active = true ∧
      r' = ⟨Function.update r.configs ctx.sender (updatedView (r.configs ctx.sender) p fee),
        r.count⟩) ∨
    (a = .deregister ∧ (r.configs ctx.sender).active = true ∧
      r' = ⟨Function.update r.configs ctx.sender { r.configs ctx.sender with active := false },
        r.count⟩) := by
  cases a with
  | register payload =>
    cases payload with
    | error e => cases h
    | ok p =>
      simp only [Registry.step] at h
      split at h
      case h_1 fee hcheck =>
        split at h
        case isTrue => cases h
        case isFalse hactive =>
          cases h
          exact .inl ⟨p, fee, rfl, hcheck, by simpa using hactive, rfl⟩
      case h_2 => cases h
  | update payload =>
    cases payload with
    | error e => cases h
    | ok p =>
      simp only [Registry.step] at h
      split at h
      case h_1 fee hcheck =>
        split at h
        case isTrue hactive =>
          cases h
          exact .inr (.inl ⟨p, fee, rfl, hcheck, hactive, rfl⟩)
        case isFalse => cases h
      case h_2 => cases h
  | deregister =>
    simp only [Registry.step] at h
    split at h
    case isTrue hactive =>
      cases h
      exact .inr (.inr ⟨rfl, hactive, rfl⟩)
    case isFalse => cases h

/-- A registration the map accepts adds one to its count; the other actions leave it. -/
theorem Registry.count_step {ctx : Context} {a : GatewayAction} {r r' : Registry}
    (h : Registry.step ctx a r = some r') :
    r'.count = if a.isRegister then (r.count + 1) % 2 ^ 64 else r.count := by
  rcases Registry.step_cases h with ⟨p, fee, rfl, -, -, rfl⟩ | ⟨p, fee, rfl, -, -, rfl⟩ | ⟨rfl, -, rfl⟩
  all_goals rfl

/-- A step of the map changes the sender's configuration only. -/
theorem Registry.configs_step_of_ne {ctx : Context} {a : GatewayAction} {r r' : Registry}
    (h : Registry.step ctx a r = some r') {b : Address} (hb : b ≠ ctx.sender) :
    r'.configs b = r.configs b := by
  rcases Registry.step_cases h with ⟨p, fee, -, -, -, rfl⟩ | ⟨p, fee, -, -, -, rfl⟩ | ⟨-, -, rfl⟩
  all_goals exact Function.update_of_ne hb _ _

/-- The checks of an update pass exactly when each given field passes its own: an endpoint of at
most `MaxEndpointLength` bytes, kinds that pass `checkKinds`, a valid policy, and a decimal fee
amount, which is then the fee; zero when left out. -/
theorem checkUpdatePayload_eq_ok (p : UpdateGatewayPayload) (fee : ℤ) :
    checkUpdatePayload p = .ok fee ↔
      (p.endpoint ≠ "" → (Text.utf8 p.endpoint).length ≤ maxEndpointLength) ∧
      (p.supportedKinds.length > 0 → checkKinds p.supportedKinds = .ok ()) ∧
      (p.feePolicy ≠ "" → validFeePolicy p.feePolicy = true) ∧
      (if p.feeAmount = "" then fee = 0 else parseFeeAmount p.feeAmount = .ok fee) := by
  simp only [checkUpdatePayload, except_bind_unit_eq_ok, except_ite_eq_ok, except_throw,
    reduceCtorEq, imp_false, not_and, not_lt, Bool.not_eq_true', Bool.not_eq_false]
  -- the fee amount: parsed when given, zero when left out
  by_cases h : p.feeAmount = ""
  · simp only [h, ne_eq, not_true_eq_false, if_false, if_true, except_pure, Except.ok.injEq]
    rw [@eq_comm ℤ 0 fee]
  · simp only [h, ne_eq, not_false_eq_true, if_true, if_false]

/-- An update that leaves the fee amount out does not read the fee. -/
theorem updatedView_of_feeAmount_empty (v : GatewayView) {p : UpdateGatewayPayload}
    (h : p.feeAmount = "") (fee fee' : ℤ) : updatedView v p fee = updatedView v p fee' := by
  simp [updatedView, h]

/-! ## Runs of the map -/

/-- The active flag of `b` after actions, from `v`: a registration by `b` sets it, a deregistration
by `b` clears it, and every other action leaves it. -/
def activeAfter (b : Address) (v : Bool) (acts : List (Context × GatewayAction)) : Bool :=
  acts.foldl (fun v act =>
    if act.1.sender = b then
      match act.2 with
      | .register _ => true
      | .deregister => false
      | .update _ => v
    else v) v

/-- A run of the map that ends is a first step that is accepted and a run of the rest. -/
theorem Registry.foldlM_cons_eq_some {act : Context × GatewayAction}
    {acts : List (Context × GatewayAction)} {r r' : Registry}
    (h : (act :: acts).foldlM (fun r act => Registry.step act.1 act.2 r) r = some r') :
    ∃ r₁, Registry.step act.1 act.2 r = some r₁ ∧
      acts.foldlM (fun r act => Registry.step act.1 act.2 r) r₁ = some r' := by
  simpa only [List.foldlM_cons, Option.bind_eq_bind, Option.bind_eq_some_iff] using h

/-- A step of the map sets the active flag as `activeAfter` says. -/
theorem Registry.active_step {ctx : Context} {a : GatewayAction} {r r' : Registry}
    (h : Registry.step ctx a r = some r') (b : Address) :
    (r'.configs b).active = activeAfter b (r.configs b).active [(ctx, a)] := by
  by_cases hb : ctx.sender = b
  case neg => simp [activeAfter, Registry.configs_step_of_ne h (Ne.symm hb), hb]
  case pos =>
    subst hb
    rcases Registry.step_cases h with ⟨p, fee, rfl, -, -, rfl⟩ | ⟨p, fee, rfl, -, -, rfl⟩ | ⟨rfl, -, rfl⟩
    all_goals simp [activeAfter, registeredView, updatedView]

/-- **The active flag over a run of the map** is the one `activeAfter` computes. -/
theorem Registry.active_foldlM (b : Address) :
    ∀ {acts : List (Context × GatewayAction)} {r r' : Registry},
      acts.foldlM (fun r act => Registry.step act.1 act.2 r) r = some r' →
      (r'.configs b).active = activeAfter b (r.configs b).active acts
  | [], _, _, h => by
    cases h
    rfl
  | act :: acts, _, _, h => by
    obtain ⟨r₁, hstep, hrest⟩ := Registry.foldlM_cons_eq_some h
    rw [Registry.active_foldlM b hrest, Registry.active_step hstep b]
    rfl

/-- A run of the map in which `b` sends no action leaves `b`'s configuration. -/
theorem Registry.configs_foldlM_of_ne {b : Address} :
    ∀ {acts : List (Context × GatewayAction)} {r r' : Registry},
      acts.foldlM (fun r act => Registry.step act.1 act.2 r) r = some r' →
      (∀ act ∈ acts, act.1.sender ≠ b) → r'.configs b = r.configs b
  | [], _, _, h, _ => by
    cases h
    rfl
  | act :: acts, _, _, h, hb => by
    obtain ⟨r₁, hstep, hrest⟩ := Registry.foldlM_cons_eq_some h
    rw [Registry.configs_foldlM_of_ne hrest fun a ha => hb a (List.mem_cons_of_mem act ha),
      Registry.configs_step_of_ne hstep (Ne.symm (hb act List.mem_cons_self))]

/-! ## The handler refines the map -/

/-- A state holds a registry, for the addresses of `A`: their configurations are what the reads
return, and the count is the count word. -/
def Refines (keccak256 : List UInt8 → Hash) (A : List Address) (s : StateDB) (r : Registry) : Prop :=
  (∀ b ∈ A, view keccak256 s b = r.configs b) ∧ readGatewayCount keccak256 s = r.count

/-- The registry a state holds: its configurations and its count. -/
def registryOf (keccak256 : List UInt8 → Hash) (s : StateDB) : Registry :=
  ⟨view keccak256 s, readGatewayCount keccak256 s⟩

theorem refines_registryOf (keccak256 : List UInt8 → Hash) (A : List Address) (s : StateDB) :
    Refines keccak256 A s (registryOf keccak256 s) :=
  ⟨fun _ _ => rfl, rfl⟩

section Step

variable {keccak256 : List UInt8 → Hash} {A : List Address}
  (hslots : GatewaySlotsDistinct keccak256 A) {ctx : Context} (hsender : ctx.sender ∈ A)
  {s s' : StateDB} {r : Registry}
include hslots hsender

omit hslots hsender in
/-- The configurations after an action that changed the sender's alone. -/
theorem refines_update_configs (hR : Refines keccak256 A s r) {v : GatewayView}
    (hview : ∀ b ∈ A, view keccak256 s' b = if b = ctx.sender then v else view keccak256 s b) :
    ∀ b ∈ A, view keccak256 s' b = Function.update r.configs ctx.sender v b := by
  intro b hb
  rw [hview b hb, Function.update_apply]
  split
  case isTrue => rfl
  case isFalse => exact hR.1 b hb

/-- **One successful action is a step of the map**, from a related state to a related state. -/
theorem refines_step (hR : Refines keccak256 A s r) {act : GatewayAction} {x : Unit}
    (h : (handle keccak256 ctx act).run.run s = (.ok x, s')) :
    ∃ r', Registry.step ctx act r = some r' ∧ Refines keccak256 A s' r' := by
  -- the map's configuration of the sender is the one the state holds
  have hcfg : r.configs ctx.sender = view keccak256 s ctx.sender := (hR.1 _ hsender).symm
  cases act with
  | register payload =>
    obtain ⟨-, hactive, p, fee, rfl, hcheck, hview, hcount⟩ := view_handleRegister hslots hsender h
    refine ⟨⟨Function.update r.configs ctx.sender (registeredView p fee ctx.blockNumber),
      (r.count + 1) % 2 ^ 64⟩, ?_, refines_update_configs hR hview, by rw [hcount, hR.2]⟩
    simp only [Registry.step, hcheck, hcfg]
    exact if_neg (by simpa [view] using hactive)
  | update payload =>
    obtain ⟨hactive, p, fee, rfl, hfee, hview, hcount⟩ := view_handleUpdate hslots hsender h
    obtain ⟨-, p', fee', hp, he, hkinds, hpolicy, hfee', -⟩ := handleUpdate_ok keccak256 h
    cases hp
    -- the fee the map reads: the parsed one when given, zero when left out
    have hcheck : checkUpdatePayload p = .ok (if p.feeAmount = "" then 0 else fee) := by
      rw [checkUpdatePayload_eq_ok]
      refine ⟨he, hkinds, hpolicy, ?_⟩
      by_cases hf : p.feeAmount = ""
      · simp [hf]
      · simp only [hf, if_false]
        exact hfee hf
    have hview' : ∀ b ∈ A, view keccak256 s' b = if b = ctx.sender then
        updatedView (view keccak256 s ctx.sender) p (if p.feeAmount = "" then 0 else fee)
        else view keccak256 s b := by
      intro b hb
      rw [hview b hb]
      split
      case isTrue heq =>
        subst heq
        by_cases hf : p.feeAmount = ""
        · exact updatedView_of_feeAmount_empty _ hf _ _
        · simp only [hf, if_false]
      case isFalse => rfl
    refine ⟨⟨Function.update r.configs ctx.sender
      (updatedView (view keccak256 s ctx.sender) p (if p.feeAmount = "" then 0 else fee)), r.count⟩,
      ?_, refines_update_configs hR hview', by rw [hcount, hR.2]⟩
    simp only [Registry.step, hcheck, hcfg]
    exact if_pos (by simpa [view] using hactive)
  | deregister =>
    obtain ⟨hactive, hview, hcount⟩ := view_handleDeregister hslots hsender h
    refine ⟨⟨Function.update r.configs ctx.sender { view keccak256 s ctx.sender with active := false },
      r.count⟩, ?_, refines_update_configs hR fun b hb => ?_, by rw [hcount, hR.2]⟩
    case refine_2 =>
      rw [hview b hb]
      split
      case isTrue heq => rw [heq]
      case isFalse => rfl
    simp only [Registry.step, hcfg]
    exact if_pos (by simpa [view] using hactive)

end Step

/-! ## A registration, a deregistration and a second registration -/

/-- A state in which `a` is a registered agent that holds `GatewayRelay`, as capability bit 0. -/
def relayAgentState (keccak256 : List UInt8 → Hash) (a : Address) : StateDB :=
  Capability.writeBitmap keccak256
    (Capability.writeNameBit keccak256 (Agent.writeRegisteredFlag keccak256 StateDB.empty a)
      capabilityName 0) a 1#256

/-- A registration with one kind of 32 bytes and a fee amount of `-5`. -/
def relayPayload : RegisterGatewayPayload :=
  ⟨"https://relay.example", ["abcdefghijklmnopqrstuvwxyz012345"], 100000, "fixed", "-5"⟩

/-- `0xA` registers `relayPayload` at block 7, deregisters, and registers it again. -/
def reregisterRun : List (Context × GatewayAction) :=
  [(⟨0xA#256, 0, 7⟩, .register (.ok relayPayload)), (⟨0xA#256, 0, 7⟩, .deregister),
    (⟨0xA#256, 0, 7⟩, .register (.ok relayPayload))]

/-- The state after the first registration. -/
def relayState₁ : StateDB :=
  registerWrites Agent.agentTestHash (relayAgentState Agent.agentTestHash 0xA#256) 0xA#256
    relayPayload (-5) 7

/-- The state after the deregistration. -/
def relayState₂ : StateDB :=
  writeActive Agent.agentTestHash relayState₁ 0xA#256 false

/-- The state after the second registration. -/
def relayState₃ : StateDB :=
  registerWrites Agent.agentTestHash relayState₂ 0xA#256 relayPayload (-5) 7

theorem relay_slotsDistinct : GatewaySlotsDistinct Agent.agentTestHash [0xA#256] :=
  gatewaySlotsDistinct_of_nodup (by decide +kernel)

/-- With this hash, the words of `0xA` and `0xB0` have distinct slots. -/
theorem relayPair_slotsDistinct : GatewaySlotsDistinct Agent.agentTestHash [0xA#256, 0xB0#256] :=
  gatewaySlotsDistinct_of_nodup (by decide +kernel)

theorem relay_checkRegisterPayload : checkRegisterPayload relayPayload = .ok (-5) := by
  decide

/-- Each action of `reregisterRun` succeeds, and the run ends in `relayState₃`. -/
theorem reregisterRun_succeeds :
    (handle Agent.agentTestHash ⟨0xA#256, 0, 7⟩ (.register (.ok relayPayload))).run.run
        (relayAgentState Agent.agentTestHash 0xA#256) = (.ok (), relayState₁) ∧
      (handle Agent.agentTestHash ⟨0xA#256, 0, 7⟩ .deregister).run.run relayState₁ =
        (.ok (), relayState₂) ∧
      (handle Agent.agentTestHash ⟨0xA#256, 0, 7⟩ (.register (.ok relayPayload))).run.run
        relayState₂ = (.ok (), relayState₃) := by
  have hA : (0xA#256 : Address) ∈ [0xA#256] := List.mem_singleton_self _
  have hcap₀ : requireGatewayCapability Agent.agentTestHash
      (relayAgentState Agent.agentTestHash 0xA#256) 0xA#256 = .ok () := by
    decide +kernel
  have hactive₀ : readActive Agent.agentTestHash (relayAgentState Agent.agentTestHash 0xA#256)
      0xA#256 = false := by
    decide
  -- the first registration leaves an active gateway, which the deregistration clears
  have hactive₁ : readActive Agent.agentTestHash relayState₁ 0xA#256 = true := by
    have hv := view_registerWrites relay_slotsDistinct hA (relayAgentState Agent.agentTestHash 0xA#256)
      7 relay_checkRegisterPayload hA
    rw [if_pos rfl] at hv
    exact congrArg GatewayView.active hv
  have hactive₂ : readActive Agent.agentTestHash relayState₂ 0xA#256 = false := by
    have hv := view_writeActive relay_slotsDistinct hA relayState₁ false hA
    rw [if_pos rfl] at hv
    exact congrArg GatewayView.active hv
  -- the gateway writes leave the agent and capability registries, so the check still passes
  have hframe : OnlyStorageOf gatewayRegistryAddress (relayAgentState Agent.agentTestHash 0xA#256)
      relayState₂ :=
    (onlyStorageOf_registerWrites _ _ _ _ _).trans (onlyStorageOf_writeActive _ _ _)
  have hcap₂ : requireGatewayCapability Agent.agentTestHash relayState₂ 0xA#256 = .ok () := by
    rw [requireGatewayCapability_congr (hframe.storage_of_ne (by decide))
      (hframe.storage_of_ne (by decide)), hcap₀]
  exact ⟨run_handleRegister Agent.agentTestHash hcap₀ hactive₀ relay_checkRegisterPayload,
    run_handleDeregister Agent.agentTestHash hactive₁,
    run_handleRegister Agent.agentTestHash hcap₂ hactive₂ relay_checkRegisterPayload⟩

section Run

variable {keccak256 : List UInt8 → Hash} {A : List Address}
  (hslots : GatewaySlotsDistinct keccak256 A)
include hslots

/-- **A run refines the map's run of the actions it kept**: the map accepts each of them, and ends
in the registry the state holds. -/
theorem refines_runWith (acts : List (Context × GatewayAction))
    (hacts : ∀ act ∈ acts, act.1.sender ∈ A) {s : StateDB} {r : Registry}
    (hR : Refines keccak256 A s r) :
    ∃ r', (keptWith (handle keccak256) s acts).foldlM (fun r act => Registry.step act.1 act.2 r) r =
      some r' ∧ Refines keccak256 A (runWith (handle keccak256) s acts) r' := by
  refine Simulation.run_simulates (applyWith (handle keccak256)) (succeedsWith (handle keccak256))
    (fun act r => Registry.step act.1 act.2 r) (Refines keccak256 A) acts ?_ ?_ hR
  · -- a kept action ends where its successful run ends
    intro act hact s r hR hok
    obtain ⟨s', hrun, happly⟩ := applyWith_of_succeeds _ hok
    rw [happly]
    exact refines_step hslots (hacts act hact) hR hrun
  · exact fun act _ s hfail => applyWith_of_not_succeeds _ hfail

/-- **The count word counts the kept registrations**, as a `uint64`. -/
theorem readGatewayCount_runWith (acts : List (Context × GatewayAction))
    (hacts : ∀ act ∈ acts, act.1.sender ∈ A) (s : StateDB) :
    readGatewayCount keccak256 (runWith (handle keccak256) s acts) =
      (readGatewayCount keccak256 s +
        (keptWith (handle keccak256) s acts).countP (fun act => act.2.isRegister)) % 2 ^ 64 := by
  obtain ⟨r', hrun, hR'⟩ := refines_runWith hslots acts hacts (refines_registryOf keccak256 A s)
  have hcount := Simulation.foldlM_count Registry.count (fun act => act.2.isRegister) (2 ^ 64)
    ?_ _ hrun
  · -- the count word is a `uint64`
    have hlt : readGatewayCount keccak256 (runWith (handle keccak256) s acts) < 2 ^ 64 := by
      rw [readGatewayCount_eq]
      exact Nat.mod_lt _ (by positivity)
    rw [← hR'.2, Nat.mod_eq_of_lt hlt] at hcount
    exact hcount
  · -- a registration adds one, the other actions nothing
    intro act r r' hstep
    rw [Registry.count_step hstep]
    split
    case isTrue => rw [Nat.mod_mod]
    case isFalse => rw [Nat.add_zero]

/-- **A run of gateway actions refines the map of configurations**: the map accepts every action
the run kept, in order, and ends in the configurations and the count the run's state holds. -/
theorem gateway_runs_refine_registry (acts : List (Context × GatewayAction))
    (hacts : ∀ act ∈ acts, act.1.sender ∈ A) (s : StateDB) :
    ∃ r', (keptWith (handle keccak256) s acts).foldlM (fun r act => Registry.step act.1 act.2 r)
        (registryOf keccak256 s) = some r' ∧
      (∀ b ∈ A, view keccak256 (runWith (handle keccak256) s acts) b = r'.configs b) ∧
      readGatewayCount keccak256 (runWith (handle keccak256) s acts) = r'.count :=
  refines_runWith hslots acts hacts (refines_registryOf keccak256 A s)

omit hslots in
theorem gateway_runs_refine_registry_reregisterRun :
    ∃ r', (keptWith (handle Agent.agentTestHash) (relayAgentState Agent.agentTestHash 0xA#256)
        reregisterRun).foldlM (fun r act => Registry.step act.1 act.2 r)
        (registryOf Agent.agentTestHash (relayAgentState Agent.agentTestHash 0xA#256)) = some r' ∧
      (∀ b ∈ [0xA#256], view Agent.agentTestHash (runWith (handle Agent.agentTestHash)
        (relayAgentState Agent.agentTestHash 0xA#256) reregisterRun) b = r'.configs b) ∧
      readGatewayCount Agent.agentTestHash (runWith (handle Agent.agentTestHash)
        (relayAgentState Agent.agentTestHash 0xA#256) reregisterRun) = r'.count :=
  gateway_runs_refine_registry relay_slotsDistinct reregisterRun (by decide) _

/-- **No action of another address changes a configuration**: an address that sent none of the
kept actions of a run has the configuration it had. -/
theorem gateway_config_isolation (acts : List (Context × GatewayAction))
    (hacts : ∀ act ∈ acts, act.1.sender ∈ A) (s : StateDB) {b : Address} (hb : b ∈ A)
    (hnone : ∀ act ∈ keptWith (handle keccak256) s acts, act.1.sender ≠ b) :
    view keccak256 (runWith (handle keccak256) s acts) b = view keccak256 s b := by
  obtain ⟨r', hrun, hR'⟩ := refines_runWith hslots acts hacts (refines_registryOf keccak256 A s)
  rw [hR'.1 b hb, Registry.configs_foldlM_of_ne hrun hnone]
  rfl

omit hslots in
theorem gateway_config_isolation_reregisterRun :
    view Agent.agentTestHash (runWith (handle Agent.agentTestHash)
        (relayAgentState Agent.agentTestHash 0xA#256) reregisterRun) 0xB0#256 =
      view Agent.agentTestHash (relayAgentState Agent.agentTestHash 0xA#256) 0xB0#256 := by
  have hsenders : ∀ act ∈ reregisterRun, act.1.sender ≠ 0xB0#256 := by decide
  exact gateway_config_isolation relayPair_slotsDistinct reregisterRun (by decide) _ (by decide)
    fun act hact => hsenders act ((Simulation.kept_sublist _ _ _ _).subset hact)

/-- **The active flag is the last kept registration or deregistration**: after a run, a gateway is
active as `activeAfter` computes it from its flag before and the actions the run kept. -/
theorem gateway_active_after_run (acts : List (Context × GatewayAction))
    (hacts : ∀ act ∈ acts, act.1.sender ∈ A) (s : StateDB) {b : Address} (hb : b ∈ A) :
    readActive keccak256 (runWith (handle keccak256) s acts) b =
      activeAfter b (readActive keccak256 s b) (keptWith (handle keccak256) s acts) := by
  obtain ⟨r', hrun, hR'⟩ := refines_runWith hslots acts hacts (refines_registryOf keccak256 A s)
  have hflag := congrArg GatewayView.active (hR'.1 b hb)
  rw [Registry.active_foldlM b hrun] at hflag
  exact hflag

omit hslots in
theorem gateway_active_after_run_reregisterRun :
    readActive Agent.agentTestHash (runWith (handle Agent.agentTestHash)
        (relayAgentState Agent.agentTestHash 0xA#256) reregisterRun) 0xA#256 =
      activeAfter 0xA#256
        (readActive Agent.agentTestHash (relayAgentState Agent.agentTestHash 0xA#256) 0xA#256)
        (keptWith (handle Agent.agentTestHash) (relayAgentState Agent.agentTestHash 0xA#256)
          reregisterRun) :=
  gateway_active_after_run relay_slotsDistinct reregisterRun (by decide) _ (List.mem_singleton_self _)

end Run

/-- **A run of gateway actions writes the registry's storage and nothing else**: every balance,
nonce, code, log and every other account's storage is as it was. -/
theorem gateway_runs_write_only_registry (keccak256 : List UInt8 → Hash)
    (acts : List (Context × GatewayAction)) (s : StateDB) :
    OnlyStorageOf gatewayRegistryAddress s (runWith (handle keccak256) s acts) := by
  induction acts generalizing s with
  | nil => exact OnlyStorageOf.refl _ s
  | cons act acts ih =>
    -- the first action is kept with a successful run's writes, or reverted
    have hstep : OnlyStorageOf gatewayRegistryAddress s (applyWith (handle keccak256) s act) :=
      commit_induction (OnlyStorageOf gatewayRegistryAddress s) (OnlyStorageOf.refl _ s)
        fun _ _ h => onlyStorageOf_handle h
    rw [runWith_cons]
    exact hstep.trans (ih _)

/-! ## The configuration round trip -/

theorem gateway_config_roundtrip (keccak256 : List UInt8 → Hash) (A : List Address)
    (hslots : GatewaySlotsDistinct keccak256 A) :
    -- a registration reads back: its kinds without those of more than 31 bytes, its fee amount as
    -- the absolute value modulo `2 ^ 256`
    (∀ (ctx : Context) (payload : Except String RegisterGatewayPayload) (s s' : StateDB) (x : Unit),
      ctx.sender ∈ A → (handleRegister keccak256 ctx payload).run.run s = (.ok x, s') →
      ∃ p fee, payload = .ok p ∧
        (if p.feeAmount = "" then fee = 0 else parseFeeAmount p.feeAmount = .ok fee) ∧
        readEndpoint keccak256 s' ctx.sender = p.endpoint ∧
        readSupportedKinds keccak256 s' ctx.sender = storedKinds p.supportedKinds ∧
        readFeePolicy keccak256 s' ctx.sender = p.feePolicy ∧
        readFeeAmount keccak256 s' ctx.sender = fee.natAbs % 2 ^ 256) ∧
    -- an update replaces the fields it gives and keeps those it leaves out
    (∀ (ctx : Context) (payload : Except String UpdateGatewayPayload) (s s' : StateDB) (x : Unit),
      ctx.sender ∈ A → (handleUpdate keccak256 ctx payload).run.run s = (.ok x, s') →
      ∃ p fee, payload = .ok p ∧ (p.feeAmount ≠ "" → parseFeeAmount p.feeAmount = .ok fee) ∧
        view keccak256 s' ctx.sender = updatedView (view keccak256 s ctx.sender) p fee) ∧
    -- the count word counts the registrations a run kept, as a `uint64`
    (∀ (s : StateDB) (acts : List (Context × GatewayAction)), (∀ act ∈ acts, act.1.sender ∈ A) →
      readGatewayCount keccak256 (runWith (handle keccak256) s acts) =
        (readGatewayCount keccak256 s +
          (keptWith (handle keccak256) s acts).countP (fun act => act.2.isRegister)) % 2 ^ 64) := by
  refine ⟨fun ctx payload s s' x hsender h => ?_, fun ctx payload s s' x hsender h => ?_,
    fun s acts hacts => readGatewayCount_runWith hslots acts hacts s⟩
  · obtain ⟨-, -, p, fee, hp, hcheck, hview, -⟩ := view_handleRegister hslots hsender h
    have hfee := ((checkRegisterPayload_eq_ok p fee).mp hcheck).2.2.2.2.2.2
    have hv := hview ctx.sender hsender
    rw [if_pos rfl] at hv
    simp only [view, registeredView, GatewayView.mk.injEq] at hv
    exact ⟨p, fee, hp, hfee, hv.1, hv.2.1, hv.2.2.2.1, hv.2.2.2.2.1⟩
  · obtain ⟨-, p, fee, hp, hfee, hview, -⟩ := view_handleUpdate hslots hsender h
    exact ⟨p, fee, hp, hfee, by rw [hview _ hsender, if_pos rfl]⟩

theorem gateway_config_roundtrip_reregisterRun :
    GatewaySlotsDistinct Agent.agentTestHash [0xA#256] ∧
      readGatewayCount Agent.agentTestHash (runWith (handle Agent.agentTestHash)
        (relayAgentState Agent.agentTestHash 0xA#256) reregisterRun) =
      (readGatewayCount Agent.agentTestHash (relayAgentState Agent.agentTestHash 0xA#256) +
        (keptWith (handle Agent.agentTestHash) (relayAgentState Agent.agentTestHash 0xA#256)
          reregisterRun).countP (fun act => act.2.isRegister)) % 2 ^ 64 :=
  ⟨relay_slotsDistinct, (gateway_config_roundtrip Agent.agentTestHash [0xA#256]
    relay_slotsDistinct).2.2 _ _ (by decide)⟩

/-- **A kind of 32 bytes is accepted and not read back**: the handler takes kinds up to
`MaxKindLength = 32` bytes, the storage codec keeps at most 31. Besides, a fee amount of `-5` reads
back as `5`, and one address registered twice is counted twice. -/
theorem gateway_register_drops_32_byte_kind :
    ((handle Agent.agentTestHash ⟨0xA#256, 0, 7⟩ (.register (.ok relayPayload))).run.run
        (relayAgentState Agent.agentTestHash 0xA#256)).1 = .ok () ∧
      readSupportedKinds Agent.agentTestHash (runWith (handle Agent.agentTestHash)
        (relayAgentState Agent.agentTestHash 0xA#256) (reregisterRun.take 1)) 0xA#256 = [] ∧
      readFeeAmount Agent.agentTestHash (runWith (handle Agent.agentTestHash)
        (relayAgentState Agent.agentTestHash 0xA#256) (reregisterRun.take 1)) 0xA#256 = 5 ∧
      readGatewayCount Agent.agentTestHash (runWith (handle Agent.agentTestHash)
        (relayAgentState Agent.agentTestHash 0xA#256) reregisterRun) = 2 ∧
      reregisterRun.all (fun act => act.1.sender = 0xA#256) = true := by
  obtain ⟨h₁, h₂, h₃⟩ := reregisterRun_succeeds
  have hA : (0xA#256 : Address) ∈ [0xA#256] := List.mem_singleton_self _
  -- the runs end where the successful actions end
  have hrun₁ : runWith (handle Agent.agentTestHash) (relayAgentState Agent.agentTestHash 0xA#256)
      (reregisterRun.take 1) = relayState₁ := by
    simp only [reregisterRun, List.take_succ_cons, List.take_zero, runWith_cons, applyWith]
    rw [commit_of_ok h₁]
    rfl
  have hrun₃ : runWith (handle Agent.agentTestHash) (relayAgentState Agent.agentTestHash 0xA#256)
      reregisterRun = relayState₃ := by
    simp only [reregisterRun, runWith_cons, applyWith]
    rw [commit_of_ok h₁, commit_of_ok h₂, commit_of_ok h₃]
    rfl
  have hv := view_registerWrites relay_slotsDistinct hA (relayAgentState Agent.agentTestHash 0xA#256)
    7 relay_checkRegisterPayload hA
  rw [if_pos rfl] at hv
  have hcount₀ : readGatewayCount Agent.agentTestHash
      (relayAgentState Agent.agentTestHash 0xA#256) = 0 := by
    decide
  refine ⟨by rw [h₁], ?_, ?_, ?_, by decide⟩
  · rw [hrun₁]
    have hkinds := congrArg GatewayView.supportedKinds hv
    rw [show readSupportedKinds Agent.agentTestHash relayState₁ 0xA#256 = _ from hkinds]
    simp [registeredView, storedKinds, sortStrings, relayPayload]
    decide
  · rw [hrun₁]
    exact congrArg GatewayView.feeAmount hv
  · rw [hrun₃, relayState₃, readGatewayCount_registerWrites relay_slotsDistinct hA _ 7
      relay_checkRegisterPayload, relayState₂, readGatewayCount_writeActive relay_slotsDistinct hA,
      relayState₁, readGatewayCount_registerWrites relay_slotsDistinct hA _ 7
      relay_checkRegisterPayload, hcount₀]
    rfl

end Gtos.Gateway
