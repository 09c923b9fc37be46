import Gtos.Gateway.Refinement

/-! # The gateway query API (`gateway/api.go`)

`GetGatewayConfig` reports the configuration of a gateway, and `IsGatewayActive` its flag. A
gateway that is not active is reported only if its registration block is not zero: the API takes a
zero block for a gateway that never registered. So a gateway registered at block 0 and then
deregistered is reported as not found, although its configuration is still stored, while one
registered at any other block is reported with its flag cleared
(`getGatewayConfig_after_deregister`). -/

namespace Gtos.Gateway

open Gtos.Core Gtos.Sysaction

/-- `GatewayConfigResult`. -/
structure GatewayConfigResult where
  /-- `AgentAddress`. -/
  agentAddress : Address
  /-- `Endpoint`. -/
  endpoint : String
  /-- `SupportedKinds`. -/
  supportedKinds : List String
  /-- `MaxRelayGas`. -/
  maxRelayGas : ℕ
  /-- `FeePolicy`. -/
  feePolicy : String
  /-- `FeeAmount`: the decimal text of the amount. -/
  feeAmount : String
  /-- `Active`. -/
  active : Bool
  /-- `RegisteredAt`. -/
  registeredAt : ℕ
  deriving DecidableEq, Repr

section Api

variable {σ : Type} [VmStateDB σ] (keccak256 : List UInt8 → Hash)

/-- `GetGatewayConfig`: not found for an inactive gateway whose registration block reads zero. -/
def getGatewayConfig (db : σ) (agent : Address) : Except String GatewayConfigResult :=
  if !readActive keccak256 db agent ∧ readRegisteredAt keccak256 db agent = 0 then
    .error errGatewayNotFound
  else .ok
    { agentAddress := agent
      endpoint := readEndpoint keccak256 db agent
      supportedKinds := readSupportedKinds keccak256 db agent
      maxRelayGas := readMaxRelayGas keccak256 db agent
      feePolicy := readFeePolicy keccak256 db agent
      feeAmount := toString (readFeeAmount keccak256 db agent)
      active := readActive keccak256 db agent
      registeredAt := readRegisteredAt keccak256 db agent }

/-- `IsGatewayActive`. -/
def isGatewayActive (db : σ) (agent : Address) : Bool :=
  readActive keccak256 db agent

end Api

/-- The result that reports a configuration. -/
def GatewayView.toResult (v : GatewayView) (agent : Address) : GatewayConfigResult :=
  ⟨agent, v.endpoint, v.supportedKinds, v.maxRelayGas, v.feePolicy, toString v.feeAmount, v.active,
    v.registeredAt⟩

/-- `GetGatewayConfig` reports the configuration the reads return. -/
theorem getGatewayConfig_eq (keccak256 : List UInt8 → Hash) (s : StateDB) (agent : Address) :
    getGatewayConfig keccak256 s agent =
      if !(view keccak256 s agent).active ∧ (view keccak256 s agent).registeredAt = 0 then
        .error errGatewayNotFound
      else .ok ((view keccak256 s agent).toResult agent) := by
  simp only [getGatewayConfig, view, GatewayView.toResult]
  -- the two conditions differ only in how their instances were built
  congr

/-- **A registration followed by a deregistration**: `GetGatewayConfig` reports the registered
configuration with its flag cleared, unless the registration was at a block that reads as zero,
in which case it reports no gateway. -/
theorem getGatewayConfig_after_deregister {keccak256 : List UInt8 → Hash} {A : List Address}
    (hslots : GatewaySlotsDistinct keccak256 A) {ctx ctx' : Context} (hsender : ctx.sender ∈ A)
    (hsame : ctx'.sender = ctx.sender) {payload : Except String RegisterGatewayPayload}
    {s s₁ s₂ : StateDB} {x y : Unit}
    (h₁ : (handleRegister keccak256 ctx payload).run.run s = (.ok x, s₁))
    (h₂ : (handleDeregister keccak256 ctx').run.run s₁ = (.ok y, s₂)) :
    ∃ p fee, payload = .ok p ∧ checkRegisterPayload p = .ok fee ∧
      getGatewayConfig keccak256 s₂ ctx.sender =
        if ctx.blockNumber % 2 ^ 64 = 0 then .error errGatewayNotFound
        else
          .ok ({ registeredView p fee ctx.blockNumber with active := false }.toResult ctx.sender) := by
  obtain ⟨-, -, p, fee, hp, hcheck, hview₁, -⟩ := view_handleRegister hslots hsender h₁
  obtain ⟨-, hview₂, -⟩ := view_handleDeregister hslots (hsame ▸ hsender) h₂
  -- the configuration after both: the registered one, with the flag cleared
  have hv : view keccak256 s₂ ctx.sender =
      { registeredView p fee ctx.blockNumber with active := false } := by
    rw [hview₂ _ hsender, if_pos hsame.symm, hview₁ _ hsender, if_pos rfl]
  refine ⟨p, fee, hp, hcheck, ?_⟩
  rw [getGatewayConfig_eq, hv]
  simp [registeredView]

theorem getGatewayConfig_after_deregister_relayState₂ :
    ∃ p fee, (.ok relayPayload : Except String RegisterGatewayPayload) = .ok p ∧
      checkRegisterPayload p = .ok fee ∧
      getGatewayConfig Agent.agentTestHash relayState₂ 0xA#256 =
        if (7 : ℕ) % 2 ^ 64 = 0 then .error errGatewayNotFound
        else .ok ({ registeredView p fee 7 with active := false }.toResult 0xA#256) := by
  have h₁ : (handleRegister Agent.agentTestHash ⟨0xA#256, 0, 7⟩ (.ok relayPayload)).run.run
      (relayAgentState Agent.agentTestHash 0xA#256) = (.ok (), relayState₁) :=
    reregisterRun_succeeds.1
  have h₂ : (handleDeregister Agent.agentTestHash ⟨0xA#256, 0, 7⟩).run.run relayState₁ =
      (.ok (), relayState₂) :=
    reregisterRun_succeeds.2.1
  have hsender : (⟨0xA#256, 0, 7⟩ : Context).sender ∈ [0xA#256] := List.mem_singleton_self _
  obtain ⟨p, fee, hp, hcheck, hcfg⟩ :=
    getGatewayConfig_after_deregister relay_slotsDistinct hsender rfl h₁ h₂
  exact ⟨p, fee, hp, hcheck, hcfg⟩

end Gtos.Gateway
