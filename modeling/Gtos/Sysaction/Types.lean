import Gtos.Core.StateDB

/-! # System actions (`sysaction/types.go`, `sysaction/codec.go`)

A system action is a message to `SystemActionAddress` whose data is a JSON envelope: an action
name and a raw JSON payload. `sysaction.Execute` decodes the envelope and hands the payload to
the handler registered for the name.

A handler runs against the state and ends in one of three ways: it succeeds, it returns an error
(the state transition then reverts the action's writes and fails the message), or it raises a Go
runtime panic, which no caller recovers. `HandlerM σ` keeps the three apart.

JSON decoding is code outside the model: the envelope and each payload type have a decoder
that the model takes as given. -/

namespace Gtos.Sysaction

open Gtos.Core

/-- How a handler stops early. -/
inductive Fault
  /-- A returned error. -/
  | error (reason : String)
  /-- A Go runtime panic. -/
  | panic (reason : String)
  deriving DecidableEq, Repr

/-- A handler's computations over a state of type `σ`. -/
abbrev HandlerM (σ : Type) := ExceptT Fault (StateM σ)

/-- `sysaction.Context`: what a handler knows of the message. -/
structure Context where
  /-- `From`. -/
  sender : Address
  /-- `Value`. -/
  value : ℤ
  /-- `BlockNumber`. -/
  blockNumber : ℕ
  deriving DecidableEq, Repr

/-- `SysAction`: the action name and its raw JSON payload. -/
structure SysAction where
  /-- `Action`. -/
  action : String
  /-- `Payload`, empty when absent. -/
  payload : List UInt8
  deriving DecidableEq, Repr

/-- `ActionDelegationMarkUsed`. -/
def actionDelegationMarkUsed : String := "DELEGATION_MARK_USED"

/-- `ActionDelegationRevoke`. -/
def actionDelegationRevoke : String := "DELEGATION_REVOKE"

/-- `ActionAccountSetSigner`. -/
def actionAccountSetSigner : String := "ACCOUNT_SET_SIGNER"

/-- `ActionValidatorRegister`. -/
def actionValidatorRegister : String := "VALIDATOR_REGISTER"

/-- `ActionValidatorWithdraw`. -/
def actionValidatorWithdraw : String := "VALIDATOR_WITHDRAW"

/-- `ActionValidatorEnterMaintenance`. -/
def actionValidatorEnterMaintenance : String := "VALIDATOR_ENTER_MAINTENANCE"

/-- `ActionValidatorExitMaintenance`. -/
def actionValidatorExitMaintenance : String := "VALIDATOR_EXIT_MAINTENANCE"

/-- `ActionReferralBind`. -/
def actionReferralBind : String := "REFERRAL_BIND"

/-- `ActionAgentRegister`. -/
def actionAgentRegister : String := "AGENT_REGISTER"

/-- `ActionAgentUpdateProfile`. -/
def actionAgentUpdateProfile : String := "AGENT_UPDATE_PROFILE"

/-- `ActionAgentIncreaseStake`. -/
def actionAgentIncreaseStake : String := "AGENT_INCREASE_STAKE"

/-- `ActionAgentDecreaseStake`. -/
def actionAgentDecreaseStake : String := "AGENT_DECREASE_STAKE"

/-- `ActionAgentSuspend`. -/
def actionAgentSuspend : String := "AGENT_SUSPEND"

/-- `ActionAgentUnsuspend`. -/
def actionAgentUnsuspend : String := "AGENT_UNSUSPEND"

/-- `ActionTNSRegister`. -/
def actionTNSRegister : String := "TNS_REGISTER"

/-- `ActionGatewayRegister`. -/
def actionGatewayRegister : String := "GATEWAY_REGISTER"

/-- `ActionGatewayUpdate`. -/
def actionGatewayUpdate : String := "GATEWAY_UPDATE"

/-- `ActionGatewayDeregister`. -/
def actionGatewayDeregister : String := "GATEWAY_DEREGISTER"

end Gtos.Sysaction
