import Gtos.AccountSigner.State
import Gtos.Sysaction.Execute
import Gtos.Lib.ExceptState

/-! # The `ACCOUNT_SET_SIGNER` action (`accountsigner/handler.go`, `accountsigner/types.go`)

An account configures its signer with a system action that carries a type name and a key text.
The handler refuses a value, normalises the signer, and stores the canonical type name and key
text in the sender's record. It does not ask whether the key derives the sender's address
(`handle_ok`): that is asked only when the account later sends or sponsors. -/

namespace Gtos.AccountSigner

open Gtos.Core Gtos.Sysaction

/-- `ErrInvalidPayload`. -/
def errInvalidPayload : String := "accountsigner: invalid signer payload"

/-- `ErrNonZeroValue`. -/
def errNonZeroValue : String := "accountsigner: account_set_signer does not accept value"

/-- `SetSignerPayload`. -/
structure SetSignerPayload where
  /-- `signerType`. -/
  signerType : String
  /-- `signerValue`. -/
  signerValue : String
  deriving DecidableEq, Repr

/-- `DecodePayload(sa, &payload)`: an empty payload leaves both fields empty; any other is
handed to the JSON decoder. -/
def decodeSetSignerPayload (decodeJson : List UInt8 → Except String SetSignerPayload)
    (sa : SysAction) : Except String SetSignerPayload :=
  if sa.payload = [] then .ok ⟨"", ""⟩ else decodeJson sa.payload

section Handle

variable {σ : Type} [VmStateDB σ] (b : SignerBackend)
  (decodeJson : List UInt8 → Except String SetSignerPayload)

/-- `Handle(ctx, sa)`. -/
def handle (ctx : Context) (sa : SysAction) : HandlerM σ Unit := do
  if ctx.value ≠ 0 then throw (.error errNonZeroValue)
  let .ok payload := decodeSetSignerPayload decodeJson sa | throw (.error errInvalidPayload)
  match normalizeSigner b payload.signerType payload.signerValue with
  | .error _ => throw (.error errInvalidPayload)
  | .ok (normalizedType, _, normalizedValue) =>
    modify fun s => set b s ctx.sender normalizedType.name normalizedValue

/-- The handler of `ACCOUNT_SET_SIGNER`. -/
def accountSignerHandler : Handler σ where
  actions := [actionAccountSetSigner]
  handle := handle b decodeJson

/-- A payload that normalises is stored for the sender, whatever address its key derives. -/
theorem handle_ok (ctx : Context) (sa : SysAction) (payload : SetSignerPayload) (s : σ)
    (t : SignerType) (pub : List UInt8) (text : String) (hvalue : ctx.value = 0)
    (hdecode : decodeSetSignerPayload decodeJson sa = .ok payload)
    (hnorm : normalizeSigner b payload.signerType payload.signerValue = .ok (t, pub, text)) :
    (handle b decodeJson ctx sa).run.run s = (.ok (), set b s ctx.sender t.name text) := by
  simp only [handle, hvalue, ne_eq, not_true_eq_false, if_false, hdecode, hnorm]
  rfl

end Handle

end Gtos.AccountSigner
