import Gtos.Capability.State
import Gtos.Sysaction.Execute
import Gtos.Lib.ExceptState

/-! # The capability actions (`capability/handler.go`)

Three system actions manage the capability bits, each reserved to holders of the Registrar bit
(bit 0): `CAPABILITY_REGISTER` binds a new name to the next bit, and `CAPABILITY_GRANT` and
`CAPABILITY_REVOKE` set and clear a bit of a target's bitmap, for a bit below the count of bits
handed out.

Each action's payload is JSON; `CapabilityAction` is an action with the payload its decoder
returned. A payload that fails to decode is an error, which the state transition reverts like every
other. The target is read with `common.HexToAddress`, which accepts every text. -/

namespace Gtos.Capability

open Gtos.Core Gtos.Sysaction

/-- `registrarBit`. -/
def registrarBit : UInt8 := 0

/-- `ActionCapabilityRegister`. -/
def actionCapabilityRegister : String := "CAPABILITY_REGISTER"

/-- `ActionCapabilityGrant`. -/
def actionCapabilityGrant : String := "CAPABILITY_GRANT"

/-- `ActionCapabilityRevoke`. -/
def actionCapabilityRevoke : String := "CAPABILITY_REVOKE"

/-- A capability action with its decoded payload. -/
inductive CapabilityAction
  /-- `CAPABILITY_REGISTER`: the name. -/
  | register (name : String)
  /-- `CAPABILITY_GRANT`: the target and the bit. -/
  | grant (target : Address) (bit : UInt8)
  /-- `CAPABILITY_REVOKE`: the target and the bit. -/
  | revoke (target : Address) (bit : UInt8)
  deriving DecidableEq, Repr

section Handle

variable {σ : Type} [VmStateDB σ] (keccak256 : List UInt8 → Hash)

/-- `handleRegister`. -/
def handleRegister (ctx : Context) (name : String) : HandlerM σ Unit := do
  let db ← get
  if !hasCapability keccak256 db ctx.sender registrarBit then throw (.error errCapabilityRegistrar)
  match registerCapabilityName keccak256 db name with
  | .ok (_, db) => set db
  | .error e => throw (.error e)

/-- `handleGrant`. -/
def handleGrant (ctx : Context) (target : Address) (bit : UInt8) : HandlerM σ Unit := do
  let db ← get
  if !hasCapability keccak256 db ctx.sender registrarBit then throw (.error errCapabilityRegistrar)
  if bit ≥ readBitCount keccak256 db then throw (.error errCapabilityBitUnregistered)
  set (grantCapability keccak256 db target bit)

/-- `handleRevoke`. -/
def handleRevoke (ctx : Context) (target : Address) (bit : UInt8) : HandlerM σ Unit := do
  let db ← get
  if !hasCapability keccak256 db ctx.sender registrarBit then throw (.error errCapabilityRegistrar)
  if bit ≥ readBitCount keccak256 db then throw (.error errCapabilityBitUnregistered)
  set (revokeCapability keccak256 db target bit)

/-- `Handle(ctx, sa)` on a decoded action. -/
def handle (ctx : Context) : CapabilityAction → HandlerM σ Unit
  | .register name => handleRegister keccak256 ctx name
  | .grant target bit => handleGrant keccak256 ctx target bit
  | .revoke target bit => handleRevoke keccak256 ctx target bit

end Handle

/-! ## What a successful action did -/

section Effects

variable {keccak256 : List UInt8 → Hash} {ctx : Context}

open ExceptStateM

theorem handleRegister_ok {name : String} {s s' : StateDB} {u : Unit}
    (h : (handleRegister keccak256 ctx name).run.run s = (.ok u, s')) :
    ∃ bit, registerCapabilityName keccak256 s name = .ok (bit, s') := by
  unfold handleRegister at h
  rw [run_get_bind] at h
  obtain ⟨-, h⟩ := run_guard_eq_ok h
  split at h
  · rename_i bit db hreg
    rw [run_set] at h
    cases h
    exact ⟨bit, hreg⟩
  · exact absurd h (run_throw_ne_ok _ _ _ _)

theorem handleGrant_ok {target : Address} {bit : UInt8} {s s' : StateDB} {u : Unit}
    (h : (handleGrant keccak256 ctx target bit).run.run s = (.ok u, s')) :
    bit < readBitCount keccak256 s ∧ s' = grantCapability keccak256 s target bit := by
  unfold handleGrant at h
  rw [run_get_bind] at h
  obtain ⟨-, h⟩ := run_guard_eq_ok h
  obtain ⟨hbit, h⟩ := run_guard_eq_ok h
  rw [run_set] at h
  cases h
  exact ⟨UInt8.not_le.mp hbit, rfl⟩

theorem handleRevoke_ok {target : Address} {bit : UInt8} {s s' : StateDB} {u : Unit}
    (h : (handleRevoke keccak256 ctx target bit).run.run s = (.ok u, s')) :
    bit < readBitCount keccak256 s ∧ s' = revokeCapability keccak256 s target bit := by
  unfold handleRevoke at h
  rw [run_get_bind] at h
  obtain ⟨-, h⟩ := run_guard_eq_ok h
  obtain ⟨hbit, h⟩ := run_guard_eq_ok h
  rw [run_set] at h
  cases h
  exact ⟨UInt8.not_le.mp hbit, rfl⟩

end Effects

end Gtos.Capability
