import Gtos.Sysaction.Types

/-! # Dispatch of system actions (`sysaction/codec.go`, `sysaction/executor.go`)

`Execute` decodes the envelope of a message's data and runs the handler registered for the
action. The handlers register themselves when their packages are initialised, and a second
handler for one action is a panic at start-up, so each action has at most one handler; the model
keeps the registry as the list of handlers and finds an action's handler by search.

`Execute` charges `SysActionGas` whatever the outcome; the model returns it on success and leaves
it to the caller on an error, as `TransitionDb` charges it there. A handler's panic is not
recovered here nor in `TransitionDb`. -/

namespace Gtos.Sysaction

open Gtos.Core

/-- `ErrInvalidSysAction`. -/
def errInvalidSysAction : String := "invalid system action payload"

/-- `Decode(data)`: the envelope, with `decodeJson` the JSON decoder, which returns its error
text on a failure. -/
def decode (decodeJson : List UInt8 → Except String SysAction) (data : List UInt8) :
    Except String SysAction :=
  if data = [] then .error (errInvalidSysAction ++ ": empty data") else
  match decodeJson data with
  | .error e => .error (errInvalidSysAction ++ ": " ++ e)
  | .ok sa =>
    if sa.action = "" then .error (errInvalidSysAction ++ ": missing action field") else .ok sa

/-- `Handler`: the actions it declares and its `Handle`. -/
structure Handler (σ : Type) where
  /-- `Actions()`. -/
  actions : List String
  /-- `Handle(ctx, sa)`. -/
  handle : Context → SysAction → HandlerM σ Unit

/-- The handler registered for an action. -/
def lookup {σ : Type} (registry : List (Handler σ)) (action : String) : Option (Handler σ) :=
  registry.find? fun h => action ∈ h.actions

/-- `Execute(msg, db, blockNumber, config)`: decode, build the context, and run the action's
handler; an action without one is an error. -/
def execute {σ : Type} (registry : List (Handler σ)) (decodeJson : List UInt8 → Except String SysAction)
    (msg : Message) (blockNumber : ℕ) : HandlerM σ ℕ := do
  match decode decodeJson msg.data with
  | .error e => throw (.error e)
  | .ok sa =>
    let ctx : Context := ⟨msg.sender, msg.amount, blockNumber⟩
    match lookup registry sa.action with
    | some h =>
      h.handle ctx sa
      return sysActionGas
    | none => throw (.error ("unknown system action: \"" ++ sa.action ++ "\""))

/-- The state after an action as `TransitionDb` keeps it: it snapshots the state before
`Execute` and reverts to the snapshot when the action fails. -/
def commit {σ α : Type} (x : HandlerM σ α) (s : σ) : σ :=
  match x.run.run s with
  | (.ok _, s') => s'
  | (.error _, _) => s

theorem commit_of_ok {σ α : Type} {x : HandlerM σ α} {s s' : σ} {a : α}
    (h : x.run.run s = (.ok a, s')) : commit x s = s' := by
  rw [commit, h]

theorem commit_of_error {σ α : Type} {x : HandlerM σ α} {s s' : σ} {e : Fault}
    (h : x.run.run s = (.error e, s')) : commit x s = s := by
  rw [commit, h]

/-- A property that the state before the action has and that every successful run establishes
holds of the committed state. -/
theorem commit_induction {σ α : Type} {x : HandlerM σ α} {s : σ} (P : σ → Prop) (hs : P s)
    (hok : ∀ a s', x.run.run s = (.ok a, s') → P s') : P (commit x s) := by
  rcases hr : x.run.run s with ⟨_ | a, s'⟩
  · rw [commit_of_error hr]
    exact hs
  · rw [commit_of_ok hr]
    exact hok a s' hr

/-- A decoded action runs its handler on the message's sender, value and block number: the
handler's outcome is `Execute`'s. -/
theorem execute_eq_handle {σ : Type} (registry : List (Handler σ))
    (decodeJson : List UInt8 → Except String SysAction) (msg : Message) (blockNumber : ℕ)
    (sa : SysAction) (h : Handler σ) (hdecode : decode decodeJson msg.data = .ok sa)
    (hlookup : lookup registry sa.action = some h) :
    execute registry decodeJson msg blockNumber =
      (h.handle ⟨msg.sender, msg.amount, blockNumber⟩ sa >>= fun _ => pure sysActionGas) := by
  simp only [execute, hdecode, hlookup]

end Gtos.Sysaction
