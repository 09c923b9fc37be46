import Gtos.Lib.ExceptState
import Gtos.Sysaction.Run
import Gtos.Tns.Name

/-! # Registration of a name (`tns/handler.go`)

`handleRegister` checks the fee and the sender's balance, decodes the name, lower-cases it and
checks it, refuses an account that has a name and a name that is taken, and then moves the value
from the sender to the registry and writes both directions of the mapping. -/

namespace Gtos.Tns

open Gtos.Core Gtos.Sysaction ExceptStateM

/-- `ErrTNSAlreadyRegistered`. -/
def errTNSAlreadyRegistered : String := "tns: name already registered"

/-- `ErrTNSAccountHasName`. -/
def errTNSAccountHasName : String := "tns: account already has a registered name"

/-- `ErrTNSInsufficientFee`. -/
def errTNSInsufficientFee : String := "tns: registration fee not met"

/-- `registerPayload`. -/
structure RegisterPayload where
  /-- `Name`. -/
  name : String

/-- `strings.ToLower`: each rune through `unicode.ToLower`. -/
def toLower (u : UnicodeTables) (s : String) : String :=
  s.map u.toLower

/-- A text whose runes `unicode.ToLower` keeps is its own lower-case form. -/
theorem toLower_eq_self {u : UnicodeTables} {s : String} (h : ∀ c ∈ s.toList, u.toLower c = c) :
    toLower u s = s := by
  apply String.toList_injective
  rw [toLower, String.toList_map]
  conv_rhs => rw [← List.map_id s.toList]
  exact List.map_congr_left h

section Handle

variable {σ : Type} [VmStateDB σ] (keccak256 : List UInt8 → Hash) (u : UnicodeTables)

/-- `if err != nil { return err }`. -/
def propagate {α : Type} (r : Except String α) : HandlerM σ α :=
  match r with
  | .ok a => pure a
  | .error e => throw (.error e)

/-- The mutation phase of `handleRegister`: the value from the sender to the registry, then both
directions of the mapping. -/
def registerWrites (db : σ) (sender : Address) (value : ℤ) (nameHash : Hash) : σ :=
  let db := VmStateDB.subBalance db sender value
  let db := VmStateDB.addBalance db tnsRegistryAddress value
  writeMapping keccak256 db nameHash sender

/-- `handleRegister`. -/
def handleRegister (ctx : Context) (payload : Except String RegisterPayload) :
    HandlerM σ Unit := do
  let db ← get
  if ctx.value < tnsRegistrationFee then throw (.error errTNSInsufficientFee)
  if VmStateDB.getBalance db ctx.sender < ctx.value then throw (.error errTNSInsufficientFee)
  let p ← propagate payload
  propagate (validateName u (toLower u p.name))
  if hasName keccak256 db ctx.sender then throw (.error errTNSAccountHasName)
  if resolve keccak256 db (hashName keccak256 (toLower u p.name)) ≠ 0 then
    throw (.error errTNSAlreadyRegistered)
  set (registerWrites keccak256 db ctx.sender ctx.value (hashName keccak256 (toLower u p.name)))

/-- The handler of `TNS_REGISTER`, with `decode` the JSON decoder of its payload. -/
def tnsHandler (decode : List UInt8 → Except String RegisterPayload) : Handler σ where
  actions := [actionTNSRegister]
  handle ctx sa := handleRegister keccak256 u ctx (decode sa.payload)

end Handle

/-! ## What a successful registration checked and wrote -/

section Outcomes

variable {σ : Type} [VmStateDB σ] (keccak256 : List UInt8 → Hash) (u : UnicodeTables)
  {ctx : Context} {db db' : σ}

omit [VmStateDB σ] in
theorem propagate_ok {α : Type} {r : Except String α} {a : α}
    (h : (propagate r : HandlerM σ α).run.run db = (.ok a, db')) : r = .ok a ∧ db = db' := by
  cases r with
  | ok b =>
    cases h
    exact ⟨rfl, rfl⟩
  | error e => cases h

/-- A successful registration paid at least the fee from a balance that covers it, registered a
checked lower-cased name that was free, for an account without one, and wrote
`registerWrites`. -/
theorem handleRegister_ok {payload : Except String RegisterPayload}
    (h : (handleRegister keccak256 u ctx payload).run.run db = (.ok x, db')) :
    (tnsRegistrationFee : ℤ) ≤ ctx.value ∧ ctx.value ≤ VmStateDB.getBalance db ctx.sender ∧
      ∃ p, payload = .ok p ∧ validateName u (toLower u p.name) = .ok () ∧
        hasName keccak256 db ctx.sender = false ∧
        resolve keccak256 db (hashName keccak256 (toLower u p.name)) = 0 ∧
        db' = registerWrites keccak256 db ctx.sender ctx.value
          (hashName keccak256 (toLower u p.name)) := by
  unfold handleRegister at h
  rw [run_get_bind] at h
  obtain ⟨hfee, h⟩ := run_guard_eq_ok h
  obtain ⟨hbal, h⟩ := run_guard_eq_ok h
  obtain ⟨p, _, hp, h⟩ := run_bind_eq_ok h
  obtain ⟨rfl, rfl⟩ := propagate_ok hp
  obtain ⟨⟨⟩, _, hv, h⟩ := run_bind_eq_ok h
  obtain ⟨hvalid, rfl⟩ := propagate_ok hv
  obtain ⟨hname, h⟩ := run_guard_eq_ok h
  obtain ⟨htaken, h⟩ := run_guard_eq_ok h
  rw [run_set] at h
  cases h
  exact ⟨le_of_not_gt hfee, le_of_not_gt hbal, p, rfl, hvalid, by simpa using hname,
    not_not.mp htaken, rfl⟩

/-- A registration that passes its checks succeeds, with the registration's writes. -/
theorem run_handleRegister {p : RegisterPayload} (hfee : (tnsRegistrationFee : ℤ) ≤ ctx.value)
    (hbal : ctx.value ≤ VmStateDB.getBalance db ctx.sender)
    (hvalid : validateName u (toLower u p.name) = .ok ())
    (hname : hasName keccak256 db ctx.sender = false)
    (hfree : resolve keccak256 db (hashName keccak256 (toLower u p.name)) = 0) :
    (handleRegister keccak256 u ctx (.ok p)).run.run db =
      (.ok (), registerWrites keccak256 db ctx.sender ctx.value
        (hashName keccak256 (toLower u p.name))) := by
  unfold handleRegister
  rw [run_get_bind, if_neg (not_lt.mpr hfee), if_neg (not_lt.mpr hbal)]
  simp only [propagate, hvalid, hname, hfree, run_bind, run_pure, run_set, Bool.false_eq_true,
    if_false, ne_eq, not_true_eq_false]

end Outcomes

end Gtos.Tns
