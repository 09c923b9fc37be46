import Mathlib.Logic.Function.Basic
import Gtos.Core.Types
import Gtos.Lib.WriteLoop

/-! # The state interface and the state database (`core/vm`, `core/state`)

The state transition is written against the interface `vm.StateDB`; the block executors give it
either the state database itself (`*state.StateDB`, the serial path) or a write buffer over a
frozen copy of it (`WriteBufStateDB`, the parallel path).

* **`VmStateDB σ`** — the methods of `vm.StateDB` that the modelled code calls. A method that
  mutates the receiver returns the new value.
* **`StateDB`** — the state database as its readers see it: balance, nonce, code and storage of
  every account, and the logs recorded per transaction hash. Existence of accounts, the journal
  and the tries are left out: every reader of an account that does not exist gets the zero
  balance, nonce, code and storage the model returns.
* **`Writes`** — the net writes of one message: balance changes, which are added, and nonces,
  code, storage and created accounts, which overwrite. `StateDB.applyWrites` performs them; it is
  what `WriteBufStateDB.Merge` does (`Gtos.Parallel.merge_eq_applyWrites`). -/

namespace Gtos.Core

/-- `vm.StateDB`: the state methods the state transition and the natives it calls use. -/
class VmStateDB (σ : Type) where
  /-- `GetBalance`. -/
  getBalance : σ → Address → ℤ
  /-- `AddBalance`. -/
  addBalance : σ → Address → ℤ → σ
  /-- `SubBalance`. -/
  subBalance : σ → Address → ℤ → σ
  /-- `GetNonce`. -/
  getNonce : σ → Address → ℕ
  /-- `SetNonce`. -/
  setNonce : σ → Address → ℕ → σ
  /-- `GetCode`; `GetCodeSize` is its length. -/
  getCode : σ → Address → List UInt8
  /-- `SetCode`. -/
  setCode : σ → Address → List UInt8 → σ
  /-- `GetState`. -/
  getState : σ → Address → Hash → Hash
  /-- `SetState`. -/
  setState : σ → Address → Hash → Hash → σ
  /-- `CreateAccount`. -/
  createAccount : σ → Address → σ
  /-- `GetRefund`. -/
  getRefund : σ → ℕ
  /-- `AddLog`. -/
  addLog : σ → Log → σ

/-- `*state.StateDB` as its readers see it. -/
structure StateDB where
  /-- Balances. -/
  balance : Address → ℤ
  /-- Nonces. -/
  nonce : Address → ℕ
  /-- Contract code. -/
  code : Address → List UInt8
  /-- Storage, per account and slot. -/
  storage : Address → Hash → Hash
  /-- `thash`: the transaction hash set by `Prepare`, under which `AddLog` records. -/
  thash : Hash
  /-- `txIndex`, set by `Prepare`. -/
  txIndex : ℕ
  /-- `logs`: the logs recorded under each transaction hash. -/
  logs : Hash → List Log

/-- A byte stored in the last byte of a word reads back as itself. -/
@[simp] theorem ofNat_toNat_ofNat_byte (n : UInt8) :
    UInt8.ofNat (BitVec.ofNat 256 n.toNat).toNat = n := by
  rw [BitVec.toNat_ofNat, Nat.mod_eq_of_lt (Nat.lt_trans n.toNat_lt (by decide)), UInt8.ofNat_toNat]

namespace StateDB

/-- The state database of an empty trie: every account has zero balance, nonce, code and
storage, and no logs are recorded. -/
def empty : StateDB :=
  ⟨fun _ => 0, fun _ => 0, fun _ => [], fun _ _ => 0, 0, 0, fun _ => []⟩

/-- An empty state where only `a` holds a balance, of `v`. -/
def funded (a : Address) (v : ℤ) : StateDB :=
  { empty with balance := fun x => if x = a then v else 0 }

/-- `Prepare(thash, ti)`. -/
def prepare (s : StateDB) (thash : Hash) (ti : ℕ) : StateDB :=
  { s with thash := thash, txIndex := ti }

/-- `GetLogs(hash, blockHash)`: the logs recorded under `hash`, stamped with the block hash. -/
def getLogs (s : StateDB) (hash blockHash : Hash) : List Log :=
  (s.logs hash).map fun l => { l with blockHash := blockHash }

/-- `CreateAccount`: a fresh account, which keeps the balance of the one it replaces. -/
def createAccount (s : StateDB) (a : Address) : StateDB :=
  { s with
    nonce := Function.update s.nonce a 0
    code := Function.update s.code a []
    storage := Function.update s.storage a (fun _ => 0) }

instance : VmStateDB StateDB where
  getBalance s a := s.balance a
  addBalance s a x := { s with balance := Function.update s.balance a (s.balance a + x) }
  subBalance s a x := { s with balance := Function.update s.balance a (s.balance a - x) }
  getNonce s a := s.nonce a
  setNonce s a n := { s with nonce := Function.update s.nonce a n }
  getCode s a := s.code a
  setCode s a c := { s with code := Function.update s.code a c }
  getState s a k := s.storage a k
  setState s a k v := { s with storage := Function.update s.storage a (Function.update (s.storage a) k v) }
  createAccount := createAccount
  -- no code of the repository calls `AddRefund`, so the counter stays at zero
  getRefund _ := 0
  addLog s l :=
    let recorded := s.logs s.thash ++ [{ l with txHash := s.thash, txIndex := s.txIndex }]
    { s with logs := Function.update s.logs s.thash recorded }

@[simp] theorem getBalance_eq (s : StateDB) (a : Address) : VmStateDB.getBalance s a = s.balance a :=
  rfl

@[simp] theorem getNonce_eq (s : StateDB) (a : Address) : VmStateDB.getNonce s a = s.nonce a := rfl

@[simp] theorem getCode_eq (s : StateDB) (a : Address) : VmStateDB.getCode s a = s.code a := rfl

@[simp] theorem getState_eq (s : StateDB) (a : Address) (k : Hash) :
    VmStateDB.getState s a k = s.storage a k := rfl

@[simp] theorem balance_addBalance (s : StateDB) (a b : Address) (x : ℤ) :
    (VmStateDB.addBalance s a x).balance b = if b = a then s.balance a + x else s.balance b := by
  simp [VmStateDB.addBalance, Function.update_apply]

@[simp] theorem balance_subBalance (s : StateDB) (a b : Address) (x : ℤ) :
    (VmStateDB.subBalance s a x).balance b = if b = a then s.balance a - x else s.balance b := by
  simp [VmStateDB.subBalance, Function.update_apply]

@[simp] theorem nonce_setNonce (s : StateDB) (a b : Address) (n : ℕ) :
    (VmStateDB.setNonce s a n).nonce b = if b = a then n else s.nonce b := by
  simp [VmStateDB.setNonce, Function.update_apply]

@[simp] theorem balance_setState (s : StateDB) (a : Address) (k v : Hash) :
    (VmStateDB.setState s a k v).balance = s.balance := rfl

@[simp] theorem storage_setState_self (s : StateDB) (a : Address) (k v : Hash) :
    (VmStateDB.setState s a k v).storage a = Function.update (s.storage a) k v := by
  simp [VmStateDB.setState]

@[simp] theorem storage_setState_of_ne (s : StateDB) {a b : Address} (h : b ≠ a) (k v : Hash) :
    (VmStateDB.setState s a k v).storage b = s.storage b := by
  simp [VmStateDB.setState, Function.update_of_ne h]

/-- A loop of `SetState` on one account leaves the account's storage as the loop writes it. -/
theorem storage_foldl_setState {ι : Type} (is : List ι) (s : StateDB) (a : Address)
    (key val : ι → Hash) :
    (is.foldl (fun s i => VmStateDB.setState s a (key i) (val i)) s).storage a =
      WriteLoop.run key val is (s.storage a) := by
  induction is generalizing s with
  | nil => rfl
  | cons i is ih => rw [List.foldl_cons, ih, storage_setState_self, WriteLoop.run_cons]

/-- A loop of `SetState` on one account leaves every other account's storage alone. -/
theorem storage_foldl_setState_of_ne {ι : Type} (is : List ι) (s : StateDB) {a b : Address}
    (h : b ≠ a) (key val : ι → Hash) :
    (is.foldl (fun s i => VmStateDB.setState s a (key i) (val i)) s).storage b = s.storage b := by
  induction is generalizing s with
  | nil => rfl
  | cons i is ih => rw [List.foldl_cons, ih, storage_setState_of_ne _ h]

end StateDB

/-! ## The net writes of a message -/

/-- The net writes of one message on the accounts. -/
structure Writes where
  /-- The change of each balance. -/
  balanceDelta : Address → ℤ
  /-- The nonces written. -/
  nonces : Address → Option ℕ
  /-- The code written. -/
  codes : Address → Option (List UInt8)
  /-- The storage slots written. -/
  storage : Address → Hash → Option Hash
  /-- The accounts created afresh. -/
  created : Address → Bool

/-- Perform the writes: create the new accounts, add the balance changes, then overwrite the
nonces, code and storage written. -/
def StateDB.applyWrites (w : Writes) (s : StateDB) : StateDB :=
  { s with
    balance := fun a => s.balance a + w.balanceDelta a
    nonce := fun a => (w.nonces a).getD (if w.created a then 0 else s.nonce a)
    code := fun a => (w.codes a).getD (if w.created a then [] else s.code a)
    storage := fun a k => (w.storage a k).getD (if w.created a then 0 else s.storage a k) }

/-- Two messages' net writes that commute: no account's nonce or code, and no storage slot, is
written by both, and an account one of them creates afresh is written by the other only in its
balance. -/
structure Writes.Compatible (w₁ w₂ : Writes) : Prop where
  /-- No nonce is written by both. -/
  nonces : ∀ a, w₁.nonces a = none ∨ w₂.nonces a = none
  /-- No code is written by both. -/
  codes : ∀ a, w₁.codes a = none ∨ w₂.codes a = none
  /-- No slot is written by both. -/
  storage : ∀ a k, w₁.storage a k = none ∨ w₂.storage a k = none
  /-- The accounts the first creates keep the second's nonce, code and storage writes out. -/
  created_left : ∀ a, w₁.created a = true →
    w₂.nonces a = none ∧ w₂.codes a = none ∧ ∀ k, w₂.storage a k = none
  /-- The accounts the second creates keep the first's nonce, code and storage writes out. -/
  created_right : ∀ a, w₂.created a = true →
    w₁.nonces a = none ∧ w₁.codes a = none ∧ ∀ k, w₁.storage a k = none

/-- One overwritten field under two writes in either order: a value written by one only, or the
reset of an account created by either, or the value before. -/
theorem getD_ite_comm {β : Type} {o₁ o₂ : Option β} {c₁ c₂ : Bool} {z v : β}
    (hboth : o₁ = none ∨ o₂ = none) (h₁ : c₁ = true → o₂ = none) (h₂ : c₂ = true → o₁ = none) :
    o₂.getD (if c₂ then z else o₁.getD (if c₁ then z else v)) =
      o₁.getD (if c₁ then z else o₂.getD (if c₂ then z else v)) := by
  cases o₁ <;> cases o₂ <;> cases c₁ <;> cases c₂ <;> simp_all

/-- **Compatible writes commute**: performing them in either order gives the same database. -/
theorem StateDB.applyWrites_comm {w₁ w₂ : Writes} (h : w₁.Compatible w₂) (s : StateDB) :
    (s.applyWrites w₁).applyWrites w₂ = (s.applyWrites w₂).applyWrites w₁ := by
  simp only [StateDB.applyWrites, StateDB.mk.injEq]
  refine ⟨?_, ?_, ?_, ?_, trivial, trivial, trivial⟩
  · funext a
    -- balances only add up
    exact Int.add_right_comm _ _ _
  · funext a
    exact getD_ite_comm (h.nonces a) (fun hc => (h.created_left a hc).1)
      (fun hc => (h.created_right a hc).1)
  · funext a
    exact getD_ite_comm (h.codes a) (fun hc => (h.created_left a hc).2.1)
      (fun hc => (h.created_right a hc).2.1)
  · funext a k
    exact getD_ite_comm (h.storage a k) (fun hc => (h.created_left a hc).2.2 k)
      (fun hc => (h.created_right a hc).2.2 k)

/-- Two databases that hold the same accounts: the same balances, nonces, code and storage. -/
structure StateDB.SameAccounts (s t : StateDB) : Prop where
  /-- The balances agree. -/
  balance : s.balance = t.balance
  /-- The nonces agree. -/
  nonce : s.nonce = t.nonce
  /-- The code agrees. -/
  code : s.code = t.code
  /-- The storage agrees. -/
  storage : s.storage = t.storage

end Gtos.Core
