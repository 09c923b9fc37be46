import Mathlib.Tactic.SplitIfs
import Gtos.Core.StateDB

/-! # The write buffer of a parallel transaction (`core/parallel/writebuf.go`)

`WriteBufStateDB` wraps a frozen copy of the state database. Reads are served from its own
overlay first and from the copy otherwise; writes go to the overlay only, and logs are kept
apart. Once the level's transactions have run, `Merge` applies each overlay to the real
database: created accounts first, then every balance as its *change* against the frozen copy,
then nonces, code and storage as absolute values.

The overlay maps of the source are insertion-ordered maps; `Merge` visits each key once per map
and the writes to distinct keys commute, so the model keeps them as functions to `Option`, and
`merge` performs each loop pointwise.

* **`merge_eq_applyWrites`** — merging a buffer performs its net writes
  (`WriteBuf.writes`): the balance changes against the frozen copy, the nonces, code and storage
  written and the created accounts.
* **`merge_comm`** — two buffers whose net writes are compatible (`Writes.Compatible`) merge to
  the same database in either order. Disjoint writes of each kind are not enough: an account one
  buffer creates is reset by its merge, over what the other buffer wrote there
  (`merge_created_written_order`).
* **`createAccount_reads_diverge`** — the overlay's `CreateAccount` only marks the account, so
  its reads still see the parent's nonce, code and storage, which `StateDB.CreateAccount`
  resets. -/

namespace Gtos.Parallel

open Gtos.Core

/-- `WriteBufStateDB`: an overlay over a frozen parent. -/
structure WriteBuf where
  /-- `parent`: the frozen copy of the state database. -/
  parent : StateDB
  /-- `balances`: absolute balances written. -/
  balances : Address → Option ℤ
  /-- `nonces`. -/
  nonces : Address → Option ℕ
  /-- `codes`. -/
  codes : Address → Option (List UInt8)
  /-- `storage`, per account and slot. -/
  storage : Address → Hash → Option Hash
  /-- `created`: the accounts `CreateAccount` was called on. -/
  created : Address → Bool
  /-- `txHash`, for log attribution. -/
  txHash : Hash
  /-- `txIndex`, for log attribution. -/
  txIndex : ℕ
  /-- `logs`: the logs the transaction emitted. -/
  logs : List Log

namespace WriteBuf

/-- `NewWriteBufStateDB(parent)`: an empty overlay. -/
def new (parent : StateDB) : WriteBuf where
  parent := parent
  balances _ := none
  nonces _ := none
  codes _ := none
  storage _ _ := none
  created _ := false
  txHash := 0
  txIndex := 0
  logs := []

/-- `Prepare(txHash, txIndex)`. -/
def prepare (b : WriteBuf) (txHash : Hash) (txIndex : ℕ) : WriteBuf :=
  { b with txHash := txHash, txIndex := txIndex }

/-- `getBalance`: the overlay's balance, else the parent's. -/
def getBalance (b : WriteBuf) (a : Address) : ℤ :=
  (b.balances a).getD (b.parent.balance a)

instance : VmStateDB WriteBuf where
  getBalance := getBalance
  addBalance b a x := { b with balances := Function.update b.balances a (some (b.getBalance a + x)) }
  subBalance b a x := { b with balances := Function.update b.balances a (some (b.getBalance a - x)) }
  getNonce b a := (b.nonces a).getD (b.parent.nonce a)
  setNonce b a n := { b with nonces := Function.update b.nonces a (some n) }
  getCode b a := (b.codes a).getD (b.parent.code a)
  setCode b a c := { b with codes := Function.update b.codes a (some c) }
  getState b a k := (b.storage a k).getD (b.parent.storage a k)
  setState b a k v :=
    { b with storage := Function.update b.storage a (Function.update (b.storage a) k (some v)) }
  -- the account only becomes created: reads of the overlay are not reset
  createAccount b a := { b with created := Function.update b.created a true }
  -- `AddRefund` and `SubRefund` are no-ops
  getRefund _ := 0
  addLog b l := { b with logs := b.logs ++ [{ l with txHash := b.txHash, txIndex := b.txIndex }] }

/-- The first loop of `Merge`: `dst.CreateAccount` for every created account. -/
def createAccounts (created : Address → Bool) (dst : StateDB) : StateDB :=
  { dst with
    nonce := fun a => if created a then 0 else dst.nonce a
    code := fun a => if created a then [] else dst.code a
    storage := fun a k => if created a then 0 else dst.storage a k }

/-- `Merge(dst)`: create the created accounts, apply each balance as its change against the
parent (`AddBalance` of a positive change, `SubBalance` of a negative one), then set the nonces,
code and storage written. -/
def merge (b : WriteBuf) (dst : StateDB) : StateDB :=
  let dst := createAccounts b.created dst
  { dst with
    balance := fun a =>
      match b.balances a with
      | some bal =>
        let delta := bal - b.parent.balance a
        if 0 < delta then dst.balance a + delta
        else if delta < 0 then dst.balance a - -delta
        else dst.balance a
      | none => dst.balance a
    nonce := fun a => (b.nonces a).getD (dst.nonce a)
    code := fun a => (b.codes a).getD (dst.code a)
    storage := fun a k => (b.storage a k).getD (dst.storage a k) }

/-- The net writes of a buffer: each balance written as its change against the parent. -/
def writes (b : WriteBuf) : Writes where
  balanceDelta a := ((b.balances a).map fun bal => bal - b.parent.balance a).getD 0
  nonces := b.nonces
  codes := b.codes
  storage := b.storage
  created := b.created

/-- **Merging a buffer performs its net writes.** -/
theorem merge_eq_applyWrites (b : WriteBuf) (dst : StateDB) :
    b.merge dst = dst.applyWrites b.writes := by
  simp only [merge, createAccounts, StateDB.applyWrites, writes]
  -- nonces, code and storage agree as they stand; the balances need the signed branches
  congr 1
  funext a
  cases b.balances a with
  | none => simp
  | some bal =>
    -- the two signed branches of `Merge` both add the change
    simp only [Option.map_some, Option.getD_some]
    split_ifs <;> omega

/-- A buffer's net change of a balance is its balance against its parent. -/
theorem balanceDelta_writes (b : WriteBuf) (a : Address) :
    b.writes.balanceDelta a = b.getBalance a - b.parent.balance a := by
  simp only [writes, getBalance]
  cases b.balances a <;> simp

/-- What a buffer wrote of an account's nonce, code and storage is what its merge leaves. -/
theorem written_merge (b : WriteBuf) (dst : StateDB) (a : Address) :
    (∀ n, b.nonces a = some n → (b.merge dst).nonce a = n) ∧
    (∀ c, b.codes a = some c → (b.merge dst).code a = c) ∧
    (∀ k v, b.storage a k = some v → (b.merge dst).storage a k = v) := by
  refine ⟨fun n hn => ?_, fun c hc => ?_, fun k v hv => ?_⟩ <;> simp [merge, *]

/-! ## Two buffers merged in either order -/

/-- **Merging two compatible buffers commutes.** For two buffers over the same parent `P` whose
net writes are compatible, merging them into any database in either order gives the same
database; every balance moves by the sum of the two buffers' changes against `P`, and every nonce,
code and slot one of them wrote ends with the value it wrote. -/
theorem merge_comm {P : StateDB} {b₁ b₂ : WriteBuf} (hp₁ : b₁.parent = P) (hp₂ : b₂.parent = P)
    (h : b₁.writes.Compatible b₂.writes) (dst : StateDB) :
    b₂.merge (b₁.merge dst) = b₁.merge (b₂.merge dst) ∧
    (∀ a, (b₂.merge (b₁.merge dst)).balance a =
      dst.balance a + (b₁.getBalance a - P.balance a) + (b₂.getBalance a - P.balance a)) ∧
    (∀ b ∈ [b₁, b₂], ∀ a,
      (∀ n, b.nonces a = some n → (b₂.merge (b₁.merge dst)).nonce a = n) ∧
      (∀ c, b.codes a = some c → (b₂.merge (b₁.merge dst)).code a = c) ∧
      (∀ k v, b.storage a k = some v → (b₂.merge (b₁.merge dst)).storage a k = v)) := by
  have hcomm : b₂.merge (b₁.merge dst) = b₁.merge (b₂.merge dst) := by
    rw [merge_eq_applyWrites, merge_eq_applyWrites, merge_eq_applyWrites, merge_eq_applyWrites]
    exact StateDB.applyWrites_comm h dst
  refine ⟨hcomm, fun a => ?_, fun b hb a => ?_⟩
  · rw [merge_eq_applyWrites, merge_eq_applyWrites]
    simp only [StateDB.applyWrites, balanceDelta_writes, hp₁, hp₂]
  · -- the buffer merged last wins; the other is merged last in the other order
    rcases List.mem_pair.mp hb with rfl | rfl
    · rw [hcomm]
      exact written_merge b _ a
    · exact written_merge b _ a

/-- A buffer that only creates the account `0x1`, over the empty state. -/
def createdBuf : WriteBuf := VmStateDB.createAccount (new StateDB.empty) 1

/-- A buffer that only writes `1` to slot `0` of the account `0x1`, over the empty state. -/
def storedBuf : WriteBuf := VmStateDB.setState (new StateDB.empty) 1 0 1

/-- **Disjoint writes of each kind do not make merges commute.** The two buffers write no nonce or
code, only one of them writes storage and only the other creates an account; yet the creation
merged after the write resets the slot the other buffer wrote. -/
theorem merge_created_written_order :
    (∀ a, createdBuf.nonces a = none ∧ storedBuf.nonces a = none ∧ createdBuf.codes a = none ∧
      storedBuf.codes a = none ∧ (∀ k, createdBuf.storage a k = none) ∧
      storedBuf.created a = false) ∧
    (storedBuf.merge (createdBuf.merge StateDB.empty)).storage 1 0 = 1 ∧
    (createdBuf.merge (storedBuf.merge StateDB.empty)).storage 1 0 = 0 := by
  refine ⟨fun a => ?_, ?_, ?_⟩
  · simp [createdBuf, storedBuf, new, VmStateDB.createAccount, VmStateDB.setState]
  · decide
  · decide

/-- A buffer that only credits `5` to the account `0x2`, over the empty state. -/
def creditedBuf : WriteBuf := VmStateDB.addBalance (new StateDB.empty) 2 5

theorem merge_comm_stored_credited :
    storedBuf.writes.Compatible creditedBuf.writes ∧
    (creditedBuf.merge (storedBuf.merge StateDB.empty) =
        storedBuf.merge (creditedBuf.merge StateDB.empty) ∧
      (∀ a, (creditedBuf.merge (storedBuf.merge StateDB.empty)).balance a =
        StateDB.empty.balance a + (storedBuf.getBalance a - StateDB.empty.balance a) +
          (creditedBuf.getBalance a - StateDB.empty.balance a)) ∧
      (∀ b ∈ [storedBuf, creditedBuf], ∀ a,
        (∀ n, b.nonces a = some n →
          (creditedBuf.merge (storedBuf.merge StateDB.empty)).nonce a = n) ∧
        (∀ c, b.codes a = some c →
          (creditedBuf.merge (storedBuf.merge StateDB.empty)).code a = c) ∧
        (∀ k v, b.storage a k = some v →
          (creditedBuf.merge (storedBuf.merge StateDB.empty)).storage a k = v))) := by
  have hcompat : storedBuf.writes.Compatible creditedBuf.writes := by
    constructor <;> intros <;>
      simp_all [storedBuf, creditedBuf, writes, new, VmStateDB.setState, VmStateDB.addBalance]
  exact ⟨hcompat, @merge_comm StateDB.empty storedBuf creditedBuf rfl rfl hcompat StateDB.empty⟩

/-! ## `CreateAccount` on the overlay -/

/-- **The overlay's `CreateAccount` does not reset the account.** After `CreateAccount(a)` on a
fresh overlay of `P`, the overlay still reads the parent's nonce, code and storage of `a`, where
the state database reads a zero nonce, no code and zero storage. -/
theorem createAccount_reads_diverge (P : StateDB) (a : Address) (k : Hash) :
    (VmStateDB.getNonce (VmStateDB.createAccount (new P) a) a,
        VmStateDB.getCode (VmStateDB.createAccount (new P) a) a,
        VmStateDB.getState (VmStateDB.createAccount (new P) a) a k) =
      (P.nonce a, P.code a, P.storage a k) ∧
    (VmStateDB.getNonce (VmStateDB.createAccount P a) a,
        VmStateDB.getCode (VmStateDB.createAccount P a) a,
        VmStateDB.getState (VmStateDB.createAccount P a) a k) =
      (0, [], 0) := by
  constructor
  · rfl
  · simp [VmStateDB.createAccount, StateDB.createAccount]

end WriteBuf

end Gtos.Parallel
