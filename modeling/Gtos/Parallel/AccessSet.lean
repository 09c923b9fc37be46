import Mathlib.Data.Finset.Basic
import Gtos.Common.Types

/-! # Access sets of transactions (`core/parallel/accessset.go`)

An `AccessSet` lists the accounts and storage slots a transaction may read and write. Go keeps
them as `map[common.Address]struct{}` and `map[common.Address]map[common.Hash]struct{}`; only
membership is ever asked of them, so they are modelled as finite sets of addresses and of
`(address, slot)` pairs. `AccessSet.conflicts` is `(*AccessSet).Conflicts`: a write of one set
meets a read or a write of the other, for accounts or for slots. -/

namespace Gtos.Parallel

/-- `AccessSet`: the storage locations a transaction reads and writes. -/
structure AccessSet where
  /-- `ReadAddrs`: accounts whose balance, nonce or code the transaction reads. -/
  readAddrs : Finset Address
  /-- `ReadSlots`: storage slots the transaction reads, keyed by owner. -/
  readSlots : Finset (Address × Hash)
  /-- `WriteAddrs`: accounts whose balance, nonce or code the transaction writes. -/
  writeAddrs : Finset Address
  /-- `WriteSlots`: storage slots the transaction writes, keyed by owner. -/
  writeSlots : Finset (Address × Hash)
  deriving Inhabited

namespace AccessSet

/-- `(*AccessSet).Conflicts`: the four loops of the source, each returning `true` at its first
hit, in the source's order. Each loop is decided by a search of the finite set it ranges over
(`Finset.decidableExistsAndFinset`), as the source iterates its map, and not over all addresses. -/
def conflicts (a b : AccessSet) : Bool :=
  -- a writes addr that b reads or writes
  @decide (∃ addr ∈ a.writeAddrs, addr ∈ b.readAddrs ∨ addr ∈ b.writeAddrs)
    Finset.decidableExistsAndFinset ||
  -- b writes addr that a reads or writes
  @decide (∃ addr ∈ b.writeAddrs, addr ∈ a.readAddrs ∨ addr ∈ a.writeAddrs)
    Finset.decidableExistsAndFinset ||
  -- a writes slot that b reads or writes
  @decide (∃ slot ∈ a.writeSlots, slot ∈ b.readSlots ∨ slot ∈ b.writeSlots)
    Finset.decidableExistsAndFinset ||
  -- b writes slot that a reads or writes
  @decide (∃ slot ∈ b.writeSlots, slot ∈ a.readSlots ∨ slot ∈ a.writeSlots)
    Finset.decidableExistsAndFinset

/-- **`Conflicts` is symmetric**: the loops come in mirrored pairs. -/
theorem conflicts_comm (a b : AccessSet) : a.conflicts b = b.conflicts a := by
  rw [Bool.eq_iff_iff]
  simp only [conflicts, Bool.or_eq_true, decide_eq_true_eq]
  -- each hit of one side is the mirrored loop's hit on the other
  constructor <;> rintro (((h | h) | h) | h) <;> simp only [h, or_true, true_or]

end AccessSet

end Gtos.Parallel
