import Gtos.Parallel.AccessSet
import Gtos.Core.StateDB

/-! # The static access set of a message (`core/parallel/analyze.go`, `executor.go`)

`AnalyzeTx` names the accounts and slots a message may touch, from the message alone and the
code present at the start of the block: the sender always, the sponsor with its nonce slot, the
destination, and for every kind of message a read or a write of `LVMSerialAddress`. Contract
creations, calls to code, system actions and slash-indicator submissions *write* that
pseudo-account; plain transfers and privacy transactions *read* it. So a message that writes it
conflicts with every other message (`conflicts_of_lvmSerial`), and the level scheduler runs it
alone.

`hasCoinbaseSender` and `serialLevels` are the executor's fallback: when the coinbase pays for a
message, every message gets a level of its own. -/

namespace Gtos.Parallel

open Gtos.Core

/-- `AnalyzeTx(msg, statedb)`: the access set of a message, against the code present in
`statedb`. -/
def analyzeTx (env : ChainEnv) (msg : Message) (statedb : StateDB) : AccessSet :=
  let sender := msg.sender
  -- all messages write the sender; a sponsor is read and written, with its nonce slot
  let (reads, writes, writeSlots) : Finset Address × Finset Address × Finset (Address × Hash) :=
    if msg.sponsor ≠ 0 then
      ({msg.sponsor}, {msg.sponsor, sender},
        {(sponsorRegistryAddress, env.sponsorNonceSlot msg.sponsor)})
    else (∅, {sender}, ∅)
  if isPrivacyTxType msg.txType then
    let (reads, writes) := match msg.toAddr with
      | some toAddr => (insert toAddr reads, insert toAddr writes)
      | none => (reads, writes)
    ⟨insert lvmSerialAddress (insert sender reads), ∅, insert privacyRouterAddress writes,
      writeSlots⟩
  else
    match msg.toAddr with
    | none =>
      -- a creation writes the contract it derives, and serialises with contract calls
      let contractAddr := env.createAddress sender msg.nonce
      ⟨insert contractAddr reads, ∅, insert lvmSerialAddress (insert contractAddr writes),
        writeSlots⟩
    | some toAddr =>
      if toAddr = systemActionAddress then
        let writes := insert lvmSerialAddress (insert validatorRegistryAddress writes)
        if env.isLeaseDeploy msg.data then
          let contractAddr := env.createAddress sender msg.nonce
          ⟨insert contractAddr reads, ∅,
            insert contractAddr (insert leaseRegistryAddress writes), writeSlots⟩
        else ⟨reads, ∅, writes, writeSlots⟩
      else if toAddr = checkpointSlashIndicatorAddress then
        ⟨insert validatorRegistryAddress reads, ∅,
          insert lvmSerialAddress (insert checkpointSlashIndicatorAddress writes), writeSlots⟩
      else
        -- a plain transfer, or a call to code present at the start of the block
        let writes := insert toAddr writes
        let writes := if statedb.code toAddr ≠ [] then insert lvmSerialAddress writes else writes
        ⟨insert lvmSerialAddress (insert toAddr reads), ∅, writes, writeSlots⟩

/-- `hasCoinbaseSender`: the coinbase sends one of the messages or sponsors it. -/
def hasCoinbaseSender (msgs : List Message) (coinbase : Address) : Bool :=
  msgs.any fun msg => msg.sender == coinbase || (msg.isSponsored && msg.sponsor == coinbase)

/-- `serialLevels(n)`: one level per message, in order. -/
def serialLevels (n : ℕ) : List (List ℕ) :=
  (List.range n).map fun i => [i]

/-- **Every message names `LVMSerialAddress`**: it reads or writes it. -/
theorem lvmSerial_mem_analyzeTx (env : ChainEnv) (msg : Message) (statedb : StateDB) :
    lvmSerialAddress ∈ (analyzeTx env msg statedb).readAddrs ∨
      lvmSerialAddress ∈ (analyzeTx env msg statedb).writeAddrs := by
  unfold analyzeTx
  split_ifs <;> (try split) <;> (try split_ifs) <;> simp

/-- **A message that writes `LVMSerialAddress` conflicts with every message.** -/
theorem conflicts_of_lvmSerial (env : ChainEnv) (msg msg' : Message) (statedb : StateDB)
    (h : lvmSerialAddress ∈ (analyzeTx env msg statedb).writeAddrs) :
    (analyzeTx env msg statedb).conflicts (analyzeTx env msg' statedb) = true := by
  simp only [AccessSet.conflicts, Bool.or_eq_true, decide_eq_true_eq]
  exact Or.inl (Or.inl (Or.inl ⟨_, h, lvmSerial_mem_analyzeTx env msg' statedb⟩))

/-- The fallback levels list the messages one by one. -/
theorem flatten_serialLevels (n : ℕ) : (serialLevels n).flatten = List.range n := by
  rw [serialLevels, ← List.flatMap_def, List.flatMap_singleton']

end Gtos.Parallel
