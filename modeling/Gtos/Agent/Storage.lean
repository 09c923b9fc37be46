import Mathlib.Data.Set.Function
import Gtos.Agent.Handler

/-! # The agent registry's storage, word by word

Every word the registry keeps is named by an `AgentKey`: a field of an agent's record, the count,
a slot of the list, or a word of an agent's metadata. Keccak-256 is assumed to have no collision
among the slots of the words of a set of addresses (`AgentSlotsDistinct`); under that assumption a
write to one word leaves every other word as it was (`keyed_setState`).

The ledger reads, for each address, its stake, status and registered flag, and the list. One lemma
per read says what it returns after a write to any word (`readStake_setState` and its
companions); each write of `agent/state.go` is a write to one word (`writeStake_eq` and its
companions); and each mutation phase of the handlers has a lemma saying what the ledger reads
after it (`registerWrites_effect`, `increaseWrites_effect`, `decreaseWrites_effect`). The writes
of the suspended flag and of the metadata leave the ledger as it was (`SameLedger`). -/

namespace Gtos.Agent

open Gtos.Core

/-! ## The registry's storage by key -/

/-- The four words of an agent's record. -/
inductive AgentField
  | stake
  | status
  | suspended
  | registered
  deriving DecidableEq, Repr

/-- The field name the slot of a word hashes. -/
def AgentField.name : AgentField → String
  | .stake => "stake"
  | .status => "status"
  | .suspended => "suspended"
  | .registered => "registered"

/-- A word of the registry, named by what it stores. -/
inductive AgentKey
  | agent (addr : Address) (field : AgentField)
  | count
  | list (i : ℕ)
  | metadataLen (addr : Address)
  | metadata (addr : Address) (j : ℕ)
  deriving DecidableEq, Repr

/-- The slot of each word. -/
def agentKeySlot (keccak256 : List UInt8 → Hash) : AgentKey → Hash
  | .agent addr field => agentSlot keccak256 addr field.name
  | .count => agentCountSlot keccak256
  | .list i => agentListSlot keccak256 i
  | .metadataLen addr => metadataLenSlot keccak256 addr
  | .metadata addr j => metadataChunkSlot keccak256 addr j

/-- The words of a registry whose agents are among `A`: their records and metadata (a URI of at
most `MaxURILength` bytes takes at most eight chunks), the count, and the list slots below
`A.length`. -/
@[reducible] def AgentKey.Within (A : List Address) : AgentKey → Prop
  | .agent addr _ => addr ∈ A
  | .count => True
  | .list i => i < A.length
  | .metadataLen addr => addr ∈ A
  | .metadata addr j => addr ∈ A ∧ j < AccountSigner.chunkCount maxURILength

/-- Keccak-256 has no collision among the slots of the words of `A`'s registry. -/
def AgentSlotsDistinct (keccak256 : List UInt8 → Hash) (A : List Address) : Prop :=
  Set.InjOn (agentKeySlot keccak256) {k | k.Within A}

/-- The words of the registry of `A`, listed. -/
def agentKeys (A : List Address) : List AgentKey :=
  A.flatMap (fun a => [AgentField.stake, .status, .suspended, .registered].map (.agent a) ++
    .metadataLen a :: (List.range (AccountSigner.chunkCount maxURILength)).map (.metadata a)) ++
    .count :: (List.range A.length).map .list

theorem mem_agentKeys {A : List Address} {k : AgentKey} (hk : k.Within A) : k ∈ agentKeys A := by
  simp only [agentKeys, List.mem_append, List.mem_flatMap, List.mem_map, List.mem_cons,
    List.mem_range]
  cases k with
  | agent a field => exact Or.inl ⟨a, hk, Or.inl ⟨field, by cases field <;> simp, rfl⟩⟩
  | count => exact Or.inr (Or.inl rfl)
  | list i => exact Or.inr (Or.inr ⟨i, hk, rfl⟩)
  | metadataLen a => exact Or.inl ⟨a, hk, Or.inr (Or.inl rfl)⟩
  | metadata a j => exact Or.inl ⟨a, hk.1, Or.inr (Or.inr ⟨j, hk.2, rfl⟩)⟩

/-- Distinct slots for the listed words give `AgentSlotsDistinct`: for a given hash function the
condition is a computation. -/
theorem agentSlotsDistinct_of_nodup {keccak256 : List UInt8 → Hash} {A : List Address}
    (h : ((agentKeys A).map (agentKeySlot keccak256)).Nodup) : AgentSlotsDistinct keccak256 A :=
  fun _ hk _ hk' heq => List.inj_on_of_nodup_map h (mem_agentKeys hk) (mem_agentKeys hk') heq

/-- The registry's storage, read by key. -/
def keyed (keccak256 : List UInt8 → Hash) (s : StateDB) (k : AgentKey) : Hash :=
  s.storage agentRegistryAddress (agentKeySlot keccak256 k)

section Keyed

variable {keccak256 : List UInt8 → Hash} {A : List Address}

/-- **A write by key.** Under `AgentSlotsDistinct`, writing the slot of one word of `A`'s
registry changes that word only. -/
theorem keyed_setState (hslots : AgentSlotsDistinct keccak256 A) {k k' : AgentKey}
    (hk : k.Within A) (hk' : k'.Within A) (s : StateDB) (v : Hash) :
    keyed keccak256 (VmStateDB.setState s agentRegistryAddress (agentKeySlot keccak256 k) v) k' =
      if k' = k then v else keyed keccak256 s k' := by
  rw [keyed, StateDB.storage_setState_self, Function.update_apply]
  exact if_congr ⟨fun h => hslots hk' hk h, fun h => h ▸ rfl⟩ rfl rfl

/-! Every access of `agent/state.go` is a read or a write of one key. -/

theorem readStake_eq (s : StateDB) (a : Address) :
    readStake keccak256 s a = (keyed keccak256 s (.agent a .stake)).toNat := rfl

theorem readStatus_eq (s : StateDB) (a : Address) :
    readStatus keccak256 s a = UInt8.ofNat (keyed keccak256 s (.agent a .status)).toNat := rfl

theorem readRegisteredFlag_eq (s : StateDB) (a : Address) :
    readRegisteredFlag keccak256 s a =
      decide ((keyed keccak256 s (.agent a .registered)).toNat % 256 ≠ 0) := rfl

theorem readAgentCount_eq (s : StateDB) :
    readAgentCount keccak256 s = (keyed keccak256 s .count).toNat % 2 ^ 64 := rfl

theorem readAgentAt_eq (s : StateDB) (i : ℕ) :
    readAgentAt keccak256 s i = keyed keccak256 s (.list i) := rfl

theorem writeStake_eq (s : StateDB) (a : Address) (x : ℤ) :
    writeStake keccak256 s a x = VmStateDB.setState s agentRegistryAddress
      (agentKeySlot keccak256 (.agent a .stake)) (BitVec.ofNat 256 x.natAbs) := rfl

theorem writeStatus_eq (s : StateDB) (a : Address) (t : AgentStatus) :
    writeStatus keccak256 s a t = VmStateDB.setState s agentRegistryAddress
      (agentKeySlot keccak256 (.agent a .status)) (BitVec.ofNat 256 t.toNat) := rfl

theorem writeSuspended_eq (s : StateDB) (a : Address) (b : Bool) :
    writeSuspended keccak256 s a b = VmStateDB.setState s agentRegistryAddress
      (agentKeySlot keccak256 (.agent a .suspended)) (if b then 1#256 else 0#256) := rfl

theorem writeRegisteredFlag_eq (s : StateDB) (a : Address) :
    writeRegisteredFlag keccak256 s a = VmStateDB.setState s agentRegistryAddress
      (agentKeySlot keccak256 (.agent a .registered)) 1#256 := rfl

theorem appendAgentToList_eq (s : StateDB) (a : Address) :
    appendAgentToList keccak256 s a =
      VmStateDB.setState
        (VmStateDB.setState s agentRegistryAddress
          (agentKeySlot keccak256 (.list (readAgentCount keccak256 s))) a)
        agentRegistryAddress (agentKeySlot keccak256 .count)
        (BitVec.ofNat 256 ((readAgentCount keccak256 s + 1) % 2 ^ 64)) := rfl

theorem writeMetadata_eq (s : StateDB) (a : Address) (uri : String) :
    writeMetadata keccak256 s a uri =
      (List.range (AccountSigner.chunkCount (Text.utf8 uri).length)).foldl
        (fun s j => VmStateDB.setState s agentRegistryAddress (agentKeySlot keccak256 (.metadata a j))
          (AccountSigner.chunkWord (AccountSigner.chunkBytes (Text.utf8 uri) j)))
        (VmStateDB.setState s agentRegistryAddress (agentKeySlot keccak256 (.metadataLen a))
          (BitVec.ofNat 256 ((Text.utf8 uri).length % 2 ^ 64))) := rfl

@[simp] theorem keyed_addBalance (s : StateDB) (a : Address) (x : ℤ) :
    keyed keccak256 (VmStateDB.addBalance s a x) = keyed keccak256 s := rfl

@[simp] theorem keyed_subBalance (s : StateDB) (a : Address) (x : ℤ) :
    keyed keccak256 (VmStateDB.subBalance s a x) = keyed keccak256 s := rfl

@[simp] theorem readStake_addBalance (s : StateDB) (a : Address) (x : ℤ) :
    readStake keccak256 (VmStateDB.addBalance s a x) = readStake keccak256 s := rfl

@[simp] theorem readStake_subBalance (s : StateDB) (a : Address) (x : ℤ) :
    readStake keccak256 (VmStateDB.subBalance s a x) = readStake keccak256 s := rfl

@[simp] theorem readStatus_addBalance (s : StateDB) (a : Address) (x : ℤ) :
    readStatus keccak256 (VmStateDB.addBalance s a x) = readStatus keccak256 s := rfl

@[simp] theorem readStatus_subBalance (s : StateDB) (a : Address) (x : ℤ) :
    readStatus keccak256 (VmStateDB.subBalance s a x) = readStatus keccak256 s := rfl

@[simp] theorem readRegisteredFlag_addBalance (s : StateDB) (a : Address) (x : ℤ) :
    readRegisteredFlag keccak256 (VmStateDB.addBalance s a x) = readRegisteredFlag keccak256 s := rfl

@[simp] theorem readRegisteredFlag_subBalance (s : StateDB) (a : Address) (x : ℤ) :
    readRegisteredFlag keccak256 (VmStateDB.subBalance s a x) = readRegisteredFlag keccak256 s := rfl

@[simp] theorem readAgentCount_addBalance (s : StateDB) (a : Address) (x : ℤ) :
    readAgentCount keccak256 (VmStateDB.addBalance s a x) = readAgentCount keccak256 s := rfl

@[simp] theorem readAgentCount_subBalance (s : StateDB) (a : Address) (x : ℤ) :
    readAgentCount keccak256 (VmStateDB.subBalance s a x) = readAgentCount keccak256 s := rfl

@[simp] theorem agentList_addBalance (s : StateDB) (a : Address) (x : ℤ) :
    agentList keccak256 (VmStateDB.addBalance s a x) = agentList keccak256 s := rfl

@[simp] theorem agentList_subBalance (s : StateDB) (a : Address) (x : ℤ) :
    agentList keccak256 (VmStateDB.subBalance s a x) = agentList keccak256 s := rfl

/-- The count after an append is the `uint64` successor of the count: the append writes the
count word last, whatever slot the list entry took. -/
theorem readAgentCount_appendAgentToList (s : StateDB) (a : Address) :
    readAgentCount keccak256 (appendAgentToList keccak256 s a) =
      (readAgentCount keccak256 s + 1) % 2 ^ 64 := by
  rw [readAgentCount_eq, appendAgentToList_eq, keyed, StateDB.storage_setState_self,
    Function.update_self, BitVec.toNat_ofNat]
  omega

end Keyed

/-! ## What the ledger reads after a write

The ledger reads three words of each address and the list. A write to a word of `A`'s registry
changes the read of that word only. -/

section Reads

variable {keccak256 : List UInt8 → Hash} {A : List Address}
  (hslots : AgentSlotsDistinct keccak256 A) {k : AgentKey} (hk : k.Within A) (s : StateDB) (v : Hash)
include hslots hk

theorem readStake_setState {b : Address} (hb : b ∈ A) :
    readStake keccak256 (VmStateDB.setState s agentRegistryAddress (agentKeySlot keccak256 k) v) b =
      if AgentKey.agent b .stake = k then v.toNat else readStake keccak256 s b := by
  rw [readStake_eq, keyed_setState hslots hk hb, readStake_eq]
  split <;> rfl

theorem readStatus_setState {b : Address} (hb : b ∈ A) :
    readStatus keccak256 (VmStateDB.setState s agentRegistryAddress (agentKeySlot keccak256 k) v) b =
      if AgentKey.agent b .status = k then UInt8.ofNat v.toNat else readStatus keccak256 s b := by
  rw [readStatus_eq, keyed_setState hslots hk hb, readStatus_eq]
  split <;> rfl

theorem readRegisteredFlag_setState {b : Address} (hb : b ∈ A) :
    readRegisteredFlag keccak256
        (VmStateDB.setState s agentRegistryAddress (agentKeySlot keccak256 k) v) b =
      if AgentKey.agent b .registered = k then decide (v.toNat % 256 ≠ 0)
      else readRegisteredFlag keccak256 s b := by
  rw [readRegisteredFlag_eq, keyed_setState hslots hk hb, readRegisteredFlag_eq]
  split <;> rfl

theorem readAgentCount_setState (hne : k ≠ .count) :
    readAgentCount keccak256 (VmStateDB.setState s agentRegistryAddress (agentKeySlot keccak256 k) v) =
      readAgentCount keccak256 s := by
  rw [readAgentCount_eq, keyed_setState hslots hk trivial, if_neg hne.symm, readAgentCount_eq]

/-- A write to a word that is neither the count nor a list slot leaves the list. -/
theorem agentList_setState (hcount : k ≠ .count) (hlist : ∀ i, k ≠ .list i)
    (hc : readAgentCount keccak256 s ≤ A.length) :
    agentList keccak256 (VmStateDB.setState s agentRegistryAddress (agentKeySlot keccak256 k) v) =
      agentList keccak256 s := by
  rw [agentList, agentList, readAgentCount_setState hslots hk s v hcount]
  refine List.map_congr_left fun i hi => ?_
  have hi' : i < A.length := lt_of_lt_of_le (List.mem_range.mp hi) hc
  rw [readAgentAt_eq, readAgentAt_eq, keyed_setState hslots hk hi', if_neg (hlist i).symm]

end Reads

/-! ## What each mutation phase does to the ledger -/

section Effects

variable {keccak256 : List UInt8 → Hash} {A : List Address}

/-- Two states with the same ledger for the addresses of `A`: stakes, statuses, flags, list and
balances. -/
structure SameLedger (keccak256 : List UInt8 → Hash) (A : List Address) (s s' : StateDB) : Prop where
  stake : ∀ b ∈ A, readStake keccak256 s' b = readStake keccak256 s b
  status : ∀ b ∈ A, readStatus keccak256 s' b = readStatus keccak256 s b
  registered : ∀ b ∈ A, readRegisteredFlag keccak256 s' b = readRegisteredFlag keccak256 s b
  list : agentList keccak256 s' = agentList keccak256 s
  balance : s'.balance = s.balance

theorem SameLedger.refl (s : StateDB) : SameLedger keccak256 A s s :=
  ⟨fun _ _ => rfl, fun _ _ => rfl, fun _ _ => rfl, rfl, rfl⟩

theorem SameLedger.trans {s₁ s₂ s₃ : StateDB} (h₁₂ : SameLedger keccak256 A s₁ s₂)
    (h₂₃ : SameLedger keccak256 A s₂ s₃) : SameLedger keccak256 A s₁ s₃ :=
  ⟨fun b hb => (h₂₃.stake b hb).trans (h₁₂.stake b hb),
    fun b hb => (h₂₃.status b hb).trans (h₁₂.status b hb),
    fun b hb => (h₂₃.registered b hb).trans (h₁₂.registered b hb),
    h₂₃.list.trans h₁₂.list, h₂₃.balance.trans h₁₂.balance⟩

@[simp] theorem length_agentList (s : StateDB) :
    (agentList keccak256 s).length = readAgentCount keccak256 s := by
  simp [agentList]

theorem SameLedger.readAgentCount_eq {s s' : StateDB} (h : SameLedger keccak256 A s s') :
    readAgentCount keccak256 s' = readAgentCount keccak256 s := by
  rw [← length_agentList, ← length_agentList, h.list]

variable (hslots : AgentSlotsDistinct keccak256 A)
include hslots

/-- A write to a word the ledger does not read: the suspended flag or a word of the metadata. -/
theorem sameLedger_setState {k : AgentKey} (hk : k.Within A)
    (hread : ∀ b, k ≠ .agent b .stake ∧ k ≠ .agent b .status ∧ k ≠ .agent b .registered)
    (hcount : k ≠ .count) (hlist : ∀ i, k ≠ .list i) (s : StateDB) (v : Hash)
    (hc : readAgentCount keccak256 s ≤ A.length) :
    SameLedger keccak256 A s
      (VmStateDB.setState s agentRegistryAddress (agentKeySlot keccak256 k) v) := by
  refine ⟨fun b hb => ?_, fun b hb => ?_, fun b hb => ?_, ?_, rfl⟩
  · rw [readStake_setState hslots hk s v hb, if_neg (hread b).1.symm]
  · rw [readStatus_setState hslots hk s v hb, if_neg (hread b).2.1.symm]
  · rw [readRegisteredFlag_setState hslots hk s v hb, if_neg (hread b).2.2.symm]
  · exact agentList_setState hslots hk s v hcount hlist hc

theorem sameLedger_writeSuspended {a : Address} (ha : a ∈ A) (s : StateDB) (b : Bool)
    (hc : readAgentCount keccak256 s ≤ A.length) :
    SameLedger keccak256 A s (writeSuspended keccak256 s a b) :=
  sameLedger_setState hslots (k := .agent a .suspended) ha (fun _ => by simp) (by simp) (by simp) s _ hc

/-- A loop of writes to chunks of `a`'s metadata leaves the ledger. -/
theorem sameLedger_foldl_metadata {a : Address} (ha : a ∈ A) (word : ℕ → Hash) (js : List ℕ)
    (hjs : ∀ j ∈ js, j < AccountSigner.chunkCount maxURILength) (s : StateDB)
    (hc : readAgentCount keccak256 s ≤ A.length) :
    SameLedger keccak256 A s (js.foldl (fun s j => VmStateDB.setState s agentRegistryAddress
      (agentKeySlot keccak256 (.metadata a j)) (word j)) s) := by
  induction js generalizing s with
  | nil => exact SameLedger.refl s
  | cons j js ih =>
    have hstep := sameLedger_setState hslots (k := .metadata a j)
      ⟨ha, hjs j List.mem_cons_self⟩ (fun _ => by simp) (by simp) (by simp) s (word j) hc
    refine hstep.trans (ih (fun i hi => hjs i (List.mem_cons_of_mem j hi)) _ ?_)
    rw [hstep.readAgentCount_eq]
    exact hc

/-- **`WriteMetadata`** of a URI of at most `MaxURILength` bytes writes the length and at most
eight chunks of `a`'s metadata, and so leaves the ledger. -/
theorem sameLedger_writeMetadata {a : Address} (ha : a ∈ A) (s : StateDB) (uri : String)
    (hlen : (Text.utf8 uri).length ≤ maxURILength) (hc : readAgentCount keccak256 s ≤ A.length) :
    SameLedger keccak256 A s (writeMetadata keccak256 s a uri) := by
  have hchunks : AccountSigner.chunkCount (Text.utf8 uri).length ≤
      AccountSigner.chunkCount maxURILength := by
    rw [show AccountSigner.chunkCount maxURILength = 8 from rfl]
    unfold AccountSigner.chunkCount AccountSigner.signerChunkSize
    unfold maxURILength at hlen
    split <;> omega
  have hlenw := sameLedger_setState hslots (k := .metadataLen a) ha (fun _ => by simp) (by simp)
    (by simp) s (BitVec.ofNat 256 ((Text.utf8 uri).length % 2 ^ 64)) hc
  rw [writeMetadata_eq]
  refine hlenw.trans (sameLedger_foldl_metadata hslots ha _ _
    (fun j hj => lt_of_lt_of_le (List.mem_range.mp hj) hchunks) _ ?_)
  rw [hlenw.readAgentCount_eq]
  exact hc

/-- **`appendAgentToList`** puts the address in the slot of index `count` and increments the
count, so the list gains the address at its end. -/
theorem agentList_appendAgentToList (s : StateDB) (a : Address)
    (hc : readAgentCount keccak256 s < A.length) (hA : A.length < 2 ^ 64) :
    agentList keccak256 (appendAgentToList keccak256 s a) = agentList keccak256 s ++ [a] := by
  have hslot : ∀ i < A.length, keyed keccak256 (appendAgentToList keccak256 s a) (.list i) =
      if i = readAgentCount keccak256 s then a else keyed keccak256 s (.list i) := by
    intro i hi
    rw [appendAgentToList_eq, keyed_setState hslots trivial hi, if_neg (by simp),
      keyed_setState hslots hc hi]
    simp
  have hcount : readAgentCount keccak256 (appendAgentToList keccak256 s a) =
      readAgentCount keccak256 s + 1 := by
    rw [readAgentCount_appendAgentToList]
    exact Nat.mod_eq_of_lt (by omega)
  rw [agentList, agentList, hcount, List.range_succ, List.map_append, List.map_singleton,
    readAgentAt_eq, hslot _ hc, if_pos rfl]
  congr 1
  refine List.map_congr_left fun i hi => ?_
  have hi' := List.mem_range.mp hi
  rw [readAgentAt_eq, readAgentAt_eq, hslot i (by omega), if_neg (by omega)]

/-- **A registration** writes the sender's stake, makes it `Active`, sets its flag, and appends it
to the list on its first registration; it moves the value from the sender to the registry. -/
theorem registerWrites_effect (s : StateDB) (f : Address) (v : ℤ) (hf : f ∈ A)
    (hcA : readAgentCount keccak256 s ≤ A.length) (hA : A.length < 2 ^ 64)
    (hfresh : readRegisteredFlag keccak256 s f = false → readAgentCount keccak256 s < A.length) :
    (∀ b ∈ A, readStake keccak256 (registerWrites keccak256 s f v) b =
      if b = f then v.natAbs % 2 ^ 256 else readStake keccak256 s b) ∧
    (∀ b ∈ A, readStatus keccak256 (registerWrites keccak256 s f v) b =
      if b = f then agentActive else readStatus keccak256 s b) ∧
    (∀ b ∈ A, readRegisteredFlag keccak256 (registerWrites keccak256 s f v) b =
      if b = f then true else readRegisteredFlag keccak256 s b) ∧
    agentList keccak256 (registerWrites keccak256 s f v) =
      (if readRegisteredFlag keccak256 s f then agentList keccak256 s
      else agentList keccak256 s ++ [f]) ∧
    (registerWrites keccak256 s f v).balance =
      (VmStateDB.addBalance (VmStateDB.subBalance s f v) agentRegistryAddress v).balance := by
  -- the writes to the record, common to both cases
  set s₁ := writeSuspended keccak256 (writeStatus keccak256 (writeStake keccak256
    (VmStateDB.addBalance (VmStateDB.subBalance s f v) agentRegistryAddress v) f v) f agentActive) f
    false with hs₁
  have hc₁ : readAgentCount keccak256 s₁ = readAgentCount keccak256 s := by
    simp only [hs₁, writeSuspended_eq, writeStatus_eq, writeStake_eq,
      readAgentCount_setState hslots, AgentKey.Within, hf, ne_eq, reduceCtorEq, not_false_eq_true,
      readAgentCount_addBalance, readAgentCount_subBalance]
  have hlist₁ : agentList keccak256 s₁ = agentList keccak256 s := by
    simp only [hs₁, writeSuspended_eq, writeStatus_eq, writeStake_eq, AgentKey.Within, hf, ne_eq,
      reduceCtorEq, not_false_eq_true, agentList_setState hslots, readAgentCount_setState hslots,
      readAgentCount_addBalance, readAgentCount_subBalance, hcA, forall_const]
    rw [agentList_setState hslots (k := .agent f .stake) hf
      (VmStateDB.addBalance (VmStateDB.subBalance s f v) agentRegistryAddress v) _ (by simp)
      (by simp) hcA]
    rfl
  have hstake₁ : ∀ b ∈ A, readStake keccak256 s₁ b =
      if b = f then v.natAbs % 2 ^ 256 else readStake keccak256 s b := by
    intro b hb
    simp only [hs₁, writeSuspended_eq, writeStatus_eq, writeStake_eq, readStake_setState hslots,
      AgentKey.Within, hf, hb, AgentKey.agent.injEq, reduceCtorEq, and_false, and_true, if_false,
      readStake_addBalance, readStake_subBalance, BitVec.toNat_ofNat]
  have hstatus₁ : ∀ b ∈ A, readStatus keccak256 s₁ b =
      if b = f then agentActive else readStatus keccak256 s b := by
    intro b hb
    simp only [hs₁, writeSuspended_eq, writeStatus_eq, writeStake_eq, readStatus_setState hslots,
      AgentKey.Within, hf, hb, AgentKey.agent.injEq, reduceCtorEq, and_false, and_true, if_false,
      readStatus_addBalance, readStatus_subBalance, ofNat_toNat_ofNat_byte]
  have hflag₁ : ∀ b ∈ A, readRegisteredFlag keccak256 s₁ b = readRegisteredFlag keccak256 s b := by
    intro b hb
    simp only [hs₁, writeSuspended_eq, writeStatus_eq, writeStake_eq,
      readRegisteredFlag_setState hslots, AgentKey.Within, hf, hb, AgentKey.agent.injEq,
      reduceCtorEq, and_false, if_false, readRegisteredFlag_addBalance,
      readRegisteredFlag_subBalance]
  have hbal₁ : s₁.balance = (VmStateDB.addBalance (VmStateDB.subBalance s f v)
      agentRegistryAddress v).balance := rfl
  cases hflag : readRegisteredFlag keccak256 s f
  · -- a first registration: the flag, and the append at the slot of index `count`
    have hc := hfresh hflag
    have hw : registerWrites keccak256 s f v =
        appendAgentToList keccak256 (writeRegisteredFlag keccak256 s₁ f) f := by
      simp [registerWrites, hflag, hs₁]
    have hc₂ : readAgentCount keccak256 (writeRegisteredFlag keccak256 s₁ f) < A.length := by
      rw [writeRegisteredFlag_eq, readAgentCount_setState hslots hf _ _ (by simp), hc₁]
      exact hc
    refine ⟨fun b hb => ?_, fun b hb => ?_, fun b hb => ?_, ?_, ?_⟩
    · rw [hw, appendAgentToList_eq, readStake_setState hslots trivial _ _ hb, if_neg (by simp),
        readStake_setState hslots hc₂ _ _ hb, if_neg (by simp), writeRegisteredFlag_eq,
        readStake_setState hslots hf _ _ hb, if_neg (by simp), hstake₁ b hb]
    · rw [hw, appendAgentToList_eq, readStatus_setState hslots trivial _ _ hb, if_neg (by simp),
        readStatus_setState hslots hc₂ _ _ hb, if_neg (by simp), writeRegisteredFlag_eq,
        readStatus_setState hslots hf _ _ hb, if_neg (by simp), hstatus₁ b hb]
    · rw [hw, appendAgentToList_eq, readRegisteredFlag_setState hslots trivial _ _ hb,
        if_neg (by simp), readRegisteredFlag_setState hslots hc₂ _ _ hb, if_neg (by simp),
        writeRegisteredFlag_eq, readRegisteredFlag_setState hslots hf _ _ hb, hflag₁ b hb]
      by_cases h : b = f
      · subst h
        simp
      · simp [h]
    · rw [hw, agentList_appendAgentToList hslots _ _ hc₂ hA, writeRegisteredFlag_eq,
        agentList_setState hslots hf _ _ (by simp) (by simp) (by rw [hc₁]; exact hcA), hlist₁]
      rfl
    · rw [hw, ← hbal₁]
      rfl
  · -- a registration after a full exit: the record's writes only
    have hw : registerWrites keccak256 s f v = s₁ := by
      simp [registerWrites, hflag, hs₁]
    refine ⟨fun b hb => ?_, fun b hb => ?_, fun b hb => ?_, ?_, ?_⟩
    · rw [hw, hstake₁ b hb]
    · rw [hw, hstatus₁ b hb]
    · rw [hw, hflag₁ b hb]
      by_cases h : b = f
      · rw [if_pos h, h, hflag]
      · rw [if_neg h]
    · rw [hw, hlist₁]
      rfl
    · rw [hw, hbal₁]

/-- **`WriteStake`** changes the stake of `f` only. -/
theorem writeStake_effect (s : StateDB) (f : Address) (x : ℤ) (hf : f ∈ A)
    (hcA : readAgentCount keccak256 s ≤ A.length) :
    (∀ b ∈ A, readStake keccak256 (writeStake keccak256 s f x) b =
      if b = f then x.natAbs % 2 ^ 256 else readStake keccak256 s b) ∧
    (∀ b ∈ A, readStatus keccak256 (writeStake keccak256 s f x) b = readStatus keccak256 s b) ∧
    (∀ b ∈ A, readRegisteredFlag keccak256 (writeStake keccak256 s f x) b =
      readRegisteredFlag keccak256 s b) ∧
    agentList keccak256 (writeStake keccak256 s f x) = agentList keccak256 s := by
  refine ⟨fun b hb => ?_, fun b hb => ?_, fun b hb => ?_, ?_⟩
  · rw [writeStake_eq, readStake_setState hslots hf _ _ hb]
    simp only [AgentKey.agent.injEq, and_true, BitVec.toNat_ofNat]
  · rw [writeStake_eq, readStatus_setState hslots hf _ _ hb, if_neg (by simp)]
  · rw [writeStake_eq, readRegisteredFlag_setState hslots hf _ _ hb, if_neg (by simp)]
  · rw [writeStake_eq, agentList_setState hslots hf _ _ (by simp) (by simp) hcA]

/-- **`WriteStatus`** changes the status of `f` only. -/
theorem writeStatus_effect (s : StateDB) (f : Address) (t : AgentStatus) (hf : f ∈ A)
    (hcA : readAgentCount keccak256 s ≤ A.length) :
    (∀ b ∈ A, readStake keccak256 (writeStatus keccak256 s f t) b = readStake keccak256 s b) ∧
    (∀ b ∈ A, readStatus keccak256 (writeStatus keccak256 s f t) b =
      if b = f then t else readStatus keccak256 s b) ∧
    (∀ b ∈ A, readRegisteredFlag keccak256 (writeStatus keccak256 s f t) b =
      readRegisteredFlag keccak256 s b) ∧
    agentList keccak256 (writeStatus keccak256 s f t) = agentList keccak256 s := by
  refine ⟨fun b hb => ?_, fun b hb => ?_, fun b hb => ?_, ?_⟩
  · rw [writeStatus_eq, readStake_setState hslots hf _ _ hb, if_neg (by simp)]
  · rw [writeStatus_eq, readStatus_setState hslots hf _ _ hb]
    simp only [AgentKey.agent.injEq, and_true, ofNat_toNat_ofNat_byte]
  · rw [writeStatus_eq, readRegisteredFlag_setState hslots hf _ _ hb, if_neg (by simp)]
  · rw [writeStatus_eq, agentList_setState hslots hf _ _ (by simp) (by simp) hcA]

/-- **An increase** adds the value to the stake of `f` and moves it from `f` to the registry. -/
theorem increaseWrites_effect (s : StateDB) (f : Address) (v : ℤ) (hf : f ∈ A)
    (hcA : readAgentCount keccak256 s ≤ A.length) :
    (∀ b ∈ A, readStake keccak256 (increaseWrites keccak256 s f v) b =
      if b = f then ((readStake keccak256 s f : ℤ) + v).natAbs % 2 ^ 256
      else readStake keccak256 s b) ∧
    (∀ b ∈ A, readStatus keccak256 (increaseWrites keccak256 s f v) b = readStatus keccak256 s b) ∧
    (∀ b ∈ A, readRegisteredFlag keccak256 (increaseWrites keccak256 s f v) b =
      readRegisteredFlag keccak256 s b) ∧
    agentList keccak256 (increaseWrites keccak256 s f v) = agentList keccak256 s ∧
    (increaseWrites keccak256 s f v).balance =
      (VmStateDB.addBalance (VmStateDB.subBalance s f v) agentRegistryAddress v).balance := by
  obtain ⟨hstake, hstatus, hflag, hlist⟩ := writeStake_effect hslots
    (VmStateDB.addBalance (VmStateDB.subBalance s f v) agentRegistryAddress v) f
    ((readStake keccak256 s f : ℤ) + v) hf hcA
  exact ⟨hstake, hstatus, hflag, hlist, rfl⟩

/-- **A decrease** writes the remaining stake of `f`, makes it `Inactive` when nothing remains,
and moves the amount from the registry to `f`. -/
theorem decreaseWrites_effect (s : StateDB) (f : Address) (amount remaining : ℤ) (hf : f ∈ A)
    (hcA : readAgentCount keccak256 s ≤ A.length) :
    (∀ b ∈ A, readStake keccak256 (decreaseWrites keccak256 s f amount remaining) b =
      if b = f then remaining.natAbs % 2 ^ 256 else readStake keccak256 s b) ∧
    (∀ b ∈ A, readStatus keccak256 (decreaseWrites keccak256 s f amount remaining) b =
      if b = f ∧ remaining = 0 then agentInactive else readStatus keccak256 s b) ∧
    (∀ b ∈ A, readRegisteredFlag keccak256 (decreaseWrites keccak256 s f amount remaining) b =
      readRegisteredFlag keccak256 s b) ∧
    agentList keccak256 (decreaseWrites keccak256 s f amount remaining) = agentList keccak256 s ∧
    (decreaseWrites keccak256 s f amount remaining).balance =
      (VmStateDB.addBalance (VmStateDB.subBalance s agentRegistryAddress amount) f amount).balance := by
  set s₁ := writeStake keccak256 (VmStateDB.addBalance
    (VmStateDB.subBalance s agentRegistryAddress amount) f amount) f remaining with hs₁
  obtain ⟨hstake₁, hstatus₁, hflag₁, hlist₁⟩ := writeStake_effect hslots
    (VmStateDB.addBalance (VmStateDB.subBalance s agentRegistryAddress amount) f amount) f
    remaining hf hcA
  by_cases hzero : remaining = 0
  · -- a full exit also writes the status
    have hw : decreaseWrites keccak256 s f amount remaining = writeStatus keccak256 s₁ f agentInactive := by
      simp only [decreaseWrites, hzero, if_true, hs₁]
    have hc₁ : readAgentCount keccak256 s₁ ≤ A.length := by
      rw [← length_agentList, hlist₁]
      simpa using hcA
    obtain ⟨hstake₂, hstatus₂, hflag₂, hlist₂⟩ := writeStatus_effect hslots s₁ f agentInactive hf hc₁
    refine ⟨fun b hb => ?_, fun b hb => ?_, fun b hb => ?_, ?_, ?_⟩
    · rw [hw, hstake₂ b hb, hstake₁ b hb]
      rfl
    · rw [hw, hstatus₂ b hb, hstatus₁ b hb]
      simp only [hzero, and_true, readStatus_addBalance, readStatus_subBalance]
    · rw [hw, hflag₂ b hb, hflag₁ b hb]
      rfl
    · rw [hw, hlist₂, hlist₁]
      rfl
    · rw [hw]
      rfl
  · -- a partial decrease writes the stake only
    have hw : decreaseWrites keccak256 s f amount remaining = s₁ := by
      simp only [decreaseWrites, hzero, if_false, hs₁]
    refine ⟨fun b hb => ?_, fun b hb => ?_, fun b hb => ?_, ?_, ?_⟩
    · rw [hw, hstake₁ b hb]
      rfl
    · rw [hw, hstatus₁ b hb, if_neg (fun h => hzero h.2)]
      rfl
    · rw [hw, hflag₁ b hb]
      rfl
    · rw [hw, hlist₁]
      rfl
    · rw [hw]
      rfl

end Effects

end Gtos.Agent
