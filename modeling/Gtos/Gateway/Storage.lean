import Mathlib.Data.Set.Function
import Gtos.Gateway.Handler

/-! # The gateway registry's storage, word by word

Every word the registry keeps is named by a `GatewayKey`: a field of a gateway's configuration, a
chunk of its endpoint, a slot of its kinds, or the count. Keccak-256 is assumed to have no
collision among the slots of the words of a set of addresses (`GatewaySlotsDistinct`); under that
assumption a write to one word leaves every other word as it was (`keyed_setState`), and a loop of
writes is a loop of updates of the map from keys to words (`keyed_foldl_setState`).

Each write of `gateway/state.go` then has its effect on that map (`keyed_writeEndpoint` and its
companions), and each read a lemma saying what it returns after the write of its own part
(`readEndpoint_writeEndpoint` and its companions): the round trips of the storage codecs. A read
depends only on the words of its own part (`readEndpoint_congr`, `readSupportedKinds_congr`). -/

namespace Gtos.Gateway

open Gtos.Core Gtos.AccountSigner

/-! ## The registry's storage by key -/

/-- A word of the registry, named by what it stores. -/
inductive GatewayKey
  | active (addr : Address)
  | registeredAt (addr : Address)
  | maxRelayGas (addr : Address)
  | feePolicy (addr : Address)
  | feeAmount (addr : Address)
  | endpointLen (addr : Address)
  | endpointChunk (addr : Address) (j : ℕ)
  | kindsCount (addr : Address)
  | kind (addr : Address) (i : ℕ)
  | count
  deriving DecidableEq, Repr

/-- The slot of each word. -/
def gatewayKeySlot (keccak256 : List UInt8 → Hash) : GatewayKey → Hash
  | .active a => gwSlot keccak256 a "active"
  | .registeredAt a => gwSlot keccak256 a "registeredAt"
  | .maxRelayGas a => gwSlot keccak256 a "maxRelayGas"
  | .feePolicy a => gwSlot keccak256 a "feePolicy"
  | .feeAmount a => gwSlot keccak256 a "feeAmount"
  | .endpointLen a => gwSlot keccak256 a "endpointLen"
  | .endpointChunk a j => endpointChunkSlot keccak256 a j
  | .kindsCount a => gwSlot keccak256 a "kindsCount"
  | .kind a i => kindSlot keccak256 a i
  | .count => gwCountSlot keccak256

/-- The address whose configuration a word belongs to; none for the count. -/
def GatewayKey.owner : GatewayKey → Option Address
  | .active a | .registeredAt a | .maxRelayGas a | .feePolicy a | .feeAmount a | .endpointLen a
  | .endpointChunk a _ | .kindsCount a | .kind a _ => some a
  | .count => none

attribute [simp] GatewayKey.owner.eq_1 GatewayKey.owner.eq_2 GatewayKey.owner.eq_3
  GatewayKey.owner.eq_4 GatewayKey.owner.eq_5 GatewayKey.owner.eq_6 GatewayKey.owner.eq_7
  GatewayKey.owner.eq_8 GatewayKey.owner.eq_9 GatewayKey.owner.eq_10

/-- The words of the gateways of `A`: their fields, the chunks of an endpoint of at most
`MaxEndpointLength` bytes, `MaxSupportedKinds` kind slots, and the count. -/
@[reducible] def GatewayKey.Within (A : List Address) : GatewayKey → Prop
  | .endpointChunk a j => a ∈ A ∧ j < chunkCount maxEndpointLength
  | .kind a i => a ∈ A ∧ i < maxSupportedKinds
  | .count => True
  | .active a | .registeredAt a | .maxRelayGas a | .feePolicy a | .feeAmount a | .endpointLen a
  | .kindsCount a => a ∈ A

/-- Keccak-256 has no collision among the slots of the words of `A`'s gateways. -/
def GatewaySlotsDistinct (keccak256 : List UInt8 → Hash) (A : List Address) : Prop :=
  Set.InjOn (gatewayKeySlot keccak256) {k | k.Within A}

/-- The words of the gateways of `A`, listed. -/
def gatewayKeys (A : List Address) : List GatewayKey :=
  A.flatMap (fun a => [GatewayKey.active a, .registeredAt a, .maxRelayGas a, .feePolicy a,
    .feeAmount a, .endpointLen a, .kindsCount a] ++
    (List.range (chunkCount maxEndpointLength)).map (.endpointChunk a) ++
    (List.range maxSupportedKinds).map (.kind a)) ++ [.count]

theorem mem_gatewayKeys {A : List Address} {k : GatewayKey} (hk : k.Within A) :
    k ∈ gatewayKeys A := by
  simp only [gatewayKeys, List.mem_append, List.mem_flatMap, List.mem_map, List.mem_cons,
    List.mem_range]
  cases k with
  | endpointChunk a j => exact .inl ⟨a, hk.1, .inl (.inr ⟨j, hk.2, rfl⟩)⟩
  | kind a i => exact .inl ⟨a, hk.1, .inr ⟨i, hk.2, rfl⟩⟩
  | count => exact .inr (.inl rfl)
  | _ a => exact .inl ⟨a, hk, .inl (.inl (by simp))⟩

/-- Distinct slots for the listed words give `GatewaySlotsDistinct`: for a given hash function the
condition is a computation. -/
theorem gatewaySlotsDistinct_of_nodup {keccak256 : List UInt8 → Hash} {A : List Address}
    (h : ((gatewayKeys A).map (gatewayKeySlot keccak256)).Nodup) :
    GatewaySlotsDistinct keccak256 A :=
  fun _ hk _ hk' heq => List.inj_on_of_nodup_map h (mem_gatewayKeys hk) (mem_gatewayKeys hk') heq

/-- The registry's storage, read by key. -/
def keyed (keccak256 : List UInt8 → Hash) (s : StateDB) (k : GatewayKey) : Hash :=
  s.storage gatewayRegistryAddress (gatewayKeySlot keccak256 k)

section Keyed

variable {keccak256 : List UInt8 → Hash} {A : List Address}

/-- **A write by key.** Under `GatewaySlotsDistinct`, writing the slot of one word of `A`'s
gateways updates that word of the map from keys to words. -/
theorem keyed_setState (hslots : GatewaySlotsDistinct keccak256 A) {k k' : GatewayKey}
    (hk : k.Within A) (hk' : k'.Within A) (s : StateDB) (v : Hash) :
    keyed keccak256 (VmStateDB.setState s gatewayRegistryAddress (gatewayKeySlot keccak256 k) v) k' =
      Function.update (keyed keccak256 s) k v k' := by
  rw [keyed, StateDB.storage_setState_self, Function.update_apply, Function.update_apply]
  exact if_congr ⟨fun h => hslots hk' hk h, fun h => h ▸ rfl⟩ rfl rfl

/-- **A loop of writes by key** is the loop of updates of the map from keys to words. -/
theorem keyed_foldl_setState (hslots : GatewaySlotsDistinct keccak256 A) {ι : Type} (is : List ι)
    (key : ι → GatewayKey) (val : ι → Hash) (hkeys : ∀ i ∈ is, (key i).Within A) (s : StateDB)
    {k : GatewayKey} (hk : k.Within A) :
    keyed keccak256 (is.foldl (fun s i => VmStateDB.setState s gatewayRegistryAddress
      (gatewayKeySlot keccak256 (key i)) (val i)) s) k = WriteLoop.run key val is (keyed keccak256 s) k := by
  induction is generalizing s with
  | nil => rfl
  | cons i is ih =>
    rw [List.foldl_cons, ih (fun j hj => hkeys j (List.mem_cons_of_mem i hj)), WriteLoop.run_cons]
    exact WriteLoop.run_apply_congr key val is
      (keyed_setState hslots (hkeys i List.mem_cons_self) hk s (val i))

@[simp] theorem keyed_addBalance (s : StateDB) (a : Address) (x : ℤ) :
    keyed keccak256 (VmStateDB.addBalance s a x) = keyed keccak256 s := rfl

@[simp] theorem keyed_subBalance (s : StateDB) (a : Address) (x : ℤ) :
    keyed keccak256 (VmStateDB.subBalance s a x) = keyed keccak256 s := rfl

/-! Every single-word access of `gateway/state.go` is a read or a write of one key. -/

theorem readActive_eq (s : StateDB) (b : Address) :
    readActive keccak256 s b = decide ((keyed keccak256 s (.active b)).toNat % 256 ≠ 0) := rfl

theorem readRegisteredAt_eq (s : StateDB) (b : Address) :
    readRegisteredAt keccak256 s b = (keyed keccak256 s (.registeredAt b)).toNat % 2 ^ 64 := rfl

theorem readMaxRelayGas_eq (s : StateDB) (b : Address) :
    readMaxRelayGas keccak256 s b = (keyed keccak256 s (.maxRelayGas b)).toNat % 2 ^ 64 := rfl

theorem readFeePolicy_eq (s : StateDB) (b : Address) :
    readFeePolicy keccak256 s b =
      ((readShortString (keyed keccak256 s (.feePolicy b))).map Text.ofUtf8).getD "" := by
  unfold readFeePolicy
  split
  case h_1 w hw => rw [keyed, gatewayKeySlot, ← StateDB.getState_eq, hw]; rfl
  case h_2 hw => rw [keyed, gatewayKeySlot, ← StateDB.getState_eq, hw]; rfl

theorem readFeeAmount_eq (s : StateDB) (b : Address) :
    readFeeAmount keccak256 s b = (keyed keccak256 s (.feeAmount b)).toNat := rfl

theorem readGatewayCount_eq (s : StateDB) :
    readGatewayCount keccak256 s = (keyed keccak256 s .count).toNat % 2 ^ 64 := rfl

theorem writeActive_eq (s : StateDB) (a : Address) (v : Bool) :
    writeActive keccak256 s a v = VmStateDB.setState s gatewayRegistryAddress
      (gatewayKeySlot keccak256 (.active a)) (if v then 1#256 else 0#256) := rfl

theorem writeRegisteredAt_eq (s : StateDB) (a : Address) (n : ℕ) :
    writeRegisteredAt keccak256 s a n = VmStateDB.setState s gatewayRegistryAddress
      (gatewayKeySlot keccak256 (.registeredAt a)) (BitVec.ofNat 256 (n % 2 ^ 64)) := rfl

theorem writeMaxRelayGas_eq (s : StateDB) (a : Address) (g : UInt64) :
    writeMaxRelayGas keccak256 s a g = VmStateDB.setState s gatewayRegistryAddress
      (gatewayKeySlot keccak256 (.maxRelayGas a)) (BitVec.ofNat 256 (g.toNat % 2 ^ 64)) := rfl

theorem writeFeePolicy_eq (s : StateDB) (a : Address) (policy : String) :
    writeFeePolicy keccak256 s a policy = VmStateDB.setState s gatewayRegistryAddress
      (gatewayKeySlot keccak256 (.feePolicy a)) (shortStringWord (Text.utf8 policy)) := rfl

theorem writeFeeAmount_eq (s : StateDB) (a : Address) (x : ℤ) :
    writeFeeAmount keccak256 s a x = VmStateDB.setState s gatewayRegistryAddress
      (gatewayKeySlot keccak256 (.feeAmount a)) (BitVec.ofNat 256 x.natAbs) := rfl

theorem incrementGatewayCount_eq (s : StateDB) :
    incrementGatewayCount keccak256 s = VmStateDB.setState s gatewayRegistryAddress
      (gatewayKeySlot keccak256 .count)
      (BitVec.ofNat 256 ((readGatewayCount keccak256 s + 1) % 2 ^ 64)) := rfl

theorem writeEndpoint_eq (s : StateDB) (a : Address) (e : String) :
    writeEndpoint keccak256 s a e =
      (List.range (chunkCount (Text.utf8 e).length)).foldl
        (fun s j => VmStateDB.setState s gatewayRegistryAddress
          (gatewayKeySlot keccak256 (.endpointChunk a j)) (chunkWord (chunkBytes (Text.utf8 e) j)))
        (VmStateDB.setState s gatewayRegistryAddress (gatewayKeySlot keccak256 (.endpointLen a))
          (BitVec.ofNat 256 ((Text.utf8 e).length % 2 ^ 64))) := rfl

theorem writeSupportedKinds_eq (s : StateDB) (a : Address) (kinds : List String) :
    writeSupportedKinds keccak256 s a kinds =
      (List.range (sortStrings kinds).length).foldl
        (fun s i => VmStateDB.setState s gatewayRegistryAddress
          (gatewayKeySlot keccak256 (.kind a i))
          (shortStringWord (Text.utf8 ((sortStrings kinds).getD i ""))))
        (VmStateDB.setState s gatewayRegistryAddress (gatewayKeySlot keccak256 (.kindsCount a))
          (BitVec.ofNat 256 ((sortStrings kinds).length % 2 ^ 64))) := rfl

end Keyed

/-! ## Reading words back

A read returns what the words of its own part hold: it agrees on two states whose words of that
part agree (`readEndpoint_congr`, `readSupportedKinds_congr`), and words that hold the encoding of
a value read back as the value (`readEndpoint_of_words`, `readSupportedKinds_of_words`). -/

section Reads

variable {keccak256 : List UInt8 → Hash} {s s' : StateDB} {b : Address}

/-- The endpoint loop reads only the chunks below the bytes that remain. -/
theorem readEndpointLoop_congr (i rem : ℕ)
    (h : ∀ j < chunkCount rem,
      keyed keccak256 s (.endpointChunk b (i + j)) = keyed keccak256 s' (.endpointChunk b (i + j))) :
    readEndpointLoop keccak256 s b i rem = readEndpointLoop keccak256 s' b i rem := by
  induction rem using Nat.strong_induction_on generalizing i with
  | _ rem ih =>
    conv_lhs => rw [readEndpointLoop]
    conv_rhs => rw [readEndpointLoop]
    by_cases hzero : rem = 0
    · rw [if_pos hzero, if_pos hzero]
    -- the chunk read first is chunk `i`, the first of those that remain
    have hfirst : VmStateDB.getState s gatewayRegistryAddress (endpointChunkSlot keccak256 b i) =
        VmStateDB.getState s' gatewayRegistryAddress (endpointChunkSlot keccak256 b i) :=
      h 0 (chunkCount_pos (Nat.pos_of_ne_zero hzero))
    simp only [if_neg hzero, hfirst]
    split
    case isTrue hfull =>
      have hcount : chunkCount rem = chunkCount (rem - 32) + 1 := chunkCount_of_le hfull
      rw [ih (rem - 32) (by omega) (i + 1) fun j hj => by
        rw [show i + 1 + j = i + (j + 1) by omega]
        exact h (j + 1) (by omega)]
    case isFalse => rfl

/-- `ReadEndpoint` reads the length word and the chunks of an endpoint of at most
`MaxEndpointLength` bytes. -/
theorem readEndpoint_congr
    (hlen : keyed keccak256 s (.endpointLen b) = keyed keccak256 s' (.endpointLen b))
    (hchunks : ∀ j < chunkCount maxEndpointLength,
      keyed keccak256 s (.endpointChunk b j) = keyed keccak256 s' (.endpointChunk b j)) :
    readEndpoint keccak256 s b = readEndpoint keccak256 s' b := by
  have hlen' : readUint64 s gatewayRegistryAddress (gwSlot keccak256 b "endpointLen") =
      readUint64 s' gatewayRegistryAddress (gwSlot keccak256 b "endpointLen") := by
    simp only [readUint64, StateDB.getState_eq]
    exact congrArg (fun w : Hash => w.toNat % 2 ^ 64) hlen
  unfold readEndpoint
  rw [hlen']
  dsimp only
  split
  case isTrue => rfl
  case isFalse hin =>
    -- a length of at most `MaxEndpointLength` takes at most eight chunks
    have hmono : chunkCount (readUint64 s' gatewayRegistryAddress (gwSlot keccak256 b "endpointLen")) ≤
        chunkCount maxEndpointLength := chunkCount_mono (by omega)
    congr 1
    exact readEndpointLoop_congr 0 _ fun j hj => by
      simpa only [Nat.zero_add] using hchunks j (by omega)

/-- **Words that hold an endpoint read back as the endpoint**: its byte length in the length word,
and the word of each 32-byte chunk in the chunk's slot. -/
theorem readEndpoint_of_words {e : String} (he : (Text.utf8 e).length ≤ maxEndpointLength)
    (hlen : keyed keccak256 s (.endpointLen b) = BitVec.ofNat 256 ((Text.utf8 e).length % 2 ^ 64))
    (hchunks : ∀ j < chunkCount (Text.utf8 e).length,
      keyed keccak256 s (.endpointChunk b j) = chunkWord (chunkBytes (Text.utf8 e) j)) :
    readEndpoint keccak256 s b = e := by
  have hsmall : (Text.utf8 e).length < 2 ^ 64 := lt_of_le_of_lt he (by decide)
  have hread : readUint64 s gatewayRegistryAddress (gwSlot keccak256 b "endpointLen") =
      (Text.utf8 e).length := by
    simp only [readUint64, StateDB.getState_eq]
    change (keyed keccak256 s (.endpointLen b)).toNat % 2 ^ 64 = _
    rw [hlen, BitVec.toNat_ofNat, Nat.mod_eq_of_lt hsmall,
      Nat.mod_eq_of_lt (lt_trans hsmall (by decide)), Nat.mod_eq_of_lt hsmall]
  unfold readEndpoint
  rw [hread]
  dsimp only
  split
  case isTrue hzero =>
    -- an empty endpoint: no bytes, and the empty text
    have hnil : Text.utf8 e = [] := List.eq_nil_of_length_eq_zero (by omega)
    rw [← Text.ofUtf8_utf8 e, hnil]
    rfl
  case isFalse =>
    rw [readEndpointLoop_of_chunks keccak256 s b 0 (Text.utf8 e) fun j hj => by
      rw [Nat.zero_add]
      exact hchunks j hj, Text.ofUtf8_utf8]

/-- `ReadSupportedKinds` reads the count word and `MaxSupportedKinds` kind slots. -/
theorem readSupportedKinds_congr
    (hcount : keyed keccak256 s (.kindsCount b) = keyed keccak256 s' (.kindsCount b))
    (hkinds : ∀ i < maxSupportedKinds, keyed keccak256 s (.kind b i) = keyed keccak256 s' (.kind b i)) :
    readSupportedKinds keccak256 s b = readSupportedKinds keccak256 s' b := by
  have hcount' : readUint64 s gatewayRegistryAddress (gwSlot keccak256 b "kindsCount") =
      readUint64 s' gatewayRegistryAddress (gwSlot keccak256 b "kindsCount") := by
    simp only [readUint64, StateDB.getState_eq]
    exact congrArg (fun w : Hash => w.toNat % 2 ^ 64) hcount
  unfold readSupportedKinds
  rw [hcount']
  dsimp only
  split
  case isTrue => rfl
  case isFalse hin =>
    refine List.filterMap_congr fun i hi => ?_
    have hi' : i < maxSupportedKinds := by
      rw [List.mem_range] at hi
      omega
    change (readShortString (keyed keccak256 s (.kind b i))).map Text.ofUtf8 =
      (readShortString (keyed keccak256 s' (.kind b i))).map Text.ofUtf8
    rw [hkinds i hi']

theorem map_range_getD {α : Type} (l : List α) (d : α) :
    (List.range l.length).map (fun i => l.getD i d) = l := by
  apply List.ext_getElem (by simp)
  intro i _ h
  simp [List.getElem?_eq_getElem h]

theorem filterMap_ite_eq_filter {α : Type} (l : List α) (p : α → Prop) [DecidablePred p] :
    l.filterMap (fun k => if p k then some k else none) = l.filter (fun k => decide (p k)) := by
  induction l with
  | nil => rfl
  | cons a l ih => by_cases h : p a <;> simp [h, ih]

/-- **Words that hold a list of kinds read back as the kinds of 1 to 31 bytes, sorted**: the count
of the sorted kinds in the count word and each kind's short string in its slot. A kind of 32 bytes
or more has a length byte above 31 and is skipped. -/
theorem readSupportedKinds_of_words {kinds : List String} (hnum : kinds.length ≤ maxSupportedKinds)
    (hlen : ∀ k ∈ kinds, (Text.utf8 k).length < 256)
    (hcount : keyed keccak256 s (.kindsCount b) =
      BitVec.ofNat 256 ((sortStrings kinds).length % 2 ^ 64))
    (hkinds : ∀ i < (sortStrings kinds).length,
      keyed keccak256 s (.kind b i) = shortStringWord (Text.utf8 ((sortStrings kinds).getD i ""))) :
    readSupportedKinds keccak256 s b = (sortStrings kinds).filter
      (fun k => 0 < (Text.utf8 k).length ∧ (Text.utf8 k).length ≤ 31) := by
  have hsorted : (sortStrings kinds).length = kinds.length := (perm_sortStrings kinds).length_eq
  have hsmall : kinds.length < 2 ^ 64 := lt_of_le_of_lt hnum (by decide)
  have hread : readUint64 s gatewayRegistryAddress (gwSlot keccak256 b "kindsCount") =
      kinds.length := by
    simp only [readUint64, StateDB.getState_eq]
    change (keyed keccak256 s (.kindsCount b)).toNat % 2 ^ 64 = _
    rw [hcount, BitVec.toNat_ofNat, hsorted, Nat.mod_eq_of_lt hsmall,
      Nat.mod_eq_of_lt (lt_trans hsmall (by decide)), Nat.mod_eq_of_lt hsmall]
  unfold readSupportedKinds
  rw [hread]
  dsimp only
  split
  case isTrue hzero =>
    have hnil : kinds = [] := List.eq_nil_of_length_eq_zero (by omega)
    subst hnil
    simp [sortStrings]
  case isFalse =>
    -- each slot holds the short string of the kind of its index
    have hslot : ∀ i ∈ List.range kinds.length,
        (readShortString (VmStateDB.getState s gatewayRegistryAddress (kindSlot keccak256 b i))).map
          Text.ofUtf8 =
        (fun k => if 0 < (Text.utf8 k).length ∧ (Text.utf8 k).length ≤ 31 then some k else none)
          ((sortStrings kinds).getD i "") := by
      intro i hi
      have hi' : i < (sortStrings kinds).length := by rw [hsorted]; exact List.mem_range.mp hi
      have hmem : (sortStrings kinds).getD i "" ∈ kinds := by
        have hget : (sortStrings kinds).getD i "" = (sortStrings kinds)[i] := by
          simp [List.getElem?_eq_getElem hi']
        rw [hget]
        exact (perm_sortStrings kinds).subset (List.getElem_mem hi')
      change (readShortString (keyed keccak256 s (.kind b i))).map Text.ofUtf8 = _
      rw [hkinds i hi']
      generalize (sortStrings kinds).getD i "" = k at hmem ⊢
      rw [readShortString_shortStringWord (hlen k hmem)]
      by_cases hk : 0 < (Text.utf8 k).length ∧ (Text.utf8 k).length ≤ 31
      · simp only [if_pos hk, Option.map_some, Text.ofUtf8_utf8]
      · simp only [if_neg hk, Option.map_none]
    -- the slots are read in the order of the sorted kinds
    have hcomp := List.filterMap_map (f := fun i => (sortStrings kinds).getD i "")
      (g := fun k => if 0 < (Text.utf8 k).length ∧ (Text.utf8 k).length ≤ 31 then some k else none)
      (l := List.range (sortStrings kinds).length)
    rw [map_range_getD] at hcomp
    rw [List.filterMap_congr hslot, ← hsorted]
    exact hcomp.symm.trans (filterMap_ite_eq_filter _ _)

end Reads

/-! ## What each write does to the words

Each write is stated as what it does to any map that agrees with the storage on the words of `A`'s
gateways (`Set.EqOn` on `{k | k.Within A}`), so that the effects of a sequence of writes compose
into one map from keys to words. -/

section Writes

variable {keccak256 : List UInt8 → Hash} {A : List Address}
  (hslots : GatewaySlotsDistinct keccak256 A) {s : StateDB} {m : GatewayKey → Hash}
  (hm : Set.EqOn (keyed keccak256 s) m {k | k.Within A})
include hslots hm

/-- A write of one word of `A`'s gateways updates the map at that word. -/
theorem eqOn_setState {k : GatewayKey} (hk : k.Within A) (v : Hash) :
    Set.EqOn (keyed keccak256
      (VmStateDB.setState s gatewayRegistryAddress (gatewayKeySlot keccak256 k) v))
      (Function.update m k v) {k | k.Within A} := by
  intro k' hk'
  rw [keyed_setState hslots hk hk', Function.update_apply, Function.update_apply, hm hk']

/-- A loop of writes of words of `A`'s gateways is the loop of updates of the map. -/
theorem eqOn_foldl_setState {ι : Type} (is : List ι) (key : ι → GatewayKey) (val : ι → Hash)
    (hkeys : ∀ i ∈ is, (key i).Within A) :
    Set.EqOn (keyed keccak256 (is.foldl (fun s i => VmStateDB.setState s gatewayRegistryAddress
      (gatewayKeySlot keccak256 (key i)) (val i)) s)) (WriteLoop.run key val is m)
      {k | k.Within A} := by
  intro k hk
  rw [keyed_foldl_setState hslots is key val hkeys s hk]
  exact WriteLoop.run_apply_congr key val is (hm hk)

variable {a : Address} (ha : a ∈ A)
include ha

theorem eqOn_writeActive (v : Bool) :
    Set.EqOn (keyed keccak256 (writeActive keccak256 s a v))
      (Function.update m (.active a) (if v then 1#256 else 0#256)) {k | k.Within A} :=
  eqOn_setState hslots hm (k := .active a) ha _

theorem eqOn_writeRegisteredAt (n : ℕ) :
    Set.EqOn (keyed keccak256 (writeRegisteredAt keccak256 s a n))
      (Function.update m (.registeredAt a) (BitVec.ofNat 256 (n % 2 ^ 64))) {k | k.Within A} :=
  eqOn_setState hslots hm (k := .registeredAt a) ha _

theorem eqOn_writeMaxRelayGas (g : UInt64) :
    Set.EqOn (keyed keccak256 (writeMaxRelayGas keccak256 s a g))
      (Function.update m (.maxRelayGas a) (BitVec.ofNat 256 (g.toNat % 2 ^ 64))) {k | k.Within A} :=
  eqOn_setState hslots hm (k := .maxRelayGas a) ha _

theorem eqOn_writeFeePolicy (policy : String) :
    Set.EqOn (keyed keccak256 (writeFeePolicy keccak256 s a policy))
      (Function.update m (.feePolicy a) (shortStringWord (Text.utf8 policy))) {k | k.Within A} :=
  eqOn_setState hslots hm (k := .feePolicy a) ha _

theorem eqOn_writeFeeAmount (x : ℤ) :
    Set.EqOn (keyed keccak256 (writeFeeAmount keccak256 s a x))
      (Function.update m (.feeAmount a) (BitVec.ofNat 256 x.natAbs)) {k | k.Within A} :=
  eqOn_setState hslots hm (k := .feeAmount a) ha _

/-- `WriteEndpoint` of an endpoint of at most `MaxEndpointLength` bytes: the length word, then the
word of each chunk. -/
theorem eqOn_writeEndpoint {e : String} (he : (Text.utf8 e).length ≤ maxEndpointLength) :
    Set.EqOn (keyed keccak256 (writeEndpoint keccak256 s a e))
      (WriteLoop.run (.endpointChunk a) (fun j => chunkWord (chunkBytes (Text.utf8 e) j))
        (List.range (chunkCount (Text.utf8 e).length))
        (Function.update m (.endpointLen a) (BitVec.ofNat 256 ((Text.utf8 e).length % 2 ^ 64))))
      {k | k.Within A} := by
  rw [writeEndpoint_eq]
  refine eqOn_foldl_setState hslots (eqOn_setState hslots hm (k := .endpointLen a) ha _) _ _ _ ?_
  intro j hj
  exact ⟨ha, lt_of_lt_of_le (List.mem_range.mp hj) (chunkCount_mono he)⟩

/-- `WriteSupportedKinds` of at most `MaxSupportedKinds` kinds: the count word, then the short
string of each sorted kind. -/
theorem eqOn_writeSupportedKinds {kinds : List String} (hnum : kinds.length ≤ maxSupportedKinds) :
    Set.EqOn (keyed keccak256 (writeSupportedKinds keccak256 s a kinds))
      (WriteLoop.run (.kind a) (fun i => shortStringWord (Text.utf8 ((sortStrings kinds).getD i "")))
        (List.range (sortStrings kinds).length)
        (Function.update m (.kindsCount a) (BitVec.ofNat 256 ((sortStrings kinds).length % 2 ^ 64))))
      {k | k.Within A} := by
  rw [writeSupportedKinds_eq]
  refine eqOn_foldl_setState hslots (eqOn_setState hslots hm (k := .kindsCount a) ha _) _ _ _ ?_
  intro i hi
  rw [List.mem_range, (perm_sortStrings kinds).length_eq] at hi
  exact ⟨ha, lt_of_lt_of_le hi hnum⟩

omit ha in
/-- `IncrementGatewayCount`: the count word holds the `uint64` successor of the count it held. -/
theorem eqOn_incrementGatewayCount {c : Hash} (hc : m .count = c) :
    Set.EqOn (keyed keccak256 (incrementGatewayCount keccak256 s))
      (Function.update m .count (BitVec.ofNat 256 ((c.toNat % 2 ^ 64 + 1) % 2 ^ 64)))
      {k | k.Within A} := by
  have hcount : keyed keccak256 s .count = c := (hm (x := GatewayKey.count) trivial).trans hc
  rw [incrementGatewayCount_eq, readGatewayCount_eq, hcount]
  exact eqOn_setState hslots hm (k := .count) trivial _

end Writes

/-- An update of the map at a word of another gateway leaves the word. -/
theorem update_apply_of_owner_ne {m : GatewayKey → Hash} {k k' : GatewayKey}
    (h : k.owner ≠ k'.owner) (v : Hash) : Function.update m k' v k = m k :=
  Function.update_of_ne (fun heq : k = k' => h (congrArg GatewayKey.owner heq)) v m

/-- A loop of updates of the map at words of other gateways leaves the word. -/
theorem run_apply_of_owner_ne {ι : Type} (key : ι → GatewayKey) (val : ι → Hash) (is : List ι)
    (m : GatewayKey → Hash) {k : GatewayKey} (h : ∀ i, k.owner ≠ (key i).owner) :
    WriteLoop.run key val is m k = m k :=
  WriteLoop.run_apply_of_forall_ne key val is m k fun i _ heq =>
    h i (congrArg GatewayKey.owner heq).symm

/-! ## The configuration of a gateway -/

/-- What the registry holds for one gateway, as its reads return it: the configuration
`GetGatewayConfig` reports, with the fee amount as a number. -/
structure GatewayView where
  /-- `ReadEndpoint`. -/
  endpoint : String
  /-- `ReadSupportedKinds`. -/
  supportedKinds : List String
  /-- `ReadMaxRelayGas`. -/
  maxRelayGas : ℕ
  /-- `ReadFeePolicy`. -/
  feePolicy : String
  /-- `ReadFeeAmount`. -/
  feeAmount : ℕ
  /-- `ReadActive`. -/
  active : Bool
  /-- `ReadRegisteredAt`. -/
  registeredAt : ℕ
  deriving DecidableEq, Repr

/-- The configuration of `b` in the registry. -/
def view (keccak256 : List UInt8 → Hash) (s : StateDB) (b : Address) : GatewayView :=
  ⟨readEndpoint keccak256 s b, readSupportedKinds keccak256 s b, readMaxRelayGas keccak256 s b,
    readFeePolicy keccak256 s b, readFeeAmount keccak256 s b, readActive keccak256 s b,
    readRegisteredAt keccak256 s b⟩

/-- **A configuration is read from its own words**: two states whose words of `b`'s gateway agree
hold the same configuration for `b`. -/
theorem view_congr {keccak256 : List UInt8 → Hash} {A : List Address} {s s' : StateDB}
    {b : Address} (hb : b ∈ A)
    (h : ∀ k : GatewayKey, k.Within A → k.owner = some b → keyed keccak256 s k = keyed keccak256 s' k) :
    view keccak256 s b = view keccak256 s' b := by
  have hfield : ∀ k : GatewayKey, k.owner = some b → k.Within A → keyed keccak256 s k =
      keyed keccak256 s' k := fun k hown hk => h k hk hown
  simp only [view, GatewayView.mk.injEq]
  refine ⟨?_, ?_, ?_, ?_, ?_, ?_, ?_⟩
  · exact readEndpoint_congr (hfield (.endpointLen b) rfl hb)
      fun j hj => hfield (.endpointChunk b j) rfl ⟨hb, hj⟩
  · exact readSupportedKinds_congr (hfield (.kindsCount b) rfl hb)
      fun i hi => hfield (.kind b i) rfl ⟨hb, hi⟩
  · rw [readMaxRelayGas_eq, readMaxRelayGas_eq, hfield (.maxRelayGas b) rfl hb]
  · rw [readFeePolicy_eq, readFeePolicy_eq, hfield (.feePolicy b) rfl hb]
  · rw [readFeeAmount_eq, readFeeAmount_eq, hfield (.feeAmount b) rfl hb]
  · rw [readActive_eq, readActive_eq, hfield (.active b) rfl hb]
  · rw [readRegisteredAt_eq, readRegisteredAt_eq, hfield (.registeredAt b) rfl hb]

end Gtos.Gateway
