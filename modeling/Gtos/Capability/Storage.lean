import Mathlib.Data.Set.Function
import Mathlib.Data.Fintype.Card
import Gtos.Registry.Handler

/-! # The capability registry's storage, word by word

Every word the capability registry's account keeps is named by a `CapKey`: an address's bitmap, a
name's bit, the count of bits handed out, a bit's holder count, and the six words of a name's
capability record, which the registry handler keeps in the same account. The model reads the
storage through these names (`keyed`). Keccak-256 is assumed to have no collision among the slots
of the words of a finite set of names `N` and addresses `Ad` (`CapSlotsDistinct`); under that
assumption a write to one word leaves every other word as it was (`keyed_setState`).

Since there are at most `2 ^ 256` slots, the assumption bounds the number of addresses: an address's
bitmap and the count take distinct slots (`card_lt_of_capSlotsDistinct`), so that no holder count
of `Ad` reaches `2 ^ 256`. -/

namespace Gtos.Capability

open Gtos.Core Gtos.Registry

/-- A word of the capability registry's account, named by what it stores. -/
inductive CapKey
  /-- The capability bitmap of an address. -/
  | bitmap (addr : Address)
  /-- The bit a name is bound to. -/
  | name (name : String)
  /-- The number of bits handed out. -/
  | bitCount
  /-- The number of holders of a bit. -/
  | eligible (bit : UInt8)
  /-- The word at an offset below six of a name's capability record. -/
  | record (name : String) (offset : Fin 6)
  deriving DecidableEq

/-- The slot of each word. -/
def capKeySlot (keccak256 : List UInt8 → Hash) : CapKey → Hash
  | .bitmap addr => bitmapSlot keccak256 addr
  | .name n => nameSlot keccak256 n
  | .bitCount => bitCountSlot keccak256
  | .eligible bit => eligibleSlot keccak256 bit
  | .record n offset => capFieldSlot (capSlot keccak256 n) offset

/-- The words of the names of `N` and the addresses of `Ad`. -/
@[reducible] def CapKey.Within (N : Finset String) (Ad : Finset Address) : CapKey → Prop
  | .bitmap addr => addr ∈ Ad
  | .name n => n ∈ N
  | .bitCount => True
  | .eligible _ => True
  | .record n _ => n ∈ N

/-- Keccak-256 has no collision among the slots of the words of `N` and `Ad`. -/
def CapSlotsDistinct (keccak256 : List UInt8 → Hash) (N : Finset String) (Ad : Finset Address) :
    Prop :=
  Set.InjOn (capKeySlot keccak256) {k | k.Within N Ad}

theorem CapKey.within_bitmap {N : Finset String} {Ad : Finset Address} {a : Address} (ha : a ∈ Ad) :
    (CapKey.bitmap a).Within N Ad := ha

theorem CapKey.within_name {N : Finset String} {Ad : Finset Address} {n : String} (hn : n ∈ N) :
    (CapKey.name n).Within N Ad := hn

theorem CapKey.within_bitCount {N : Finset String} {Ad : Finset Address} :
    CapKey.bitCount.Within N Ad := trivial

theorem CapKey.within_eligible {N : Finset String} {Ad : Finset Address} (b : UInt8) :
    (CapKey.eligible b).Within N Ad := trivial

/-- The capability registry's storage, read by key. -/
def keyed (keccak256 : List UInt8 → Hash) (s : StateDB) (k : CapKey) : Hash :=
  s.storage capabilityRegistryAddress (capKeySlot keccak256 k)

section Keyed

variable {keccak256 : List UInt8 → Hash} {N : Finset String} {Ad : Finset Address}

/-- **A write by key.** Under `CapSlotsDistinct`, writing the slot of one word changes that word
only. -/
theorem keyed_setState (hslots : CapSlotsDistinct keccak256 N Ad) {k k' : CapKey}
    (hk : k.Within N Ad) (hk' : k'.Within N Ad) (s : StateDB) (v : Hash) :
    keyed keccak256 (VmStateDB.setState s capabilityRegistryAddress (capKeySlot keccak256 k) v) k' =
      if k' = k then v else keyed keccak256 s k' := by
  rw [keyed, StateDB.storage_setState_self, Function.update_apply]
  exact if_congr ⟨fun h => hslots hk' hk h, fun h => h ▸ rfl⟩ rfl rfl

/-- A write to another account leaves the registry's words. -/
theorem keyed_setState_of_ne {a : Address} (ha : a ≠ capabilityRegistryAddress) (s : StateDB)
    (slot v : Hash) : keyed keccak256 (VmStateDB.setState s a slot v) = keyed keccak256 s := by
  funext k
  exact congrFun (StateDB.storage_setState_of_ne s (Ne.symm ha) slot v) _

theorem delegationRegistryAddress_ne : delegationRegistryAddress ≠ capabilityRegistryAddress := by
  decide

/-- **The registry's addresses are fewer than the slots**: the bitmaps of `Ad` and the count take
distinct slots. -/
theorem card_lt_of_capSlotsDistinct (hslots : CapSlotsDistinct keccak256 N Ad) : Ad.card < 2 ^ 256 := by
  -- the slots of the bitmaps, and the count's slot, which is none of them
  have hinj : Set.InjOn (fun a => capKeySlot keccak256 (.bitmap a)) (Ad : Set Address) :=
    fun a ha b hb h => CapKey.bitmap.inj
      (hslots (show CapKey.bitmap a ∈ {k : CapKey | k.Within N Ad} from ha)
        (show CapKey.bitmap b ∈ {k : CapKey | k.Within N Ad} from hb) h)
  have hcount : capKeySlot keccak256 .bitCount ∉ Ad.image fun a => capKeySlot keccak256 (.bitmap a) := by
    rw [Finset.mem_image]
    rintro ⟨a, ha, h⟩
    exact CapKey.noConfusion
      (hslots (show CapKey.bitmap a ∈ {k : CapKey | k.Within N Ad} from ha)
        (show CapKey.bitCount ∈ {k : CapKey | k.Within N Ad} from trivial) h)
  -- a set of slots has at most `2 ^ 256` members, its words' values being distinct numbers
  have hcard : (insert (capKeySlot keccak256 .bitCount)
      (Ad.image fun a => capKeySlot keccak256 (.bitmap a))).card ≤ (Finset.range (2 ^ 256)).card :=
    Finset.card_le_card_of_injOn BitVec.toNat (fun x _ => Finset.mem_range.mpr x.isLt)
      fun x _ y _ h => BitVec.eq_of_toNat_eq h
  rw [Finset.card_insert_of_notMem hcount, Finset.card_image_of_injOn hinj, Finset.card_range] at hcard
  omega

/-! Every access of `capability/state.go` is a read or a write of one key. -/

theorem readBitmap_eq (s : StateDB) (a : Address) :
    readBitmap keccak256 s a = keyed keccak256 s (.bitmap a) := rfl

theorem readBitCount_eq (s : StateDB) :
    readBitCount keccak256 s = UInt8.ofNat (keyed keccak256 s .bitCount).toNat := rfl

theorem readNameBit_eq (s : StateDB) (n : String) :
    readNameBit keccak256 s n = nameBitOfWord (keyed keccak256 s (.name n)) := rfl

theorem readEligible_eq (s : StateDB) (bit : UInt8) :
    readEligible keccak256 s bit = (keyed keccak256 s (.eligible bit)).toNat := rfl

theorem writeBitmap_eq (s : StateDB) (a : Address) (w : Hash) :
    writeBitmap keccak256 s a w =
      VmStateDB.setState s capabilityRegistryAddress (capKeySlot keccak256 (.bitmap a)) w := rfl

theorem writeBitCount_eq (s : StateDB) (n : UInt8) :
    writeBitCount keccak256 s n = VmStateDB.setState s capabilityRegistryAddress
      (capKeySlot keccak256 .bitCount) (BitVec.ofNat 256 n.toNat) := rfl

theorem writeNameBit_eq (s : StateDB) (n : String) (bit : UInt8) :
    writeNameBit keccak256 s n bit = VmStateDB.setState s capabilityRegistryAddress
      (capKeySlot keccak256 (.name n)) (nameBitWord bit) := rfl

theorem writeEligible_eq (s : StateDB) (bit : UInt8) (count : ℕ) :
    writeEligible keccak256 s bit count = VmStateDB.setState s capabilityRegistryAddress
      (capKeySlot keccak256 (.eligible bit)) (BitVec.ofNat 256 count) := rfl

/-- A byte written to the count word reads back as itself. -/
theorem writeCapability_eq (s : StateDB) (rec : CapabilityRecord) :
    writeCapability keccak256 s rec =
      let set (t : StateDB) (i : Fin 6) (v : Hash) :=
        VmStateDB.setState t capabilityRegistryAddress (capKeySlot keccak256 (.record rec.name i)) v
      set (set (set (set (set (set s 0 (capPackedWord rec)) 1 rec.manifestRef) 2 rec.owner) 3
        (metaWord rec.createdAt rec.updatedAt)) 4 rec.updatedBy) 5 rec.statusRef := rfl

/-- **A record write** changes the record's six words only. -/
theorem keyed_writeCapability (hslots : CapSlotsDistinct keccak256 N Ad) (s : StateDB)
    {rec : CapabilityRecord} (hn : rec.name ∈ N) {k : CapKey} (hk : k.Within N Ad)
    (hne : ∀ i, k ≠ .record rec.name i) :
    keyed keccak256 (writeCapability keccak256 s rec) k = keyed keccak256 s k := by
  rw [writeCapability_eq]
  dsimp only
  rw [keyed_setState hslots hn hk, if_neg (hne 5), keyed_setState hslots hn hk, if_neg (hne 4),
    keyed_setState hslots hn hk, if_neg (hne 3), keyed_setState hslots hn hk, if_neg (hne 2),
    keyed_setState hslots hn hk, if_neg (hne 1), keyed_setState hslots hn hk, if_neg (hne 0)]

/-- **A delegation record write** leaves the capability registry's account. -/
theorem keyed_writeDelegation (s : StateDB) (rec : DelegationRecord) :
    keyed keccak256 (writeDelegation keccak256 s rec) = keyed keccak256 s := by
  simp only [writeDelegation, keyed_setState_of_ne delegationRegistryAddress_ne]

/-- A write by key leaves every other key. -/
theorem keyed_setState_of_key_ne (hslots : CapSlotsDistinct keccak256 N Ad) {k k' : CapKey}
    (hk : k.Within N Ad) (hk' : k'.Within N Ad) (hne : k' ≠ k) (s : StateDB)
    (v : Hash) :
    keyed keccak256 (VmStateDB.setState s capabilityRegistryAddress (capKeySlot keccak256 k) v) k' =
      keyed keccak256 s k' := by
  rw [keyed_setState hslots hk hk', if_neg hne]

end Keyed

/-! ## Reads after writes

Under `CapSlotsDistinct`, each of the four writers of `capability/state.go` is seen by the reader
of its own word only. -/

section Frame

variable {keccak256 : List UInt8 → Hash} {N : Finset String} {Ad : Finset Address}
  (hslots : CapSlotsDistinct keccak256 N Ad) (s : StateDB) {n n' : String} {a a' : Address}
include hslots

theorem readNameBit_writeNameBit (hn : n ∈ N) (hn' : n' ∈ N) (c : UInt8) :
    readNameBit keccak256 (writeNameBit keccak256 s n c) n' =
      if n' = n then (c, true) else readNameBit keccak256 s n' := by
  simp only [readNameBit_eq, writeNameBit_eq,
    keyed_setState hslots (CapKey.within_name hn) (CapKey.within_name hn')]
  by_cases h : n' = n <;> simp [h]

theorem readEligible_writeNameBit (hn : n ∈ N) (c b : UInt8) :
    readEligible keccak256 (writeNameBit keccak256 s n c) b = readEligible keccak256 s b := by
  simp only [readEligible_eq, writeNameBit_eq,
    keyed_setState_of_key_ne hslots (CapKey.within_name hn) (CapKey.within_eligible b) (by simp)]

theorem readBitmap_writeNameBit (hn : n ∈ N) (ha' : a' ∈ Ad) (c : UInt8) :
    readBitmap keccak256 (writeNameBit keccak256 s n c) a' = readBitmap keccak256 s a' := by
  simp only [readBitmap_eq, writeNameBit_eq,
    keyed_setState_of_key_ne hslots (CapKey.within_name hn) (CapKey.within_bitmap ha') (by simp)]

theorem readNameBit_writeBitCount (hn' : n' ∈ N) (c : UInt8) :
    readNameBit keccak256 (writeBitCount keccak256 s c) n' = readNameBit keccak256 s n' := by
  simp only [readNameBit_eq, writeBitCount_eq,
    keyed_setState_of_key_ne hslots CapKey.within_bitCount (CapKey.within_name hn') (by simp)]

theorem readBitCount_writeBitCount (c : UInt8) :
    readBitCount keccak256 (writeBitCount keccak256 s c) = c := by
  simp only [readBitCount_eq, writeBitCount_eq,
    keyed_setState hslots CapKey.within_bitCount CapKey.within_bitCount,
    if_true, ofNat_toNat_ofNat_byte]

theorem readEligible_writeBitCount (c b : UInt8) :
    readEligible keccak256 (writeBitCount keccak256 s c) b = readEligible keccak256 s b := by
  simp only [readEligible_eq, writeBitCount_eq,
    keyed_setState_of_key_ne hslots CapKey.within_bitCount (CapKey.within_eligible b) (by simp)]

theorem readBitmap_writeBitCount (ha' : a' ∈ Ad) (c : UInt8) :
    readBitmap keccak256 (writeBitCount keccak256 s c) a' = readBitmap keccak256 s a' := by
  simp only [readBitmap_eq, writeBitCount_eq,
    keyed_setState_of_key_ne hslots CapKey.within_bitCount (CapKey.within_bitmap ha') (by simp)]

theorem readNameBit_writeBitmap (ha : a ∈ Ad) (hn' : n' ∈ N) (w : Hash) :
    readNameBit keccak256 (writeBitmap keccak256 s a w) n' = readNameBit keccak256 s n' := by
  simp only [readNameBit_eq, writeBitmap_eq,
    keyed_setState_of_key_ne hslots (CapKey.within_bitmap ha) (CapKey.within_name hn') (by simp)]

theorem readBitCount_writeBitmap (ha : a ∈ Ad) (w : Hash) :
    readBitCount keccak256 (writeBitmap keccak256 s a w) = readBitCount keccak256 s := by
  simp only [readBitCount_eq, writeBitmap_eq,
    keyed_setState_of_key_ne hslots (CapKey.within_bitmap ha) CapKey.within_bitCount (by simp)]

theorem readEligible_writeBitmap (ha : a ∈ Ad) (w : Hash) (b : UInt8) :
    readEligible keccak256 (writeBitmap keccak256 s a w) b = readEligible keccak256 s b := by
  simp only [readEligible_eq, writeBitmap_eq,
    keyed_setState_of_key_ne hslots (CapKey.within_bitmap ha) (CapKey.within_eligible b) (by simp)]

theorem readBitmap_writeBitmap (ha : a ∈ Ad) (ha' : a' ∈ Ad) (w : Hash) :
    readBitmap keccak256 (writeBitmap keccak256 s a w) a' =
      if a' = a then w else readBitmap keccak256 s a' := by
  simp only [readBitmap_eq, writeBitmap_eq,
    keyed_setState hslots (CapKey.within_bitmap ha) (CapKey.within_bitmap ha'),
    CapKey.bitmap.injEq]

theorem readNameBit_writeEligible (hn' : n' ∈ N) (b : UInt8) (count : ℕ) :
    readNameBit keccak256 (writeEligible keccak256 s b count) n' = readNameBit keccak256 s n' := by
  simp only [readNameBit_eq, writeEligible_eq,
    keyed_setState_of_key_ne hslots (CapKey.within_eligible b) (CapKey.within_name hn') (by simp)]

theorem readBitCount_writeEligible (b : UInt8) (count : ℕ) :
    readBitCount keccak256 (writeEligible keccak256 s b count) = readBitCount keccak256 s := by
  simp only [readBitCount_eq, writeEligible_eq,
    keyed_setState_of_key_ne hslots (CapKey.within_eligible b) CapKey.within_bitCount (by simp)]

theorem readEligible_writeEligible (b b' : UInt8) (count : ℕ) :
    readEligible keccak256 (writeEligible keccak256 s b count) b' =
      if b' = b then count % 2 ^ 256 else readEligible keccak256 s b' := by
  simp only [readEligible_eq, writeEligible_eq,
    keyed_setState hslots (CapKey.within_eligible b) (CapKey.within_eligible b'),
    CapKey.eligible.injEq]
  by_cases h : b' = b <;> simp [h]

theorem readBitmap_writeEligible (ha' : a' ∈ Ad) (b : UInt8) (count : ℕ) :
    readBitmap keccak256 (writeEligible keccak256 s b count) a' = readBitmap keccak256 s a' := by
  simp only [readBitmap_eq, writeEligible_eq,
    keyed_setState_of_key_ne hslots (CapKey.within_eligible b) (CapKey.within_bitmap ha') (by simp)]

end Frame

/-! ## A stand-in for Keccak-256 -/

section StandIn

/-- A stand-in for Keccak-256 that separates the registry's words for the addresses below
`2 ^ 184` and the names of one ASCII letter: it keeps the length of the hashed bytes and their last
bytes, above the sixty-four bits to which a record's field offset is added. -/
def capHash (b : List UInt8) : Hash :=
  BitVec.ofNat 256 (2 ^ 64 * (b.length + 2 ^ 8 * Bytes.ofBytesBE b))

/-- The word whose slot is a `capHash`, read back from the length, which tells the kind of word,
and the last bytes: the address, the bit, or the name's letter and the record field's offset. -/
def capHashKey (h : Hash) : CapKey :=
  let n := h.toNat
  let tail := n / 2 ^ 72
  let letter := String.singleton (Char.ofNat (tail % 256))
  match n / 2 ^ 64 % 2 ^ 8 with
  | 43 => .bitmap (BitVec.ofNat 256 tail)
  | 12 => .bitCount
  | 14 => .eligible (UInt8.ofNat tail)
  | 9 => .record letter (Fin.ofNat 6 (n % 2 ^ 64))
  | _ => .name letter

theorem eligiblePrefix_length : ("cap\x00eligible\x00".toUTF8.toList).length = 13 := by
  rw [Text.toUTF8_toList]
  decide

/-- The slot of a holder count, computed: the prefix and the bit. -/
theorem capHash_eligible (b : UInt8) :
    capKeySlot capHash (.eligible b) = BitVec.ofNat 256
      (2 ^ 64 * (14 + 2 ^ 8 * (Bytes.ofBytesBE ("cap\x00eligible\x00".toUTF8.toList) * 256 + b.toNat))) := by
  rw [capKeySlot, eligibleSlot, capHash, List.length_append, eligiblePrefix_length,
    Bytes.ofBytesBE_append_singleton]
  rfl

/-- Every holder count's slot reads back as its bit. -/
theorem capHashKey_eligible (b : UInt8) : capHashKey (capKeySlot capHash (.eligible b)) = .eligible b := by
  rw [capHash_eligible]
  -- the prefix is a number of thirteen bytes, so the whole word stays below `2 ^ 256`
  have hP := Bytes.ofBytesBE_lt ("cap\x00eligible\x00".toUTF8.toList)
  rw [eligiblePrefix_length] at hP
  generalize Bytes.ofBytesBE ("cap\x00eligible\x00".toUTF8.toList) = P at hP ⊢
  have hb := b.toNat_lt
  have hlt : 2 ^ 64 * (14 + 2 ^ 8 * (P * 256 + b.toNat)) < 2 ^ 256 := by omega
  have hlen : 2 ^ 64 * (14 + 2 ^ 8 * (P * 256 + b.toNat)) / 2 ^ 64 % 2 ^ 8 = 14 := by omega
  have htail : 2 ^ 64 * (14 + 2 ^ 8 * (P * 256 + b.toNat)) / 2 ^ 72 = P * 256 + b.toNat := by omega
  simp only [capHashKey, BitVec.toNat_ofNat, Nat.mod_eq_of_lt hlt, hlen, htail]
  congr 1
  apply UInt8.toNat_inj.mp
  rw [UInt8.toNat_ofNat']
  omega

/-- The slots of the words of the names `r` and `s` and the addresses `0x1` and `0x2` read back as
their words. -/
theorem capHashKey_capKeySlot {k : CapKey} (hk : k.Within {"r", "s"} {1#256, 2#256}) :
    capHashKey (capKeySlot capHash k) = k := by
  cases k with
  | bitmap a =>
    have ha : a = 1#256 ∨ a = 2#256 := by simpa using hk
    rcases ha with rfl | rfl <;> simp only [capKeySlot, bitmapSlot, Text.toUTF8_toList] <;> decide
  | name n =>
    have hn : n = "r" ∨ n = "s" := by simpa using hk
    rcases hn with rfl | rfl <;> simp only [capKeySlot, nameSlot, Text.toUTF8_toList] <;> decide
  | bitCount =>
    simp only [capKeySlot, bitCountSlot, Text.toUTF8_toList]
    decide
  | eligible b => exact capHashKey_eligible b
  | record n i =>
    have hn : n = "r" ∨ n = "s" := by simpa using hk
    rcases hn with rfl | rfl <;> simp only [capKeySlot, capSlot, Text.toUTF8_toList] <;>
      revert i <;> decide

/-- The names `r` and `s` and the addresses `0x1` and `0x2` meet the hypothesis of the frame
lemmas under `capHash`. -/
theorem capSlotsDistinct_capHash : CapSlotsDistinct capHash {"r", "s"} {1#256, 2#256} :=
  fun k hk k' hk' heq => by
    rw [← capHashKey_capKeySlot hk, ← capHashKey_capKeySlot hk', heq]

end StandIn

end Gtos.Capability
