import Gtos.Common.Hex
import Gtos.Core.StateDB
import Gtos.Lib.Bitmap

/-! # The capability registry (`capability/state.go`, `capability/types.go`)

A capability is a bit: a registered capability name is bound to a bit index, and an address holds
the capabilities whose bits are set in its bitmap. Everything lives in the storage of
`CapabilityRegistryAddress`: per address its bitmap, per name its bit, the number of bits handed
out (`bitCount`), and per bit the number of addresses that hold it (`eligible`). Bits are handed out
in order: `RegisterCapabilityName` binds a new name to bit `bitCount` and increments the count, and
`RegisterCapabilityNameAtBit` does the same for a caller that names the bit, which must be
`bitCount`.

A name's word keeps the bit in its last byte and a "set" marker in the byte before it, so that a
name bound to bit 0 differs from an unwritten word. The bitmap is a 256-bit word, and the code's
`big.Int` operations on it (`Bit`, `SetBit`) are the word's, since the word is below `2 ^ 256` and
the index, a byte, below the width.

Keccak-256 is a parameter of the model (`keccak256`). -/

namespace Gtos.Capability

open Gtos.Core

/-- `params.CapabilityRegistryAddress`. -/
def capabilityRegistryAddress : Address := 0x102#256

/-- `ErrCapabilityNameExists`. -/
def errCapabilityNameExists : String := "capability: name already registered"

/-- `ErrCapabilityBitFull`. -/
def errCapabilityBitFull : String := "capability: all 256 bits allocated"

/-- `ErrCapabilityRegistrar`. -/
def errCapabilityRegistrar : String := "capability: Registrar capability required"

/-- `ErrCapabilityBitUnregistered`. -/
def errCapabilityBitUnregistered : String := "capability: bit index not registered"

/-- `ErrCapabilityBitConflict`. -/
def errCapabilityBitConflict : String :=
  "capability: requested bit index conflicts with allocation state"

section Slots

variable (keccak256 : List UInt8 → Hash)

/-- `bitmapSlot(addr)`: Keccak-256 of `"cap\x00bitmap\x00"` and the address. -/
def bitmapSlot (addr : Address) : Hash :=
  keccak256 ("cap\x00bitmap\x00".toUTF8.toList ++ wordBytes addr)

/-- `nameSlot(name)`: Keccak-256 of `"cap\x00name\x00"` and the name. -/
def nameSlot (name : String) : Hash :=
  keccak256 ("cap\x00name\x00".toUTF8.toList ++ name.toUTF8.toList)

/-- `bitCountSlot`. -/
def bitCountSlot : Hash :=
  keccak256 "cap\x00bitCount".toUTF8.toList

/-- `eligibleSlot(bit)`: Keccak-256 of `"cap\x00eligible\x00"` and the bit's byte. -/
def eligibleSlot (bit : UInt8) : Hash :=
  keccak256 ("cap\x00eligible\x00".toUTF8.toList ++ [bit])

end Slots

/-- What `readNameBit` reads off a name's word. -/
def nameBitOfWord (raw : Hash) : UInt8 × Bool :=
  let v : UInt8 := UInt8.ofNat raw.toNat
  if v = 0xFF ∧ raw = 0xFF#256 then (0, false)
  -- byte 30 is the "set" marker, which tells bit 0 from an unwritten word
  else if UInt8.ofNat (raw.toNat / 256) = 0 ∧ v = 0 then (0, false)
  else (v, true)

/-- The word `writeNameBit` stores: the marker `1` in byte 30 and the bit in byte 31. -/
def nameBitWord (bit : UInt8) : Hash := BitVec.ofNat 256 (256 + bit.toNat)

/-- A written name reads back as bound to its bit. -/
@[simp] theorem nameBitOfWord_nameBitWord (bit : UInt8) : nameBitOfWord (nameBitWord bit) = (bit, true) := by
  have hlt : 256 + bit.toNat < 2 ^ 256 := by
    have := bit.toNat_lt
    omega
  have hv : UInt8.ofNat (256 + bit.toNat) = bit := by
    apply UInt8.toNat_inj.mp
    simp only [UInt8.toNat_ofNat']
    have := bit.toNat_lt
    omega
  have hmark : (256 + bit.toNat) / 256 = 1 := by
    have := bit.toNat_lt
    omega
  unfold nameBitOfWord nameBitWord
  simp only [BitVec.toNat_ofNat, Nat.mod_eq_of_lt hlt, hv, hmark]
  rw [if_neg, if_neg]
  · rintro ⟨h, -⟩
    exact absurd h (by decide)
  · rintro ⟨-, h⟩
    have := congrArg BitVec.toNat h
    simp only [BitVec.toNat_ofNat, Nat.mod_eq_of_lt hlt] at this
    omega

/-- An unwritten name is unbound. -/
@[simp] theorem nameBitOfWord_zero : nameBitOfWord 0 = (0, false) := by decide

section Access

variable {σ : Type} [VmStateDB σ] (keccak256 : List UInt8 → Hash)

/-- `readBitmap`: the address's word, which `CapabilitiesOf` returns. -/
def readBitmap (db : σ) (addr : Address) : Hash :=
  VmStateDB.getState db capabilityRegistryAddress (bitmapSlot keccak256 addr)

/-- `writeBitmap`: `BigToHash` keeps the bitmap's word. -/
def writeBitmap (db : σ) (addr : Address) (bitmap : Hash) : σ :=
  VmStateDB.setState db capabilityRegistryAddress (bitmapSlot keccak256 addr) bitmap

/-- `readBitCount`: the word's `Uint64()`, cut to a byte. -/
def readBitCount (db : σ) : UInt8 :=
  UInt8.ofNat (VmStateDB.getState db capabilityRegistryAddress (bitCountSlot keccak256)).toNat

/-- `writeBitCount`: the count in the last byte. -/
def writeBitCount (db : σ) (n : UInt8) : σ :=
  VmStateDB.setState db capabilityRegistryAddress (bitCountSlot keccak256) (BitVec.ofNat 256 n.toNat)

/-- `readNameBit`: the bit in the last byte, when the word is neither the sentinel `0xFF` alone
nor zero in its last two bytes. -/
def readNameBit (db : σ) (name : String) : UInt8 × Bool :=
  nameBitOfWord (VmStateDB.getState db capabilityRegistryAddress (nameSlot keccak256 name))

/-- `writeNameBit`: the marker `1` in byte 30 and the bit in byte 31. -/
def writeNameBit (db : σ) (name : String) (bit : UInt8) : σ :=
  VmStateDB.setState db capabilityRegistryAddress (nameSlot keccak256 name) (nameBitWord bit)

/-- `readEligible`. -/
def readEligible (db : σ) (bit : UInt8) : ℕ :=
  (VmStateDB.getState db capabilityRegistryAddress (eligibleSlot keccak256 bit)).toNat

/-- `writeEligible`: `BigToHash` keeps the count modulo `2 ^ 256`. -/
def writeEligible (db : σ) (bit : UInt8) (count : ℕ) : σ :=
  VmStateDB.setState db capabilityRegistryAddress (eligibleSlot keccak256 bit) (BitVec.ofNat 256 count)

/-- `HasCapability(db, addr, bit)`. -/
def hasCapability (db : σ) (addr : Address) (bit : UInt8) : Bool :=
  (readBitmap keccak256 db addr).getLsbD bit.toNat

/-- `CapabilityBit(db, name)`. -/
def capabilityBit (db : σ) (name : String) : UInt8 × Bool :=
  readNameBit keccak256 db name

/-- `TotalEligible(db, bit)`. -/
def totalEligible (db : σ) (bit : UInt8) : ℕ :=
  readEligible keccak256 db bit

/-- **`GrantCapability`**: set the bit and count the address, unless it holds the bit already. -/
def grantCapability (db : σ) (addr : Address) (bit : UInt8) : σ :=
  let bitmap := readBitmap keccak256 db addr
  if bitmap.getLsbD bit.toNat = false then
    let db := writeBitmap keccak256 db addr (bitmap ||| 1#256 <<< bit.toNat)
    let count := readEligible keccak256 db bit
    writeEligible keccak256 db bit (count + 1)
  else db

/-- **`RevokeCapability`**: clear the bit and uncount the address, if it holds the bit; a count of
zero is left as it is. -/
def revokeCapability (db : σ) (addr : Address) (bit : UInt8) : σ :=
  let bitmap := readBitmap keccak256 db addr
  if bitmap.getLsbD bit.toNat = true then
    let db := writeBitmap keccak256 db addr (bitmap &&& ~~~(1#256 <<< bit.toNat))
    let count := readEligible keccak256 db bit
    if 0 < count then writeEligible keccak256 db bit (count - 1) else db
  else db

/-- **`RegisterCapabilityName`**: bind a new name to the next bit; bit `255` is never handed out. -/
def registerCapabilityName (db : σ) (name : String) : Except String (UInt8 × σ) :=
  if (readNameBit keccak256 db name).2 then .error errCapabilityNameExists
  else
    let next := readBitCount keccak256 db
    if next ≥ 255 then .error errCapabilityBitFull
    else
      let db := writeNameBit keccak256 db name next
      .ok (next, writeBitCount keccak256 db (next + 1))

/-- **`RegisterCapabilityNameAtBit`**: bind a new name to the requested bit, which must be the next
one. -/
def registerCapabilityNameAtBit (db : σ) (name : String) (bit : UInt8) : Except String σ :=
  if (readNameBit keccak256 db name).2 then .error errCapabilityNameExists
  else
    let next := readBitCount keccak256 db
    if bit ≥ 255 then .error errCapabilityBitFull
    else if bit ≠ next then .error errCapabilityBitConflict
    else .ok (writeBitCount keccak256 (writeNameBit keccak256 db name bit) (next + 1))

/-- A registration that succeeds binds an unbound name to the count, below `255`, and
increments the count. -/
theorem registerCapabilityName_ok {db db' : σ} {name : String} {bit : UInt8}
    (h : registerCapabilityName keccak256 db name = .ok (bit, db')) :
    (readNameBit keccak256 db name).2 = false ∧ bit = readBitCount keccak256 db ∧ bit < 255 ∧
      db' = writeBitCount keccak256 (writeNameBit keccak256 db name bit) (bit + 1) := by
  unfold registerCapabilityName at h
  dsimp only at h
  split_ifs at h with hbound hfull
  cases h
  exact ⟨by simpa using hbound, rfl, by simpa using hfull, rfl⟩

theorem registerCapabilityNameAtBit_ok {db db' : σ} {name : String} {bit : UInt8}
    (h : registerCapabilityNameAtBit keccak256 db name bit = .ok db') :
    (readNameBit keccak256 db name).2 = false ∧ bit = readBitCount keccak256 db ∧ bit < 255 ∧
      db' = writeBitCount keccak256 (writeNameBit keccak256 db name bit) (bit + 1) := by
  unfold registerCapabilityNameAtBit at h
  dsimp only at h
  split_ifs at h with hbound hfull hnext
  cases h
  push Not at hnext
  exact ⟨by simpa using hbound, hnext, by simpa using hfull, by rw [hnext]⟩

end Access

end Gtos.Capability
