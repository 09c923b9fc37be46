import Gtos.Common.Hex
import Gtos.Core.StateDB

/-! # The name registry (`tns/state.go`)

A registered name maps both ways in the storage of `TNSRegistryAddress`: the hash of the name to
the address, at a slot named by Keccak-256 of a tag and the hash, and the address to the hash, at
a slot named by Keccak-256 of another tag and the address. A name's hash is Keccak-256 of the name
with the suffix `@tos.network`. An address has 32 bytes, a whole storage word, so the word read
back is the address itself.

Keccak-256 is a parameter of the model (`keccak256`). -/

namespace Gtos.Tns

open Gtos.Core

/-- `params.TNSRegistryAddress`. -/
def tnsRegistryAddress : Address := 0x106#256

/-- `params.TNSRegistrationFee`: 0.1 TOS, in tomi. -/
def tnsRegistrationFee : ℕ := 10 ^ 17

/-- `params.TNSMinNameLen`. -/
def tnsMinNameLen : ℕ := 3

/-- `params.TNSMaxNameLen`. -/
def tnsMaxNameLen : ℕ := 64

/-- `TNSSuffix`. -/
def tnsSuffix : String := "@tos.network"

section Slots

variable (keccak256 : List UInt8 → Hash)

/-- `nameToAddrSlot(nameHash)`. -/
def nameToAddrSlot (nameHash : Hash) : Hash :=
  keccak256 ("tns\x00n2a\x00".toUTF8.toList ++ wordBytes nameHash)

/-- `addrToNameSlot(addr)`. -/
def addrToNameSlot (addr : Address) : Hash :=
  keccak256 ("tns\x00a2n\x00".toUTF8.toList ++ wordBytes addr)

/-- `HashName(name)`: Keccak-256 of the name with the suffix. -/
def hashName (name : String) : Hash :=
  keccak256 (Text.utf8 (name ++ tnsSuffix))

end Slots

section Access

variable {σ : Type} [VmStateDB σ] (keccak256 : List UInt8 → Hash)

/-- `Resolve(db, nameHash)`: the address registered for the hash, zero if none. -/
def resolve (db : σ) (nameHash : Hash) : Address :=
  VmStateDB.getState db tnsRegistryAddress (nameToAddrSlot keccak256 nameHash)

/-- `Reverse(db, addr)`: the hash registered for the address, zero if none. -/
def reverse (db : σ) (addr : Address) : Hash :=
  VmStateDB.getState db tnsRegistryAddress (addrToNameSlot keccak256 addr)

/-- `HasName(db, addr)`. -/
def hasName (db : σ) (addr : Address) : Bool :=
  reverse keccak256 db addr ≠ 0

/-- `writeMapping(db, nameHash, addr)`: the address under the hash, then the hash under the
address. -/
def writeMapping (db : σ) (nameHash : Hash) (addr : Address) : σ :=
  let db := VmStateDB.setState db tnsRegistryAddress (nameToAddrSlot keccak256 nameHash) addr
  VmStateDB.setState db tnsRegistryAddress (addrToNameSlot keccak256 addr) nameHash

end Access

end Gtos.Tns
