import Gtos.Common.Hex
import Gtos.Core.StateDB
import Gtos.Lib.ParentMap

/-! # The referral registry (`referral/state.go`)

Each address has four words in the storage of `ReferralRegistryAddress`, at slots named by
Keccak-256 of a field tag and the address: its referrer (the zero address when it has none), the
block of its binding, the number of its direct referrals and the size of its team.

The referrers form a parent map with the zero address as "no parent" (`Gtos.Lib.ParentMap`):
`IsDownline` is the bounded search `ParentMap.findUp` over `ReadReferrer`, cut at
`MaxReferralDepth` steps.

The volume counters (`AddTeamVolume`, `AddTeamVolumeFor`) and the walks `GetUplines` and
`GetReferralDepth` serve the LVM and are not modelled. Keccak-256 is a parameter (`keccak256`). -/

namespace Gtos.Referral

open Gtos.Core

/-- `params.ReferralRegistryAddress`. -/
def referralRegistryAddress : Address := 0x107#256

/-- `params.MaxReferralDepth`. -/
def maxReferralDepth : ℕ := 20

/-- The four words of an address's record, by the tag their slot hashes. -/
inductive RefField
  | referrer
  | block
  | dcount
  | tsize
  deriving DecidableEq, Repr

/-- The tag of a field's slot. -/
def RefField.tag : RefField → String
  | .referrer => "ref\x00referrer\x00"
  | .block => "ref\x00block\x00"
  | .dcount => "ref\x00dcount\x00"
  | .tsize => "ref\x00tsize\x00"

/-- `refSlot(prefix, addr)`: Keccak-256 of the tag and the address. -/
def refSlot (keccak256 : List UInt8 → Hash) (field : RefField) (addr : Address) : Hash :=
  keccak256 (field.tag.toUTF8.toList ++ wordBytes addr)

section Access

variable {σ : Type} [VmStateDB σ] (keccak256 : List UInt8 → Hash)

/-- `ReadReferrer`: the word is the address. -/
def readReferrer (db : σ) (addr : Address) : Address :=
  VmStateDB.getState db referralRegistryAddress (refSlot keccak256 .referrer addr)

/-- `HasReferrer`. -/
def hasReferrer (db : σ) (addr : Address) : Bool :=
  readReferrer keccak256 db addr ≠ 0

/-- `ReadDirectCount`: the low 64 bits of the word, cut to a `uint32`. -/
def readDirectCount (db : σ) (addr : Address) : ℕ :=
  (VmStateDB.getState db referralRegistryAddress (refSlot keccak256 .dcount addr)).toNat % 2 ^ 64 %
    2 ^ 32

/-- `ReadTeamSize`: the low 64 bits of the word. -/
def readTeamSize (db : σ) (addr : Address) : ℕ :=
  (VmStateDB.getState db referralRegistryAddress (refSlot keccak256 .tsize addr)).toNat % 2 ^ 64

/-- `writeReferrer`: the referrer's 32 bytes are the word. -/
def writeReferrer (db : σ) (addr referrer : Address) : σ :=
  VmStateDB.setState db referralRegistryAddress (refSlot keccak256 .referrer addr) referrer

/-- `writeBoundBlock`, of a `uint64` block number. -/
def writeBoundBlock (db : σ) (addr : Address) (blockNum : ℕ) : σ :=
  VmStateDB.setState db referralRegistryAddress (refSlot keccak256 .block addr)
    (BitVec.ofNat 256 (blockNum % 2 ^ 64))

/-- `incrementDirectCount`: the `uint32` count plus one, wrapping. -/
def incrementDirectCount (db : σ) (addr : Address) : σ :=
  VmStateDB.setState db referralRegistryAddress (refSlot keccak256 .dcount addr)
    (BitVec.ofNat 256 ((readDirectCount keccak256 db addr + 1) % 2 ^ 32))

/-- `incrementTeamSize`: the `uint64` size plus one, wrapping. -/
def incrementTeamSize (db : σ) (addr : Address) : σ :=
  VmStateDB.setState db referralRegistryAddress (refSlot keccak256 .tsize addr)
    (BitVec.ofNat 256 ((readTeamSize keccak256 db addr + 1) % 2 ^ 64))

/-- `IsDownline(ancestor, descendant, maxDepth)`: whether `ancestor` is among the first
`min maxDepth MaxReferralDepth` referrers above `descendant`. The loop reads a referrer, stops
with `false` at the zero address and with `true` at `ancestor`, and otherwise climbs: it is
`ParentMap.findUp` over `ReadReferrer`. -/
def isDownline (db : σ) (ancestor descendant : Address) (maxDepth : ℕ) : Bool :=
  ParentMap.findUp 0 (readReferrer keccak256 db) ancestor (min maxDepth maxReferralDepth) descendant

end Access

end Gtos.Referral
