import Gtos.AccountSigner.State
import Gtos.Common.Hex
import Gtos.Core.StateDB

/-! # The agent registry (`agent/state.go`, `agent/types.go`)

Agents live in the storage of `AgentRegistryAddress`. Each address has four words there, at slots
named by Keccak-256 of the address, a zero byte and the field name: its locked stake, its status,
its suspended flag, and a flag set at its first registration. The registry keeps the list of every
address ever registered, as a count and a slot per index, and each agent's metadata URI: its
length, and its bytes in 32-byte chunks at consecutive slots from a base.

Keccak-256 is a parameter of the model (`keccak256`). `MetadataOf`, the reader of the URI, is not
modelled: no handler reads it. -/

namespace Gtos.Agent

open Gtos.Core

/-- `params.AgentRegistryAddress`. -/
def agentRegistryAddress : Address := 0x101#256

/-- `params.AgentMinStake`: 1,000 TOS, in tomi. -/
def agentMinStake : ℕ := 1000 * 10 ^ 18

/-- `MaxURILength`. -/
def maxURILength : ℕ := 256

/-- `AgentStatus`: a byte, of which two values are named. A status read from storage is the last
byte of the word, whatever it holds. -/
abbrev AgentStatus := UInt8

/-- `AgentInactive`: never registered, or withdrawn. -/
def agentInactive : AgentStatus := 0

/-- `AgentActive`: stake locked. -/
def agentActive : AgentStatus := 1

section Slots

variable (keccak256 : List UInt8 → Hash)

/-- `agentSlot(addr, field)`: Keccak-256 of the address, a zero byte and the field name. -/
def agentSlot (addr : Address) (field : String) : Hash :=
  keccak256 (wordBytes addr ++ [0] ++ field.toUTF8.toList)

/-- `agentCountSlot`. -/
def agentCountSlot : Hash :=
  keccak256 "agent\x00count".toUTF8.toList

/-- `agentListSlot(i)`: the slot of the `i`-th registered address. -/
def agentListSlot (i : ℕ) : Hash :=
  keccak256 ("agent\x00list\x00".toUTF8.toList ++ Bytes.toBytesBE i 8)

/-- `metadataSlot(addr)`: the base slot of the URI's chunks. -/
def metadataSlot (addr : Address) : Hash :=
  keccak256 ("agent\x00meta\x00".toUTF8.toList ++ wordBytes addr)

/-- `metadataLenSlot(addr)`: the slot of the URI's length. -/
def metadataLenSlot (addr : Address) : Hash :=
  keccak256 ("agent\x00metalen\x00".toUTF8.toList ++ wordBytes addr)

/-- The slot of chunk `j` of the URI: `BigToHash(base + j)`, which keeps the low 32 bytes. -/
def metadataChunkSlot (addr : Address) (j : ℕ) : Hash :=
  BitVec.ofNat 256 ((metadataSlot keccak256 addr).toNat + j)

end Slots

section Access

variable {σ : Type} [VmStateDB σ] (keccak256 : List UInt8 → Hash)

/-- `readAgentCount`: the low eight bytes of the count word. -/
def readAgentCount (db : σ) : ℕ :=
  (VmStateDB.getState db agentRegistryAddress (agentCountSlot keccak256)).toNat % 2 ^ 64

/-- `writeAgentCount(n)`, of a `uint64`. -/
def writeAgentCount (db : σ) (n : ℕ) : σ :=
  VmStateDB.setState db agentRegistryAddress (agentCountSlot keccak256) (BitVec.ofNat 256 n)

/-- `readAgentAt(i)`: the address is the whole 32-byte word. -/
def readAgentAt (db : σ) (i : ℕ) : Address :=
  VmStateDB.getState db agentRegistryAddress (agentListSlot keccak256 i)

/-- `appendAgentToList`: the address goes to the slot of index `count`, and the `uint64` count is
incremented. -/
def appendAgentToList (db : σ) (addr : Address) : σ :=
  let n := readAgentCount keccak256 db
  let db := VmStateDB.setState db agentRegistryAddress (agentListSlot keccak256 n) addr
  writeAgentCount keccak256 db ((n + 1) % 2 ^ 64)

/-- `readRegisteredFlag`: the last byte of the word is not zero. -/
def readRegisteredFlag (db : σ) (addr : Address) : Bool :=
  (VmStateDB.getState db agentRegistryAddress (agentSlot keccak256 addr "registered")).toNat % 256 ≠ 0

/-- `writeRegisteredFlag`: a word whose last byte is one. -/
def writeRegisteredFlag (db : σ) (addr : Address) : σ :=
  VmStateDB.setState db agentRegistryAddress (agentSlot keccak256 addr "registered") 1#256

/-- `IsRegistered`: whether `addr` has ever registered. -/
def isRegistered (db : σ) (addr : Address) : Bool :=
  readRegisteredFlag keccak256 db addr

/-- `IsSuspended`. -/
def isSuspended (db : σ) (addr : Address) : Bool :=
  (VmStateDB.getState db agentRegistryAddress (agentSlot keccak256 addr "suspended")).toNat % 256 ≠ 0

/-- `ReadStake`: the word as an unsigned integer. -/
def readStake (db : σ) (addr : Address) : ℕ :=
  (VmStateDB.getState db agentRegistryAddress (agentSlot keccak256 addr "stake")).toNat

/-- `ReadStatus`: the last byte of the word. -/
def readStatus (db : σ) (addr : Address) : AgentStatus :=
  UInt8.ofNat (VmStateDB.getState db agentRegistryAddress (agentSlot keccak256 addr "status")).toNat

/-- `WriteStake`: `common.BigToHash` keeps the low 32 bytes of the absolute value. -/
def writeStake (db : σ) (addr : Address) (stake : ℤ) : σ :=
  VmStateDB.setState db agentRegistryAddress (agentSlot keccak256 addr "stake")
    (BitVec.ofNat 256 stake.natAbs)

/-- `WriteSuspended`: the word `1` for true, zero for false. -/
def writeSuspended (db : σ) (addr : Address) (suspended : Bool) : σ :=
  VmStateDB.setState db agentRegistryAddress (agentSlot keccak256 addr "suspended")
    (if suspended then 1#256 else 0#256)

/-- `WriteStatus`: the status in the last byte of the word. -/
def writeStatus (db : σ) (addr : Address) (s : AgentStatus) : σ :=
  VmStateDB.setState db agentRegistryAddress (agentSlot keccak256 addr "status")
    (BitVec.ofNat 256 s.toNat)

/-- `WriteMetadata`: the byte length as a `uint64` word, then the word of each 32-byte chunk at
the base slot plus the chunk's index. -/
def writeMetadata (db : σ) (addr : Address) (uri : String) : σ :=
  let data := Text.utf8 uri
  let db := VmStateDB.setState db agentRegistryAddress (metadataLenSlot keccak256 addr)
    (BitVec.ofNat 256 (data.length % 2 ^ 64))
  (List.range (AccountSigner.chunkCount data.length)).foldl
    (fun db j => VmStateDB.setState db agentRegistryAddress (metadataChunkSlot keccak256 addr j)
      (AccountSigner.chunkWord (AccountSigner.chunkBytes data j))) db

/-- The addresses in the list slots `0 .. count - 1`, in order. -/
def agentList (db : σ) : List Address :=
  (List.range (readAgentCount keccak256 db)).map (readAgentAt keccak256 db)

end Access

end Gtos.Agent
