import Gtos.AccountSigner.State
import Gtos.Common.Hex
import Gtos.Core.StateDB

/-! # The gateway registry (`gateway/state.go`, `gateway/types.go`)

A gateway's configuration lives in the storage of `GatewayRegistryAddress`, word by word, at slots
named by Keccak-256 of a tag, the agent's address, a zero byte and the field name: the active flag,
the block of registration and the relay gas limit as `uint64` words, the fee policy as a short
string (a length byte and at most 31 bytes), and the fee amount as a 32-byte number. The endpoint
takes a length word and 32-byte chunks at consecutive slots from a base; the supported kinds take a
count word and one short-string slot per kind, sorted, at consecutive slots from another base. One
more word counts the registrations.

* **`sortStrings`** — `sort.Strings`: the kinds ordered by their bytes. Any sorted permutation is
  this one (`eq_sortStrings_of_perm`), so the order of the stored kinds does not depend on the
  sort Go runs.
* **`shortStringWord`**, **`readShortString`** — the one-slot strings of the fee policy and of
  each kind; a string of 1 to 31 bytes reads back as itself, and one of 0 or 32 to 255 bytes reads
  back as nothing (`readShortString_shortStringWord`).
* **`readEndpointLoop`** — the loop of `ReadEndpoint`, which appends whole words while 32 bytes
  or more remain and then the first bytes of the last word; it reads back the chunks
  `writeEndpoint` stored (`readEndpointLoop_of_chunks`).

Keccak-256 is a parameter of the model (`keccak256`). A stored length or count of `2 ^ 63` or
more, which `int(...)` makes negative and `make` then rejects with a panic, is not modelled: no
write stores one. -/

namespace Gtos.Gateway

open Gtos.Core Gtos.AccountSigner

/-- `params.GatewayRegistryAddress`. -/
def gatewayRegistryAddress : Address := 0x10E#256

/-- `CapabilityName`. -/
def capabilityName : String := "GatewayRelay"

/-- `MaxEndpointLength`. -/
def maxEndpointLength : ℕ := 256

/-- `MaxSupportedKinds`. -/
def maxSupportedKinds : ℕ := 16

/-- `MaxKindLength`. -/
def maxKindLength : ℕ := 32

/-- `validFeePolicies[policy]`. -/
def validFeePolicy (policy : String) : Bool :=
  policy = "free" ∨ policy = "fixed" ∨ policy = "percent"

/-! ## Slots -/

section Slots

variable (keccak256 : List UInt8 → Hash)

/-- `gwSlot(addr, field)`: Keccak-256 of `gw\x00`, the address, a zero byte and the field. -/
def gwSlot (addr : Address) (field : String) : Hash :=
  keccak256 ("gw\x00".toUTF8.toList ++ wordBytes addr ++ [0] ++ field.toUTF8.toList)

/-- `gwCountSlot`. -/
def gwCountSlot : Hash :=
  keccak256 "gw\x00count".toUTF8.toList

/-- `endpointBaseSlot(addr)`. -/
def endpointBaseSlot (addr : Address) : Hash :=
  keccak256 ("gw\x00endpoint\x00".toUTF8.toList ++ wordBytes addr)

/-- `kindsBaseSlot(addr)`. -/
def kindsBaseSlot (addr : Address) : Hash :=
  keccak256 ("gw\x00kinds\x00".toUTF8.toList ++ wordBytes addr)

/-- The slot of chunk `j` of the endpoint: `BigToHash(base + j)`, which keeps the low 32 bytes. -/
def endpointChunkSlot (addr : Address) (j : ℕ) : Hash :=
  BitVec.ofNat 256 ((endpointBaseSlot keccak256 addr).toNat + j)

/-- The slot of kind `i`: `BigToHash(base + i)`. -/
def kindSlot (addr : Address) (i : ℕ) : Hash :=
  BitVec.ofNat 256 ((kindsBaseSlot keccak256 addr).toNat + i)

end Slots

/-! ## Short strings and sorted kinds -/

/-- The word of a short string: `val[0] = byte(len(s))` and `copy(val[1:], s)`, which copies at
most 31 bytes. -/
def shortStringWord (b : List UInt8) : Hash :=
  chunkWord (UInt8.ofNat b.length :: b.take 31)

/-- The string of a short-string word: the length byte, and as many bytes after it; nothing for a
length of 0 or above 31. -/
def readShortString (w : Hash) : Option (List UInt8) :=
  let raw := wordBytes w
  let length := (raw.headD 0).toNat
  if length = 0 ∨ length > 31 then none else some ((raw.drop 1).take length)

/-- `sort.Strings`: the strings in the order of their bytes. -/
def sortStrings (l : List String) : List String :=
  l.mergeSort fun a b => decide (Text.utf8 a ≤ Text.utf8 b)

/-- A short string of fewer than 256 bytes reads back as itself when it has 1 to 31 bytes, and as
nothing otherwise: its length byte is then 0 or above 31. -/
theorem readShortString_shortStringWord {b : List UInt8} (hb : b.length < 256) :
    readShortString (shortStringWord b) = if 0 < b.length ∧ b.length ≤ 31 then some b else none := by
  have hlen : (UInt8.ofNat b.length :: b.take 31).length ≤ 32 := by
    simp only [List.length_cons, List.length_take]
    omega
  have hbyte : (UInt8.ofNat b.length).toNat = b.length := by
    rw [UInt8.toNat_ofNat', Nat.mod_eq_of_lt hb]
  simp only [readShortString, shortStringWord, wordBytes_chunkWord _ hlen, List.cons_append,
    List.headD_cons, hbyte, List.drop_succ_cons, List.drop_zero]
  by_cases hb31 : 0 < b.length ∧ b.length ≤ 31
  · -- the whole string fits after the length byte, and the zeros after it are cut off
    have htake : b.take 31 = b := List.take_of_length_le (by omega)
    rw [if_neg (by omega), if_pos hb31, htake, List.take_left' rfl]
  · rw [if_pos (by omega), if_neg hb31]

theorem perm_sortStrings (l : List String) : (sortStrings l).Perm l :=
  List.mergeSort_perm _ _

/-- `sort.Strings` orders by bytes: each string's bytes are at most those of every later one. -/
theorem sorted_sortStrings (l : List String) :
    (sortStrings l).Pairwise fun a b => Text.utf8 a ≤ Text.utf8 b := by
  have h := @List.pairwise_mergeSort _ (fun a b => decide (Text.utf8 a ≤ Text.utf8 b))
    (fun a b c hab hbc => by
      simp only [decide_eq_true_eq] at hab hbc ⊢
      exact List.le_trans hab hbc)
    (fun a b => by simpa using List.le_total (Text.utf8 a) (Text.utf8 b)) l
  exact h.imp fun hab => by simpa using hab

theorem utf8_injective : Function.Injective Text.utf8 :=
  Function.LeftInverse.injective Text.ofUtf8_utf8

/-- **The sorted order is unique**: a permutation of the strings ordered by bytes is the one
`sortStrings` returns, whichever sort produced it. -/
theorem eq_sortStrings_of_perm {l l' : List String} (hperm : l'.Perm l)
    (hsorted : l'.Pairwise fun a b => Text.utf8 a ≤ Text.utf8 b) : l' = sortStrings l :=
  List.Perm.eq_of_pairwise
    (fun _ _ _ _ hab hba => utf8_injective (List.le_antisymm hab hba))
    hsorted (sorted_sortStrings l) (hperm.trans (perm_sortStrings l).symm)

/-! ## Access -/

section Access

variable {σ : Type} [VmStateDB σ] (keccak256 : List UInt8 → Hash)

/-- `ReadActive`: the last byte of the word is not zero. -/
def readActive (db : σ) (addr : Address) : Bool :=
  (VmStateDB.getState db gatewayRegistryAddress (gwSlot keccak256 addr "active")).toNat % 256 ≠ 0

/-- `WriteActive`: a word whose last byte is one, or the zero word. -/
def writeActive (db : σ) (addr : Address) (active : Bool) : σ :=
  VmStateDB.setState db gatewayRegistryAddress (gwSlot keccak256 addr "active")
    (if active then 1#256 else 0#256)

/-- `ReadRegisteredAt`. -/
def readRegisteredAt (db : σ) (addr : Address) : ℕ :=
  readUint64 db gatewayRegistryAddress (gwSlot keccak256 addr "registeredAt")

/-- `WriteRegisteredAt`: the block number as a `uint64` word. -/
def writeRegisteredAt (db : σ) (addr : Address) (blockNum : ℕ) : σ :=
  writeUint64 db gatewayRegistryAddress (gwSlot keccak256 addr "registeredAt") blockNum

/-- `ReadMaxRelayGas`. -/
def readMaxRelayGas (db : σ) (addr : Address) : ℕ :=
  readUint64 db gatewayRegistryAddress (gwSlot keccak256 addr "maxRelayGas")

/-- `WriteMaxRelayGas`. -/
def writeMaxRelayGas (db : σ) (addr : Address) (gas : UInt64) : σ :=
  writeUint64 db gatewayRegistryAddress (gwSlot keccak256 addr "maxRelayGas") gas.toNat

/-- `ReadFeePolicy`: the short string of the slot, the empty text when the length byte is 0 or
above 31. -/
def readFeePolicy (db : σ) (addr : Address) : String :=
  match readShortString (VmStateDB.getState db gatewayRegistryAddress (gwSlot keccak256 addr "feePolicy")) with
  | some b => Text.ofUtf8 b
  | none => ""

/-- `WriteFeePolicy`. -/
def writeFeePolicy (db : σ) (addr : Address) (policy : String) : σ :=
  VmStateDB.setState db gatewayRegistryAddress (gwSlot keccak256 addr "feePolicy")
    (shortStringWord (Text.utf8 policy))

/-- `ReadFeeAmount`: the word as an unsigned number. -/
def readFeeAmount (db : σ) (addr : Address) : ℕ :=
  (VmStateDB.getState db gatewayRegistryAddress (gwSlot keccak256 addr "feeAmount")).toNat

/-- `WriteFeeAmount`: `common.BigToHash` keeps the low 32 bytes of the absolute value. -/
def writeFeeAmount (db : σ) (addr : Address) (amount : ℤ) : σ :=
  VmStateDB.setState db gatewayRegistryAddress (gwSlot keccak256 addr "feeAmount")
    (BitVec.ofNat 256 amount.natAbs)

/-- The loop of `ReadEndpoint` from chunk `i` on, with `remaining` bytes still to read: a whole
word while 32 bytes or more remain, else the first `remaining` bytes of the word, which ends it. -/
def readEndpointLoop (db : σ) (addr : Address) (i remaining : ℕ) : List UInt8 :=
  if remaining = 0 then [] else
  let raw := wordBytes (VmStateDB.getState db gatewayRegistryAddress
    (endpointChunkSlot keccak256 addr i))
  if 32 ≤ remaining then raw ++ readEndpointLoop db addr (i + 1) (remaining - 32)
  else raw.take remaining
termination_by remaining

/-- **The endpoint loop reads back the chunks**: from chunk `i` on, slots that hold the words of
the chunks of `rest` read back as `rest`. -/
theorem readEndpointLoop_of_chunks (db : σ) (addr : Address) (i : ℕ) (rest : List UInt8)
    (hchunks : ∀ j < chunkCount rest.length, VmStateDB.getState db gatewayRegistryAddress
      (endpointChunkSlot keccak256 addr (i + j)) = chunkWord (chunkBytes rest j)) :
    readEndpointLoop keccak256 db addr i rest.length = rest := by
  -- strong induction on the bytes that remain, one whole chunk at a time
  induction hn : rest.length using Nat.strong_induction_on generalizing i rest with
  | _ n ih =>
    rw [hn] at hchunks
    rw [readEndpointLoop]
    by_cases hzero : n = 0
    · rw [if_pos hzero]
      exact (List.eq_nil_of_length_eq_zero (hn.trans hzero)).symm
    have hfirst : wordBytes (VmStateDB.getState db gatewayRegistryAddress
        (endpointChunkSlot keccak256 addr i)) =
          rest.take 32 ++ List.replicate (32 - (rest.take 32).length) 0 := by
      have h0 := hchunks 0 (chunkCount_pos (Nat.pos_of_ne_zero hzero))
      rw [Nat.add_zero] at h0
      rw [h0, chunkBytes_zero, wordBytes_chunkWord _ (by simp only [List.length_take, signerChunkSize]; omega)]
      rfl
    simp only [if_neg hzero, hfirst]
    split
    case isTrue hfull =>
      -- a whole word: the first 32 bytes, then the loop over the rest from the next chunk
      have hrest : (rest.drop 32).length = n - 32 := by rw [List.length_drop, hn]
      have hcount : chunkCount n = chunkCount (n - 32) + 1 := chunkCount_of_le hfull
      have htail := ih (n - 32) (by omega) (i + 1) (rest.drop 32) (fun j hj => by
        rw [hrest] at hj
        rw [show i + 1 + j = i + (j + 1) by omega, hchunks (j + 1) (by omega), chunkBytes_succ]
        rfl) hrest
      rw [htail, List.length_take, Nat.min_eq_left (by omega), Nat.sub_self, List.replicate_zero,
        List.append_nil, List.take_append_drop]
    case isFalse hpart =>
      -- the last word: the bytes that remain, before the zeros
      have htake : rest.take 32 = rest := List.take_of_length_le (by omega)
      rw [htake, List.take_left' hn]

/-- `ReadEndpoint`: the empty text for a stored length of 0 or above `MaxEndpointLength`. -/
def readEndpoint (db : σ) (addr : Address) : String :=
  let uriLen := readUint64 db gatewayRegistryAddress (gwSlot keccak256 addr "endpointLen")
  if uriLen = 0 ∨ uriLen > maxEndpointLength then "" else
  Text.ofUtf8 (readEndpointLoop keccak256 db addr 0 uriLen)

/-- `WriteEndpoint`: the byte length as a `uint64` word, then the word of each 32-byte chunk at
the base slot plus the chunk's index. -/
def writeEndpoint (db : σ) (addr : Address) (endpoint : String) : σ :=
  let data := Text.utf8 endpoint
  let db := writeUint64 db gatewayRegistryAddress (gwSlot keccak256 addr "endpointLen") data.length
  (List.range (chunkCount data.length)).foldl
    (fun db j => VmStateDB.setState db gatewayRegistryAddress (endpointChunkSlot keccak256 addr j)
      (chunkWord (chunkBytes data j))) db

/-- `ReadSupportedKinds`: the short strings of the slots `0 .. count - 1`, skipping those whose
length byte is 0 or above 31; nothing for a count of 0 or above `MaxSupportedKinds`. -/
def readSupportedKinds (db : σ) (addr : Address) : List String :=
  let count := readUint64 db gatewayRegistryAddress (gwSlot keccak256 addr "kindsCount")
  if count = 0 ∨ count > maxSupportedKinds then [] else
  (List.range count).filterMap fun i =>
    (readShortString (VmStateDB.getState db gatewayRegistryAddress (kindSlot keccak256 addr i))).map
      Text.ofUtf8

/-- `WriteSupportedKinds`: the kinds sorted, their count as a `uint64` word, and each kind's
short string at the base slot plus its index. -/
def writeSupportedKinds (db : σ) (addr : Address) (kinds : List String) : σ :=
  let sorted := sortStrings kinds
  let db := writeUint64 db gatewayRegistryAddress (gwSlot keccak256 addr "kindsCount") sorted.length
  (List.range sorted.length).foldl
    (fun db i => VmStateDB.setState db gatewayRegistryAddress (kindSlot keccak256 addr i)
      (shortStringWord (Text.utf8 (sorted.getD i "")))) db

/-- `ReadGatewayCount`. -/
def readGatewayCount (db : σ) : ℕ :=
  readUint64 db gatewayRegistryAddress (gwCountSlot keccak256)

/-- `IncrementGatewayCount`: the `uint64` successor of the count. -/
def incrementGatewayCount (db : σ) : σ :=
  writeUint64 db gatewayRegistryAddress (gwCountSlot keccak256) (readGatewayCount keccak256 db + 1)

end Access

end Gtos.Gateway
