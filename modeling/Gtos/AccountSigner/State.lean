import Gtos.AccountSigner.Crypto
import Gtos.Core.StateDB

/-! # The signer record of an account (`accountsigner/state.go`)

The signer an account configured is kept in the account's own storage: an exists flag, the byte
lengths of the type name and of the key text as `uint64` words, and the bytes of each string in
32-byte chunks. The chunk `i` of a string lives at `Keccak256(base ‖ 0x00 ‖ "chunk" ‖ i)`, where
`base` is the Keccak-256 of the string's label. `set` writes the new chunks, zeroes the chunks the
old string had beyond the new one, and then the lengths and the flag; `get` reads them back.

The bytes of the strings are their UTF-8 bytes, and `get` reads the bytes back as a text. Only
texts `set` wrote are ever read here, so the model's reading of other bytes (`Text.ofUtf8`)
decides nothing.

**Round trip** (`get_set`): after `set`, `get` returns what was set, provided no two slots of the
record collide (`SlotsDistinct`).

**Runs** (`get_setAll`): `set` zeroes the chunks between the new lengths and the stored ones, so
the record stays clear beyond its lengths (`RecordClear`, kept by `set_recordClear`), and after
any run of `set` the record reads back as the last call wrote it. -/

namespace Gtos.AccountSigner

open Gtos.Core

/-- `signerChunkSize`. -/
def signerChunkSize : ℕ := 32

section Slots

variable (b : SignerBackend)

/-- `signerExistsSlot`. -/
def signerExistsSlot : Hash := b.keccak256 "gtos.account.signer.exists".toUTF8.toList

/-- `signerTypeLenSlot`. -/
def signerTypeLenSlot : Hash := b.keccak256 "gtos.account.signer.typeLen".toUTF8.toList

/-- `signerValueLenSlot`. -/
def signerValueLenSlot : Hash := b.keccak256 "gtos.account.signer.valueLen".toUTF8.toList

/-- `signerTypeBaseSlot`. -/
def signerTypeBaseSlot : Hash := b.keccak256 "gtos.account.signer.type".toUTF8.toList

/-- `signerValueBaseSlot`. -/
def signerValueBaseSlot : Hash := b.keccak256 "gtos.account.signer.value".toUTF8.toList

/-- `signerChunkSlot(base, index)`: the index as eight big-endian bytes after the base and the
`chunk` tag. -/
def signerChunkSlot (base : Hash) (index : ℕ) : Hash :=
  b.keccak256 (wordBytes base ++ [0] ++ "chunk".toUTF8.toList ++ Bytes.toBytesBE index 8)

/-- The slots of a signer record whose strings take at most `typeChunks` and `valueChunks`
chunks do not collide: the three scalar slots are distinct, distinct chunks of one string have
distinct slots, and no chunk slot is a scalar slot or a chunk slot of the other string. This is
what the layout takes from the collision resistance of Keccak-256. -/
structure SlotsDistinct (typeChunks valueChunks : ℕ) : Prop where
  scalars : [signerExistsSlot b, signerTypeLenSlot b, signerValueLenSlot b].Nodup
  typeChunk_inj : ∀ i < typeChunks, ∀ j < typeChunks,
    signerChunkSlot b (signerTypeBaseSlot b) i = signerChunkSlot b (signerTypeBaseSlot b) j → i = j
  valueChunk_inj : ∀ i < valueChunks, ∀ j < valueChunks,
    signerChunkSlot b (signerValueBaseSlot b) i = signerChunkSlot b (signerValueBaseSlot b) j →
      i = j
  typeChunk_ne_valueChunk : ∀ i < typeChunks, ∀ j < valueChunks,
    signerChunkSlot b (signerTypeBaseSlot b) i ≠ signerChunkSlot b (signerValueBaseSlot b) j
  typeChunk_not_scalar : ∀ i < typeChunks, signerChunkSlot b (signerTypeBaseSlot b) i ∉
    [signerExistsSlot b, signerTypeLenSlot b, signerValueLenSlot b]
  valueChunk_not_scalar : ∀ i < valueChunks, signerChunkSlot b (signerValueBaseSlot b) i ∉
    [signerExistsSlot b, signerTypeLenSlot b, signerValueLenSlot b]

end Slots

/-! ## Words and chunks -/

/-- `chunkCount(valueLen)`: the chunks a string of `valueLen` bytes takes. The source adds in
`uint64`, which wraps only for lengths above `2 ^ 64 - 32`; the lengths of Go strings, an `int`,
stay below `2 ^ 63`, and so do the lengths a record holds (`RecordClear`). -/
def chunkCount (valueLen : ℕ) : ℕ :=
  if valueLen = 0 then 0 else (valueLen + signerChunkSize - 1) / signerChunkSize

/-- `value[start:end]` of chunk `index`, the end cut at the length. -/
def chunkBytes (value : List UInt8) (index : ℕ) : List UInt8 :=
  let start := index * signerChunkSize
  let stop := min (start + signerChunkSize) value.length
  (value.drop start).take (stop - start)

/-- The word of a chunk: `copy(word[:], chunk)`, the bytes first and zeros after them. -/
def chunkWord (chunk : List UInt8) : Hash :=
  BitVec.ofNat 256 (Bytes.ofBytesBE (chunk ++ List.replicate (32 - chunk.length) 0))

section Storage

variable {σ : Type} [VmStateDB σ] (b : SignerBackend)

/-- `readBool`: the last byte of the word is not zero. -/
def readBool (s : σ) (owner : Address) (slot : Hash) : Bool :=
  (VmStateDB.getState s owner slot).toNat % 256 ≠ 0

/-- `writeBool`: the word `1` for true, zero for false. -/
def writeBool (s : σ) (owner : Address) (slot : Hash) (v : Bool) : σ :=
  VmStateDB.setState s owner slot (if v then 1 else 0)

/-- `readUint64`: the last eight bytes of the word, big-endian. -/
def readUint64 (s : σ) (owner : Address) (slot : Hash) : ℕ :=
  (VmStateDB.getState s owner slot).toNat % 2 ^ 64

/-- `writeUint64`: the number in the last eight bytes of a zero word. -/
def writeUint64 (s : σ) (owner : Address) (slot : Hash) (n : ℕ) : σ :=
  VmStateDB.setState s owner slot (BitVec.ofNat 256 (n % 2 ^ 64))

/-- `readBytes`: each chunk's word, cut at the length, one after the other. -/
def readBytes (s : σ) (owner : Address) (base : Hash) (valueLen : ℕ) : List UInt8 :=
  if valueLen = 0 then [] else
  (List.range (chunkCount valueLen)).flatMap fun i =>
    let start := i * signerChunkSize
    let stop := min (start + signerChunkSize) valueLen
    (wordBytes (VmStateDB.getState s owner (signerChunkSlot b base i))).take (stop - start)

/-- `writeBytes`: the word of each chunk at the chunk's slot. -/
def writeBytes (s : σ) (owner : Address) (base : Hash) (value : List UInt8) : σ :=
  (List.range (chunkCount value.length)).foldl
    (fun s i => VmStateDB.setState s owner (signerChunkSlot b base i) (chunkWord (chunkBytes value i))) s

/-- `clearBytesRemainder`: zero the chunks of the old length beyond those of the new one. -/
def clearBytesRemainder (s : σ) (owner : Address) (base : Hash) (fromLen toLen : ℕ) : σ :=
  let oldChunks := chunkCount fromLen
  let newChunks := chunkCount toLen
  (List.range' newChunks (oldChunks - newChunks)).foldl
    (fun s i => VmStateDB.setState s owner (signerChunkSlot b base i) 0) s

/-- `Set(db, account, signerType, signerValue)`. -/
def set (s : σ) (account : Address) (signerType signerValue : String) : σ :=
  let oldTypeLen := readUint64 s account (signerTypeLenSlot b)
  let oldValueLen := readUint64 s account (signerValueLenSlot b)
  let typeBytes := Text.utf8 signerType
  let valueBytes := Text.utf8 signerValue
  let s := writeBytes b s account (signerTypeBaseSlot b) typeBytes
  let s := clearBytesRemainder b s account (signerTypeBaseSlot b) oldTypeLen typeBytes.length
  let s := writeBytes b s account (signerValueBaseSlot b) valueBytes
  let s := clearBytesRemainder b s account (signerValueBaseSlot b) oldValueLen valueBytes.length
  let s := writeUint64 s account (signerTypeLenSlot b) typeBytes.length
  let s := writeUint64 s account (signerValueLenSlot b) valueBytes.length
  writeBool s account (signerExistsSlot b) true

/-- `Get(db, account)`: the type name, the key text and whether a signer is configured; two empty
texts when none is. -/
def get (s : σ) (account : Address) : String × String × Bool :=
  if !readBool s account (signerExistsSlot b) then ("", "", false) else
  let typeLen := readUint64 s account (signerTypeLenSlot b)
  let valueLen := readUint64 s account (signerValueLenSlot b)
  let typeBytes := readBytes b s account (signerTypeBaseSlot b) typeLen
  let valueBytes := readBytes b s account (signerValueBaseSlot b) valueLen
  (Text.ofUtf8 typeBytes, Text.ofUtf8 valueBytes, true)

end Storage

/-! ## Reading back what `set` wrote -/

theorem length_chunkBytes (value : List UInt8) (index : ℕ) :
    (chunkBytes value index).length =
      min (index * signerChunkSize + signerChunkSize) value.length - index * signerChunkSize := by
  simp only [chunkBytes, List.length_take, List.length_drop]
  omega

/-- Chunk `i + 1` of a string is chunk `i` of the string without its first chunk. -/
theorem chunkBytes_succ (value : List UInt8) (i : ℕ) :
    chunkBytes value (i + 1) = chunkBytes (value.drop signerChunkSize) i := by
  have hstart : (i + 1) * signerChunkSize = signerChunkSize + i * signerChunkSize := by ring
  simp only [chunkBytes, List.drop_drop, List.length_drop, hstart]
  rw [List.take_eq_take_iff]
  simp only [List.length_drop, signerChunkSize]
  omega

/-- The first chunk of a string is its first 32 bytes. -/
theorem chunkBytes_zero (value : List UInt8) : chunkBytes value 0 = value.take signerChunkSize := by
  simp only [chunkBytes, zero_mul, List.drop_zero, zero_add, Nat.sub_zero]
  rw [List.take_eq_take_iff]
  omega

/-- The chunks of a string of at most `k` chunks make up the string. -/
theorem flatMap_range_chunkBytes (k : ℕ) (value : List UInt8)
    (hk : value.length ≤ k * signerChunkSize) :
    (List.range k).flatMap (chunkBytes value) = value := by
  induction k generalizing value with
  | zero => simp_all [signerChunkSize]
  | succ k ih =>
    rw [List.range_succ_eq_map, List.flatMap_cons, List.flatMap_map]
    simp only [Nat.succ_eq_add_one, chunkBytes_succ, chunkBytes_zero]
    rw [ih _ (by simp only [List.length_drop, signerChunkSize] at hk ⊢; omega),
      List.take_append_drop]

theorem length_le_chunkCount_mul (n : ℕ) : n ≤ chunkCount n * signerChunkSize := by
  unfold chunkCount signerChunkSize
  split <;> omega

/-- A string of at least 32 bytes takes one chunk more than the string without its first chunk. -/
theorem chunkCount_of_le {n : ℕ} (hn : signerChunkSize ≤ n) :
    chunkCount n = chunkCount (n - signerChunkSize) + 1 := by
  unfold chunkCount signerChunkSize at *
  split <;> split <;> omega

theorem chunkCount_mono {m n : ℕ} (h : m ≤ n) : chunkCount m ≤ chunkCount n := by
  unfold chunkCount signerChunkSize
  split <;> split <;> omega

theorem chunkCount_pos {n : ℕ} (hn : 0 < n) : 0 < chunkCount n := by
  unfold chunkCount signerChunkSize
  split <;> omega

theorem wordBytes_chunkWord (chunk : List UInt8) (hc : chunk.length ≤ 32) :
    wordBytes (chunkWord chunk) = chunk ++ List.replicate (32 - chunk.length) 0 := by
  have hlen : (chunk ++ List.replicate (32 - chunk.length) 0).length = 32 := by simp; omega
  have hlt := Bytes.ofBytesBE_lt (chunk ++ List.replicate (32 - chunk.length) 0)
  rw [hlen] at hlt
  rw [wordBytes, chunkWord, BitVec.toNat_ofNat, Nat.mod_eq_of_lt (by norm_num at hlt ⊢; omega)]
  have hround := Bytes.toBytesBE_ofBytesBE (chunk ++ List.replicate (32 - chunk.length) 0)
  rwa [hlen] at hround


section Storage
variable (b : SignerBackend)

/-- A string whose chunks hold their words reads back as the string. -/
theorem readBytes_of_chunks (s : StateDB) (owner : Address) (base : Hash) (value : List UInt8)
    (hchunks : ∀ i < chunkCount value.length,
      s.storage owner (signerChunkSlot b base i) = chunkWord (chunkBytes value i)) :
    readBytes b s owner base value.length = value := by
  unfold readBytes
  split
  case isTrue hzero => exact (List.eq_nil_of_length_eq_zero hzero).symm
  case isFalse =>
    conv_rhs => rw [← flatMap_range_chunkBytes _ value (length_le_chunkCount_mul _)]
    apply List.flatMap_congr
    intro i hi
    have hlen := length_chunkBytes value i
    have hle : (chunkBytes value i).length ≤ 32 := by rw [hlen]; simp only [signerChunkSize]; omega
    simp only [StateDB.getState_eq, hchunks i (List.mem_range.mp hi), wordBytes_chunkWord _ hle]
    exact List.take_left' hlen

@[simp] theorem storage_writeBytes (s : StateDB) (owner : Address) (base : Hash)
    (value : List UInt8) :
    (writeBytes b s owner base value).storage owner =
      WriteLoop.run (signerChunkSlot b base) (fun i => chunkWord (chunkBytes value i))
        (List.range (chunkCount value.length)) (s.storage owner) :=
  StateDB.storage_foldl_setState _ _ _ _ _

@[simp] theorem storage_clearBytesRemainder (s : StateDB) (owner : Address) (base : Hash)
    (fromLen toLen : ℕ) :
    (clearBytesRemainder b s owner base fromLen toLen).storage owner =
      WriteLoop.run (signerChunkSlot b base) (fun _ => 0)
        (List.range' (chunkCount toLen) (chunkCount fromLen - chunkCount toLen)) (s.storage owner) :=
  StateDB.storage_foldl_setState _ _ _ _ _

@[simp] theorem storage_writeUint64 (s : StateDB) (owner : Address) (slot : Hash) (n : ℕ) :
    (writeUint64 s owner slot n).storage owner =
      Function.update (s.storage owner) slot (BitVec.ofNat 256 (n % 2 ^ 64)) :=
  StateDB.storage_setState_self _ _ _ _

@[simp] theorem storage_writeBool (s : StateDB) (owner : Address) (slot : Hash) (v : Bool) :
    (writeBool s owner slot v).storage owner =
      Function.update (s.storage owner) slot (if v then 1 else 0) :=
  StateDB.storage_setState_self _ _ _ _


section SetReads

variable (s : StateDB) (account : Address) (signerType signerValue : String)

theorem set_exists :
    (set b s account signerType signerValue).storage account (signerExistsSlot b) = 1 := by
  simp [set]

theorem set_typeLen (hscalars : [signerExistsSlot b, signerTypeLenSlot b, signerValueLenSlot b].Nodup) :
    (set b s account signerType signerValue).storage account (signerTypeLenSlot b) =
      BitVec.ofNat 256 ((Text.utf8 signerType).length % 2 ^ 64) := by
  simp only [List.nodup_cons, List.mem_cons, List.not_mem_nil, or_false, not_or] at hscalars
  simp only [set, storage_writeBool, storage_writeUint64]
  rw [Function.update_of_ne (Ne.symm hscalars.1.1), Function.update_of_ne hscalars.2.1,
    Function.update_self]

theorem set_valueLen (hscalars : [signerExistsSlot b, signerTypeLenSlot b, signerValueLenSlot b].Nodup) :
    (set b s account signerType signerValue).storage account (signerValueLenSlot b) =
      BitVec.ofNat 256 ((Text.utf8 signerValue).length % 2 ^ 64) := by
  simp only [List.nodup_cons, List.mem_cons, List.not_mem_nil, or_false, not_or] at hscalars
  simp only [set, storage_writeBool, storage_writeUint64]
  rw [Function.update_of_ne (Ne.symm hscalars.1.2), Function.update_self]

theorem readUint64_set_typeLen
    (hscalars : [signerExistsSlot b, signerTypeLenSlot b, signerValueLenSlot b].Nodup)
    (hlen : (Text.utf8 signerType).length < 2 ^ 64) :
    readUint64 (set b s account signerType signerValue) account (signerTypeLenSlot b) =
      (Text.utf8 signerType).length := by
  rw [readUint64, StateDB.getState_eq, set_typeLen b s account _ _ hscalars, BitVec.toNat_ofNat]
  omega

theorem readUint64_set_valueLen
    (hscalars : [signerExistsSlot b, signerTypeLenSlot b, signerValueLenSlot b].Nodup)
    (hlen : (Text.utf8 signerValue).length < 2 ^ 64) :
    readUint64 (set b s account signerType signerValue) account (signerValueLenSlot b) =
      (Text.utf8 signerValue).length := by
  rw [readUint64, StateDB.getState_eq, set_valueLen b s account _ _ hscalars, BitVec.toNat_ofNat]
  omega


section Chunks

variable {nt nv : ℕ} (hslots : SlotsDistinct b nt nv)
  (hvalue : chunkCount (readUint64 s account (signerValueLenSlot b)) ⊔
    chunkCount (Text.utf8 signerValue).length ≤ nv)
include hslots hvalue

theorem set_typeChunk
    (htype : chunkCount (readUint64 s account (signerTypeLenSlot b)) ⊔
      chunkCount (Text.utf8 signerType).length ≤ nt)
    (i : ℕ) (hi : i < chunkCount (Text.utf8 signerType).length) :
    (set b s account signerType signerValue).storage account
        (signerChunkSlot b (signerTypeBaseSlot b) i) =
      chunkWord (chunkBytes (Text.utf8 signerType) i) := by
  have hint : i < nt := by omega
  have hnot := hslots.typeChunk_not_scalar i hint
  simp only [List.mem_cons, List.not_mem_nil, or_false, not_or] at hnot
  simp only [set, storage_writeBool, storage_writeUint64, storage_clearBytesRemainder,
    storage_writeBytes]
  rw [Function.update_of_ne hnot.1, Function.update_of_ne hnot.2.2,
    Function.update_of_ne hnot.2.1]
  -- the value's chunks, written and cleared, lie elsewhere
  rw [WriteLoop.run_apply_of_forall_ne, WriteLoop.run_apply_of_forall_ne,
    WriteLoop.run_apply_of_forall_ne]
  · exact WriteLoop.run_apply_key _ _ _ _ i (List.mem_range.mpr hi) fun j hj heq =>
      hslots.typeChunk_inj j (by rw [List.mem_range] at hj; omega) i hint heq
  · -- the type's cleared chunks all come after chunk `i`
    intro j hj heq
    rw [List.mem_range'_1] at hj
    have := hslots.typeChunk_inj j (by omega) i hint heq
    omega
  · intro j hj
    rw [List.mem_range] at hj
    exact (hslots.typeChunk_ne_valueChunk i hint j (by omega)).symm
  · intro j hj
    rw [List.mem_range'_1] at hj
    exact (hslots.typeChunk_ne_valueChunk i hint j (by omega)).symm

theorem set_valueChunk (i : ℕ) (hi : i < chunkCount (Text.utf8 signerValue).length) :
    (set b s account signerType signerValue).storage account
        (signerChunkSlot b (signerValueBaseSlot b) i) =
      chunkWord (chunkBytes (Text.utf8 signerValue) i) := by
  have hinv : i < nv := by omega
  have hnot := hslots.valueChunk_not_scalar i hinv
  simp only [List.mem_cons, List.not_mem_nil, or_false, not_or] at hnot
  simp only [set, storage_writeBool, storage_writeUint64, storage_clearBytesRemainder,
    storage_writeBytes]
  rw [Function.update_of_ne hnot.1, Function.update_of_ne hnot.2.2,
    Function.update_of_ne hnot.2.1]
  rw [WriteLoop.run_apply_of_forall_ne]
  · exact WriteLoop.run_apply_key _ _ _ _ i (List.mem_range.mpr hi) fun j hj heq =>
      hslots.valueChunk_inj j (by rw [List.mem_range] at hj; omega) i hinv heq
  · -- the value's cleared chunks all come after chunk `i`
    intro j hj heq
    rw [List.mem_range'_1] at hj
    have := hslots.valueChunk_inj j (by omega) i hinv heq
    omega

end Chunks

end SetReads

/-- **Round trip of the signer record**: `Get` after `Set` returns the type name and the key text
that were set, when the slots of the record do not collide and the lengths fit their `uint64`
words. -/
theorem get_set (s : StateDB) (account : Address) (signerType signerValue : String)
    (htypeLen : (Text.utf8 signerType).length < 2 ^ 64)
    (hvalueLen : (Text.utf8 signerValue).length < 2 ^ 64)
    (hslots : SlotsDistinct b
      (chunkCount (readUint64 s account (signerTypeLenSlot b)) ⊔
        chunkCount (Text.utf8 signerType).length)
      (chunkCount (readUint64 s account (signerValueLenSlot b)) ⊔
        chunkCount (Text.utf8 signerValue).length)) :
    get b (set b s account signerType signerValue) account = (signerType, signerValue, true) := by
  have hexists : readBool (set b s account signerType signerValue) account (signerExistsSlot b) :=
    by simp [readBool, set_exists]
  have htypeLen' := readUint64_set_typeLen b s account _ signerValue hslots.scalars htypeLen
  have hvalueLen' := readUint64_set_valueLen b s account signerType _ hslots.scalars hvalueLen
  have htypeBytes := readBytes_of_chunks b (set b s account signerType signerValue) account
    (signerTypeBaseSlot b) (Text.utf8 signerType)
    (set_typeChunk b s account signerType signerValue hslots le_rfl le_rfl)
  have hvalueBytes := readBytes_of_chunks b (set b s account signerType signerValue) account
    (signerValueBaseSlot b) (Text.utf8 signerValue)
    (set_valueChunk b s account signerType signerValue hslots le_rfl)
  simp only [get, hexists, htypeLen', hvalueLen', htypeBytes, hvalueBytes, Text.ofUtf8_utf8]
  rfl

end Storage

/-! ## Runs of `Set` -/

theorem chunkCount_le (n : ℕ) : chunkCount n ≤ n := by
  unfold chunkCount signerChunkSize
  split <;> omega

theorem readUint64_lt {σ : Type} [VmStateDB σ] (s : σ) (owner : Address) (slot : Hash) :
    readUint64 s owner slot < 2 ^ 64 :=
  Nat.mod_lt _ (by norm_num)

/-- Distinct slots for longer strings are distinct slots for shorter ones. -/
theorem SlotsDistinct.mono {b : SignerBackend} {nt nv nt' nv' : ℕ} (h : SlotsDistinct b nt nv)
    (ht : nt' ≤ nt) (hv : nv' ≤ nv) : SlotsDistinct b nt' nv' where
  scalars := h.scalars
  typeChunk_inj i hi j hj := h.typeChunk_inj i (by omega) j (by omega)
  valueChunk_inj i hi j hj := h.valueChunk_inj i (by omega) j (by omega)
  typeChunk_ne_valueChunk i hi j hj := h.typeChunk_ne_valueChunk i (by omega) j (by omega)
  typeChunk_not_scalar i hi := h.typeChunk_not_scalar i (by omega)
  valueChunk_not_scalar i hi := h.valueChunk_not_scalar i (by omega)

section Runs

variable (b : SignerBackend)

/-- The stored length of a string of the record is that of a Go string, and the chunks beyond
those of the length hold zero words. A shrinking `Set` zeroes only the chunks between the new
length and the stored one, so it leaves nothing of an older string behind only where this held
before. Chunk indices are `uint64`. -/
def ClearBeyond (s : StateDB) (account : Address) (base lenSlot : Hash) : Prop :=
  readUint64 s account lenSlot < 2 ^ 63 ∧
    ∀ i < 2 ^ 64, chunkCount (readUint64 s account lenSlot) ≤ i →
      s.storage account (signerChunkSlot b base i) = 0

/-- Both strings of an account's signer record are clear beyond their stored lengths. -/
def RecordClear (s : StateDB) (account : Address) : Prop :=
  ClearBeyond b s account (signerTypeBaseSlot b) (signerTypeLenSlot b) ∧
    ClearBeyond b s account (signerValueBaseSlot b) (signerValueLenSlot b)

/-- An account whose storage was never written has a clear record. -/
theorem recordClear_of_storage_eq_zero {s : StateDB} {account : Address}
    (h : s.storage account = fun _ => 0) : RecordClear b s account := by
  have hzero : ∀ slot, readUint64 s account slot = 0 := fun slot => by
    simp [readUint64, StateDB.getState_eq, h]
  constructor <;> refine ⟨by rw [hzero]; norm_num, fun i _ _ => by rw [h]⟩

/-- `Set(db, account, type, value)` called for each pair in turn. -/
def setAll (s : StateDB) (account : Address) (calls : List (String × String)) : StateDB :=
  calls.foldl (fun s c => set b s account c.1 c.2) s

theorem setAll_append_singleton (s : StateDB) (account : Address) (calls : List (String × String))
    (signerType signerValue : String) :
    setAll b s account (calls ++ [(signerType, signerValue)]) =
      set b (setAll b s account calls) account signerType signerValue := by
  simp only [setAll, List.foldl_append, List.foldl_cons, List.foldl_nil]

/-- `Set` writes only the account's own storage. -/
theorem storage_set_of_ne (s : StateDB) {account owner : Address} (h : owner ≠ account)
    (signerType signerValue : String) :
    (set b s account signerType signerValue).storage owner = s.storage owner := by
  simp only [set, writeBool, writeUint64, writeBytes, clearBytesRemainder,
    StateDB.storage_setState_of_ne _ h, StateDB.storage_foldl_setState_of_ne _ _ h]

section SetReads

variable (s : StateDB) (account : Address) (signerType signerValue : String)

variable (hslots : SlotsDistinct b (2 ^ 64) (2 ^ 64))
include hslots

/-- A type chunk beyond the new type name is zero if the old name had it, and untouched
otherwise. -/
theorem set_typeChunk_beyond (hvalue : (Text.utf8 signerValue).length < 2 ^ 64) (i : ℕ)
    (hi : i < 2 ^ 64) (hbeyond : chunkCount (Text.utf8 signerType).length ≤ i) :
    (set b s account signerType signerValue).storage account
        (signerChunkSlot b (signerTypeBaseSlot b) i) =
      if i < chunkCount (readUint64 s account (signerTypeLenSlot b)) then 0
      else s.storage account (signerChunkSlot b (signerTypeBaseSlot b) i) := by
  have hnot := hslots.typeChunk_not_scalar i hi
  simp only [List.mem_cons, List.not_mem_nil, or_false, not_or] at hnot
  simp only [set, storage_writeBool, storage_writeUint64, storage_clearBytesRemainder,
    storage_writeBytes]
  rw [Function.update_of_ne hnot.1, Function.update_of_ne hnot.2.2,
    Function.update_of_ne hnot.2.1]
  -- the value's chunks, written and cleared, lie elsewhere
  rw [WriteLoop.run_apply_of_forall_ne, WriteLoop.run_apply_of_forall_ne]
  · exact WriteLoop.run_clear_tail_apply _ _ _ _ hslots.typeChunk_inj hbeyond hi
      ((chunkCount_le _).trans (readUint64_lt _ _ _).le)
  · intro j hj
    rw [List.mem_range] at hj
    have := chunkCount_le (Text.utf8 signerValue).length
    exact (hslots.typeChunk_ne_valueChunk i hi j (by omega)).symm
  · intro j hj
    rw [List.mem_range'_1] at hj
    have := chunkCount_le (readUint64 s account (signerValueLenSlot b))
    have := readUint64_lt s account (signerValueLenSlot b)
    exact (hslots.typeChunk_ne_valueChunk i hi j (by omega)).symm

/-- A value chunk beyond the new key text is zero if the old text had it, and untouched
otherwise. -/
theorem set_valueChunk_beyond (htype : (Text.utf8 signerType).length < 2 ^ 64) (i : ℕ)
    (hi : i < 2 ^ 64) (hbeyond : chunkCount (Text.utf8 signerValue).length ≤ i) :
    (set b s account signerType signerValue).storage account
        (signerChunkSlot b (signerValueBaseSlot b) i) =
      if i < chunkCount (readUint64 s account (signerValueLenSlot b)) then 0
      else s.storage account (signerChunkSlot b (signerValueBaseSlot b) i) := by
  have hnot := hslots.valueChunk_not_scalar i hi
  simp only [List.mem_cons, List.not_mem_nil, or_false, not_or] at hnot
  simp only [set, storage_writeBool, storage_writeUint64, storage_clearBytesRemainder,
    storage_writeBytes]
  rw [Function.update_of_ne hnot.1, Function.update_of_ne hnot.2.2,
    Function.update_of_ne hnot.2.1]
  rw [WriteLoop.run_clear_tail_apply _ _ _ _ hslots.valueChunk_inj hbeyond hi
      ((chunkCount_le _).trans (readUint64_lt _ _ _).le)]
  -- the type's chunks, written and cleared before, lie elsewhere
  rw [WriteLoop.run_apply_of_forall_ne, WriteLoop.run_apply_of_forall_ne]
  · intro j hj
    rw [List.mem_range] at hj
    have := chunkCount_le (Text.utf8 signerType).length
    exact hslots.typeChunk_ne_valueChunk j (by omega) i hi
  · intro j hj
    rw [List.mem_range'_1] at hj
    have := chunkCount_le (readUint64 s account (signerTypeLenSlot b))
    have := readUint64_lt s account (signerTypeLenSlot b)
    exact hslots.typeChunk_ne_valueChunk j (by omega) i hi

/-- **`Set` keeps the record clear**: the chunks it does not write are those beyond the new
lengths, and it zeroes those the old lengths still had. -/
theorem set_recordClear (hclear : RecordClear b s account)
    (htype : (Text.utf8 signerType).length < 2 ^ 63)
    (hvalue : (Text.utf8 signerValue).length < 2 ^ 63) :
    RecordClear b (set b s account signerType signerValue) account := by
  have htype' : (Text.utf8 signerType).length < 2 ^ 64 := htype.trans (by norm_num)
  have hvalue' : (Text.utf8 signerValue).length < 2 ^ 64 := hvalue.trans (by norm_num)
  have htypeLen := readUint64_set_typeLen b s account _ signerValue hslots.scalars htype'
  have hvalueLen := readUint64_set_valueLen b s account signerType _ hslots.scalars hvalue'
  constructor
  · refine ⟨by rw [htypeLen]; exact htype, fun i hi hbeyond => ?_⟩
    rw [htypeLen] at hbeyond
    rw [set_typeChunk_beyond b s account _ _ hslots hvalue' i hi hbeyond]
    split
    case isTrue => rfl
    case isFalse hold => exact hclear.1.2 i hi (by omega)
  · refine ⟨by rw [hvalueLen]; exact hvalue, fun i hi hbeyond => ?_⟩
    rw [hvalueLen] at hbeyond
    rw [set_valueChunk_beyond b s account _ _ hslots htype' i hi hbeyond]
    split
    case isTrue => rfl
    case isFalse hold => exact hclear.2.2 i hi (by omega)

end SetReads

/-- The strings of every call are as long as a Go string can be: below `2 ^ 63`, the range of
`int`. -/
def LengthsFit (calls : List (String × String)) : Prop :=
  ∀ c ∈ calls, (Text.utf8 c.1).length < 2 ^ 63 ∧ (Text.utf8 c.2).length < 2 ^ 63

/-- A run of `Set` keeps the record clear. -/
theorem recordClear_setAll (hslots : SlotsDistinct b (2 ^ 64) (2 ^ 64)) {s : StateDB}
    {account : Address} (hclear : RecordClear b s account) (calls : List (String × String))
    (hfit : LengthsFit calls) : RecordClear b (setAll b s account calls) account := by
  induction calls generalizing s with
  | nil => exact hclear
  | cons c calls ih =>
    have hc := hfit c List.mem_cons_self
    exact ih (set_recordClear b s account c.1 c.2 hslots hclear hc.1 hc.2)
      fun c' hc' => hfit c' (List.mem_cons_of_mem c hc')

/-- A run of `Set` on one account writes no other account's storage. -/
theorem storage_setAll_of_ne (s : StateDB) {account owner : Address} (h : owner ≠ account)
    (calls : List (String × String)) :
    (setAll b s account calls).storage owner = s.storage owner := by
  induction calls generalizing s with
  | nil => rfl
  | cons c calls ih => rw [setAll, List.foldl_cons, ← setAll, ih, storage_set_of_ne b s h]

/-- **Round trip of a run of `Set`**: after any calls of `Set` on an account whose record was
clear, `Get` returns the last type name and key text; the chunks beyond those of the last
strings hold zero words, whether the strings grew or shrank; and no other account's storage is
written. The record's slots do not collide for any `uint64` chunk index. -/
theorem get_setAll (hslots : SlotsDistinct b (2 ^ 64) (2 ^ 64)) (s : StateDB)
    (account : Address) (hclear : RecordClear b s account) (calls : List (String × String))
    (signerType signerValue : String) (hfit : LengthsFit (calls ++ [(signerType, signerValue)])) :
    get b (setAll b s account (calls ++ [(signerType, signerValue)])) account =
        (signerType, signerValue, true) ∧
      (∀ i < 2 ^ 64, chunkCount (Text.utf8 signerType).length ≤ i →
        (setAll b s account (calls ++ [(signerType, signerValue)])).storage account
          (signerChunkSlot b (signerTypeBaseSlot b) i) = 0) ∧
      (∀ i < 2 ^ 64, chunkCount (Text.utf8 signerValue).length ≤ i →
        (setAll b s account (calls ++ [(signerType, signerValue)])).storage account
          (signerChunkSlot b (signerValueBaseSlot b) i) = 0) ∧
      ∀ owner, owner ≠ account →
        (setAll b s account (calls ++ [(signerType, signerValue)])).storage owner =
          s.storage owner := by
  obtain ⟨htype₆₃, hvalue₆₃⟩ : (Text.utf8 signerType).length < 2 ^ 63 ∧
      (Text.utf8 signerValue).length < 2 ^ 63 :=
    hfit _ (List.mem_append_right _ (List.mem_singleton_self _))
  have htype : (Text.utf8 signerType).length < 2 ^ 64 := htype₆₃.trans (by norm_num)
  have hvalue : (Text.utf8 signerValue).length < 2 ^ 64 := hvalue₆₃.trans (by norm_num)
  have hprefix : RecordClear b (setAll b s account calls) account :=
    recordClear_setAll b hslots hclear calls fun c hc => hfit c (List.mem_append_left _ hc)
  have hfinal := set_recordClear b _ account signerType signerValue hslots hprefix htype₆₃ hvalue₆₃
  rw [setAll_append_singleton]
  refine ⟨get_set b _ _ _ _ htype hvalue (hslots.mono ?_ ?_), ?_, ?_, ?_⟩
  · have := chunkCount_le (readUint64 (setAll b s account calls) account (signerTypeLenSlot b))
    have := readUint64_lt (setAll b s account calls) account (signerTypeLenSlot b)
    have := chunkCount_le (Text.utf8 signerType).length
    omega
  · have := chunkCount_le (readUint64 (setAll b s account calls) account (signerValueLenSlot b))
    have := readUint64_lt (setAll b s account calls) account (signerValueLenSlot b)
    have := chunkCount_le (Text.utf8 signerValue).length
    omega
  · intro i hi hbeyond
    apply hfinal.1.2 i hi
    rwa [readUint64_set_typeLen b _ account _ _ hslots.scalars htype]
  · intro i hi hbeyond
    apply hfinal.2.2 i hi
    rwa [readUint64_set_valueLen b _ account _ _ hslots.scalars hvalue]
  · intro owner h
    rw [storage_set_of_ne b _ h, storage_setAll_of_ne b s h]

end Runs

/-! ## A hash that keeps the record's slots apart -/

/-- A stand-in for Keccak-256 on the record's slots: it reads the length of the input, the low
eight bytes of its first word and its last eight bytes. The labels of the scalar slots differ in
length from each other and from the inputs of the chunk slots, the two bases differ in their last
bytes, and a chunk slot ends with its index. -/
def layoutHash (bytes : List UInt8) : Hash :=
  BitVec.ofNat 256 (2 ^ 192 * bytes.length + 2 ^ 64 * (Bytes.ofBytesBE (bytes.take 32) % 2 ^ 64) +
    Bytes.ofBytesBE (bytes.drop (bytes.length - 8)) % 2 ^ 64)

/-- A backend hashing with `layoutHash`; the record never calls its curve code. -/
def layoutBackend : SignerBackend where
  keccak256 := layoutHash
  normalizeCurve _ _ := none
  unmarshalSecp256k1 _ := false
  supportsBLS := false
  verifyRawSignature _ _ _ _ _ := false
  recoverPlain _ _ _ _ := none
  sigToAddress _ _ _ _ := none
  unicode := Text.asciiLower

theorem toNat_signerChunkSlot_layout (base : Hash) (i : ℕ) :
    (signerChunkSlot layoutBackend base i).toNat =
      2 ^ 192 * 46 + 2 ^ 64 * (base.toNat % 2 ^ 64) + i % 2 ^ 64 := by
  have hbase : (wordBytes base).length = 32 := by simp [wordBytes]
  have htag : "chunk".toUTF8.toList.length = 5 := by
    rw [Text.toUTF8_toList]
    decide
  have hlen : (wordBytes base ++ [0] ++ "chunk".toUTF8.toList ++ Bytes.toBytesBE i 8).length = 46 :=
    by simp only [List.length_append, hbase, htag, Bytes.length_toBytesBE, List.length_singleton]
  have htake : (wordBytes base ++ [0] ++ "chunk".toUTF8.toList ++ Bytes.toBytesBE i 8).take 32 =
      wordBytes base := by
    rw [List.append_assoc, List.append_assoc]
    exact List.take_left' hbase
  have hdrop : (wordBytes base ++ [0] ++ "chunk".toUTF8.toList ++ Bytes.toBytesBE i 8).drop
      (46 - 8) = Bytes.toBytesBE i 8 :=
    List.drop_left' (by simp only [List.length_append, hbase, htag, List.length_singleton])
  have hword : Bytes.ofBytesBE (wordBytes base) = base.toNat := by
    rw [wordBytes, Bytes.ofBytesBE_toBytesBE]
    exact Nat.mod_eq_of_lt (by simpa using base.isLt)
  show (layoutHash _).toNat = _
  rw [layoutHash, hlen, htake, hdrop, hword, Bytes.ofBytesBE_toBytesBE, BitVec.toNat_ofNat]
  omega

/-- Under `layoutHash` a chunk slot names its index, below `2 ^ 64`. -/
theorem signerChunkSlot_layout_inj (base : Hash) {i j : ℕ} (hi : i < 2 ^ 64) (hj : j < 2 ^ 64)
    (h : signerChunkSlot layoutBackend base i = signerChunkSlot layoutBackend base j) : i = j := by
  have := congrArg BitVec.toNat h
  rw [toNat_signerChunkSlot_layout, toNat_signerChunkSlot_layout] at this
  omega

/-- The scalar slots hash labels shorter than the inputs of the chunk slots. -/
theorem toNat_scalar_layout_lt : ∀ h ∈ [signerExistsSlot layoutBackend,
    signerTypeLenSlot layoutBackend, signerValueLenSlot layoutBackend], h.toNat < 2 ^ 192 * 46 := by
  simp only [List.mem_cons, List.not_mem_nil, or_false, forall_eq_or_imp, forall_eq,
    signerExistsSlot, signerTypeLenSlot, signerValueLenSlot, Text.toUTF8_toList]
  refine ⟨?_, ?_, ?_⟩ <;> decide

theorem signerChunkSlot_layout_not_scalar (base : Hash) (i : ℕ) :
    signerChunkSlot layoutBackend base i ∉ [signerExistsSlot layoutBackend,
      signerTypeLenSlot layoutBackend, signerValueLenSlot layoutBackend] := by
  intro hmem
  have := toNat_scalar_layout_lt _ hmem
  rw [toNat_signerChunkSlot_layout] at this
  omega

/-- `SlotsDistinct` for every `uint64` chunk index under `layoutHash`. -/
theorem layoutBackend_slotsDistinct : SlotsDistinct layoutBackend (2 ^ 64) (2 ^ 64) where
  scalars := by
    simp only [List.nodup_cons, List.mem_cons, List.not_mem_nil, or_false, not_or,
      List.nodup_nil, and_true]
    simp only [signerExistsSlot, signerTypeLenSlot, signerValueLenSlot, Text.toUTF8_toList]
    refine ⟨⟨?_, ?_⟩, ?_⟩ <;> decide
  typeChunk_inj _ hi _ hj := signerChunkSlot_layout_inj _ hi hj
  valueChunk_inj _ hi _ hj := signerChunkSlot_layout_inj _ hi hj
  typeChunk_ne_valueChunk i hi j hj h := by
    -- the two bases differ in their low eight bytes, which every chunk slot carries
    have hbases : (signerTypeBaseSlot layoutBackend).toNat % 2 ^ 64 ≠
        (signerValueBaseSlot layoutBackend).toNat % 2 ^ 64 := by
      simp only [signerTypeBaseSlot, signerValueBaseSlot, Text.toUTF8_toList]
      decide
    have := congrArg BitVec.toNat h
    rw [toNat_signerChunkSlot_layout, toNat_signerChunkSlot_layout] at this
    omega
  typeChunk_not_scalar i _ := signerChunkSlot_layout_not_scalar _ i
  valueChunk_not_scalar i _ := signerChunkSlot_layout_not_scalar _ i

/-- A compressed secp256k1 key as text, three chunks long. -/
def longSignerCalls : List (String × String) :=
  [("secp256k1", "0x02c6047f9441ed7d6d3045406e95c07cd85c778e4b8cef3ca7abac09b95c709ee5")]

/-- The record shrinks from a three-chunk key text to a one-chunk one. -/
theorem get_setAll_shrinking :
    get layoutBackend (setAll layoutBackend StateDB.empty 1
        (longSignerCalls ++ [("ed25519", "0x01")])) 1 = ("ed25519", "0x01", true) ∧
      (∀ i < 2 ^ 64, chunkCount (Text.utf8 "ed25519").length ≤ i →
        (setAll layoutBackend StateDB.empty 1 (longSignerCalls ++ [("ed25519", "0x01")])).storage 1
          (signerChunkSlot layoutBackend (signerTypeBaseSlot layoutBackend) i) = 0) ∧
      (∀ i < 2 ^ 64, chunkCount (Text.utf8 "0x01").length ≤ i →
        (setAll layoutBackend StateDB.empty 1 (longSignerCalls ++ [("ed25519", "0x01")])).storage 1
          (signerChunkSlot layoutBackend (signerValueBaseSlot layoutBackend) i) = 0) ∧
      ∀ owner, owner ≠ 1 →
        (setAll layoutBackend StateDB.empty 1 (longSignerCalls ++ [("ed25519", "0x01")])).storage
          owner = StateDB.empty.storage owner :=
  get_setAll layoutBackend layoutBackend_slotsDistinct StateDB.empty 1
    (recordClear_of_storage_eq_zero layoutBackend rfl) longSignerCalls "ed25519" "0x01"
    (by unfold LengthsFit longSignerCalls; decide)

end Gtos.AccountSigner
