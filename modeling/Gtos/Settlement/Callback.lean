import Gtos.Sysaction.Execute
import Gtos.Lib.ExceptState
import Gtos.AccountSigner.Crypto
import Gtos.Capability.Storage

/-! # Settlement callbacks and fulfilments (`settlement/handler.go`, `settlement/state.go`)

Three system actions keep the settlement registry:

* **`SETTLEMENT_REGISTER_CALLBACK`** validates its payload and writes a callback record, pending,
  under the identifier `mintCallbackID(from, txHash, type, count)`, then counts it;
* **`SETTLEMENT_EXECUTE_CALLBACK`** marks a pending callback executed, when its creator asks no
  later than its expiry block;
* **`SETTLEMENT_FULFILL_ASYNC`** writes a fulfilment record under
  `mintFulfillmentID(from, txHash, count)`, then counts it.

Each field of a record is one word at `Keccak256("cb\0" ‖ id ‖ 0 ‖ field)` (`"ff\0"` for a
fulfilment); block numbers and counters are `uint64`, texts are short strings (a length byte and
at most 31 bytes).

`TransitionDb` keeps the state from before an action that fails (`commit`). An execution asked
after the expiry block writes the status `expired` and then fails, so the write is lost with the
rest of the action: the callback stays pending however often it is asked again
(`commit_handleExecuteCallback_of_expired`, `expired_mark_reverted`). -/

namespace Gtos.Settlement

open Gtos.Core Gtos.Sysaction

/-- `params.SettlementRegistryAddress`. -/
def settlementRegistryAddress : Address := 0x10F#256

/-- `MaxTTLBlocks`. -/
def maxTTLBlocks : ℕ := 1000000

/-- `StatusPending`. -/
def statusPending : String := "pending"

/-- `StatusExecuted`. -/
def statusExecuted : String := "executed"

/-- `StatusExpired`. -/
def statusExpired : String := "expired"

/-- `validCallbackTypes`. -/
def validCallbackTypes : List String := ["on_settle", "on_fail", "on_timeout", "on_refund"]

/-- `ErrCallbackNotFound`. -/
def errCallbackNotFound : String := "settlement: callback not found"

/-- `ErrCallbackNotPending`. -/
def errCallbackNotPending : String := "settlement: callback is not pending"

/-- `ErrCallbackExpired`. -/
def errCallbackExpired : String := "settlement: callback has expired"

/-- `ErrNotCallbackCreator`. -/
def errNotCallbackCreator : String := "settlement: caller is not callback creator"

/-- `ErrInvalidCallbackType`. -/
def errInvalidCallbackType : String := "settlement: invalid callback type"

/-- `ErrInvalidTarget`. -/
def errInvalidTarget : String := "settlement: target address is zero"

/-- `ErrMaxGasZero`. -/
def errMaxGasZero : String := "settlement: max_gas must be > 0"

/-- `ErrTTLZero`. -/
def errTTLZero : String := "settlement: ttl_blocks must be > 0"

/-- `ErrTTLTooLong`. -/
def errTTLTooLong : String := "settlement: ttl_blocks exceeds maximum"

/-- `ErrInvalidTxHash`. -/
def errInvalidTxHash : String := "settlement: tx_hash must not be zero"

/-! ## Payloads -/

/-- `RegisterCallbackPayload`; the intent id is not read. -/
structure RegisterCallbackPayload where
  txHash : String
  callbackType : String
  target : String
  callbackData : String
  policyHash : String
  maxGas : UInt64
  ttlBlocks : UInt64
  deriving DecidableEq, Repr

/-- `ExecuteCallbackPayload`. -/
structure ExecuteCallbackPayload where
  callbackID : String
  deriving DecidableEq, Repr

/-- `FulfillAsyncPayload`; the intent id is not read. -/
structure FulfillAsyncPayload where
  originalTxHash : String
  resultData : String
  policyCheck : Bool
  receiptRef : String
  deriving DecidableEq, Repr

/-- The settlement actions, with their payloads decoded. -/
inductive SettlementAction
  /-- `SETTLEMENT_REGISTER_CALLBACK`. -/
  | registerCallback (p : RegisterCallbackPayload)
  /-- `SETTLEMENT_EXECUTE_CALLBACK`. -/
  | executeCallback (p : ExecuteCallbackPayload)
  /-- `SETTLEMENT_FULFILL_ASYNC`. -/
  | fulfillAsync (p : FulfillAsyncPayload)
  deriving DecidableEq, Repr

/-! ## Words -/

/-- `binary.BigEndian.PutUint64(val[24:], v)`. -/
def uint64Word (v : ℕ) : Hash :=
  BitVec.ofNat 256 (v % 2 ^ 64)

/-- `binary.BigEndian.Uint64(raw[24:])`, and `raw.Big().Uint64()`. -/
def wordUint64 (raw : Hash) : ℕ :=
  raw.toNat % 2 ^ 64

/-- `val[0] = byte(len(s)); copy(val[1:], s)`: the length byte, then the bytes, cut at the word's
end. -/
def shortStringWord (s : String) : Hash :=
  let b := Text.utf8 s
  BitVec.ofNat 256 (Bytes.ofBytesBE ((UInt8.ofNat b.length :: b ++ List.replicate 32 0).take 32))

/-- The reader of a short string: a length of zero or above 31 reads as the empty text. -/
def readShortString (raw : Hash) : String :=
  let bytes := wordBytes raw
  let length := (bytes.headD 0).toNat
  if length = 0 ∨ length > 31 then "" else Text.ofUtf8 ((bytes.drop 1).take length)

/-! ## Slots and records -/

section State

variable {σ : Type} [VmStateDB σ] (keccak256 : List UInt8 → Hash)

/-- `cbSlot(callbackID, field)`. -/
def cbSlot (callbackID : Hash) (field : String) : Hash :=
  keccak256 (Text.utf8 "cb\x00" ++ wordBytes callbackID ++ [0] ++ Text.utf8 field)

/-- `ffSlot(fulfillmentID, field)`. -/
def ffSlot (fulfillmentID : Hash) (field : String) : Hash :=
  keccak256 (Text.utf8 "ff\x00" ++ wordBytes fulfillmentID ++ [0] ++ Text.utf8 field)

/-- `callbackCountSlot`. -/
def callbackCountSlot : Hash :=
  keccak256 (Text.utf8 "cb\x00count")

/-- `fulfillmentCountSlot`. -/
def fulfillmentCountSlot : Hash :=
  keccak256 (Text.utf8 "ff\x00count")

/-- The word of a callback's field. -/
def readCallbackWord (db : σ) (id : Hash) (field : String) : Hash :=
  VmStateDB.getState db settlementRegistryAddress (cbSlot keccak256 id field)

/-- Write the word of a callback's field. -/
def writeCallbackWord (db : σ) (id : Hash) (field : String) (v : Hash) : σ :=
  VmStateDB.setState db settlementRegistryAddress (cbSlot keccak256 id field) v

/-- Write the word of a fulfilment's field. -/
def writeFulfillmentWord (db : σ) (id : Hash) (field : String) (v : Hash) : σ :=
  VmStateDB.setState db settlementRegistryAddress (ffSlot keccak256 id field) v

/-- `ReadCallbackExists`: the last byte is non-zero. -/
def readCallbackExists (db : σ) (id : Hash) : Bool :=
  (readCallbackWord keccak256 db id "exists").toNat % 256 ≠ 0

/-- `ReadCallbackStatus`. -/
def readCallbackStatus (db : σ) (id : Hash) : String :=
  readShortString (readCallbackWord keccak256 db id "status")

/-- `ReadCallbackExpiresAt`. -/
def readCallbackExpiresAt (db : σ) (id : Hash) : ℕ :=
  wordUint64 (readCallbackWord keccak256 db id "expiresAt")

/-- `ReadCallbackCreator`. -/
def readCallbackCreator (db : σ) (id : Hash) : Address :=
  readCallbackWord keccak256 db id "creator"

/-- `WriteCallbackStatus`. -/
def writeCallbackStatus (db : σ) (id : Hash) (status : String) : σ :=
  writeCallbackWord keccak256 db id "status" (shortStringWord status)

/-- `ReadCallbackCount`. -/
def readCallbackCount (db : σ) : ℕ :=
  wordUint64 (VmStateDB.getState db settlementRegistryAddress (callbackCountSlot keccak256))

/-- `IncrementCallbackCount`: the count plus one, as a `uint64`. -/
def incrementCallbackCount (db : σ) : σ :=
  VmStateDB.setState db settlementRegistryAddress (callbackCountSlot keccak256)
    (uint64Word (readCallbackCount keccak256 db + 1))

/-- `ReadFulfillmentCount`. -/
def readFulfillmentCount (db : σ) : ℕ :=
  wordUint64 (VmStateDB.getState db settlementRegistryAddress (fulfillmentCountSlot keccak256))

/-- `IncrementFulfillmentCount`. -/
def incrementFulfillmentCount (db : σ) : σ :=
  VmStateDB.setState db settlementRegistryAddress (fulfillmentCountSlot keccak256)
    (uint64Word (readFulfillmentCount keccak256 db + 1))

/-- `mintCallbackID(creator, txHash, cbType, nonce)`. -/
def mintCallbackID (creator : Address) (txHash : Hash) (cbType : String) (nonce : ℕ) : Hash :=
  keccak256 (wordBytes creator ++ wordBytes txHash ++ Text.utf8 cbType ++ Bytes.toBytesBE nonce 8)

/-- `mintFulfillmentID(fulfiller, origTxHash, nonce)`. -/
def mintFulfillmentID (fulfiller : Address) (origTxHash : Hash) (nonce : ℕ) : Hash :=
  keccak256 (wordBytes fulfiller ++ wordBytes origTxHash ++ Bytes.toBytesBE nonce 8)

/-- The callback record `handleRegisterCallback` writes, field by field in the code's order,
then the count. -/
def writeCallback (db : σ) (id txHash : Hash) (cbType : String) (target : Address)
    (cbData policyHash : Hash) (maxGas createdAt expiresAt : ℕ) (creator : Address) : σ :=
  let db := writeCallbackWord keccak256 db id "exists" 1
  let db := writeCallbackWord keccak256 db id "txHash" txHash
  let db := writeCallbackWord keccak256 db id "cbType" (shortStringWord cbType)
  let db := writeCallbackWord keccak256 db id "target" target
  let db := writeCallbackWord keccak256 db id "cbData" cbData
  let db := writeCallbackWord keccak256 db id "policyHash" policyHash
  let db := writeCallbackWord keccak256 db id "maxGas" (uint64Word maxGas)
  let db := writeCallbackWord keccak256 db id "createdAt" (uint64Word createdAt)
  let db := writeCallbackWord keccak256 db id "expiresAt" (uint64Word expiresAt)
  let db := writeCallbackStatus keccak256 db id statusPending
  let db := writeCallbackWord keccak256 db id "creator" creator
  incrementCallbackCount keccak256 db

/-- The fulfilment record `handleFulfillAsync` writes, then the count. -/
def writeFulfillment (db : σ) (id origTxHash : Hash) (fulfiller : Address) (resultData : Hash)
    (policyCheck : Bool) (fulfilledAt : ℕ) (receiptRef : Hash) : σ :=
  let db := writeFulfillmentWord keccak256 db id "exists" 1
  let db := writeFulfillmentWord keccak256 db id "origTxHash" origTxHash
  let db := writeFulfillmentWord keccak256 db id "fulfiller" fulfiller
  let db := writeFulfillmentWord keccak256 db id "resultData" resultData
  let db := writeFulfillmentWord keccak256 db id "policyCheck" (if policyCheck then 1 else 0)
  let db := writeFulfillmentWord keccak256 db id "fulfilledAt" (uint64Word fulfilledAt)
  let db := writeFulfillmentWord keccak256 db id "receiptRef" receiptRef
  incrementFulfillmentCount keccak256 db

end State

/-- A callback's field reads what was last written to it. -/
@[simp] theorem readCallbackWord_writeCallbackWord (keccak256 : List UInt8 → Hash) (s : StateDB)
    (id : Hash) (field : String) (v : Hash) :
    readCallbackWord keccak256 (writeCallbackWord keccak256 s id field v) id field = v := by
  simp [readCallbackWord, writeCallbackWord]

/-! ## Handlers -/

section Handle

variable {σ : Type} [VmStateDB σ] (keccak256 : List UInt8 → Hash)

/-- An optional hexadecimal word of a payload: zero when the text is empty. -/
def optionalHash (s : String) : Hash :=
  if s ≠ "" then hexToHash s else 0

/-- **`handleRegisterCallback`**. -/
def handleRegisterCallback (ctx : Context) (p : RegisterCallbackPayload) : HandlerM σ Unit := do
  let txHash := hexToHash p.txHash
  if txHash = 0 then throw (.error errInvalidTxHash)
  if p.callbackType ∉ validCallbackTypes then throw (.error errInvalidCallbackType)
  let target := hexToAddress p.target
  if target = 0 then throw (.error errInvalidTarget)
  if p.maxGas = 0 then throw (.error errMaxGasZero)
  if p.ttlBlocks = 0 then throw (.error errTTLZero)
  if p.ttlBlocks.toNat > maxTTLBlocks then throw (.error errTTLTooLong)
  let db ← get
  let nonce := readCallbackCount keccak256 db
  let blockNum := ctx.blockNumber % 2 ^ 64
  let callbackID := mintCallbackID keccak256 ctx.sender txHash p.callbackType nonce
  set (writeCallback keccak256 db callbackID txHash p.callbackType target (optionalHash p.callbackData)
    (optionalHash p.policyHash) p.maxGas.toNat blockNum ((blockNum + p.ttlBlocks.toNat) % 2 ^ 64)
    ctx.sender)

/-- **`handleExecuteCallback`**. Past its expiry block the code marks the callback expired and
fails. -/
def handleExecuteCallback (ctx : Context) (p : ExecuteCallbackPayload) : HandlerM σ Unit := do
  let callbackID := hexToHash p.callbackID
  let db ← get
  if !readCallbackExists keccak256 db callbackID then throw (.error errCallbackNotFound)
  if readCallbackStatus keccak256 db callbackID ≠ statusPending then
    throw (.error errCallbackNotPending)
  let blockNum := ctx.blockNumber % 2 ^ 64
  if blockNum > readCallbackExpiresAt keccak256 db callbackID then
    set (writeCallbackStatus keccak256 db callbackID statusExpired)
    throw (.error errCallbackExpired)
  if ctx.sender ≠ readCallbackCreator keccak256 db callbackID then
    throw (.error errNotCallbackCreator)
  set (writeCallbackWord keccak256 (writeCallbackStatus keccak256 db callbackID statusExecuted)
    callbackID "executedAt" (uint64Word blockNum))

/-- **`handleFulfillAsync`**. -/
def handleFulfillAsync (ctx : Context) (p : FulfillAsyncPayload) : HandlerM σ Unit := do
  let origTxHash := hexToHash p.originalTxHash
  if origTxHash = 0 then throw (.error errInvalidTxHash)
  let db ← get
  let nonce := readFulfillmentCount keccak256 db
  let blockNum := ctx.blockNumber % 2 ^ 64
  let fulfillmentID := mintFulfillmentID keccak256 ctx.sender origTxHash nonce
  set (writeFulfillment keccak256 db fulfillmentID origTxHash ctx.sender (optionalHash p.resultData)
    p.policyCheck blockNum (optionalHash p.receiptRef))

/-- `settlementHandler.Handle`. -/
def handle (ctx : Context) : SettlementAction → HandlerM σ Unit
  | .registerCallback p => handleRegisterCallback keccak256 ctx p
  | .executeCallback p => handleExecuteCallback keccak256 ctx p
  | .fulfillAsync p => handleFulfillAsync keccak256 ctx p

/-- A sequence of settlement actions as `TransitionDb` processes them: each one that fails is
reverted. -/
def runActions (s : σ) (acts : List (Context × SettlementAction)) : σ :=
  acts.foldl (fun s act => commit (handle keccak256 act.1 act.2) s) s

@[simp] theorem runActions_nil (s : σ) : runActions keccak256 s [] = s := rfl

@[simp] theorem runActions_cons (s : σ) (act : Context × SettlementAction)
    (acts : List (Context × SettlementAction)) :
    runActions keccak256 s (act :: acts) =
      runActions keccak256 (commit (handle keccak256 act.1 act.2) s) acts := rfl

end Handle

/-! ## An execution past the expiry block -/

section Expired

variable {σ : Type} [VmStateDB σ] (keccak256 : List UInt8 → Hash)

open ExceptStateM

/-- **An execution past the expiry block fails after marking the callback expired.** -/
theorem run_handleExecuteCallback_of_expired (ctx : Context) (p : ExecuteCallbackPayload) (s : σ)
    (hexists : readCallbackExists keccak256 s (hexToHash p.callbackID) = true)
    (hpending : readCallbackStatus keccak256 s (hexToHash p.callbackID) = statusPending)
    (hlate : ctx.blockNumber % 2 ^ 64 > readCallbackExpiresAt keccak256 s (hexToHash p.callbackID)) :
    (handleExecuteCallback keccak256 ctx p).run.run s =
      (.error (.error errCallbackExpired),
        writeCallbackStatus keccak256 s (hexToHash p.callbackID) statusExpired) := by
  simp only [handleExecuteCallback]
  rw [run_get_bind]
  simp [hexists, hpending, hlate, -Nat.reducePow]
  rfl

/-- **The mark is lost**: `TransitionDb` keeps the state from before the failed execution. -/
theorem commit_handleExecuteCallback_of_expired (ctx : Context) (p : ExecuteCallbackPayload) (s : σ)
    (hexists : readCallbackExists keccak256 s (hexToHash p.callbackID) = true)
    (hpending : readCallbackStatus keccak256 s (hexToHash p.callbackID) = statusPending)
    (hlate : ctx.blockNumber % 2 ^ 64 > readCallbackExpiresAt keccak256 s (hexToHash p.callbackID)) :
    commit (handleExecuteCallback keccak256 ctx p) s = s :=
  commit_of_error (run_handleExecuteCallback_of_expired keccak256 ctx p s hexists hpending hlate)

/-- **A successful execution**: the callback existed and was pending, the block was no later than
its expiry block and the sender was its creator; the status is now `executed` and the block is
recorded. -/
theorem handleExecuteCallback_ok {ctx : Context} {p : ExecuteCallbackPayload} {s s' : StateDB}
    {u : Unit} (h : (handleExecuteCallback keccak256 ctx p).run.run s = (.ok u, s')) :
    readCallbackExists keccak256 s (hexToHash p.callbackID) = true ∧
      readCallbackStatus keccak256 s (hexToHash p.callbackID) = statusPending ∧
      ctx.blockNumber % 2 ^ 64 ≤ readCallbackExpiresAt keccak256 s (hexToHash p.callbackID) ∧
      ctx.sender = readCallbackCreator keccak256 s (hexToHash p.callbackID) ∧
      s' = writeCallbackWord keccak256
        (writeCallbackStatus keccak256 s (hexToHash p.callbackID) statusExecuted)
        (hexToHash p.callbackID) "executedAt" (uint64Word (ctx.blockNumber % 2 ^ 64)) := by
  unfold handleExecuteCallback at h
  rw [run_get_bind] at h
  dsimp only at h
  obtain ⟨hexists, h⟩ := run_guard_eq_ok h
  obtain ⟨hpending, h⟩ := run_guard_eq_ok h
  -- past the expiry block the run ends in the code's error, after its mark
  split at h
  · obtain ⟨_, _, -, h⟩ := run_bind_eq_ok h
    obtain ⟨_, _, hthrow, -⟩ := run_bind_eq_ok h
    exact absurd hthrow (run_throw_ne_ok _ _ _ _)
  obtain ⟨hcreator, h⟩ := run_guard_eq_ok h
  rw [run_set] at h
  cases h
  exact ⟨by simpa using hexists, not_not.mp hpending, Nat.le_of_not_lt ‹_›, not_not.mp hcreator, rfl⟩

end Expired

/-- A callback for `0x2`, on settlement, for the transaction `0x7`, with one block to live. -/
def lateRegister : RegisterCallbackPayload :=
  ⟨"0x07", "on_settle", "0x02", "", "", 1, 1⟩

/-- The identifier `0x1` gets for it as the first callback, under the stand-in hash. -/
def lateCallbackID : Hash :=
  mintCallbackID Capability.capHash 1 7 "on_settle" 0

/-- The registry after `0x1` registers it at block 1. -/
def lateRegistered : StateDB :=
  runActions Capability.capHash StateDB.empty [(⟨1, 0, 1⟩, .registerCallback lateRegister)]

/-- `0x1` asks for the execution at block 3, past the expiry block 2. -/
def lateExecute : ExecuteCallbackPayload :=
  ⟨AccountSigner.hexutilEncode (wordBytes lateCallbackID)⟩

theorem expired_mark_reverted :
    readCallbackStatus Capability.capHash lateRegistered lateCallbackID = statusPending ∧
      (∃ s', (handle Capability.capHash ⟨1, 0, 3⟩ (.executeCallback lateExecute)).run.run
          lateRegistered = (.error (.error errCallbackExpired), s') ∧
        readCallbackStatus Capability.capHash s' lateCallbackID = statusExpired) ∧
      runActions Capability.capHash lateRegistered [(⟨1, 0, 3⟩, .executeCallback lateExecute)] =
        lateRegistered := by
  have hid : hexToHash lateExecute.callbackID = lateCallbackID := by decide +kernel
  have hpending : readCallbackStatus Capability.capHash lateRegistered lateCallbackID =
      statusPending := by decide +kernel
  have hexists : readCallbackExists Capability.capHash lateRegistered lateCallbackID = true := by
    decide +kernel
  have hlate : (3 : ℕ) % 2 ^ 64 >
      readCallbackExpiresAt Capability.capHash lateRegistered lateCallbackID := by decide +kernel
  rw [← hid] at hpending hexists hlate
  have hrun := run_handleExecuteCallback_of_expired Capability.capHash ⟨1, 0, 3⟩ lateExecute
    lateRegistered hexists hpending hlate
  refine ⟨hid ▸ hpending, ⟨_, hrun, ?_⟩, ?_⟩
  · -- the failed attempt did write the mark
    rw [hid, readCallbackStatus, writeCallbackStatus, readCallbackWord_writeCallbackWord]
    decide
  · rw [runActions_cons, runActions_nil]
    exact commit_handleExecuteCallback_of_expired _ ⟨1, 0, 3⟩ _ _ hexists hpending hlate

end Gtos.Settlement
