import Gtos.Core.StateProcessor
import Gtos.Registry.Records
import Gtos.AccountSigner.Crypto
import Gtos.Delegation.Handler

/-! # The block time the LVM reads (`core/vm/lvm.go`)

The engine stamps a header with a Unix time in milliseconds (`Prepare` sets `header.Time` from
the parent's time plus the block period in milliseconds, and no earlier than
`time.Now().UnixMilli()`), and `NewVMBlockContext` copies it into `BlockContext.Time`
(`blockContext`). The sponsor expiry checks of `preCheck` and of the pool compare that time with
an expiry in milliseconds as it is.

The LVM's primitives read the same field as seconds and multiply it by 1000:

* **`currentBlockMillis`** (the times of runtime receipts) and **`nowMS`** (`block.timestamp_ms`,
  and the clock of `tos.hasdelegation` and `tos.isverified`), both as a `uint64` product;
* **`delegationVerifyExpiry`**, the expiry step of `tos.delegationverify`, as a product of big
  integers.

So an expiry a minute ahead of the block is already past for every one of these checks
(`lvm_block_time_scaled`). `tos.hasdelegation` also rejects a delegation before its start, which
the registry's `EffectiveStatus` reports as active (`hasDelegation_before_start`). The replay check
of `tos.delegationverify` is the delegation registry's own `isUsed`, so a nonce past 32 bytes
aborts the script as it aborts the system actions (`delegationVerify_panics_of_le`). -/

namespace Gtos.Lvm

open Gtos.Core Gtos.Registry

/-! ## The clocks -/

/-- `currentBlockMillis(blockCtx)`: the time times 1000 as a `uint64`; a nil time reads as zero
and a time past `uint64` as the largest one. -/
def currentBlockMillis (time : Option ℕ) : ℕ :=
  match time with
  | none => 0
  | some t => if t < 2 ^ 64 then t * 1000 % 2 ^ 64 else 2 ^ 64 - 1

/-- `blockCtx.Time.Uint64() * 1000`: `block.timestamp_ms`, and `nowMS` of `tos.hasdelegation` and
`tos.isverified`. -/
def nowMS (t : ℕ) : ℕ :=
  t % 2 ^ 64 * 1000 % 2 ^ 64

/-- **The LVM's clock runs a thousand times fast**: a time whose product fits a `uint64` reads as
a thousand times itself. -/
theorem nowMS_eq (t : ℕ) (ht : t * 1000 < 2 ^ 64) : nowMS t = t * 1000 := by
  have ht' : t < 2 ^ 64 := by omega
  rw [nowMS, Nat.mod_eq_of_lt ht', Nat.mod_eq_of_lt ht]

/-- The receipts' clock runs as fast. -/
theorem currentBlockMillis_eq (t : ℕ) (ht : t * 1000 < 2 ^ 64) :
    currentBlockMillis (some t) = t * 1000 := by
  have ht' : t < 2 ^ 64 := by omega
  rw [currentBlockMillis, if_pos ht', Nat.mod_eq_of_lt ht]

/-! ## `tos.hasdelegation` -/

section HasDelegation

variable (keccak256 : List UInt8 → Hash)

/-- `tos.hasdelegation(caller, operator, scope)` over the registry's own reader
(`registry.NewStateReader`), once its arguments parse: the delegation must exist and be stored
active, and the block's `nowMS` must lie in its window. -/
def hasDelegation (s : StateDB) (time : Option ℕ) (principal delegate : Address) (scope : Hash) :
    Bool :=
  -- `ReadDelegationStatus`
  if !delegationExists keccak256 s principal delegate scope then false
  else
    let record := readDelegation keccak256 s principal delegate scope
    if record.status ≠ 0 then false
    else
      match time with
      | none => true
      | some t =>
        if record.notBeforeMS > 0 ∧ nowMS t < record.notBeforeMS.toNat then false
        else if record.expiryMS > 0 ∧ nowMS t ≥ record.expiryMS.toNat then false
        else true

/-- Whether a window holds a clock reading, as `tos.hasdelegation` tests it. -/
def inWindow (notBeforeMS expiryMS : UInt64) (now : ℕ) : Bool :=
  if notBeforeMS > 0 ∧ now < notBeforeMS.toNat then false
  else if expiryMS > 0 ∧ now ≥ expiryMS.toNat then false
  else true

/-- **What `tos.hasdelegation` answers for a written record**: whether it is stored active, is
reported by `DelegationExists`, and its window holds `nowMS`. -/
theorem hasDelegation_writeDelegation (s : StateDB) (t : ℕ) (r : DelegationRecord) :
    hasDelegation keccak256 (writeDelegation keccak256 s r) (some t) r.principal r.delegate
        r.scopeRef =
      ((r.capabilityRef ≠ 0 || delTimingsWord r ≠ 0) && r.status = 0 &&
        inWindow r.notBeforeMS r.expiryMS (nowMS t)) := by
  rw [hasDelegation, delegationExists_writeDelegation, readDelegation_writeDelegation]
  -- past the existence and status tests, the code's window test is `inWindow` at `nowMS t`
  cases (r.capabilityRef ≠ 0 || delTimingsWord r ≠ 0) <;> by_cases hst : r.status = 0 <;>
    simp [hst, inWindow]

/-- **Before its start**, a delegation stored active is rejected by `tos.hasdelegation`, while
the registry's `EffectiveStatus` reports it active. -/
theorem hasDelegation_before_start (s : StateDB) (t : ℕ) (r : DelegationRecord)
    (hactive : r.status = delActive) (hbefore : nowMS t < r.notBeforeMS.toNat) :
    hasDelegation keccak256 (writeDelegation keccak256 s r) (some t) r.principal r.delegate
        r.scopeRef = false ∧
      r.effectiveStatus (UInt64.ofNat (nowMS t)) = delActive := by
  have hpos : 0 < r.notBeforeMS := by
    rw [UInt64.lt_iff_toNat_lt, UInt64.toNat_zero]
    omega
  have hnow : UInt64.ofNat (nowMS t) < r.notBeforeMS := by
    rw [UInt64.lt_iff_toNat_lt, UInt64.toNat_ofNat', Nat.mod_eq_of_lt (by simp [nowMS]; omega)]
    exact hbefore
  refine ⟨?_, ?_⟩
  · rw [hasDelegation_writeDelegation]
    simp [inWindow, hpos, hbefore]
  · rw [DelegationRecord.effectiveStatus, if_neg (by rw [hactive]; decide), if_pos ⟨hpos, hnow⟩]

end HasDelegation

/-! ## `tos.isverified` -/

/-- The fields of `verifyregistry.ReadVerifier` that `tos.isverified` reads. -/
structure VerifierRecord where
  /-- `Name`: empty for a verifier that is not registered. -/
  name : String
  /-- `Status`: `VerifierActive` is 0. -/
  status : UInt8
  deriving DecidableEq, Repr

/-- The fields of `verifyregistry.ReadSubjectVerification` that `tos.isverified` reads. -/
structure SubjectVerificationRecord where
  /-- `Subject`: zero for a verification that is not recorded. -/
  subject : Address
  /-- `ExpiryMS`: zero for no expiry. -/
  expiryMS : UInt64
  /-- `Status`: `VerificationActive` is 0. -/
  status : UInt8
  deriving DecidableEq, Repr

/-- `tos.isverified(caller, proof_type)` for a proof type other than the identity bindings, from
the verifier and the verification the registry holds. -/
def isVerified (time : Option ℕ) (verifier : VerifierRecord) (record : SubjectVerificationRecord) :
    Bool :=
  if verifier.name = "" ∨ verifier.status ≠ 0 then false
  else if record.subject = 0 ∨ record.status ≠ 0 then false
  else
    match time with
    | some t => if record.expiryMS > 0 ∧ nowMS t ≥ record.expiryMS.toNat then false else true
    | none => true

/-! ## `tos.delegationverify` -/

/-- The third step of `tos.delegationverify`: a positive expiry must lie after `Time * 1000`,
computed without a bound. -/
def delegationVerifyExpiry (time : ℕ) (expiry : ℤ) : Bool :=
  !(expiry > 0 ∧ (time : ℤ) * 1000 ≥ expiry)

/-- `tos.delegationverify(hash, v, r, s, principal, scope_hash, expiry_ms, nonce)` over the state
the script runs on: the signature must recover the principal, the nonce must be unused
(`delegation.IsUsed`), and the expiry must not have passed. `v` is the argument cut to a byte. A
fault of `IsUsed` (the panic of `FillBytes` on a nonce past 32 bytes) aborts the script. -/
def delegationVerify {σ : Type} [VmStateDB σ] (b : AccountSigner.SignerBackend)
    (keccak256 : List UInt8 → Hash) (s : σ) (time : ℕ) (hashHex : String) (vNum : UInt8)
    (rHex sHex principalHex : String) (expiry nonce : ℤ) : Except Sysaction.Fault Bool :=
  let hashBytes := fromHex hashHex
  let rBytes := fromHex rHex
  let sBytes := fromHex sHex
  if hashBytes.length ≠ 32 ∨ rBytes.length ≠ 32 ∨ sBytes.length ≠ 32 then .ok false
  else
    let v := if vNum ≥ 27 then vNum - 27 else vNum
    if v ≠ 0 ∧ v ≠ 1 then .ok false
    else
      match b.sigToAddress (bytesToHash hashBytes) (Bytes.ofBytesBE rBytes) (Bytes.ofBytesBE sBytes)
          v.toNat with
      | none => .ok false
      | some recovered =>
        let principal := hexToAddress principalHex
        if recovered ≠ principal then .ok false
        else do
          if ← ((Delegation.isUsed keccak256 principal nonce).run.run s).1 then return false
          return delegationVerifyExpiry time expiry

/-- **A positive expiry is read against `Time * 1000`.** -/
theorem delegationVerifyExpiry_iff (time : ℕ) (expiry : ℤ) (hexp : 0 < expiry) :
    delegationVerifyExpiry time expiry = true ↔ (time : ℤ) * 1000 < expiry := by
  simp only [delegationVerifyExpiry, hexp, true_and, Bool.not_eq_true',
    decide_eq_false_iff_not, not_le]

section DelegationVerify

variable {σ : Type} [VmStateDB σ] (b : AccountSigner.SignerBackend) (keccak256 : List UInt8 → Hash)
  (s : σ) (time : ℕ) (hashHex : String) (vNum : UInt8) (rHex sHex principalHex : String)
  (expiry nonce : ℤ)

/-- Past a well-formed signature of the principal, `tos.delegationverify` is the replay check
followed by the expiry step. -/
theorem delegationVerify_of_recovered (hhash : (fromHex hashHex).length = 32)
    (hr : (fromHex rHex).length = 32) (hs : (fromHex sHex).length = 32) (hv : vNum = 0 ∨ vNum = 1)
    (hrec : b.sigToAddress (bytesToHash (fromHex hashHex)) (Bytes.ofBytesBE (fromHex rHex))
      (Bytes.ofBytesBE (fromHex sHex)) vNum.toNat = some (hexToAddress principalHex)) :
    delegationVerify b keccak256 s time hashHex vNum rHex sHex principalHex expiry nonce =
      (do
        if ← ((Delegation.isUsed keccak256 (hexToAddress principalHex) nonce).run.run s).1 then
          return false
        return delegationVerifyExpiry time expiry) := by
  -- the two recovery ids pass the normalisation as they are
  rcases hv with rfl | rfl <;> simp only [UInt8.reduceToNat] at hrec <;>
    simp [delegationVerify, hhash, hr, hs, hrec]

/-- **Past the signature and the nonce, only the expiry step decides.** -/
theorem delegationVerify_eq_expiry (hhash : (fromHex hashHex).length = 32)
    (hr : (fromHex rHex).length = 32) (hs : (fromHex sHex).length = 32) (hv : vNum = 0 ∨ vNum = 1)
    (hrec : b.sigToAddress (bytesToHash (fromHex hashHex)) (Bytes.ofBytesBE (fromHex rHex))
      (Bytes.ofBytesBE (fromHex sHex)) vNum.toNat = some (hexToAddress principalHex))
    (hfresh : ((Delegation.isUsed keccak256 (hexToAddress principalHex) nonce).run.run s).1 =
      .ok false) :
    delegationVerify b keccak256 s time hashHex vNum rHex sHex principalHex expiry nonce =
      .ok (delegationVerifyExpiry time expiry) := by
  rw [delegationVerify_of_recovered b keccak256 s time hashHex vNum rHex sHex principalHex expiry
    nonce hhash hr hs hv hrec, hfresh]
  rfl

/-- **A nonce of 2^256 or more aborts the script** once the signature recovers the principal:
`IsUsed` panics in `FillBytes`, as it does for the system actions. -/
theorem delegationVerify_panics_of_le (hhash : (fromHex hashHex).length = 32)
    (hr : (fromHex rHex).length = 32) (hs : (fromHex sHex).length = 32) (hv : vNum = 0 ∨ vNum = 1)
    (hrec : b.sigToAddress (bytesToHash (fromHex hashHex)) (Bytes.ofBytesBE (fromHex rHex))
      (Bytes.ofBytesBE (fromHex sHex)) vNum.toNat = some (hexToAddress principalHex))
    (hbig : 2 ^ 256 ≤ nonce) :
    delegationVerify b keccak256 s time hashHex vNum rHex sHex principalHex expiry nonce =
      .error (.panic Delegation.fillBytesPanic) := by
  rw [delegationVerify_of_recovered b keccak256 s time hashHex vNum rHex sHex principalHex expiry
    nonce hhash hr hs hv hrec, Delegation.isUsed_of_le keccak256 _ nonce s hbig]
  rfl

end DelegationVerify

/-! ## A block stamped in milliseconds -/

/-- A header stamped, as the engine stamps it, with a time in milliseconds: 14 November 2023. -/
def msHeader : Core.Header :=
  ⟨1, 30000000, 0, 1700000000000, 0⟩

/-- A delegation of `0x1` to `0x2`, stored active, that expires a minute after `msHeader`. -/
def minuteDelegation : DelegationRecord :=
  ⟨1, 2, 3, 0, 0, 0, 1700000060000, delActive, 0, 0, 0, 0⟩

theorem lvm_block_time_scaled (keccak256 : List UInt8 → Hash) (s : StateDB) :
    (blockContext msHeader 0).time = 1700000000000 ∧
      nowMS (blockContext msHeader 0).time ≠ (blockContext msHeader 0).time ∧
      currentBlockMillis (some (blockContext msHeader 0).time) ≠ (blockContext msHeader 0).time ∧
      minuteDelegation.effectiveStatus (UInt64.ofNat (blockContext msHeader 0).time) = delActive ∧
      hasDelegation keccak256 (writeDelegation keccak256 s minuteDelegation)
        (some (blockContext msHeader 0).time) 1 2 3 = false ∧
      isVerified (some (blockContext msHeader 0).time) ⟨"kyc", 0⟩ ⟨1, 1700000060000, 0⟩ = false ∧
      delegationVerifyExpiry (blockContext msHeader 0).time 1700000060000 = false := by
  have htime : (blockContext msHeader 0).time = 1700000000000 := rfl
  have hfit : 1700000000000 * 1000 < 2 ^ 64 := by norm_num
  refine ⟨htime, ?_, ?_, by decide, ?_, by decide, by decide⟩
  · rw [htime, nowMS_eq _ hfit]
    norm_num
  · rw [htime, currentBlockMillis_eq _ hfit]
    norm_num
  · rw [htime]
    exact (hasDelegation_writeDelegation keccak256 s _ minuteDelegation).trans (by decide)

end Gtos.Lvm
