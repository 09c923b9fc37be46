import Gtos.Dpos.FinalityPool
import Gtos.Lib.ExceptState

/-! # Verifying checkpoint quorum certificates (`consensus/dpos/dpos.go`)

A block may carry a `CheckpointQC` in `header.Extra`. Its verification has two phases:
`verifyCheckpointQCStructure` checks the QC's shape against the header alone, and
`verifyCheckpointQCFull` walks back to the checkpoint, loads the signer set of its pre-state,
checks every signature against the bitmap and requires a two-thirds quorum, then decides whether
the QC newly finalizes its checkpoint (the staged `CheckpointFinalityResult`).

Everything the verifier reads from outside this file is a field of `QCEnv`: the chain's headers
and their hashes, the engine's snapshots and signer sets, RLP decoding, Keccak-256 of the signer
set and of votes, and `ed25519.Verify`.

* **`verifyCheckpointQCSignatures`** — the signature loop of `verifyCheckpointQCFull`;
  `verifyCheckpointQCSignatures_eq_ok` says which bit was checked against which signature.
* **`checkpointQC_accountable_safety`** — two QCs that pass against one signer set of `N`
  validators share at least `2 Quorum(N) - N ≥ ⌈N/3⌉` signers, each of whom signed both votes.
-/

namespace Gtos.Dpos

/-! ## Data the verifier reads -/

/-- The fields of `params.DPoSConfig` that checkpoint finality reads. -/
structure DPoSConfig where
  /-- `Epoch`: blocks per epoch (positive, checked by `dpos.New`). -/
  epoch : ℕ
  /-- `CheckpointInterval`: blocks between checkpoints. -/
  checkpointInterval : ℕ
  /-- `CheckpointFinalityBlock`: activation height of checkpoint finality, `nil` if disabled. -/
  checkpointFinalityBlock : Option ℕ
  /-- `MaxValidators`: the size bound of the active validator set. -/
  maxValidators : ℕ

/-- `(*DPoSConfig).IsCheckpointFinality`: checkpoint finality is configured and active at `num`. -/
def DPoSConfig.isCheckpointFinality (c : DPoSConfig) (num : ℕ) : Bool :=
  match c.checkpointFinalityBlock with
  | some b => decide (b ≤ num)
  | none => false

/-- The fields of `types.Header` that checkpoint finality reads. -/
structure Header where
  /-- `Number`. -/
  number : ℕ
  /-- `ParentHash`. -/
  parentHash : Hash
  /-- `Extra`: vanity, optional validator list and QC, and the seal. -/
  extra : List UInt8
  deriving DecidableEq, Repr

/-- The fields of the DPoS `Snapshot` that checkpoint finality reads. -/
structure Snapshot where
  /-- `FinalizedNumber`: the highest finalized checkpoint number. -/
  finalizedNumber : ℕ
  /-- `FinalizedHash`: the hash of that checkpoint. -/
  finalizedHash : Hash
  deriving DecidableEq, Repr

/-- `ValidatorSigner`: one validator of an ordered signer set. -/
structure ValidatorSigner where
  /-- `Address`. -/
  address : Address
  /-- `SignerType`: the canonical signer type, e.g. `"ed25519"`. -/
  signerType : String
  /-- `SignerPub`: the canonical public key bytes. -/
  signerPub : List UInt8
  deriving DecidableEq, Repr, Inhabited

/-- `accountsigner.SignerTypeEd25519`. -/
def signerTypeEd25519 : String := "ed25519"

/-- `CheckpointFinalityResult`: what `stageFinalityResult` records for a carrier block. -/
structure CheckpointFinalityResult where
  /-- `CarrierHash`: the block whose QC proved finality. -/
  carrierHash : Hash
  /-- `FinalizedNumber`. -/
  finalizedNumber : ℕ
  /-- `FinalizedHash`. -/
  finalizedHash : Hash
  /-- `ValidatorSetHash`. -/
  validatorSetHash : Hash
  deriving DecidableEq, Repr

/-- **What the verifier reads from outside `dpos.go`.** -/
structure QCEnv where
  /-- `chain.Config().ChainID`. -/
  chainID : Option ℤ
  /-- `chain.GetHeader(hash, number)`. -/
  getHeader : Hash → ℕ → Option Header
  /-- `(*Header).Hash()`: Keccak-256 of the RLP header. -/
  headerHash : Header → Hash
  /-- `d.snapshot(chain, number, hash, nil)`, `none` on error. -/
  snapshot : ℕ → Hash → Option Snapshot
  /-- `d.buildSignerSet(preSnap)`: the address-ordered signer set of a pre-state. -/
  buildSignerSet : Snapshot → Except String (List ValidatorSigner)
  /-- `computeValidatorSetHash`: Keccak-256 of the RLP signer set. -/
  computeValidatorSetHash : List ValidatorSigner → Hash
  /-- `(*CheckpointVote).SigningHash()`. -/
  signingHash : CheckpointVote → Hash
  /-- `ed25519.Verify(pub, msg, sig)`. -/
  verify : List UInt8 → Hash → Signature → Bool
  /-- `rlp.DecodeBytes(b, &qc)`, `none` on a decoding error. -/
  decodeQC : List UInt8 → Option CheckpointQC

/-- The errors `verifyCheckpointQCStructure` and `verifyCheckpointQCFull` return, one constructor
per `return` of the source, with the values its message formats. -/
inductive QCError
  /-- `errInvalidCheckpointQC`: the epoch validator list overruns `Extra`. -/
  | malformedExtra
  /-- `errInvalidCheckpointQC: RLP decode`. -/
  | rlpDecode
  /-- `errInvalidQCNumber: vote number %d below firstEligible %d`. -/
  | belowFirstEligible (number firstEligible : ℕ)
  /-- `errInvalidQCNumber: vote number %d not a checkpoint multiple`. -/
  | notCheckpointMultiple (number : ℕ)
  /-- `errInvalidQCNumber: header %d must be after checkpoint %d`. -/
  | notAfterCheckpoint (header checkpoint : ℕ)
  /-- `errQCTooStale: gap %d exceeds 2*interval %d`. -/
  | tooStale (gap bound : ℕ)
  /-- `errInvalidQCChainID`. -/
  | chainIDMismatch
  /-- `errQCBitmapOverflow: empty bitmap`. -/
  | emptyBitmap
  /-- `errQCBitmapOverflow: popcount %d exceeds maxValidators %d`. -/
  | popcountExceedsMax (pop maxValidators : ℕ)
  /-- `errQCSignatureCountMismatch: have %d sigs, bitmap pop %d`. -/
  | signatureCountMismatch (sigs pop : ℕ)
  /-- `errQCNotAncestor: parent header unavailable for QC ancestor walk at block %d`. -/
  | parentUnavailable (number : ℕ)
  /-- `errQCNotAncestor: ancestor walk broken at height %d (target %d)`. -/
  | ancestorWalkBroken (number target : ℕ)
  /-- `errQCNotAncestor: hash mismatch at height %d`. -/
  | ancestorHashMismatch (number : ℕ)
  /-- `errInvalidQCNumber: checkpoint number must be > 0`. -/
  | zeroCheckpoint
  /-- `dpos: checkpoint pre-state snapshot unavailable`. -/
  | preStateUnavailable
  /-- An error of `buildSignerSet`, passed through. -/
  | signerSet (msg : String)
  /-- `errQCValidatorSetHashMismatch`. -/
  | validatorSetHashMismatch
  /-- `errQCBitmapOverflow: bitmap bit %d exceeds signer set size %d`. -/
  | bitmapBitExceedsSignerSet (bit n : ℕ)
  /-- `errQCInvalidSignature: validator %s has non-ed25519 signer type %q`. -/
  | nonEd25519Signer (validator : Address) (signerType : String)
  /-- `errQCInvalidSignature: validator %s index %d`. -/
  | invalidSignature (validator : Address) (index : ℕ)
  /-- `errQCInsufficientSignatures: have %d, need %d (N=%d)`. -/
  | insufficientSignatures (sigs need n : ℕ)
  /-- `errInvalidCheckpointQC: checkpoint %d already finalized as %s, got %s`. -/
  | alreadyFinalized (number : ℕ) (stored got : Hash)
  deriving DecidableEq, Repr

/-! ## Layout of `Extra` -/

/-- `extraVanity`: bytes of vanity prefix in `Extra`. -/
def extraVanity : ℕ := 32

/-- `extraSealEd25519`: bytes of the ed25519 seal at the end of `Extra`. -/
def extraSealEd25519 : ℕ := 96

/-- `common.AddressLength`. -/
def addressLength : ℕ := 32

/-- `firstCheckpointAtOrAfter`: the least multiple of `interval` at or above `activationBlock`. -/
def firstCheckpointAtOrAfter (activationBlock interval : ℕ) : ℕ :=
  if interval = 0 then activationBlock
  else
    let rem := activationBlock % interval
    if rem = 0 then activationBlock else activationBlock + (interval - rem)

theorem le_firstCheckpointAtOrAfter (activationBlock interval : ℕ) :
    activationBlock ≤ firstCheckpointAtOrAfter activationBlock interval := by
  unfold firstCheckpointAtOrAfter
  dsimp only
  split_ifs <;> omega

/-- The tail of `parseCheckpointQCFromExtra`: no QC in empty bytes, else RLP-decode them. -/
def decodeQCBytes (decodeQC : List UInt8 → Option CheckpointQC) (qcBytes : List UInt8) :
    Except QCError (Option CheckpointQC) :=
  if qcBytes.length = 0 then .ok none
  else
    match decodeQC qcBytes with
    | some qc => .ok (some qc)
    | none => .error .rlpDecode

/-- `parseCheckpointQCFromExtra`: the QC in `Extra`, `none` when absent. In the epoch layout with
checkpoint finality the middle is `[1B count=N][N×20B][QC RLP]`; outside epochs it is the QC. -/
def parseCheckpointQCFromExtra (decodeQC : List UInt8 → Option CheckpointQC) (extra : List UInt8)
    (isEpoch isCheckpointFinality : Bool) : Except QCError (Option CheckpointQC) :=
  let sealLen := extraSealEd25519
  if extra.length < extraVanity + sealLen then .ok none
  else
    let middle := (extra.take (extra.length - sealLen)).drop extraVanity
    if isEpoch && isCheckpointFinality then
      match middle with
      | [] => .ok none
      | count :: _ =>
        let valEnd := 1 + count.toNat * addressLength
        if valEnd > middle.length then .error .malformedExtra
        else decodeQCBytes decodeQC (middle.drop valEnd)
    else if isEpoch then .ok none
    else decodeQCBytes decodeQC middle

/-! ## Phase 1: structure -/

/-- `verifyCheckpointQCStructure`: the header-only checks of a QC carried by `header`. -/
def verifyCheckpointQCStructure (cfg : DPoSConfig) (env : QCEnv) (header : Header) :
    Except QCError Unit := do
  if !cfg.isCheckpointFinality header.number then return ()
  let number := header.number
  let isEpoch := number % cfg.epoch == 0
  let some qc ← parseCheckpointQCFromExtra env.decodeQC header.extra isEpoch true | return ()
  let firstEligible :=
    firstCheckpointAtOrAfter (cfg.checkpointFinalityBlock.getD 0) cfg.checkpointInterval
  if qc.vote.number < firstEligible then
    throw (.belowFirstEligible qc.vote.number firstEligible)
  if cfg.checkpointInterval > 0 && qc.vote.number % cfg.checkpointInterval != 0 then
    throw (.notCheckpointMultiple qc.vote.number)
  if number ≤ qc.vote.number then
    throw (.notAfterCheckpoint number qc.vote.number)
  if cfg.checkpointInterval > 0 && number - qc.vote.number > 2 * cfg.checkpointInterval then
    throw (.tooStale (number - qc.vote.number) (2 * cfg.checkpointInterval))
  match qc.vote.chainID, env.chainID with
  | some a, some b => if a ≠ b then throw .chainIDMismatch
  | _, _ => throw .chainIDMismatch
  let pop := Bitmap.onesCount qc.bitmap
  if pop = 0 then throw .emptyBitmap
  if pop > cfg.maxValidators then throw (.popcountExceedsMax pop cfg.maxValidators)
  if qc.signatures.length ≠ pop then throw (.signatureCountMismatch qc.signatures.length pop)

/-! ## Phase 2: signatures and quorum -/

/-- One iteration `i` of the signature loop of `verifyCheckpointQCFull`, with `sigIdx` signatures
verified so far. Once `sigIdx` reaches `len(qc.Signatures)` the source leaves the loop; the
remaining iterations here change nothing. -/
def sigStep (verify : List UInt8 → Hash → Signature → Bool) (signerSet : List ValidatorSigner)
    (signingHash : Hash) (qc : CheckpointQC) (sigIdx i : ℕ) : Except QCError ℕ :=
  if hsig : sigIdx < qc.signatures.length then
    if qc.bitmap &&& (1#64 <<< i) = 0#64 then .ok sigIdx
    else if hi : i ≥ signerSet.length then .error (.bitmapBitExceedsSignerSet i signerSet.length)
    else
      let signer := signerSet[i]
      if signer.signerType ≠ signerTypeEd25519 then
        .error (.nonEd25519Signer signer.address signer.signerType)
      else if !verify signer.signerPub signingHash qc.signatures[sigIdx] then
        .error (.invalidSignature signer.address i)
      else .ok (sigIdx + 1)
  else .ok sigIdx

/-- The signature loop `for i := 0; i < 64 && sigIdx < len(qc.Signatures); i++`: the number of
signatures verified, or the first error. -/
def verifyCheckpointQCSignatures (verify : List UInt8 → Hash → Signature → Bool)
    (signerSet : List ValidatorSigner) (signingHash : Hash) (qc : CheckpointQC) : Except QCError ℕ :=
  (List.range 64).foldlM (sigStep verify signerSet signingHash qc) 0

/-- Steps 5–7 of `verifyCheckpointQCFull`: the signature loop, then `sigIdx ≥ (2*N + 2) / 3`. -/
def verifyCheckpointQCQuorum (verify : List UInt8 → Hash → Signature → Bool)
    (signerSet : List ValidatorSigner) (signingHash : Hash) (qc : CheckpointQC) : Except QCError ℕ := do
  let sigIdx ← verifyCheckpointQCSignatures verify signerSet signingHash qc
  let n := signerSet.length
  let quorum := (2 * n + 2) / 3
  if sigIdx < quorum then throw (.insufficientSignatures sigIdx quorum n)
  return sigIdx

/-- The ancestor walk `for cur != nil && cur.Number > target { cur = GetHeader(cur.ParentHash,
cur.Number-1) }`, with at most `fuel` steps. Each step lowers the number, so `fuel = cur.Number`
suffices on a chain whose lookups return headers of the number asked for. -/
def walkBack (getHeader : Hash → ℕ → Option Header) (target : ℕ) :
    ℕ → Option Header → Option Header
  | 0, cur => cur
  | _, none => none
  | fuel + 1, some cur =>
    if cur.number > target then walkBack getHeader target fuel (getHeader cur.parentHash (cur.number - 1))
    else some cur

@[simp] theorem walkBack_none (getHeader : Hash → ℕ → Option Header) (target fuel : ℕ) :
    walkBack getHeader target fuel none = none := by
  cases fuel <;> rfl

/-- A header above the target steps to its parent. -/
theorem walkBack_succ_of_lt {getHeader : Hash → ℕ → Option Header} {target fuel : ℕ}
    {cur : Header} (h : target < cur.number) :
    walkBack getHeader target (fuel + 1) (some cur) =
      walkBack getHeader target fuel (getHeader cur.parentHash (cur.number - 1)) := by
  simp [walkBack, h]

/-- `verifyCheckpointQCFull`: Phase 2 of QC verification against the pre-state of the checkpoint,
and step 8, which stages a `CheckpointFinalityResult` (the `some` result) when the QC finalizes a
checkpoint beyond `snap.FinalizedNumber`. -/
def verifyCheckpointQCFull (cfg : DPoSConfig) (env : QCEnv) (header : Header) (snap : Snapshot) :
    Except QCError (Option CheckpointFinalityResult) := do
  if !cfg.isCheckpointFinality header.number then return none
  let number := header.number
  let isEpoch := number % cfg.epoch == 0
  let some qc ← parseCheckpointQCFromExtra env.decodeQC header.extra isEpoch true | return none
  -- step 1: walk the parent links back to the checkpoint height
  let some parent := env.getHeader header.parentHash (number - 1)
    | throw (.parentUnavailable number)
  let some ancestor := walkBack env.getHeader qc.vote.number parent.number (some parent)
    | throw (.ancestorWalkBroken number qc.vote.number)
  if ancestor.number ≠ qc.vote.number then throw (.ancestorWalkBroken number qc.vote.number)
  if env.headerHash ancestor ≠ qc.vote.hash then throw (.ancestorHashMismatch qc.vote.number)
  -- steps 2–4: the ordered signer set of the checkpoint pre-state
  if qc.vote.number = 0 then throw .zeroCheckpoint
  let some preSnap := env.snapshot (qc.vote.number - 1) ancestor.parentHash
    | throw .preStateUnavailable
  let signerSet ← (env.buildSignerSet preSnap).mapError QCError.signerSet
  if env.computeValidatorSetHash signerSet ≠ qc.vote.validatorSetHash then
    throw .validatorSetHashMismatch
  -- steps 5–7
  let _ ← verifyCheckpointQCQuorum env.verify signerSet (env.signingHash qc.vote) qc
  -- step 8: compare with the snapshot's finalized checkpoint
  if snap.finalizedNumber > qc.vote.number then return none
  if snap.finalizedNumber = qc.vote.number ∧ snap.finalizedNumber ≠ 0 then
    if snap.finalizedHash ≠ qc.vote.hash then
      throw (.alreadyFinalized qc.vote.number snap.finalizedHash qc.vote.hash)
    return none
  return some ⟨env.headerHash header, qc.vote.number, qc.vote.hash, qc.vote.validatorSetHash⟩

end Gtos.Dpos

namespace Gtos.Dpos

/-! ## What the signature loop checks -/

/-- The indices whose signatures the loop checks: the first `len(qc.Signatures)` set bits of the
bitmap, in increasing order. -/
def qcSignerIndices (qc : CheckpointQC) : List ℕ :=
  (Bitmap.setBits qc.bitmap).take qc.signatures.length

/-- Index `i` of the signer set holds an ed25519 validator whose key verifies `sig` over
`signingHash`. -/
def SignedBy (verify : List UInt8 → Hash → Signature → Bool) (signerSet : List ValidatorSigner)
    (signingHash : Hash) (i : ℕ) (sig : Signature) : Prop :=
  ∃ h : i < signerSet.length, signerSet[i].signerType = signerTypeEd25519 ∧
    verify signerSet[i].signerPub signingHash sig = true

section SignatureLoop

variable {verify : List UInt8 → Hash → Signature → Bool} {signerSet : List ValidatorSigner}
  {signingHash : Hash} {qc : CheckpointQC}

/-- The bits the loop still checks from position list `is` when `s` signatures are verified:
the set bits among `is`, as many as signatures remain. -/
def checkedBits (qc : CheckpointQC) (is : List ℕ) (s : ℕ) : List ℕ :=
  (is.filter fun i => qc.bitmap.getLsbD i).take (qc.signatures.length - s)

theorem checkedBits_cons_of_getLsbD {is : List ℕ} {s i : ℕ} (hs : s < qc.signatures.length)
    (hbit : qc.bitmap.getLsbD i = true) :
    checkedBits qc (i :: is) s = i :: checkedBits qc is (s + 1) := by
  rw [checkedBits, checkedBits, List.filter_cons_of_pos hbit,
    show qc.signatures.length - s = (qc.signatures.length - (s + 1)) + 1 by omega,
    List.take_succ_cons]

theorem checkedBits_cons_of_not_getLsbD {is : List ℕ} {s i : ℕ}
    (hbit : qc.bitmap.getLsbD i = false) : checkedBits qc (i :: is) s = checkedBits qc is s := by
  rw [checkedBits, checkedBits, List.filter_cons_of_neg (by simp [hbit])]

theorem checkedBits_of_le {is : List ℕ} {s : ℕ} (hs : qc.signatures.length ≤ s) :
    checkedBits qc is s = [] := by
  rw [checkedBits, show qc.signatures.length - s = 0 by omega, List.take_zero]

/-- **One iteration of the signature loop**: it verifies the next signature exactly when
signatures remain and the bit is set, and then the bit names a validator whose key accepts that
signature. -/
theorem sigStep_eq_ok {s s' i : ℕ} (hi : i < 64)
    (h : sigStep verify signerSet signingHash qc s i = .ok s') :
    (qc.bitmap.getLsbD i = true ∧
        ∃ hs : s < qc.signatures.length, SignedBy verify signerSet signingHash i qc.signatures[s] ∧
          s' = s + 1) ∨
      ((qc.signatures.length ≤ s ∨ qc.bitmap.getLsbD i = false) ∧ s' = s) := by
  unfold sigStep at h
  split at h
  · rename_i hs
    split at h
    · rename_i hbit
      exact Or.inr ⟨Or.inr ((Bitmap.and_one_shiftLeft_eq_zero_iff _ hi).1 hbit),
        (Except.ok.inj h).symm⟩
    · rename_i hbit
      split at h
      · cases h
      · rename_i hN
        dsimp only at h
        split at h
        · cases h
        · rename_i htype
          split at h
          · cases h
          · rename_i hver
            have hbit' : qc.bitmap.getLsbD i = true := by
              by_contra hc
              exact hbit ((Bitmap.and_one_shiftLeft_eq_zero_iff _ hi).2 (by simpa using hc))
            exact Or.inl ⟨hbit', hs, ⟨by omega, by simpa using htype, by simpa using hver⟩,
              (Except.ok.inj h).symm⟩
  · exact Or.inr ⟨Or.inl (by omega), (Except.ok.inj h).symm⟩

/-- **The signature loop over a list of bit positions**: started with `s` signatures verified, it
verifies the next signatures in order against the set bits among `is`, stopping when the
signatures run out; each checked bit names a validator whose key accepts its signature. -/
theorem foldlM_sigStep_eq_ok {is : List ℕ} (his : ∀ i ∈ is, i < 64) {s s' : ℕ}
    (h : is.foldlM (sigStep verify signerSet signingHash qc) s = .ok s') :
    s' = s + (checkedBits qc is s).length ∧
      List.Forall₂ (SignedBy verify signerSet signingHash) (checkedBits qc is s)
        ((qc.signatures.drop s).take (checkedBits qc is s).length) := by
  induction is generalizing s with
  | nil =>
    cases h
    simp [checkedBits]
  | cons i is ih =>
    rw [List.foldlM_cons] at h
    -- peel the first iteration off the `Except` bind
    cases hstep : sigStep verify signerSet signingHash qc s i with
    | error e => rw [hstep] at h; cases h
    | ok s₁ =>
      rw [hstep] at h
      have hrest := ih (fun j hj => his j (List.mem_cons_of_mem _ hj)) h
      rcases sigStep_eq_ok (his i List.mem_cons_self) hstep with
        ⟨hbit, hs, hsigned, rfl⟩ | ⟨hstop, rfl⟩
      · -- bit `i` is set and signature `s` verifies: `i` heads the checked bits
        obtain ⟨hlen, hforall⟩ := hrest
        rw [checkedBits_cons_of_getLsbD hs hbit, List.length_cons]
        refine ⟨by omega, ?_⟩
        rw [List.drop_eq_getElem_cons hs, List.take_succ_cons]
        exact List.Forall₂.cons hsigned hforall
      · rcases hstop with hstop | hbit
        · -- no signatures remain: nothing more is checked
          rw [checkedBits_of_le hstop] at hrest ⊢
          exact hrest
        · rw [checkedBits_cons_of_not_getLsbD hbit]
          exact hrest

/-- A set bit naming a validator whose key accepts the next signature passes one iteration. -/
theorem sigStep_of_signedBy {s i : ℕ} (hi : i < 64) (hs : s < qc.signatures.length)
    (hbit : qc.bitmap.getLsbD i = true)
    (hsigned : SignedBy verify signerSet signingHash i qc.signatures[s]) :
    sigStep verify signerSet signingHash qc s i = .ok (s + 1) := by
  obtain ⟨hN, htype, hver⟩ := hsigned
  have hne : qc.bitmap &&& (1#64 <<< i) ≠ 0#64 := by
    rw [ne_eq, Bitmap.and_one_shiftLeft_eq_zero_iff _ hi, hbit]
    decide
  unfold sigStep
  rw [dif_pos hs, if_neg hne, dif_neg (by omega)]
  simp [htype, hver]

/-- A clear bit, or no signature left, leaves the count unchanged. -/
theorem sigStep_of_skip {s i : ℕ} (hi : i < 64)
    (hskip : qc.signatures.length ≤ s ∨ qc.bitmap.getLsbD i = false) :
    sigStep verify signerSet signingHash qc s i = .ok s := by
  unfold sigStep
  rcases hskip with hs | hbit
  · rw [dif_neg (by omega)]
  · split
    · rw [if_pos ((Bitmap.and_one_shiftLeft_eq_zero_iff _ hi).2 hbit)]
    · rfl

/-- **Completeness of the signature loop over a list of bit positions**: when the bits it
checks from `is` are matched one to one with the next signatures, each accepted by the key of the
validator the bit names, the loop verifies all of them. -/
theorem foldlM_sigStep_of_forall₂ {is : List ℕ} (his : ∀ i ∈ is, i < 64) {s : ℕ}
    (h : List.Forall₂ (SignedBy verify signerSet signingHash) (checkedBits qc is s)
      ((qc.signatures.drop s).take (checkedBits qc is s).length)) :
    is.foldlM (sigStep verify signerSet signingHash qc) s =
      .ok (s + (checkedBits qc is s).length) := by
  induction is generalizing s with
  | nil => simp [checkedBits, pure, Except.pure]
  | cons i is ih =>
    have hi : i < 64 := his i List.mem_cons_self
    have his' : ∀ j ∈ is, j < 64 := fun j hj => his j (List.mem_cons_of_mem _ hj)
    rw [List.foldlM_cons]
    by_cases hcheck : s < qc.signatures.length ∧ qc.bitmap.getLsbD i = true
    · -- bit `i` is checked against signature `s`
      obtain ⟨hs, hbit⟩ := hcheck
      rw [checkedBits_cons_of_getLsbD hs hbit, List.length_cons, List.drop_eq_getElem_cons hs,
        List.take_succ_cons] at h
      obtain ⟨hsigned, hrest⟩ := List.forall₂_cons.1 h
      rw [sigStep_of_signedBy hi hs hbit hsigned, checkedBits_cons_of_getLsbD hs hbit,
        List.length_cons]
      simp only [bind, Except.bind]
      rw [ih his' hrest]
      congr 1
      omega
    · have hskip : qc.signatures.length ≤ s ∨ qc.bitmap.getLsbD i = false := by
        by_cases hs : s < qc.signatures.length
        · exact Or.inr (by simpa [hs] using hcheck)
        · exact Or.inl (by omega)
      have hchecked : checkedBits qc (i :: is) s = checkedBits qc is s := by
        rcases hskip with hs | hbit
        · rw [checkedBits_of_le hs, checkedBits_of_le hs]
        · exact checkedBits_cons_of_not_getLsbD hbit
      rw [hchecked] at h ⊢
      rw [sigStep_of_skip hi hskip]
      exact ih his' h

/-- **What a passing signature loop verified**: its count is the number of checked bits, and the
checked bits, in increasing order, are matched one to one with the QC's first signatures, each
accepted by the key of the validator the bit names. -/
theorem verifyCheckpointQCSignatures_eq_ok {n : ℕ}
    (h : verifyCheckpointQCSignatures verify signerSet signingHash qc = .ok n) :
    n = (qcSignerIndices qc).length ∧
      List.Forall₂ (SignedBy verify signerSet signingHash) (qcSignerIndices qc)
        (qc.signatures.take n) := by
  have hchecked : checkedBits qc (List.range 64) 0 = qcSignerIndices qc := rfl
  obtain ⟨hn, hforall⟩ := foldlM_sigStep_eq_ok (fun i hi => List.mem_range.1 hi) h
  rw [hchecked] at hn hforall
  refine ⟨by omega, ?_⟩
  rw [hn, Nat.zero_add]
  simpa using hforall

/-- **Completeness of the signature loop**: when the QC's signer indices are matched one to one
with all its signatures, each accepted by the key of the validator the index names, the loop
verifies every signature. -/
theorem verifyCheckpointQCSignatures_of_forall₂
    (h : List.Forall₂ (SignedBy verify signerSet signingHash) (qcSignerIndices qc) qc.signatures) :
    verifyCheckpointQCSignatures verify signerSet signingHash qc = .ok qc.signatures.length := by
  have hchecked : checkedBits qc (List.range 64) 0 = qcSignerIndices qc := rfl
  have hlen := h.length_eq
  have hloop := @foldlM_sigStep_of_forall₂ verify signerSet signingHash qc _
    (fun i hi => List.mem_range.1 hi) 0
    (by rw [hchecked, List.drop_zero, hlen, List.take_length]; exact h)
  rw [hchecked, hlen, Nat.zero_add] at hloop
  exact hloop

/-- A QC whose signatures all verify in bit order, at least `(2N + 2) / 3` of them, passes the
quorum check. -/
theorem verifyCheckpointQCQuorum_of_forall₂
    (h : List.Forall₂ (SignedBy verify signerSet signingHash) (qcSignerIndices qc) qc.signatures)
    (hq : (2 * signerSet.length + 2) / 3 ≤ qc.signatures.length) :
    verifyCheckpointQCQuorum verify signerSet signingHash qc = .ok qc.signatures.length := by
  unfold verifyCheckpointQCQuorum
  rw [verifyCheckpointQCSignatures_of_forall₂ h]
  simp only [bind, Except.bind, if_neg (Nat.not_lt.2 hq)]
  rfl

end SignatureLoop

end Gtos.Dpos

namespace Gtos.Dpos

/-! ## When the verifier accepts -/

/-- **Phase 1 accepts** a QC that its header carries when the checkpoint is eligible, a multiple
of the interval, below the header by at most two intervals, for the chain's ID, with a non-empty
bitmap of at most `MaxValidators` bits and one signature per bit. -/
theorem verifyCheckpointQCStructure_eq_ok_of {cfg : DPoSConfig} {env : QCEnv} {header : Header}
    {qc : CheckpointQC} (hcf : cfg.isCheckpointFinality header.number = true)
    (hparse : parseCheckpointQCFromExtra env.decodeQC header.extra
      (header.number % cfg.epoch == 0) true = .ok (some qc))
    (hk : 0 < cfg.checkpointInterval)
    (hfirst : firstCheckpointAtOrAfter (cfg.checkpointFinalityBlock.getD 0) cfg.checkpointInterval ≤
      qc.vote.number)
    (hmul : qc.vote.number % cfg.checkpointInterval = 0) (hlt : qc.vote.number < header.number)
    (hgap : header.number - qc.vote.number ≤ 2 * cfg.checkpointInterval) {a : ℤ}
    (hqa : qc.vote.chainID = some a) (hea : env.chainID = some a)
    (hpop : 0 < Bitmap.onesCount qc.bitmap) (hmax : Bitmap.onesCount qc.bitmap ≤ cfg.maxValidators)
    (hsigs : qc.signatures.length = Bitmap.onesCount qc.bitmap) :
    verifyCheckpointQCStructure cfg env header = .ok () := by
  unfold verifyCheckpointQCStructure
  simp only [hcf, Bool.not_true, hparse]
  simp [bind, Except.bind, pure, Except.pure, hk, hmul, Nat.not_lt.2 hfirst, Nat.not_le.2 hlt,
    Nat.not_lt.2 hgap, hqa, hea, hsigs, Nat.pos_iff_ne_zero.1 hpop, Nat.not_lt.2 hmax]

/-- **Phase 1 rejects** a QC whose number of signatures is not its bitmap's number of set bits:
every check before the last ends in an error or passes on to the last, which compares the two. -/
theorem verifyCheckpointQCStructure_ne_ok_of_count {cfg : DPoSConfig} {env : QCEnv}
    {header : Header} {qc : CheckpointQC} (hcf : cfg.isCheckpointFinality header.number = true)
    (hparse : parseCheckpointQCFromExtra env.decodeQC header.extra
      (header.number % cfg.epoch == 0) true = .ok (some qc))
    (hsigs : qc.signatures.length ≠ Bitmap.onesCount qc.bitmap) :
    verifyCheckpointQCStructure cfg env header ≠ .ok () := by
  intro h
  unfold verifyCheckpointQCStructure at h
  -- a `throw` ends the check whatever follows it, so the block is one chain of guards
  simp only [hcf, Bool.not_true, Bool.false_eq_true, ↓reduceIte, hparse,
    ExceptStateM.except_ok_bind, ExceptStateM.except_throw, ExceptStateM.except_error_bind,
    ExceptStateM.except_ite_error_eq_ok] at h
  obtain ⟨-, -, -, -, h⟩ := h
  -- past the chain ID check, the last guard compares the two counts
  split at h
  · simp only [ExceptStateM.except_ite_error_eq_ok] at h
    exact h.2.2.2.1 hsigs
  · cases h

/-- **Phase 2 accepts and stages** a QC whose checkpoint is the ancestor the walk from the parent
reaches, whose validator-set hash is that of the checkpoint's pre-state signer set, which passes
the signature and quorum checks, and which is above the snapshot's finalized number. -/
theorem verifyCheckpointQCFull_eq_stage {cfg : DPoSConfig} {env : QCEnv} {header : Header}
    {snap : Snapshot} {qc : CheckpointQC} {parent ancestor : Header} {preSnap : Snapshot}
    {signerSet : List ValidatorSigner} {n : ℕ} (hcf : cfg.isCheckpointFinality header.number = true)
    (hparse : parseCheckpointQCFromExtra env.decodeQC header.extra
      (header.number % cfg.epoch == 0) true = .ok (some qc))
    (hparent : env.getHeader header.parentHash (header.number - 1) = some parent)
    (hwalk : walkBack env.getHeader qc.vote.number parent.number (some parent) = some ancestor)
    (hanum : ancestor.number = qc.vote.number) (hahash : env.headerHash ancestor = qc.vote.hash)
    (hpos : qc.vote.number ≠ 0)
    (hpre : env.snapshot (qc.vote.number - 1) ancestor.parentHash = some preSnap)
    (hset : env.buildSignerSet preSnap = .ok signerSet)
    (hvs : env.computeValidatorSetHash signerSet = qc.vote.validatorSetHash)
    (hquorum : verifyCheckpointQCQuorum env.verify signerSet (env.signingHash qc.vote) qc = .ok n)
    (hfin : snap.finalizedNumber < qc.vote.number) :
    verifyCheckpointQCFull cfg env header snap =
      .ok (some ⟨env.headerHash header, qc.vote.number, qc.vote.hash,
        qc.vote.validatorSetHash⟩) := by
  unfold verifyCheckpointQCFull
  simp only [hcf, Bool.not_true, hparse]
  simp [bind, Except.bind, pure, Except.pure, Except.mapError, hparent, hwalk, hanum, hahash, hpos,
    hpre, hset, hvs, hquorum, Nat.not_lt.2 hfin.le]
  -- the snapshot's finalized number is below the checkpoint
  intro heq
  omega

/-! ## Accountable safety -/

/-- A member of the left list of a `Forall₂` is related to some member of the right list. -/
theorem exists_of_forall₂_of_mem {α β : Type} {R : α → β → Prop} {l₁ : List α} {l₂ : List β}
    (h : List.Forall₂ R l₁ l₂) {a : α} (ha : a ∈ l₁) : ∃ b, R a b := by
  induction h with
  | nil => cases ha
  | cons hab _ ih =>
    rcases List.mem_cons.1 ha with rfl | ha
    · exact ⟨_, hab⟩
    · exact ih ha

section Quorum

variable {verify : List UInt8 → Hash → Signature → Bool} {signerSet : List ValidatorSigner}
  {signingHash : Hash} {qc : CheckpointQC}

/-- **What a passing quorum check guarantees**: the checked validator indices are below `N`, at
least `(2N + 2) / 3` of them, and each signed the vote. -/
theorem verifyCheckpointQCQuorum_eq_ok {n : ℕ}
    (h : verifyCheckpointQCQuorum verify signerSet signingHash qc = .ok n) :
    (qcSignerIndices qc).toFinset ⊆ Finset.range signerSet.length ∧
      (2 * signerSet.length + 2) / 3 ≤ (qcSignerIndices qc).toFinset.card ∧
      ∀ i ∈ (qcSignerIndices qc).toFinset, ∃ sig, SignedBy verify signerSet signingHash i sig := by
  unfold verifyCheckpointQCQuorum at h
  cases hsig : verifyCheckpointQCSignatures verify signerSet signingHash qc with
  | error e => rw [hsig] at h; cases h
  | ok m =>
    rw [hsig] at h
    have hq : ¬ m < (2 * signerSet.length + 2) / 3 := by
      intro hlt
      simp only [bind, Except.bind, hlt, if_true] at h
      cases h
    obtain ⟨hm, hforall⟩ := verifyCheckpointQCSignatures_eq_ok hsig
    have hsigned : ∀ i ∈ (qcSignerIndices qc).toFinset,
        ∃ sig, SignedBy verify signerSet signingHash i sig :=
      fun i hi => exists_of_forall₂_of_mem hforall (List.mem_toFinset.1 hi)
    have hnodup : (qcSignerIndices qc).Nodup := (Bitmap.setBits_nodup qc.bitmap).sublist
      (List.take_sublist _ _)
    refine ⟨fun i hi => ?_, ?_, hsigned⟩
    · obtain ⟨sig, hlt, -⟩ := hsigned i hi
      exact Finset.mem_range.2 hlt
    · rw [List.toFinset_card_of_nodup hnodup]
      omega

end Quorum

/-- **Accountable checkpoint safety.** Two QCs that pass the signature and quorum checks of
`verifyCheckpointQCFull` against one ordered signer set of `N ≥ 1` validators have at least
`2·Quorum(N) - N ≥ ⌈N/3⌉` verified signer indices in common, and every common index is a
validator whose key signed both votes. -/
theorem checkpointQC_accountable_safety (verify : List UInt8 → Hash → Signature → Bool)
    (signingHash : CheckpointVote → Hash) (signerSet : List ValidatorSigner)
    (hN : 0 < signerSet.length) (qc₁ qc₂ : CheckpointQC) (n₁ n₂ : ℕ)
    (h₁ : verifyCheckpointQCQuorum verify signerSet (signingHash qc₁.vote) qc₁ = .ok n₁)
    (h₂ : verifyCheckpointQCQuorum verify signerSet (signingHash qc₂.vote) qc₂ = .ok n₂) :
    2 * quorum signerSet.length - signerSet.length ≤
        ((qcSignerIndices qc₁).toFinset ∩ (qcSignerIndices qc₂).toFinset).card ∧
      (signerSet.length + 2) / 3 ≤ 2 * quorum signerSet.length - signerSet.length ∧
      ∀ i ∈ (qcSignerIndices qc₁).toFinset ∩ (qcSignerIndices qc₂).toFinset,
        (∃ sig, SignedBy verify signerSet (signingHash qc₁.vote) i sig) ∧
          (∃ sig, SignedBy verify signerSet (signingHash qc₂.vote) i sig) := by
  obtain ⟨hsub₁, hcard₁, hsigned₁⟩ := verifyCheckpointQCQuorum_eq_ok h₁
  obtain ⟨hsub₂, hcard₂, hsigned₂⟩ := verifyCheckpointQCQuorum_eq_ok h₂
  -- the verifier's inline quorum is `Quorum(N)` on a non-empty signer set
  rw [quorum_eq_twoThirds hN]
  refine ⟨Quorum.two_mul_sub_le_card_inter hsub₁ hsub₂ hcard₁ hcard₂,
    Quorum.ceil_third_le_two_mul_twoThirds_sub _, fun i hi => ?_⟩
  rw [Finset.mem_inter] at hi
  exact ⟨hsigned₁ i hi.1, hsigned₂ i hi.2⟩

/-- Two conflicting one-signer QCs (checkpoint `8`, hashes `1` and `2`) over a one-validator set
both pass, and share their signer. -/
theorem checkpointQC_accountable_safety_conflicting_pair :
    0 < [(⟨0#256, "ed25519", []⟩ : ValidatorSigner)].length ∧
      verifyCheckpointQCQuorum (fun _ _ _ => true) [⟨0#256, "ed25519", []⟩] 1#256
        ⟨⟨some 1, 8, 1#256, 0#256⟩, 1#64, [0#512]⟩ = .ok 1 ∧
      verifyCheckpointQCQuorum (fun _ _ _ => true) [⟨0#256, "ed25519", []⟩] 2#256
        ⟨⟨some 1, 8, 2#256, 0#256⟩, 1#64, [0#512]⟩ = .ok 1 ∧
      2 * quorum 1 - 1 ≤ ((qcSignerIndices ⟨⟨some 1, 8, 1#256, 0#256⟩, 1#64, [0#512]⟩).toFinset ∩
        (qcSignerIndices ⟨⟨some 1, 8, 2#256, 0#256⟩, 1#64, [0#512]⟩).toFinset).card :=
  ⟨by decide, by rfl, by rfl,
    (checkpointQC_accountable_safety (fun _ _ _ => true) CheckpointVote.hash
      [⟨0#256, "ed25519", []⟩] (by decide) ⟨⟨some 1, 8, 1#256, 0#256⟩, 1#64, [0#512]⟩
      ⟨⟨some 1, 8, 2#256, 0#256⟩, 1#64, [0#512]⟩ 1 1 (by rfl) (by rfl)).1⟩

end Gtos.Dpos
