import Gtos.Dpos.CheckpointVote
import Gtos.SlashIndicator.Registry

/-! # Submitting malicious-vote evidence (`consensus/slashindicator/slash_indicator.go`)

Anyone can send evidence of a checkpoint equivocation to `CheckpointSlashIndicatorAddress`. The
calldata is the ABI encoding of `submitFinalityViolationEvidence((voteA, voteB, signerPubKey))`,
whose numbers are `uint256` words. `DecodeSubmitFinalityViolationEvidence` turns it into canonical
evidence, re-deriving the signer from the key; `Execute` validates the evidence, checks the chain,
refuses evidence or an offence already on record and signers that are not validators, and
appends a record. A failed `Execute` leaves the state as it was (the caller reverts to its
snapshot).

The ABI codec (`accounts/abi`) is passed in as `SlashIndicatorABI`; where it matters, a statement
assumes what its source does on the values at hand: `Pack` writes each `uint256` as
`math.U256` of the number, that is, modulo `2 ^ 256`, and `Unpack` reads the words back as
non-negative numbers (`SlashIndicatorFinalityEvidence.toU256`). The evidence hash, Keccak-256 of
an RLP list, is passed in as well.

* **`execute_eq_ok`** — what an accepted submission decoded, checked and appended.
* **`recorded_submit`**, **`RegistryInv.runSubmissions`** — a submission records at most one
  pair, that of the evidence it carried, and runs keep the registry invariant.
* **`canonicalEvidenceFromSlashIndicator_of_new`**, **`decode_pack`** — evidence built from two
  signed envelopes survives packing and decoding on a chain whose ID is a `uint256`.
* **`not_recorded_of_consistent`** — a validator whose valid signatures all match published
  votes with one hash per number is never recorded.
-/

namespace Gtos.SlashIndicator

/-- `params.SysActionGas`: the gas every slash-indicator call is charged. -/
def sysActionGas : ℕ := 100000

/-- `validator.Inactive`: the status of withdrawn and unregistered addresses. -/
def validatorInactive : UInt8 := 0

/-- `slashIndicatorVoteData`. -/
structure SlashIndicatorVoteData where
  /-- `ChainID`, a `*big.Int`. -/
  chainID : Option ℤ
  /-- `Number`, a `*big.Int`. -/
  number : Option ℤ
  /-- `Hash`. -/
  hash : Hash
  /-- `ValidatorSetHash`. -/
  validatorSetHash : Hash
  /-- `Sig`. -/
  sig : List UInt8
  deriving DecidableEq, Repr

/-- `slashIndicatorFinalityEvidence`. -/
structure SlashIndicatorFinalityEvidence where
  /-- `VoteA`. -/
  voteA : SlashIndicatorVoteData
  /-- `VoteB`. -/
  voteB : SlashIndicatorVoteData
  /-- `SignerPubKey`. -/
  signerPubKey : List UInt8
  deriving DecidableEq, Repr

/-- The vote data as the ABI's `uint256` words carry it. -/
def SlashIndicatorVoteData.toU256 (v : SlashIndicatorVoteData) : SlashIndicatorVoteData :=
  { v with chainID := v.chainID.map (· % 2 ^ 256), number := v.number.map (· % 2 ^ 256) }

/-- The evidence as the ABI's `uint256` words carry it. -/
def SlashIndicatorFinalityEvidence.toU256 (ev : SlashIndicatorFinalityEvidence) :
    SlashIndicatorFinalityEvidence :=
  { ev with voteA := ev.voteA.toU256, voteB := ev.voteB.toU256 }

/-- The ABI codec of `submitFinalityViolationEvidence`. -/
structure SlashIndicatorABI where
  /-- `slashIndicatorABI.Pack("submitFinalityViolationEvidence", payload)`: the selector and the
  encoded argument. -/
  pack : SlashIndicatorFinalityEvidence → Except String (List UInt8)
  /-- For calldata of at least four bytes: `MethodById(input[:4])`, the method-name check,
  `Inputs.Unpack(input[4:])` and `Inputs.Copy`. -/
  unpack : List UInt8 → Except String SlashIndicatorFinalityEvidence

/-- What the slash indicator calls beyond the registry. -/
structure SlashContext where
  /-- Keccak-256, the vote signing hash and `ed25519.Verify`. -/
  crypto : EvidenceCrypto
  /-- The ABI codec. -/
  abi : SlashIndicatorABI
  /-- `(*MaliciousVoteEvidence).Hash`: Keccak-256 of the RLP list of the evidence fields. -/
  evidenceHash : MaliciousVoteEvidence → Hash

/-- The errors of the slash-indicator path. -/
inductive SlashError
  /-- "dpos: missing slash-indicator execution context". -/
  | missingContext
  /-- "dpos: slash-indicator calldata too short". -/
  | callDataTooShort
  /-- An error of the ABI codec. -/
  | abi (msg : String)
  /-- "dpos: slash-indicator vote missing chainId/number". -/
  | missingChainIDOrNumber
  /-- "dpos: invalid vote signature length %d". -/
  | invalidSignatureLength (length : ℕ)
  /-- "dpos: invalid signer pubkey: %w". -/
  | invalidSignerPubkey
  /-- `errInvalidCheckpointEvidence`. -/
  | invalidCheckpointEvidence
  /-- "dpos: malicious vote evidence chain ID mismatch". -/
  | chainIDMismatch
  /-- "dpos: malicious vote evidence already submitted: %s". -/
  | evidenceAlreadySubmitted (hash : Hash)
  /-- "dpos: malicious vote offense already submitted: %s". -/
  | offenseAlreadySubmitted (offenseKey : Hash)
  /-- "dpos: evidence signer %s is not a registered validator". -/
  | notRegisteredValidator (signer : Address)
  deriving DecidableEq, Repr

/-! ## Canonical evidence and the ABI tuple -/

/-- `Signature[:]`: the 64 bytes of a signature, most significant first. -/
def signatureBytes (s : Signature) : List UInt8 := Bytes.toBytesBE s.toNat 64

/-- The ABI vote data of an envelope: `new(big.Int).Set(ChainID)`, `SetUint64(Number)`. -/
def voteData (env : CheckpointVoteEnvelope) : SlashIndicatorVoteData :=
  ⟨env.vote.chainID, some env.vote.number, env.vote.hash, env.vote.validatorSetHash,
    signatureBytes env.signature⟩

/-- `slashIndicatorEvidenceFromCanonical`; `strings.TrimPrefix(s, "0x")` is `trim0x`. -/
def slashIndicatorEvidenceFromCanonical (c : EvidenceCrypto) (evidence : MaliciousVoteEvidence) :
    Except SlashError SlashIndicatorFinalityEvidence :=
  if !evidence.validate c then .error .invalidCheckpointEvidence
  else
    match Hex.decodeString (trim0x evidence.signerPubKey).toList with
    | none => .error .invalidSignerPubkey
    | some pub => .ok ⟨voteData evidence.first, voteData evidence.second, pub⟩

/-- `slashIndicatorEnvelopeToCanonical`: the signer is derived from the key; `Uint64()` keeps the
low 64 bits of the number's magnitude. -/
def slashIndicatorEnvelopeToCanonical (c : EvidenceCrypto) (v : SlashIndicatorVoteData)
    (pub : List UInt8) : Except SlashError CheckpointVoteEnvelope :=
  match v.chainID, v.number with
  | some chainID, some number =>
    if v.sig.length ≠ 64 then .error (.invalidSignatureLength v.sig.length)
    else
      .ok ⟨⟨some chainID, number.natAbs % 2 ^ 64, v.hash, v.validatorSetHash⟩,
        c.pubkeyAddress pub, Dpos.signatureOfBytes v.sig⟩
  | _, _ => .error .missingChainIDOrNumber

/-- `canonicalEvidenceFromSlashIndicator`. -/
def canonicalEvidenceFromSlashIndicator (c : EvidenceCrypto) (ev : SlashIndicatorFinalityEvidence) :
    Except SlashError MaliciousVoteEvidence :=
  match slashIndicatorEnvelopeToCanonical c ev.voteA ev.signerPubKey with
  | .error err => .error err
  | .ok voteA =>
    match slashIndicatorEnvelopeToCanonical c ev.voteB ev.signerPubKey with
    | .error err => .error err
    | .ok voteB =>
      match newMaliciousVoteEvidence c voteA voteB "ed25519" ev.signerPubKey with
      | none => .error .invalidCheckpointEvidence
      | some evidence => .ok evidence

/-- `PackSubmitFinalityViolationEvidence`. -/
def packSubmitFinalityViolationEvidence (ctx : SlashContext) (evidence : MaliciousVoteEvidence) :
    Except SlashError (List UInt8) :=
  match slashIndicatorEvidenceFromCanonical ctx.crypto evidence with
  | .error err => .error err
  | .ok payload =>
    match ctx.abi.pack payload with
    | .error msg => .error (.abi msg)
    | .ok bytes => .ok bytes

/-- `DecodeSubmitFinalityViolationEvidence`. -/
def decodeSubmitFinalityViolationEvidence (ctx : SlashContext) (input : List UInt8) :
    Except SlashError MaliciousVoteEvidence :=
  if input.length < 4 then .error .callDataTooShort
  else
    match ctx.abi.unpack input with
    | .error msg => .error (.abi msg)
    | .ok ev => canonicalEvidenceFromSlashIndicator ctx.crypto ev

/-! ## Execution -/

/-- `Execute`: the gas charged and the registry afterwards. `chainID` is the chain config's
`ChainID`; `status` is `validator.ReadValidatorStatus` on the same state; `blockNumber.Uint64()`
keeps the low 64 bits. -/
def execute (ctx : SlashContext) (chainID : Option ℤ) (st : RegistryState)
    (status : Address → UInt8) (sender : Address) (data : List UInt8) (blockNumber : Option ℕ) :
    ℕ × Except SlashError RegistryState :=
  match chainID with
  | none => (sysActionGas, .error .missingContext)
  | some configChainID =>
    match decodeSubmitFinalityViolationEvidence ctx data with
    | .error err => (sysActionGas, .error err)
    | .ok evidence =>
      if !evidence.validate ctx.crypto then (sysActionGas, .error .invalidCheckpointEvidence)
      else if evidence.chainID ≠ some configChainID then (sysActionGas, .error .chainIDMismatch)
      else
        let hash := ctx.evidenceHash evidence
        if hasSubmittedMaliciousVoteEvidence st hash then
          (sysActionGas, .error (.evidenceAlreadySubmitted hash))
        else
          let offenseKey := maliciousVoteOffenseKey ctx.crypto evidence.signer evidence.number
          if hasRecordedMaliciousVoteOffense st offenseKey then
            (sysActionGas, .error (.offenseAlreadySubmitted offenseKey))
          else if status evidence.signer = validatorInactive then
            (sysActionGas, .error (.notRegisteredValidator evidence.signer))
          else
            let height := (blockNumber.getD 0) % 2 ^ 64
            (sysActionGas, .ok (appendMaliciousVoteEvidenceRecord st hash offenseKey
              evidence.number evidence.signer sender height))

/-- A transaction to the slash indicator: sender, calldata, block number, and the validator
statuses of the state it runs on. -/
structure Submission where
  /-- `msg.From()`. -/
  sender : Address
  /-- `msg.Data()`. -/
  data : List UInt8
  /-- `blockNumber`, `nil` for none. -/
  blockNumber : Option ℕ
  /-- `validator.ReadValidatorStatus` at this point of the chain. -/
  status : Address → UInt8

/-- One submission: the new registry, or the old one when `Execute` fails and is reverted. -/
def submit (ctx : SlashContext) (chainID : Option ℤ) (st : RegistryState) (s : Submission) :
    RegistryState :=
  match (execute ctx chainID st s.status s.sender s.data s.blockNumber).2 with
  | .ok st' => st'
  | .error _ => st

/-- The registry after a sequence of submissions. -/
def runSubmissions (ctx : SlashContext) (chainID : Option ℤ) (subs : List Submission)
    (st : RegistryState) : RegistryState :=
  subs.foldl (submit ctx chainID) st

@[simp] theorem runSubmissions_nil (ctx : SlashContext) (chainID : Option ℤ) (st : RegistryState) :
    runSubmissions ctx chainID [] st = st := rfl

@[simp] theorem runSubmissions_cons (ctx : SlashContext) (chainID : Option ℤ) (s : Submission)
    (subs : List Submission) (st : RegistryState) :
    runSubmissions ctx chainID (s :: subs) st = runSubmissions ctx chainID subs (submit ctx chainID st s) :=
  rfl

/-! ## What an accepted submission did -/

section Accepted

variable {ctx : SlashContext} {chainID : Option ℤ} {st st' : RegistryState}
  {status : Address → UInt8} {sender : Address} {data : List UInt8} {blockNumber : Option ℕ}

/-- **An accepted submission** decoded valid evidence for this chain, found neither it nor its
offence on record, found its signer registered, and appended its record. -/
theorem execute_eq_ok
    (h : (execute ctx chainID st status sender data blockNumber).2 = .ok st') :
    ∃ configChainID evidence, chainID = some configChainID ∧
      decodeSubmitFinalityViolationEvidence ctx data = .ok evidence ∧
      evidence.validate ctx.crypto = true ∧ evidence.chainID = some configChainID ∧
      st.evidenceExists (ctx.evidenceHash evidence) = false ∧
      st.offenseExists (maliciousVoteOffenseKey ctx.crypto evidence.signer evidence.number) =
        false ∧
      status evidence.signer ≠ validatorInactive ∧
      st' = appendMaliciousVoteEvidenceRecord st (ctx.evidenceHash evidence)
        (maliciousVoteOffenseKey ctx.crypto evidence.signer evidence.number) evidence.number
        evidence.signer sender ((blockNumber.getD 0) % 2 ^ 64) := by
  unfold execute at h
  split at h
  · cases h
  · rename_i configChainID
    split at h
    · cases h
    · rename_i evidence hdecode
      dsimp only at h
      split_ifs at h with hvalid hchain hsubmitted hrecorded hstatus
      obtain rfl := Except.ok.inj h
      refine ⟨configChainID, evidence, rfl, hdecode, by simpa using hvalid, not_not.1 hchain,
        by simpa [hasSubmittedMaliciousVoteEvidence] using hsubmitted,
        by simpa [hasRecordedMaliciousVoteOffense] using hrecorded, hstatus, rfl⟩

/-- **A submission records at most the pair of the evidence it carried**, evidence that proves
an equivocation on this chain. -/
theorem recorded_submit (hinv : RegistryInv ctx.crypto st) {s : Submission} {signer : Address}
    {number : ℕ} (h : (submit ctx chainID st s).Recorded signer number) :
    st.Recorded signer number ∨
      ∃ evidence pub, decodeSubmitFinalityViolationEvidence ctx s.data = .ok evidence ∧
        ProvesEquivocation ctx.crypto evidence pub ∧ evidence.chainID = chainID ∧
        evidence.signer = signer ∧ evidence.number = number := by
  unfold submit at h
  split at h
  · rename_i st' hexec
    obtain ⟨configChainID, evidence, rfl, hdecode, hvalid, hchain, hfresh, -, -, rfl⟩ :=
      execute_eq_ok hexec
    rcases (recorded_append hinv hfresh signer number).1 h with hold | ⟨rfl, rfl⟩
    · exact Or.inl hold
    · obtain ⟨pub, -, hproves⟩ := validate_eq_true hvalid
      exact Or.inr ⟨evidence, pub, hdecode, hproves, hchain, rfl, rfl⟩
  · exact Or.inl h

/-- **Soundness of one submission**: from a registry satisfying the invariant, an accepted
submission carried evidence proving an equivocation on this chain by a registered signer whose
offence was not on record, and it records exactly that offence. -/
theorem execute_sound (hinv : RegistryInv ctx.crypto st)
    (h : (execute ctx chainID st status sender data blockNumber).2 = .ok st') :
    ∃ evidence pub, decodeSubmitFinalityViolationEvidence ctx data = .ok evidence ∧
      ProvesEquivocation ctx.crypto evidence pub ∧ evidence.chainID = chainID ∧
      status evidence.signer ≠ validatorInactive ∧ ¬st.Recorded evidence.signer evidence.number ∧
      ∀ signer number, st'.Recorded signer number ↔
        st.Recorded signer number ∨ (evidence.signer = signer ∧ evidence.number = number) := by
  obtain ⟨_, evidence, rfl, hdecode, hvalid, hchain, hfresh, hnew, hstatus, rfl⟩ :=
    execute_eq_ok h
  obtain ⟨pub, -, hproves⟩ := validate_eq_true hvalid
  refine ⟨evidence, pub, hdecode, hproves, hchain, hstatus, fun hrec => ?_,
    recorded_append hinv hfresh⟩
  -- a recorded offence has its flag set, and the flag was found clear
  have hset := offenseExists_of_recorded hinv hrec
  rw [hnew] at hset
  cases hset

/-- A submission keeps the registry invariant. -/
theorem RegistryInv.submit (hinv : RegistryInv ctx.crypto st) (s : Submission) :
    RegistryInv ctx.crypto (SlashIndicator.submit ctx chainID st s) := by
  unfold SlashIndicator.submit
  split
  · rename_i st' hexec
    obtain ⟨_, _, -, -, -, -, hfresh, -, -, rfl⟩ := execute_eq_ok hexec
    exact hinv.append hfresh
  · exact hinv

/-- Runs of submissions keep the registry invariant. -/
theorem RegistryInv.runSubmissions (hinv : RegistryInv ctx.crypto st) (subs : List Submission) :
    RegistryInv ctx.crypto (SlashIndicator.runSubmissions ctx chainID subs st) := by
  induction subs generalizing st with
  | nil => exact hinv
  | cons s subs ih => exact ih (hinv.submit s)

end Accepted

/-! ## Packing and decoding -/

@[simp] theorem length_signatureBytes (s : Signature) : (signatureBytes s).length = 64 :=
  Bytes.length_toBytesBE _ _

/-- The 64 bytes of a signature read back as the signature. -/
theorem signatureOfBytes_signatureBytes (s : Signature) :
    Dpos.signatureOfBytes (signatureBytes s) = s := by
  have hread : Dpos.signatureOfBytes (signatureBytes s) =
      BitVec.ofNat 512 (Bytes.ofBytesBE (signatureBytes s)) := rfl
  have hwidth : (256 : ℕ) ^ 64 = 2 ^ 512 := by
    rw [show (256 : ℕ) = 2 ^ 8 by norm_num, ← pow_mul]
  rw [hread, signatureBytes, Bytes.ofBytesBE_toBytesBE, hwidth, Nat.mod_eq_of_lt s.isLt,
    BitVec.ofNat_toNat, BitVec.setWidth_eq]

/-- **An envelope survives the ABI tuple**: with its chain ID a `uint256`, its number a `uint64`
and its signer the key's address, the vote data read back as `uint256` words give it again. -/
theorem slashIndicatorEnvelopeToCanonical_voteData {c : EvidenceCrypto}
    {env : CheckpointVoteEnvelope} {pub : List UInt8} {chainID : ℤ}
    (hchain : env.vote.chainID = some chainID) (hlow : 0 ≤ chainID) (hhigh : chainID < 2 ^ 256)
    (hnumber : env.vote.number < 2 ^ 64) (hsigner : c.pubkeyAddress pub = env.signer) :
    slashIndicatorEnvelopeToCanonical c (voteData env).toU256 pub = .ok env := by
  obtain ⟨⟨_, number, hash, validatorSetHash⟩, signer, signature⟩ := env
  dsimp only at hchain hnumber hsigner
  subst hchain hsigner
  have hchain' : chainID % 2 ^ 256 = chainID := Int.emod_eq_of_lt hlow hhigh
  have hnumber' : ((number : ℤ) % 2 ^ 256).natAbs % 2 ^ 64 = number := by
    rw [Int.emod_eq_of_lt (by omega) (by omega), Int.natAbs_natCast, Nat.mod_eq_of_lt hnumber]
  simp only [slashIndicatorEnvelopeToCanonical, voteData, SlashIndicatorVoteData.toU256,
    Option.map_some, length_signatureBytes, ne_eq, not_true_eq_false, if_false,
    signatureOfBytes_signatureBytes, hchain', hnumber']

section RoundTrip

variable {c : EvidenceCrypto} {a b : CheckpointVoteEnvelope} {pub : List UInt8}
  {evidence : MaliciousVoteEvidence} {chainID : ℤ}

/-- The ABI tuple of built evidence: its two envelopes' vote data and the key. -/
theorem slashIndicatorEvidenceFromCanonical_of_new
    (h : newMaliciousVoteEvidence c a b "ed25519" pub = some evidence)
    (ha : c.verify pub (c.signingHash a.vote) a.signature = true)
    (hb : c.verify pub (c.signingHash b.vote) b.signature = true) :
    slashIndicatorEvidenceFromCanonical c evidence =
      .ok ⟨voteData evidence.first, voteData evidence.second, pub⟩ := by
  have hvalid := validate_of_newMaliciousVoteEvidence h ha hb
  obtain ⟨-, -, -, -, -, -, -, -, rfl⟩ := newMaliciousVoteEvidence_eq_some h
  simp [slashIndicatorEvidenceFromCanonical, hvalid, decodeString_pubKeyText]

/-- **Canonical evidence survives the ABI tuple** on a chain whose ID is a `uint256`. -/
theorem canonicalEvidenceFromSlashIndicator_of_new
    (h : newMaliciousVoteEvidence c a b "ed25519" pub = some evidence)
    (hchain : a.vote.chainID = some chainID) (hlow : 0 ≤ chainID) (hhigh : chainID < 2 ^ 256)
    (hnumber : a.vote.number < 2 ^ 64) :
    canonicalEvidenceFromSlashIndicator c
      (⟨voteData evidence.first, voteData evidence.second, pub⟩ :
        SlashIndicatorFinalityEvidence).toU256 = .ok evidence := by
  have hrebuild := newMaliciousVoteEvidence_rebuild h
  obtain ⟨hsigner, hnumbers, -, hchains, -, -, -, haddr, rfl⟩ := newMaliciousVoteEvidence_eq_some h
  -- both envelopes have the chain, a 64-bit number and the key's address as signer
  have hboth := canonicalOrder_both
    (P := fun x => slashIndicatorEnvelopeToCanonical c (voteData x).toU256 pub = .ok x)
    (slashIndicatorEnvelopeToCanonical_voteData hchain hlow hhigh hnumber haddr)
    (slashIndicatorEnvelopeToCanonical_voteData (by rw [← hchains, hchain]) hlow hhigh
      (by rw [← hnumbers]; exact hnumber) (by rw [haddr, hsigner]))
  obtain ⟨hfirst, hsecond⟩ := hboth
  simp only at hfirst hsecond hrebuild
  simp only [canonicalEvidenceFromSlashIndicator, SlashIndicatorFinalityEvidence.toU256, hfirst,
    hsecond, hrebuild]

end RoundTrip

/-- **Pack, then decode**: when the ABI codec writes the payload with its selector and reads it
back as `uint256` words, decoding the packed evidence gives the evidence. -/
theorem decode_pack {ctx : SlashContext} {evidence : MaliciousVoteEvidence}
    {payload : SlashIndicatorFinalityEvidence} {bytes : List UInt8}
    (hpayload : slashIndicatorEvidenceFromCanonical ctx.crypto evidence = .ok payload)
    (hpack : ctx.abi.pack payload = .ok bytes) (hselector : 4 ≤ bytes.length)
    (hunpack : ctx.abi.unpack bytes = .ok payload.toU256)
    (hcanonical : canonicalEvidenceFromSlashIndicator ctx.crypto payload.toU256 = .ok evidence) :
    packSubmitFinalityViolationEvidence ctx evidence = .ok bytes ∧
      decodeSubmitFinalityViolationEvidence ctx bytes = .ok evidence := by
  refine ⟨by simp [packSubmitFinalityViolationEvidence, hpayload, hpack], ?_⟩
  rw [decodeSubmitFinalityViolationEvidence, if_neg (by omega), hunpack]
  exact hcanonical

/-- **Acceptance**: decoded valid evidence for this chain, new to the registry, of a registered
signer, is recorded. -/
theorem execute_of_decode {ctx : SlashContext} {chainID : ℤ} {st : RegistryState}
    {status : Address → UInt8} {sender : Address} {data : List UInt8} {blockNumber : Option ℕ}
    {evidence : MaliciousVoteEvidence}
    (hdecode : decodeSubmitFinalityViolationEvidence ctx data = .ok evidence)
    (hvalid : evidence.validate ctx.crypto = true) (hchain : evidence.chainID = some chainID)
    (hfresh : st.evidenceExists (ctx.evidenceHash evidence) = false)
    (hnew : st.offenseExists (maliciousVoteOffenseKey ctx.crypto evidence.signer evidence.number) =
      false)
    (hstatus : status evidence.signer ≠ validatorInactive) :
    (execute ctx (some chainID) st status sender data blockNumber).2 =
      .ok (appendMaliciousVoteEvidenceRecord st (ctx.evidenceHash evidence)
        (maliciousVoteOffenseKey ctx.crypto evidence.signer evidence.number) evidence.number
        evidence.signer sender ((blockNumber.getD 0) % 2 ^ 64)) := by
  simp [execute, hdecode, hvalid, hchain, hasSubmittedMaliciousVoteEvidence, hfresh,
    hasRecordedMaliciousVoteOffense, hnew, hstatus]

/-! ## Honest validators -/

/-- **An honest validator is never recorded**: when every signature valid under a key of `V`'s
address matches, by number and hash, one of a set of published votes with one hash per number,
no run of submissions from a registry without a record of `V` records `V`. -/
theorem not_recorded_of_consistent {ctx : SlashContext} {chainID : Option ℤ}
    {published : List CheckpointVoteEnvelope} {V : Address}
    (hconsistent : ∀ p₁ ∈ published, ∀ p₂ ∈ published, p₁.vote.number = p₂.vote.number →
      p₁.vote.hash = p₂.vote.hash)
    (hunforge : ∀ pub vote sig, ctx.crypto.pubkeyAddress pub = V → pub.length = publicKeySize →
      ctx.crypto.verify pub (ctx.crypto.signingHash vote) sig = true →
      ∃ p ∈ published, p.vote.number = vote.number ∧ p.vote.hash = vote.hash)
    (subs : List Submission) {st : RegistryState} (hinv : RegistryInv ctx.crypto st)
    (hst : ∀ number, ¬st.Recorded V number) (number : ℕ) :
    ¬(runSubmissions ctx chainID subs st).Recorded V number := by
  induction subs generalizing st with
  | nil => exact hst number
  | cons s subs ih =>
    refine ih (hinv.submit s) fun number' hrec => ?_
    rcases recorded_submit hinv hrec with hold | ⟨evidence, pub, -, hproves, -, rfl, rfl⟩
    · exact hst number' hold
    · -- both votes of the evidence match published votes, of one number and two hashes
      obtain ⟨p₁, hp₁, hnum₁, hhash₁⟩ := hunforge pub _ _ hproves.keyAddress hproves.keySize
        hproves.firstSigned
      obtain ⟨p₂, hp₂, hnum₂, hhash₂⟩ := hunforge pub _ _ hproves.keyAddress hproves.keySize
        hproves.secondSigned
      have hsame : p₁.vote.hash = p₂.vote.hash := hconsistent p₁ hp₁ p₂ hp₂ (by
        rw [hnum₁, hnum₂, hproves.firstNumber, hproves.secondNumber])
      exact hproves.hashesDiffer (by rw [← hhash₁, ← hhash₂, hsame])

/-! ## Soundness, completeness and recording once -/

/-- **Slashing evidence is sound, complete and recorded once.**

(a) After any run of submissions from a fresh registry, a submission is accepted only when its
calldata decodes to evidence proving an equivocation (two votes of the signer at one number and
chain, for different hashes, both signed under one ed25519 key whose address is the signer) on
this chain, by a signer whose status is not `Inactive` and whose offence at that number is not
on record; it then records exactly that offence.

(b) On a chain whose ID is a `uint256`, evidence that `NewMaliciousVoteEvidence` builds from two
envelopes signed under the key, packed where the ABI codec writes the tuple with its selector and
reads its words back, decodes to the same evidence, and `Execute` records it when the signer is
registered and neither the evidence nor its offence is on record.

(c) A validator whose valid signatures all match, by number and hash, votes its node published
through `maybeProduceCheckpointVote` and `RestartGossip` over any run on one database (the
unforgeability of ed25519 and Keccak-256, as a hypothesis on the primitives) is never recorded. -/
theorem slashIndicator_evidence_sound_complete (ctx : SlashContext) (chainID : ℤ) :
    (∀ subs (s : Submission) st', (execute ctx (some chainID)
        (runSubmissions ctx (some chainID) subs .empty)
        s.status s.sender s.data s.blockNumber).2 = .ok st' →
      ∃ evidence pub, decodeSubmitFinalityViolationEvidence ctx s.data = .ok evidence ∧
        ProvesEquivocation ctx.crypto evidence pub ∧ evidence.chainID = some chainID ∧
        s.status evidence.signer ≠ validatorInactive ∧
        ¬(runSubmissions ctx (some chainID) subs .empty).Recorded evidence.signer
          evidence.number ∧
        ∀ signer number, st'.Recorded signer number ↔
          (runSubmissions ctx (some chainID) subs .empty).Recorded signer number ∨
            (evidence.signer = signer ∧ evidence.number = number)) ∧
    (0 ≤ chainID → chainID < 2 ^ 256 → ∀ a b pub evidence,
      newMaliciousVoteEvidence ctx.crypto a b "ed25519" pub = some evidence →
      a.vote.chainID = some chainID → a.vote.number < 2 ^ 64 →
      ctx.crypto.verify pub (ctx.crypto.signingHash a.vote) a.signature = true →
      ctx.crypto.verify pub (ctx.crypto.signingHash b.vote) b.signature = true →
      ∀ bytes, ctx.abi.pack ⟨voteData evidence.first, voteData evidence.second, pub⟩ = .ok bytes →
      4 ≤ bytes.length →
      ctx.abi.unpack bytes = .ok (SlashIndicatorFinalityEvidence.toU256
        ⟨voteData evidence.first, voteData evidence.second, pub⟩) →
      packSubmitFinalityViolationEvidence ctx evidence = .ok bytes ∧
        decodeSubmitFinalityViolationEvidence ctx bytes = .ok evidence ∧
        ∀ st status sender blockNumber, status evidence.signer ≠ validatorInactive →
          st.evidenceExists (ctx.evidenceHash evidence) = false →
          st.offenseExists (maliciousVoteOffenseKey ctx.crypto evidence.signer evidence.number) =
            false →
          (execute ctx (some chainID) st status sender bytes blockNumber).2 =
            .ok (appendMaliciousVoteEvidenceRecord st (ctx.evidenceHash evidence)
              (maliciousVoteOffenseKey ctx.crypto evidence.signer evidence.number)
              evidence.number evidence.signer sender ((blockNumber.getD 0) % 2 ^ 64))) ∧
    (∀ (cfg : Dpos.DPoSConfig) ops (n : Dpos.VoteNode) V,
      (∀ pub vote sig, ctx.crypto.pubkeyAddress pub = V → pub.length = publicKeySize →
        ctx.crypto.verify pub (ctx.crypto.signingHash vote) sig = true →
        ∃ p ∈ (Dpos.runVoteOps cfg true ops n).2,
          p.vote.number = vote.number ∧ p.vote.hash = vote.hash) →
      ∀ subs number, ¬(runSubmissions ctx (some chainID) subs .empty).Recorded V number) := by
  refine ⟨fun subs s st' h => ?_, fun hlow hhigh a b pub evidence hnew hchain hnumber ha hb bytes
    hpack hselector hunpack => ?_, fun cfg ops n V hunforge subs number => ?_⟩
  · -- (a): the registry invariant holds along the run
    exact execute_sound ((RegistryInv.empty ctx.crypto).runSubmissions subs) h
  · -- (b): the tuple round trip, then the checks of `Execute`
    have hvalid := validate_of_newMaliciousVoteEvidence hnew ha hb
    obtain ⟨hpacked, hdecode⟩ := decode_pack (slashIndicatorEvidenceFromCanonical_of_new hnew ha hb)
      hpack hselector hunpack (canonicalEvidenceFromSlashIndicator_of_new hnew hchain hlow hhigh
        hnumber)
    have hchain' : evidence.chainID = some chainID := by
      obtain ⟨-, -, -, -, -, -, -, -, rfl⟩ := newMaliciousVoteEvidence_eq_some hnew
      exact hchain
    exact ⟨hpacked, hdecode, fun st status sender blockNumber hstatus hfresh hfree =>
      execute_of_decode hdecode hvalid hchain' hfresh hfree hstatus⟩
  · -- (c): the node's published votes have one hash per number
    have hrun := Dpos.runVoteOps_voteStep cfg ops n
    exact not_recorded_of_consistent (fun _ hp₁ _ hp₂ hnum => hrun.hash_eq hp₁ hp₂ hnum)
      hunforge subs (RegistryInv.empty ctx.crypto) (not_recorded_empty V) number

/-- On chain `1`, evidence built from two signed envelopes for one number is packed and decoded
back as it was. -/
theorem slashIndicator_evidence_sound_complete_chain1 :
    let c : EvidenceCrypto := ⟨fun _ => 0, fun _ => 0, fun _ _ _ => true⟩
    let a : CheckpointVoteEnvelope := ⟨⟨some 1, 1, 1, 0⟩, 0, 0⟩
    let b : CheckpointVoteEnvelope := ⟨⟨some 1, 1, 2, 0⟩, 0, 0⟩
    let pub : List UInt8 := List.replicate 32 0
    let payload : SlashIndicatorFinalityEvidence := ⟨voteData a, voteData b, pub⟩
    let ctx : SlashContext :=
      ⟨c, ⟨fun _ => .ok [0, 0, 0, 0], fun _ => .ok payload.toU256⟩, fun _ => 0⟩
    let evidence : MaliciousVoteEvidence := ⟨maliciousVoteEvidenceVersion,
      checkpointEquivocationKind, some 1, 1, 0, "ed25519", pubKeyText pub, a, b⟩
    newMaliciousVoteEvidence c a b "ed25519" pub = some evidence ∧
      packSubmitFinalityViolationEvidence ctx evidence = .ok [0, 0, 0, 0] ∧
      decodeSubmitFinalityViolationEvidence ctx [0, 0, 0, 0] = .ok evidence := by
  intro c a b pub payload ctx evidence
  have hnew : newMaliciousVoteEvidence c a b "ed25519" pub = some evidence := by
    decide +kernel
  obtain ⟨hpack, hdecode, -⟩ := (slashIndicator_evidence_sound_complete ctx 1).2.1 (by decide)
    (by norm_num) a b pub evidence hnew rfl (by decide) rfl rfl [0, 0, 0, 0] rfl (by decide) rfl
  exact ⟨hnew, hpack, hdecode⟩

/-- On a chain whose ID is `-1`, which no `uint256` word carries, evidence built from two signed
envelopes is packed and decoded back with chain ID `2 ^ 256 - 1` (the ABI codec here does on this
payload what `Pack` and `Unpack` do: wrap the number modulo `2 ^ 256`), and `Execute` refuses it
for a chain ID mismatch. -/
theorem slashIndicator_negative_chainID_roundtrip :
    let c : EvidenceCrypto := ⟨fun _ => 0, fun _ => 0, fun _ _ _ => true⟩
    let a : CheckpointVoteEnvelope := ⟨⟨some (-1), 1, 1, 0⟩, 0, 0⟩
    let b : CheckpointVoteEnvelope := ⟨⟨some (-1), 1, 2, 0⟩, 0, 0⟩
    let pub : List UInt8 := List.replicate 32 0
    let payload : SlashIndicatorFinalityEvidence := ⟨voteData a, voteData b, pub⟩
    let ctx : SlashContext :=
      ⟨c, ⟨fun _ => .ok [0, 0, 0, 0], fun _ => .ok payload.toU256⟩, fun _ => 0⟩
    let evidence : MaliciousVoteEvidence := ⟨maliciousVoteEvidenceVersion,
      checkpointEquivocationKind, some (-1), 1, 0, "ed25519", pubKeyText pub, a, b⟩
    let wrapped : MaliciousVoteEvidence := ⟨maliciousVoteEvidenceVersion,
      checkpointEquivocationKind, some (2 ^ 256 - 1), 1, 0, "ed25519", pubKeyText pub,
      ⟨⟨some (2 ^ 256 - 1), 1, 1, 0⟩, 0, 0⟩, ⟨⟨some (2 ^ 256 - 1), 1, 2, 0⟩, 0, 0⟩⟩
    newMaliciousVoteEvidence c a b "ed25519" pub = some evidence ∧
      packSubmitFinalityViolationEvidence ctx evidence = .ok [0, 0, 0, 0] ∧
      decodeSubmitFinalityViolationEvidence ctx [0, 0, 0, 0] = .ok wrapped ∧ wrapped ≠ evidence ∧
      (execute ctx (some (-1)) RegistryState.empty (fun _ => 1) 0 [0, 0, 0, 0] none).2 =
        .error .chainIDMismatch := by
  intro c a b pub payload ctx evidence wrapped
  -- the evaluations go through the hex text of the key: the kernel runs them
  have hdecode : decodeSubmitFinalityViolationEvidence ctx [0, 0, 0, 0] = .ok wrapped := by
    decide +kernel
  have hvalid : wrapped.validate c = true := by
    decide +kernel
  refine ⟨by decide +kernel, by decide +kernel, hdecode, by decide, ?_⟩
  simp only [execute, hdecode]
  rw [if_neg (by rw [hvalid]; decide), if_pos (by decide)]

end Gtos.SlashIndicator
