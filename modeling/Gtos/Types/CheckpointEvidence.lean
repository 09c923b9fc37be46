import Gtos.Lib.Bytes
import Gtos.Types.Checkpoint

/-! # Malicious-vote evidence (`core/types/checkpoint_evidence.go`)

The canonical evidence that a validator signed two checkpoint votes at one number for different
blocks. `NewMaliciousVoteEvidence` checks a pair of envelopes and puts them in a fixed order;
`Validate` rebuilds the evidence from its two envelopes and key, compares field by field and
verifies both signatures.

Keccak-256, the vote signing hash (Keccak-256 of an RLP list) and `ed25519.Verify` are passed in
as `EvidenceCrypto`. Go strings are `String`s; the public key travels as `"0x"` and its
lower-case hex digits. Go compares the envelopes with `!=`, whose `ChainID` fields are pointers;
`Validate` compares envelopes that were copied from the evidence itself, so the pointers agree
exactly when the values do, and the comparison is by value here.

* **`newMaliciousVoteEvidence_eq_some`**, **`validate_eq_true`** — what built and what valid
  evidence say: the latter proves an equivocation (`ProvesEquivocation`).
* **`validate_of_newMaliciousVoteEvidence`** — evidence built from two envelopes with valid
  signatures validates, whatever their order.
-/

namespace Gtos

/-- `ed25519.PublicKeySize`. -/
def publicKeySize : ℕ := 32

/-- The cryptographic primitives the evidence code calls. -/
structure EvidenceCrypto where
  /-- `crypto.Keccak256`. -/
  keccak256 : List UInt8 → Hash
  /-- `(*CheckpointVote).SigningHash`: Keccak-256 of the RLP list
  `["GTOS_CHECKPOINT_V1", ChainID, Number, Hash, ValidatorSetHash]`. -/
  signingHash : CheckpointVote → Hash
  /-- `ed25519.Verify(pub, msg, sig)`. -/
  verify : List UInt8 → Hash → Signature → Bool

/-- `common.BytesToAddress(crypto.Keccak256(pub))`: addresses are as wide as the digest, so the
address is the digest itself. -/
def EvidenceCrypto.pubkeyAddress (c : EvidenceCrypto) (pub : List UInt8) : Address :=
  c.keccak256 pub

/-- `MaliciousVoteEvidence`. -/
structure MaliciousVoteEvidence where
  /-- `Version`. -/
  version : String
  /-- `Kind`. -/
  kind : String
  /-- `ChainID`, a `*big.Int`. -/
  chainID : Option ℤ
  /-- `Number`. -/
  number : ℕ
  /-- `Signer`. -/
  signer : Address
  /-- `SignerType`. -/
  signerType : String
  /-- `SignerPubKey`: `"0x"` and the hex digits of the key. -/
  signerPubKey : String
  /-- `First`: the envelope that sorts first. -/
  first : CheckpointVoteEnvelope
  /-- `Second`. -/
  second : CheckpointVoteEnvelope
  deriving DecidableEq, Repr

/-- The `Version` of canonical evidence. -/
def maliciousVoteEvidenceVersion : String := "GTOS_MALICIOUS_VOTE_EVIDENCE_V1"

/-- The `Kind` of canonical evidence. -/
def checkpointEquivocationKind : String := "checkpoint_equivocation"

/-- `checkpointVoteEnvelopeLess`: `bytes.Compare` on the hash, then the validator-set hash, then
the signature; the unsigned order of the words is that byte order. -/
def checkpointVoteEnvelopeLess (a b : CheckpointVoteEnvelope) : Bool :=
  if a.vote.hash ≠ b.vote.hash then decide (a.vote.hash < b.vote.hash)
  else if a.vote.validatorSetHash ≠ b.vote.validatorSetHash then
    decide (a.vote.validatorSetHash < b.vote.validatorSetHash)
  else decide (a.signature < b.signature)

/-- `first, second := *a, *b; if checkpointVoteEnvelopeLess(&second, &first) { swap }`. -/
def canonicalOrder (a b : CheckpointVoteEnvelope) : CheckpointVoteEnvelope × CheckpointVoteEnvelope :=
  if checkpointVoteEnvelopeLess b a then (b, a) else (a, b)

/-- `trim0x`. -/
def trim0x (s : String) : String :=
  match s.toList with
  | '0' :: 'x' :: rest => String.ofList rest
  | _ => s

/-- `mustDecodeEvidencePub`: the key bytes, empty when the text is no hex. -/
def mustDecodeEvidencePub (s : String) : List UInt8 :=
  (Hex.decodeString (trim0x s).toList).getD []

/-- The `SignerPubKey` text of a key: `"0x" + hex.EncodeToString(signerPub)`. -/
def pubKeyText (signerPub : List UInt8) : String :=
  "0x" ++ String.ofList (Hex.encodeToString signerPub)

/-- `NewMaliciousVoteEvidence`: `none` where the source returns `errInvalidCheckpointEvidence`. -/
def newMaliciousVoteEvidence (c : EvidenceCrypto) (a b : CheckpointVoteEnvelope)
    (signerType : String) (signerPub : List UInt8) : Option MaliciousVoteEvidence :=
  if a.signer ≠ b.signer then none
  else if a.vote.number ≠ b.vote.number then none
  else if a.vote.hash = b.vote.hash then none
  else
    match a.vote.chainID, b.vote.chainID with
    | some chainA, some chainB =>
      if chainA ≠ chainB then none
      else if signerType ≠ "ed25519" then none
      else if signerPub.length ≠ publicKeySize then none
      else if c.pubkeyAddress signerPub ≠ a.signer then none
      else
        some ⟨maliciousVoteEvidenceVersion, checkpointEquivocationKind, some chainA, a.vote.number,
          a.signer, signerType, pubKeyText signerPub, (canonicalOrder a b).1,
          (canonicalOrder a b).2⟩
    | _, _ => none

/-- `(*MaliciousVoteEvidence).Validate`: `true` where the source returns `nil`. -/
def MaliciousVoteEvidence.validate (c : EvidenceCrypto) (e : MaliciousVoteEvidence) : Bool :=
  if e.version ≠ maliciousVoteEvidenceVersion then false
  else if e.kind ≠ checkpointEquivocationKind then false
  else if e.chainID = none then false
  else
    match newMaliciousVoteEvidence c e.first e.second e.signerType
        (mustDecodeEvidencePub e.signerPubKey) with
    | none => false
    | some want =>
      if want.number ≠ e.number ∨ want.signer ≠ e.signer ∨ want.chainID ≠ e.chainID then false
      else if want.signerType ≠ e.signerType ∨ want.signerPubKey ≠ e.signerPubKey then false
      else if want.first ≠ e.first ∨ want.second ≠ e.second then false
      else
        match Hex.decodeString (trim0x e.signerPubKey).toList with
        | none => false
        | some pub =>
          if pub.length ≠ publicKeySize then false
          else c.verify pub (c.signingHash e.first.vote) e.first.signature &&
            c.verify pub (c.signingHash e.second.vote) e.second.signature

/-! ## The canonical order -/

/-- The envelope order is a strict order: never both ways. -/
theorem checkpointVoteEnvelopeLess_asymm {a b : CheckpointVoteEnvelope}
    (h : checkpointVoteEnvelopeLess a b = true) : checkpointVoteEnvelopeLess b a = false := by
  unfold checkpointVoteEnvelopeLess at h ⊢
  simp only [BitVec.lt_def] at h ⊢
  split_ifs at h ⊢ <;> simp_all <;> omega

theorem canonicalOrder_cases (a b : CheckpointVoteEnvelope) :
    canonicalOrder a b = (a, b) ∨ canonicalOrder a b = (b, a) := by
  unfold canonicalOrder
  split_ifs
  · exact Or.inr rfl
  · exact Or.inl rfl

/-- Ordering an ordered pair again leaves it as it is. -/
theorem canonicalOrder_canonicalOrder (a b : CheckpointVoteEnvelope) :
    canonicalOrder (canonicalOrder a b).1 (canonicalOrder a b).2 = canonicalOrder a b := by
  unfold canonicalOrder
  by_cases hba : checkpointVoteEnvelopeLess b a = true
  · rw [if_pos hba]
    dsimp only
    rw [if_neg (by simp [checkpointVoteEnvelopeLess_asymm hba])]
  · rw [if_neg hba, if_neg hba]

/-- Whatever holds of both envelopes holds of both ordered ones. -/
theorem canonicalOrder_both {P : CheckpointVoteEnvelope → Prop} {a b : CheckpointVoteEnvelope}
    (ha : P a) (hb : P b) : P (canonicalOrder a b).1 ∧ P (canonicalOrder a b).2 := by
  rcases canonicalOrder_cases a b with hab | hab <;> rw [hab]
  · exact ⟨ha, hb⟩
  · exact ⟨hb, ha⟩

/-! ## The key text -/

theorem trim0x_pubKeyText (signerPub : List UInt8) :
    trim0x (pubKeyText signerPub) = String.ofList (Hex.encodeToString signerPub) := by
  have hlist : (pubKeyText signerPub).toList = '0' :: 'x' :: Hex.encodeToString signerPub := by
    simp [pubKeyText]
  simp only [trim0x, hlist]

/-- The key text reads back as the key. -/
theorem decodeString_pubKeyText (signerPub : List UInt8) :
    Hex.decodeString (trim0x (pubKeyText signerPub)).toList = some signerPub := by
  rw [trim0x_pubKeyText, String.toList_ofList, Hex.decodeString_encodeToString]

theorem mustDecodeEvidencePub_pubKeyText (signerPub : List UInt8) :
    mustDecodeEvidencePub (pubKeyText signerPub) = signerPub := by
  rw [mustDecodeEvidencePub, decodeString_pubKeyText, Option.getD_some]

/-! ## Built evidence and valid evidence -/

/-- **Built evidence**: one signer, one number, two hashes, one chain, an ed25519 key of the
signer, and the envelopes in canonical order. -/
theorem newMaliciousVoteEvidence_eq_some {c : EvidenceCrypto} {a b : CheckpointVoteEnvelope}
    {signerType : String} {signerPub : List UInt8} {e : MaliciousVoteEvidence}
    (h : newMaliciousVoteEvidence c a b signerType signerPub = some e) :
    a.signer = b.signer ∧ a.vote.number = b.vote.number ∧ a.vote.hash ≠ b.vote.hash ∧
      a.vote.chainID = b.vote.chainID ∧ a.vote.chainID.isSome ∧ signerType = "ed25519" ∧
      signerPub.length = publicKeySize ∧ c.pubkeyAddress signerPub = a.signer ∧
      e = ⟨maliciousVoteEvidenceVersion, checkpointEquivocationKind, a.vote.chainID,
        a.vote.number, a.signer, signerType, pubKeyText signerPub, (canonicalOrder a b).1,
        (canonicalOrder a b).2⟩ := by
  unfold newMaliciousVoteEvidence at h
  -- settle the chain IDs first, so that only the checks' conditions remain
  cases hA : a.vote.chainID with
  | none => simp [hA] at h
  | some chainA =>
    cases hB : b.vote.chainID with
    | none => simp [hA, hB] at h
    | some chainB =>
      simp only [hA, hB] at h
      split_ifs at h with hsigner hnumber hhash hchain htype hlen haddr
      obtain rfl := Option.some.inj h
      exact ⟨not_not.1 hsigner, not_not.1 hnumber, hhash, by rw [not_not.1 hchain], rfl,
        not_not.1 htype, not_not.1 hlen, not_not.1 haddr, rfl⟩

/-- **What valid evidence proves**: two votes of the signer at the evidence's number and chain,
for different hashes, each signed under one ed25519 key whose address is the signer. -/
structure ProvesEquivocation (c : EvidenceCrypto) (e : MaliciousVoteEvidence) (pub : List UInt8) :
    Prop where
  ed25519 : e.signerType = "ed25519"
  keySize : pub.length = publicKeySize
  keyAddress : c.pubkeyAddress pub = e.signer
  firstSigned : c.verify pub (c.signingHash e.first.vote) e.first.signature = true
  secondSigned : c.verify pub (c.signingHash e.second.vote) e.second.signature = true
  firstSigner : e.first.signer = e.signer
  secondSigner : e.second.signer = e.signer
  firstNumber : e.first.vote.number = e.number
  secondNumber : e.second.vote.number = e.number
  hashesDiffer : e.first.vote.hash ≠ e.second.vote.hash
  firstChain : e.first.vote.chainID = e.chainID
  secondChain : e.second.vote.chainID = e.chainID

/-- **Valid evidence proves an equivocation**, under the key its text decodes to. -/
theorem validate_eq_true {c : EvidenceCrypto} {e : MaliciousVoteEvidence}
    (h : e.validate c = true) :
    ∃ pub, Hex.decodeString (trim0x e.signerPubKey).toList = some pub ∧
      ProvesEquivocation c e pub := by
  unfold MaliciousVoteEvidence.validate at h
  split_ifs at h with hversion hkind hchain
  split at h
  · cases h
  · rename_i want hwant
    split_ifs at h with hfields htext hpair
    split at h
    · cases h
    · rename_i pub hpub
      split_ifs at h with hlen
      obtain ⟨hsigned₁, hsigned₂⟩ := Bool.and_eq_true_iff.1 h
      obtain ⟨hsigner, hnumber, hhash, hchains, -, htype, -, haddr, rfl⟩ :=
        newMaliciousVoteEvidence_eq_some hwant
      simp only [not_or, not_not] at hfields hpair
      obtain ⟨hnum, hsig, hch⟩ := hfields
      have hmust : mustDecodeEvidencePub e.signerPubKey = pub := by
        rw [mustDecodeEvidencePub, hpub, Option.getD_some]
      refine ⟨pub, hpub, ⟨htype, not_not.1 hlen, ?_, hsigned₁, hsigned₂, hsig, ?_, hnum, ?_,
        hhash, hch, ?_⟩⟩
      · rw [← hmust, haddr]
        exact hsig
      · rw [← hsigner]
        exact hsig
      · rw [← hnumber]
        exact hnum
      · rw [← hchains]
        exact hch

/-- **Rebuilding** evidence from its own ordered envelopes gives it back. -/
theorem newMaliciousVoteEvidence_rebuild {c : EvidenceCrypto} {a b : CheckpointVoteEnvelope}
    {signerType : String} {signerPub : List UInt8} {e : MaliciousVoteEvidence}
    (h : newMaliciousVoteEvidence c a b signerType signerPub = some e) :
    newMaliciousVoteEvidence c e.first e.second signerType signerPub = some e := by
  obtain ⟨hsigner, hnumber, hhash, hchains, hsome, htype, hlen, haddr, rfl⟩ :=
    newMaliciousVoteEvidence_eq_some h
  obtain ⟨chainA, hA⟩ := Option.isSome_iff_exists.1 hsome
  dsimp only
  rcases canonicalOrder_cases a b with hab | hab
  · rw [hab] at h ⊢
    exact h
  · -- the swapped pair is ordered the same way, and the checks are symmetric
    have hba := canonicalOrder_canonicalOrder a b
    rw [hab] at hba ⊢
    simp [newMaliciousVoteEvidence, hsigner, hnumber, Ne.symm hhash, ← hchains, hA, hlen, haddr,
      hba, htype]

/-- **Built evidence validates** when both envelopes' signatures verify under the key. -/
theorem validate_of_newMaliciousVoteEvidence {c : EvidenceCrypto} {a b : CheckpointVoteEnvelope}
    {signerPub : List UInt8} {e : MaliciousVoteEvidence}
    (h : newMaliciousVoteEvidence c a b "ed25519" signerPub = some e)
    (ha : c.verify signerPub (c.signingHash a.vote) a.signature = true)
    (hb : c.verify signerPub (c.signingHash b.vote) b.signature = true) :
    e.validate c = true := by
  have hrebuild := newMaliciousVoteEvidence_rebuild h
  obtain ⟨-, -, -, -, hsome, -, hlen, -, rfl⟩ := newMaliciousVoteEvidence_eq_some h
  obtain ⟨chainA, hA⟩ := Option.isSome_iff_exists.1 hsome
  -- the signatures of the ordered pair are those of `a` and `b`
  have hsigned := canonicalOrder_both
    (P := fun x => c.verify signerPub (c.signingHash x.vote) x.signature = true) ha hb
  simp only at hsigned hrebuild
  simp [MaliciousVoteEvidence.validate, mustDecodeEvidencePub_pubKeyText, hrebuild,
    decodeString_pubKeyText, hlen, hsigned, hA]

end Gtos
