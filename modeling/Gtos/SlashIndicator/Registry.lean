import Gtos.Dpos.CheckpointExtra
import Gtos.Types.CheckpointEvidence

/-! # The malicious-vote evidence registry (`consensus/slashindicator/registry.go`)

The slash indicator keeps its records in the storage of `CheckpointSlashIndicatorAddress`: a
count, a list of evidence hashes, and per evidence hash an "exists" flag, its offence key,
number, signer, submitter, block and status; per offence key an "exists" flag. Every slot is
Keccak-256 of a family prefix and a key. Each family is one map here, keyed by what the slot
hashes: the slots of distinct families and keys are taken to be distinct. Words are read back as
they were written (`readUint64Word` after `writeUint64Word`, and so on), so each map holds the
value itself.

* **`RegistryInv`** — every listed hash is marked submitted and its offence key, the key of its
  signer and number, is marked recorded; `appendMaliciousVoteEvidenceRecord` keeps it.
* **`Recorded`** — evidence for `(signer, number)` is among the records the registry's own
  queries (`ReadMaliciousVoteEvidenceHashes`, `ReadMaliciousVoteEvidenceRecord`) return;
  `recorded_append` says what one append adds and `offenseExists_of_recorded` that the offence
  flag of a recorded pair is set.
-/

namespace Gtos.SlashIndicator

/-- The slash indicator's storage, by slot family. -/
structure RegistryState where
  /-- `evidenceCountSlot`. -/
  evidenceCount : ℕ
  /-- `evidenceListSlot(i)`. -/
  evidenceList : ℕ → Hash
  /-- `evidenceExistsSlot(hash)`. -/
  evidenceExists : Hash → Bool
  /-- `offenseExistsSlot(offenseKey)`. -/
  offenseExists : Hash → Bool
  /-- `evidenceOffenseSlot(hash)`. -/
  evidenceOffense : Hash → Hash
  /-- `evidenceNumberSlot(hash)`. -/
  evidenceNumber : Hash → ℕ
  /-- `evidenceSubmitterSlot(hash)`. -/
  evidenceSubmitter : Hash → Address
  /-- `evidenceSignerSlot(hash)`. -/
  evidenceSigner : Hash → Address
  /-- `evidenceBlockSlot(hash)`. -/
  evidenceBlock : Hash → ℕ
  /-- `evidenceStatusSlot(hash)`. -/
  evidenceStatus : Hash → ℕ

/-- The storage of a fresh chain: every word zero. -/
def RegistryState.empty : RegistryState :=
  ⟨0, fun _ => 0, fun _ => false, fun _ => false, fun _ => 0, fun _ => 0, fun _ => 0, fun _ => 0,
    fun _ => 0, fun _ => 0⟩

/-- `MaliciousVoteEvidenceSubmitted`. -/
def maliciousVoteEvidenceSubmitted : ℕ := 1

/-- The prefix of the offence key preimage. -/
def offenseKeyPrefix : List UInt8 := "dpos.offense.checkpoint_equivocation".toUTF8.toList

/-- `MaliciousVoteOffenseKey`: Keccak-256 of the prefix, the signer's 32 bytes and the
big-endian 8-byte number. -/
def maliciousVoteOffenseKey (c : EvidenceCrypto) (signer : Address) (number : ℕ) : Hash :=
  c.keccak256 (offenseKeyPrefix ++ Dpos.addressBytes signer ++ Bytes.toBytesBE number 8)

/-- `HasSubmittedMaliciousVoteEvidence`. -/
def hasSubmittedMaliciousVoteEvidence (st : RegistryState) (hash : Hash) : Bool :=
  st.evidenceExists hash

/-- `HasRecordedMaliciousVoteOffense`. -/
def hasRecordedMaliciousVoteOffense (st : RegistryState) (offenseKey : Hash) : Bool :=
  st.offenseExists offenseKey

/-- `MaliciousVoteEvidenceRecord`. -/
structure MaliciousVoteEvidenceRecord where
  /-- `EvidenceHash`. -/
  evidenceHash : Hash
  /-- `OffenseKey`. -/
  offenseKey : Hash
  /-- `Number`. -/
  number : ℕ
  /-- `Signer`. -/
  signer : Address
  /-- `SubmittedBy`. -/
  submittedBy : Address
  /-- `SubmittedAt`. -/
  submittedAt : ℕ
  /-- `Status`. -/
  status : ℕ
  deriving DecidableEq, Repr

/-- `ReadMaliciousVoteEvidenceRecord`. -/
def readMaliciousVoteEvidenceRecord (st : RegistryState) (hash : Hash) :
    Option MaliciousVoteEvidenceRecord :=
  if !hasSubmittedMaliciousVoteEvidence st hash then none
  else
    some ⟨hash, st.evidenceOffense hash, st.evidenceNumber hash, st.evidenceSigner hash,
      st.evidenceSubmitter hash, st.evidenceBlock hash, st.evidenceStatus hash⟩

/-- `ReadMaliciousVoteEvidenceHashes`: the last `limit` listed hashes, all of them for `0`. -/
def readMaliciousVoteEvidenceHashes (st : RegistryState) (limit : ℕ) : List Hash :=
  let count := st.evidenceCount
  let limit := if limit = 0 ∨ limit > count then count else limit
  (List.range limit).map fun j => st.evidenceList (count - limit + j)

/-- `appendMaliciousVoteEvidenceRecord`. -/
def appendMaliciousVoteEvidenceRecord (st : RegistryState) (hash offenseKey : Hash) (number : ℕ)
    (signer submitter : Address) (blockNumber : ℕ) : RegistryState :=
  let count := st.evidenceCount
  { evidenceCount := count + 1
    evidenceList := Function.update st.evidenceList count hash
    evidenceExists := Function.update st.evidenceExists hash true
    offenseExists := Function.update st.offenseExists offenseKey true
    evidenceOffense := Function.update st.evidenceOffense hash offenseKey
    evidenceNumber := Function.update st.evidenceNumber hash number
    evidenceSubmitter := Function.update st.evidenceSubmitter hash submitter
    evidenceSigner := Function.update st.evidenceSigner hash signer
    evidenceBlock := Function.update st.evidenceBlock hash blockNumber
    evidenceStatus := Function.update st.evidenceStatus hash maliciousVoteEvidenceSubmitted }

/-- Evidence for `(signer, number)` is on record: a listed hash whose record names them. -/
def RegistryState.Recorded (st : RegistryState) (signer : Address) (number : ℕ) : Prop :=
  ∃ hash ∈ readMaliciousVoteEvidenceHashes st 0, ∃ r,
    readMaliciousVoteEvidenceRecord st hash = some r ∧ r.signer = signer ∧ r.number = number

/-! ## The listed records -/

theorem mem_readMaliciousVoteEvidenceHashes_zero {st : RegistryState} {hash : Hash} :
    hash ∈ readMaliciousVoteEvidenceHashes st 0 ↔ ∃ i < st.evidenceCount, st.evidenceList i = hash := by
  simp [readMaliciousVoteEvidenceHashes]

/-- What `Recorded` reads, for a registry whose listed hashes are all marked submitted. -/
theorem recorded_iff {st : RegistryState}
    (hlisted : ∀ i < st.evidenceCount, st.evidenceExists (st.evidenceList i) = true)
    {signer : Address} {number : ℕ} :
    st.Recorded signer number ↔ ∃ i < st.evidenceCount,
      st.evidenceSigner (st.evidenceList i) = signer ∧
        st.evidenceNumber (st.evidenceList i) = number := by
  simp only [RegistryState.Recorded, mem_readMaliciousVoteEvidenceHashes_zero]
  constructor
  · rintro ⟨_, ⟨i, hi, rfl⟩, r, hr, rfl, rfl⟩
    simp only [readMaliciousVoteEvidenceRecord, hasSubmittedMaliciousVoteEvidence, hlisted i hi,
      Bool.not_true, Bool.false_eq_true, if_false, Option.some.injEq] at hr
    exact ⟨i, hi, by rw [← hr], by rw [← hr]⟩
  · rintro ⟨i, hi, hsigner, hnumber⟩
    refine ⟨_, ⟨i, hi, rfl⟩, ?_⟩
    simp [readMaliciousVoteEvidenceRecord, hasSubmittedMaliciousVoteEvidence, hlisted i hi,
      hsigner, hnumber]

/-- A fresh registry records nothing. -/
theorem not_recorded_empty (signer : Address) (number : ℕ) :
    ¬RegistryState.empty.Recorded signer number := by
  simp [RegistryState.Recorded, readMaliciousVoteEvidenceHashes, RegistryState.empty]

/-! ## The registry invariant -/

section Invariant

variable (c : EvidenceCrypto)

/-- **The registry invariant.** -/
structure RegistryInv (st : RegistryState) : Prop where
  /-- Every listed hash is marked submitted. -/
  listed_exists : ∀ i < st.evidenceCount, st.evidenceExists (st.evidenceList i) = true
  /-- The offence key of a listed hash is the key of its signer and number. -/
  listed_offense : ∀ i < st.evidenceCount, st.evidenceOffense (st.evidenceList i) =
    maliciousVoteOffenseKey c (st.evidenceSigner (st.evidenceList i))
      (st.evidenceNumber (st.evidenceList i))
  /-- That key is marked recorded. -/
  listed_offenseExists : ∀ i < st.evidenceCount,
    st.offenseExists (st.evidenceOffense (st.evidenceList i)) = true

theorem RegistryInv.empty : RegistryInv c RegistryState.empty :=
  ⟨fun _ h => absurd h (Nat.not_lt_zero _), fun _ h => absurd h (Nat.not_lt_zero _),
    fun _ h => absurd h (Nat.not_lt_zero _)⟩

variable {c} {st : RegistryState} {hash : Hash} {number : ℕ} {signer submitter : Address}
  {blockNumber : ℕ}

/-- A listed hash differs from one not marked submitted. -/
theorem RegistryInv.listed_ne (hinv : RegistryInv c st) (hfresh : st.evidenceExists hash = false)
    {i : ℕ} (hi : i < st.evidenceCount) : st.evidenceList i ≠ hash := by
  intro heq
  have := hinv.listed_exists i hi
  rw [heq, hfresh] at this
  cases this

/-! The fields an append writes. -/

@[simp] theorem evidenceCount_append {offenseKey : Hash} :
    (appendMaliciousVoteEvidenceRecord st hash offenseKey number signer submitter
      blockNumber).evidenceCount = st.evidenceCount + 1 := rfl

@[simp] theorem evidenceList_append {offenseKey : Hash} :
    (appendMaliciousVoteEvidenceRecord st hash offenseKey number signer submitter
      blockNumber).evidenceList = Function.update st.evidenceList st.evidenceCount hash := rfl

@[simp] theorem evidenceExists_append {offenseKey : Hash} :
    (appendMaliciousVoteEvidenceRecord st hash offenseKey number signer submitter
      blockNumber).evidenceExists = Function.update st.evidenceExists hash true := rfl

@[simp] theorem offenseExists_append {offenseKey : Hash} :
    (appendMaliciousVoteEvidenceRecord st hash offenseKey number signer submitter
      blockNumber).offenseExists = Function.update st.offenseExists offenseKey true := rfl

@[simp] theorem evidenceOffense_append {offenseKey : Hash} :
    (appendMaliciousVoteEvidenceRecord st hash offenseKey number signer submitter
      blockNumber).evidenceOffense = Function.update st.evidenceOffense hash offenseKey := rfl

@[simp] theorem evidenceNumber_append {offenseKey : Hash} :
    (appendMaliciousVoteEvidenceRecord st hash offenseKey number signer submitter
      blockNumber).evidenceNumber = Function.update st.evidenceNumber hash number := rfl

@[simp] theorem evidenceSigner_append {offenseKey : Hash} :
    (appendMaliciousVoteEvidenceRecord st hash offenseKey number signer submitter
      blockNumber).evidenceSigner = Function.update st.evidenceSigner hash signer := rfl

/-- An index of the appended list is the new last one, holding `hash`, or an old one. -/
theorem listed_append_cases (hash : Hash) {i : ℕ} (hi : i < st.evidenceCount + 1) :
    (i = st.evidenceCount ∧ Function.update st.evidenceList st.evidenceCount hash i = hash) ∨
      (i < st.evidenceCount ∧
        Function.update st.evidenceList st.evidenceCount hash i = st.evidenceList i) := by
  by_cases hic : i = st.evidenceCount
  · subst hic
    exact Or.inl ⟨rfl, Function.update_self ..⟩
  · exact Or.inr ⟨by omega, Function.update_of_ne hic ..⟩

/-- **The invariant survives an append** of fresh evidence under its signer's offence key. -/
theorem RegistryInv.append (hinv : RegistryInv c st) (hfresh : st.evidenceExists hash = false) :
    RegistryInv c (appendMaliciousVoteEvidenceRecord st hash
      (maliciousVoteOffenseKey c signer number) number signer submitter blockNumber) := by
  constructor
  · intro i hi
    rcases listed_append_cases hash hi with ⟨-, hl⟩ | ⟨hi', hl⟩ <;> simp only [evidenceList_append,
      evidenceExists_append, hl]
    · exact Function.update_self ..
    · rw [Function.update_of_ne (hinv.listed_ne hfresh hi')]
      exact hinv.listed_exists i hi'
  · intro i hi
    rcases listed_append_cases hash hi with ⟨-, hl⟩ | ⟨hi', hl⟩ <;> simp only [evidenceList_append,
      evidenceOffense_append, evidenceSigner_append, evidenceNumber_append, hl]
    · simp only [Function.update_self]
    · simp only [Function.update_of_ne (hinv.listed_ne hfresh hi')]
      exact hinv.listed_offense i hi'
  · intro i hi
    rcases listed_append_cases hash hi with ⟨-, hl⟩ | ⟨hi', hl⟩ <;> simp only [evidenceList_append,
      evidenceOffense_append, offenseExists_append, hl]
    · simp only [Function.update_self]
    · rw [Function.update_of_ne (hinv.listed_ne hfresh hi')]
      -- the old key is marked, whether or not it is the new one
      by_cases hkey : st.evidenceOffense (st.evidenceList i) =
          maliciousVoteOffenseKey c signer number
      · rw [hkey, Function.update_self]
      · rw [Function.update_of_ne hkey]
        exact hinv.listed_offenseExists i hi'

/-- **One append records one more pair.** -/
theorem recorded_append (hinv : RegistryInv c st) (hfresh : st.evidenceExists hash = false)
    (signer' : Address) (number' : ℕ) :
    (appendMaliciousVoteEvidenceRecord st hash (maliciousVoteOffenseKey c signer number) number
        signer submitter blockNumber).Recorded signer' number' ↔
      st.Recorded signer' number' ∨ (signer = signer' ∧ number = number') := by
  rw [recorded_iff (hinv.append hfresh).listed_exists, recorded_iff hinv.listed_exists]
  simp only [evidenceCount_append, evidenceList_append, evidenceSigner_append,
    evidenceNumber_append]
  constructor
  · rintro ⟨i, hi, hsigner, hnumber⟩
    rcases listed_append_cases hash hi with ⟨-, hl⟩ | ⟨hi', hl⟩ <;> rw [hl] at hsigner hnumber
    · rw [Function.update_self] at hsigner hnumber
      exact Or.inr ⟨hsigner, hnumber⟩
    · have hne := hinv.listed_ne hfresh hi'
      rw [Function.update_of_ne hne] at hsigner hnumber
      exact Or.inl ⟨i, hi', hsigner, hnumber⟩
  · rintro (⟨i, hi, hsigner, hnumber⟩ | ⟨rfl, rfl⟩)
    · have hne := hinv.listed_ne hfresh hi
      refine ⟨i, by omega, ?_⟩
      rw [Function.update_of_ne (Nat.ne_of_lt hi), Function.update_of_ne hne,
        Function.update_of_ne hne]
      exact ⟨hsigner, hnumber⟩
    · refine ⟨st.evidenceCount, by omega, ?_⟩
      simp

/-- **A recorded pair has its offence flag set.** -/
theorem offenseExists_of_recorded (hinv : RegistryInv c st) (h : st.Recorded signer number) :
    st.offenseExists (maliciousVoteOffenseKey c signer number) = true := by
  obtain ⟨i, hi, rfl, rfl⟩ := (recorded_iff hinv.listed_exists).1 h
  rw [← hinv.listed_offense i hi]
  exact hinv.listed_offenseExists i hi

end Invariant

end Gtos.SlashIndicator
