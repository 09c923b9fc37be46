import Gtos.Core.Types

/-! # Signed transactions (`core/types/signer_tx.go`, `core/types/transaction_signing.go`)

A `SignerTx` names its sender and signer type explicitly, and, when it is sponsored, its sponsor
with the sponsor's signer type, replay nonce, expiry and policy hash. The sender and the sponsor
each sign `accessListSigner.Hash`: the hash of the fields in `signingPayload`. Those are all the
fields but three: the two signatures, the envelope's `TerminalClass` and `TrustTier`, and the
transaction's own `ChainID`, whose place in the list the signer's chain ID takes.

The Keccak-256 of the RLP encoding is code outside the model (`rlpHash`). RLP encodes distinct
lists of these fields as distinct byte strings, so a collision of the hash is a collision of
Keccak-256. -/

namespace Gtos.Core

/-- `SignerTx`, as RLP decoding leaves it: every big integer present. -/
structure SignerTx where
  /-- `ChainID`. -/
  chainId : ℤ
  /-- `Nonce`. -/
  nonce : ℕ
  /-- `Gas`. -/
  gas : ℕ
  /-- `To`; `none` for a contract creation. -/
  toAddr : Option Address
  /-- `Value`. -/
  value : ℤ
  /-- `Data`. -/
  data : List UInt8
  /-- `AccessList`: addresses with their storage keys. -/
  accessList : List (Address × List Hash)
  /-- `From`. -/
  fromAddr : Address
  /-- `SignerType`. -/
  signerType : String
  /-- `Sponsor`; the zero address for an unsponsored transaction. -/
  sponsor : Address
  /-- `SponsorSignerType`. -/
  sponsorSignerType : String
  /-- `SponsorNonce`. -/
  sponsorNonce : ℕ
  /-- `SponsorExpiry`. -/
  sponsorExpiry : ℕ
  /-- `SponsorPolicyHash`. -/
  sponsorPolicyHash : Hash
  /-- `V`. -/
  v : ℤ
  /-- `R`. -/
  r : ℤ
  /-- `S`. -/
  s : ℤ
  /-- `SponsorV`. -/
  sponsorV : ℤ
  /-- `SponsorR`. -/
  sponsorR : ℤ
  /-- `SponsorS`. -/
  sponsorS : ℤ
  /-- `TerminalClass`. -/
  terminalClass : UInt8
  /-- `TrustTier`. -/
  trustTier : UInt8
  deriving DecidableEq, Repr

namespace SignerTx

/-- `IsSponsored()`: the sponsor is not the zero address. -/
def isSponsored (tx : SignerTx) : Bool :=
  tx.sponsor ≠ 0

/-- `SponsorFrom()`. -/
def sponsorFrom (tx : SignerTx) : Option Address :=
  if tx.isSponsored then some tx.sponsor else none

/-- `SponsorNonce()`: zero for an unsponsored transaction. -/
def sponsorNonceOf (tx : SignerTx) : ℕ :=
  if tx.isSponsored then tx.sponsorNonce else 0

/-- `SponsorExpiry()`: zero for an unsponsored transaction. -/
def sponsorExpiryOf (tx : SignerTx) : ℕ :=
  if tx.isSponsored then tx.sponsorExpiry else 0

/-- The transaction as the miner and the executors read it, with its `Hash()` and `Size()`,
which encode the whole envelope. -/
def toTransaction (tx : SignerTx) (hash : Hash) (size : ℕ) : Transaction :=
  ⟨hash, signerTxType, tx.toAddr, tx.nonce, tx.value, tx.gas, tx.data, tx.fromAddr, none,
    tx.sponsorFrom, tx.sponsorNonceOf, tx.sponsorExpiryOf, size⟩

end SignerTx

/-- The list `accessListSigner.Hash` encodes: the sponsor's five fields follow for a sponsored
transaction only. -/
structure SigningPayload where
  /-- The signer's chain ID. -/
  chainId : ℤ
  /-- `Nonce()`. -/
  nonce : ℕ
  /-- `Gas()`. -/
  gas : ℕ
  /-- `To()`. -/
  toAddr : Option Address
  /-- `Value()`. -/
  value : ℤ
  /-- `Data()`. -/
  data : List UInt8
  /-- `AccessList()`. -/
  accessList : List (Address × List Hash)
  /-- `from`. -/
  fromAddr : Address
  /-- `signerType`. -/
  signerType : String
  /-- The sponsor, its signer type, nonce, expiry and policy hash. -/
  sponsorFields : Option (Address × String × ℕ × ℕ × Hash)
  deriving DecidableEq, Repr

/-- The fields `accessListSigner.Hash` encodes for a signer of chain `chainId`. -/
def SignerTx.signingPayload (chainId : ℤ) (tx : SignerTx) : SigningPayload :=
  ⟨chainId, tx.nonce, tx.gas, tx.toAddr, tx.value, tx.data, tx.accessList, tx.fromAddr,
    tx.signerType,
    if tx.isSponsored then
      some (tx.sponsor, tx.sponsorSignerType, tx.sponsorNonce, tx.sponsorExpiry, tx.sponsorPolicyHash)
    else none⟩

/-- `accessListSigner.Hash(tx)`: `prefixedRlpHash` of the payload. The source panics on an empty
signer type; its callers here reject such a transaction first. -/
def signingHash (rlpHash : SigningPayload → Hash) (chainId : ℤ) (tx : SignerTx) : Hash :=
  rlpHash (tx.signingPayload chainId)

/-- Transactions with one signing payload agree on every field the payload holds, the sponsor's
fields when they are sponsored. -/
theorem SignerTx.eq_of_signingPayload_eq {chainId : ℤ} {tx₁ tx₂ : SignerTx}
    (h : tx₁.signingPayload chainId = tx₂.signingPayload chainId) :
    tx₁.nonce = tx₂.nonce ∧ tx₁.gas = tx₂.gas ∧ tx₁.toAddr = tx₂.toAddr ∧ tx₁.value = tx₂.value ∧
      tx₁.data = tx₂.data ∧ tx₁.fromAddr = tx₂.fromAddr ∧ tx₁.signerType = tx₂.signerType ∧
      tx₁.isSponsored = tx₂.isSponsored ∧
      (tx₁.isSponsored → tx₁.sponsor = tx₂.sponsor ∧
        tx₁.sponsorSignerType = tx₂.sponsorSignerType ∧ tx₁.sponsorNonce = tx₂.sponsorNonce ∧
        tx₁.sponsorExpiry = tx₂.sponsorExpiry) := by
  simp only [SignerTx.signingPayload, SigningPayload.mk.injEq] at h
  obtain ⟨-, hnonce, hgas, hto, hvalue, hdata, -, hfrom, htype, hsponsor⟩ := h
  refine ⟨hnonce, hgas, hto, hvalue, hdata, hfrom, htype, ?_, ?_⟩
  · -- the sponsor's fields are present in both payloads or in neither
    by_cases h₁ : tx₁.isSponsored <;> by_cases h₂ : tx₂.isSponsored <;> simp_all
  · intro h₁
    by_cases h₂ : tx₂.isSponsored
    · simp only [h₁, h₂, if_true, Option.some.injEq, Prod.mk.injEq] at hsponsor
      exact ⟨hsponsor.1, hsponsor.2.1, hsponsor.2.2.1, hsponsor.2.2.2.1⟩
    · simp [h₁, h₂] at hsponsor

end Gtos.Core
