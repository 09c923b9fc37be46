import Mathlib.Data.Int.Notation
import Mathlib.Data.Nat.Notation
import Gtos.Common.Types

/-! # Checkpoint votes and quorum certificates (`core/types/checkpoint.go`)

The records validators sign and exchange for checkpoint finality. `ChainID` is a `*big.Int`,
which may be `nil`: it is an `Option ℤ`. `Number` and `Bitmap` are `uint64`; the number is a
natural number (no arithmetic on it wraps in the modelled code), the bitmap a 64-bit word.

`CheckpointVote.SigningHash` is Keccak-256 of an RLP list; it is not embedded here but passed to
the functions that use it, as is `ed25519.Verify`. -/

namespace Gtos

/-- A 64-byte ed25519 signature (`[64]byte`). -/
abbrev Signature := BitVec 512

/-- `CheckpointVote`: the payload validators sign for checkpoint finality. -/
structure CheckpointVote where
  /-- `ChainID`: replay protection, a `*big.Int` that may be `nil`. -/
  chainID : Option ℤ
  /-- `Number`: the checkpoint block number. -/
  number : ℕ
  /-- `Hash`: the checkpoint block hash. -/
  hash : Hash
  /-- `ValidatorSetHash`: the hash of the ordered signer set at `Number - 1`. -/
  validatorSetHash : Hash
  deriving DecidableEq, Repr

/-- `CheckpointVoteEnvelope`: a signed vote with its explicit signer. -/
structure CheckpointVoteEnvelope where
  /-- `Vote`: the signed payload. -/
  vote : CheckpointVote
  /-- `Signer`: the address whose ed25519 key signed `vote`. -/
  signer : Address
  /-- `Signature`: the ed25519 signature over `SigningHash(vote)`. -/
  signature : Signature
  deriving DecidableEq, Repr

/-- `CheckpointQC`: a quorum certificate. Bit `i` of `bitmap` says that the validator at
ordered index `i` signed; `signatures` holds one signature per set bit, in increasing bit order. -/
structure CheckpointQC where
  /-- `Vote`: the certified checkpoint vote. -/
  vote : CheckpointVote
  /-- `Bitmap`: the signing validators by ordered index. -/
  bitmap : BitVec 64
  /-- `Signatures`: densely packed, aligned with the set bits of `bitmap`. -/
  signatures : List Signature
  deriving DecidableEq, Repr

end Gtos
