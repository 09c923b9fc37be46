import Gtos.Common.Hex

/-! # Signer types and keys (`accountsigner/crypto.go`)

An account may be controlled by a key of one of six signer types. A signer is given as a type
name and a public key in hexadecimal text; `normalizeSigner` checks both and returns the
canonical type, the canonical key bytes and the canonical text, and `addressFromSigner` derives
the account address a key stands for: Keccak-256 of (a form of) the key.

The curve arithmetic — parsing and re-serialising points, verifying signatures, recovering a
secp256k1 signer — and Go's Unicode case tables are code outside the model: the fields of
`SignerBackend`. What the source decides itself (the type names and their aliases, the hexadecimal and length checks, which bytes
are hashed into an address) is written out. -/

namespace Gtos.AccountSigner

/-- The signer types. -/
inductive SignerType
  /-- `SignerTypeSecp256k1`. -/
  | secp256k1
  /-- `SignerTypeSchnorr`. -/
  | schnorr
  /-- `SignerTypeSecp256r1`. -/
  | secp256r1
  /-- `SignerTypeEd25519`. -/
  | ed25519
  /-- `SignerTypeBLS12381`. -/
  | bls12381
  /-- `SignerTypeElgamal`. -/
  | elgamal
  deriving DecidableEq, Repr

/-- The canonical name of a signer type. -/
def SignerType.name : SignerType → String
  | .secp256k1 => "secp256k1"
  | .schnorr => "schnorr"
  | .secp256r1 => "secp256r1"
  | .ed25519 => "ed25519"
  | .bls12381 => "bls12-381"
  | .elgamal => "elgamal"

/-- `ErrUnknownSignerType`. -/
def errUnknownSignerType : String := "accountsigner: unknown signer type"

/-- `ErrInvalidSignerValue`. -/
def errInvalidSignerValue : String := "accountsigner: invalid signer value"

/-- `MaxSignerValueLen`. -/
def maxSignerValueLen : ℕ := 4096

/-- `normalizeSignerType`: the name trimmed and lower-cased with `unicode.ToLower`, with the
aliases `ethereum_secp256k1` and `bls12381`. -/
def normalizeSignerType (u : Text.UnicodeLower) (signerType : String) : Except String SignerType :=
  let name := Text.toLower u (Text.trimSpace signerType.toList)
  if name = "secp256k1".toList ∨ name = "ethereum_secp256k1".toList then .ok .secp256k1
  else if name = "schnorr".toList then .ok .schnorr
  else if name = "secp256r1".toList then .ok .secp256r1
  else if name = "ed25519".toList then .ok .ed25519
  else if name = "bls12-381".toList ∨ name = "bls12381".toList then .ok .bls12381
  else if name = "elgamal".toList then .ok .elgamal
  else .error errUnknownSignerType

/-- The library code the signer code calls: the curve arithmetic, Keccak-256 and Go's Unicode
case tables. -/
structure SignerBackend where
  /-- `crypto.Keccak256`, whose 32 bytes `BytesToAddress` keeps as they are. -/
  keccak256 : List UInt8 → Hash
  /-- Parse a public key of a curve type and re-serialise it canonically
  (`normalizeSecp256k1Pubkey`, `normalizeSchnorrPubkey`, `normalizeSecp256r1Pubkey`,
  `normalizeBLS12381Pubkey`, `normalizeElgamalPubkey`); `none` for a key that does not parse.
  Not asked of `ed25519`, whose keys the source takes as they are. -/
  normalizeCurve : SignerType → List UInt8 → Option (List UInt8)
  /-- `crypto.UnmarshalPubkey` succeeds on the bytes. -/
  unmarshalSecp256k1 : List UInt8 → Bool
  /-- `supportsBLS12381Backend()`. -/
  supportsBLS : Bool
  /-- The verification of `VerifyRawSignature` for a key, a hash and the values `r`, `s`. -/
  verifyRawSignature : SignerType → List UInt8 → Hash → ℤ → ℤ → Bool
  /-- `recoverPlain(hash, R, S, V, true)`: the secp256k1 signer of a hash, if the signature is
  valid. -/
  recoverPlain : Hash → ℤ → ℤ → ℤ → Option Address
  /-- `crypto.SigToPub(hash, sig)` and `crypto.PubkeyToAddress`: the signer of a hash under the
  values `r`, `s` and the recovery id, if the signature recovers a key. -/
  sigToAddress : Hash → ℤ → ℤ → ℕ → Option Address
  /-- `unicode.ToLower`, which `strings.ToLower` maps over a type name. -/
  unicode : Text.UnicodeLower

/-- `hexutil.Decode`: text with a `0x` prefix and an even number of digits. -/
def hexutilDecode (s : String) : Option (List UInt8) :=
  if s.toList = [] ∨ !has0xPrefix s.toList then none else Hex.decodeString (s.toList.drop 2)

/-- `hexutil.Encode`: `0x` and two lower-case digits per byte. -/
def hexutilEncode (b : List UInt8) : String :=
  String.ofList ('0' :: 'x' :: Hex.encodeToString b)

/-- The canonical key bytes of a type, from the decoded value. -/
def normalizePubkey (b : SignerBackend) (t : SignerType) (raw : List UInt8) : Option (List UInt8) :=
  match t with
  | .ed25519 => if raw.length = 32 then some raw else none
  | t => b.normalizeCurve t raw

/-- `NormalizeSigner(signerType, signerValue)`: the canonical type, key bytes and text. -/
def normalizeSigner (b : SignerBackend) (signerType signerValue : String) :
    Except String (SignerType × List UInt8 × String) := do
  let t ← normalizeSignerType b.unicode signerType
  let some raw := hexutilDecode (String.ofList (Text.trimSpace signerValue.toList))
    | throw errInvalidSignerValue
  if raw.length = 0 ∨ raw.length > maxSignerValueLen then throw errInvalidSignerValue
  let some pub := normalizePubkey b t raw | throw errInvalidSignerValue
  if pub.length = 0 then throw errInvalidSignerValue
  return (t, pub, hexutilEncode pub)

/-- `AddressFromSigner(signerType, signerPub)`: Keccak-256 of the key, without the `0x04` prefix
for the two uncompressed ECDSA forms, after re-normalisation for Schnorr and ElGamal keys. -/
def addressFromSigner (b : SignerBackend) (t : SignerType) (pub : List UInt8) :
    Except String Address :=
  match t with
  | .secp256k1 =>
    if b.unmarshalSecp256k1 pub then .ok (b.keccak256 (pub.drop 1))
    else .error errInvalidSignerValue
  | .secp256r1 =>
    if pub.length = 65 ∧ pub.head? = some 4 then
      .ok (b.keccak256 (pub.drop 1))
    else .error errInvalidSignerValue
  | .ed25519 =>
    if pub.length = 32 then .ok (b.keccak256 pub)
    else .error errInvalidSignerValue
  | .bls12381 =>
    if pub.length = 0 then .error errInvalidSignerValue
    else .ok (b.keccak256 pub)
  | t =>
    match b.normalizeCurve t pub with
    | some n => .ok (b.keccak256 n)
    | none => .error errInvalidSignerValue

/-- `SupportsCurrentTxSignatureType`: every type, BLS only with its backend. -/
def supportsCurrentTxSignatureType (b : SignerBackend) : SignerType → Bool
  | .bls12381 => b.supportsBLS
  | _ => true

/-- `VerifyRawSignature(signerType, signerPub, txHash, r, s)`: negative or absent values never
verify. -/
def verifyRawSignature (b : SignerBackend) (t : SignerType) (pub : List UInt8) (hash : Hash)
    (r s : ℤ) : Bool :=
  0 ≤ r ∧ 0 ≤ s ∧ b.verifyRawSignature t pub hash r s

/-- The canonical name of a type normalises to the type, whatever the case tables above ASCII: it
has no white space and no upper-case letter. -/
@[simp] theorem normalizeSignerType_name (u : Text.UnicodeLower) (t : SignerType) :
    normalizeSignerType u t.name = .ok t := by
  have htrim : Text.trimSpace t.name.toList = t.name.toList := by
    cases t <;> decide
  have hlower : Text.toLower u t.name.toList = t.name.toList :=
    Text.toLower_of_ascii u (by cases t <;> decide)
  unfold normalizeSignerType
  rw [htrim, hlower]
  cases t <;> decide

/-- **The Kelvin sign `U+212A` spells the `k` of `secp256k1`** under tables that lower it to `k`,
as Go's do: the check compares the lower-cased name, not the name. -/
theorem normalizeSignerType_kelvin (u : Text.UnicodeLower) (hk : u.toLower '\u212A' = 'k') :
    normalizeSignerType u "secp256\u212A1" = .ok .secp256k1 := by
  have htrim : Text.trimSpace "secp256\u212A1".toList = "secp256\u212A1".toList := by
    decide
  have hsplit : "secp256\u212A1".toList = "secp256".toList ++ '\u212A' :: "1".toList := by
    decide
  -- the ASCII runes around the sign are kept, whatever the tables do above ASCII
  have hascii : ∀ cs : List Char, cs.all (fun c => decide (c.toNat < 128) && !c.isUpper) = true →
      cs.map u.toLower = cs := fun _ h => Text.toLower_of_ascii u h
  have hlower : Text.toLower u "secp256\u212A1".toList = "secp256k1".toList := by
    rw [hsplit, Text.toLower, List.map_append, List.map_cons, hk,
      hascii _ (by decide), hascii _ (by decide)]
    decide
  unfold normalizeSignerType
  rw [htrim, hlower, if_pos (Or.inl rfl)]

end Gtos.AccountSigner
