import Gtos.AccountSigner.Crypto
import Gtos.Lib.ExceptState

/-! # Canonical signer keys and the signature metadata of a transaction's `V` (`accountsigner/crypto.go`)

The key normalisers of the five curve types (`normalizeSecp256k1Pubkey` and its companions) each
accept the encodings of their own lengths, parse them with a curve library and serialise the point
in one canonical form. The libraries' parsing and serialising are the fields of `CurveLibrary`;
`CurveLibrary.Lawful` says what the claim assumes of them: a canonical form parses back to
itself. What the source decides itself, which lengths go to which library call and how the P-256
coordinates are laid out, is written out, and `CurveLibrary.normalizeCurve` is the normaliser a
`SignerBackend` stands for.

`EncodeSignatureMeta` packs `GTOSSIG1`, an algorithm byte and the canonical key into a big
integer, and `DecodeSignatureMeta` unpacks one. Over a lawful library a canonical key normalises
to itself (`normalizeSigner_canonical`), and the metadata round trip gives the key back
(`decodeSignatureMeta_encodeSignatureMeta`): the prefix starts with a non-zero byte, so `big.Int`
keeps every byte. Decoding reports legacy semantics, `ok = false` with no error, exactly when the
bytes do not start with the prefix followed by two more bytes (`decodeSignatureMeta_eq_none`);
past that point it either decodes or fails with an error. -/

namespace Gtos.AccountSigner

open ExceptStateM

/-! ## The curve libraries -/

/-- The parsing and serialising of the curve libraries that the key normalisers call. -/
structure CurveLibrary where
  /-- `crypto.DecompressPubkey`, then `crypto.FromECDSAPub`: the uncompressed form of a compressed
  secp256k1 key. -/
  secp256k1Decompress : List UInt8 → Option (List UInt8)
  /-- `crypto.UnmarshalPubkey`, then `crypto.FromECDSAPub`. -/
  secp256k1Unmarshal : List UInt8 → Option (List UInt8)
  /-- `elliptic.UnmarshalCompressed(elliptic.P256(), raw)`: the coordinates of the point. -/
  p256UnmarshalCompressed : List UInt8 → Option (ℕ × ℕ)
  /-- `elliptic.Unmarshal(elliptic.P256(), raw)`. -/
  p256Unmarshal : List UInt8 → Option (ℕ × ℕ)
  /-- `btcschnorr.ParsePubKey`, then `btcschnorr.SerializePubKey`: the x-only key. -/
  schnorrParse : List UInt8 → Option (List UInt8)
  /-- `btcec.ParsePubKey`, then `btcschnorr.SerializePubKey`. -/
  btcecParse : List UInt8 → Option (List UInt8)
  /-- `blst.P1Affine.Uncompress` and `KeyValidate`, then `Compress`. -/
  blsUncompress : List UInt8 → Option (List UInt8)
  /-- `ristretto255.Element.SetCanonicalBytes`, then `Bytes`. -/
  ristrettoCanonical : List UInt8 → Option (List UInt8)

/-- The uncompressed P-256 key of two coordinates: `0x04`, then each coordinate in 32 bytes. -/
def p256Bytes (x y : ℕ) : List UInt8 :=
  4 :: (Bytes.toBytesBE x 32 ++ Bytes.toBytesBE y 32)

theorem length_p256Bytes (x y : ℕ) : (p256Bytes x y).length = 65 := by
  simp [p256Bytes]

section Normalise

variable (L : CurveLibrary)

/-- `normalizeSecp256k1Pubkey`: a compressed key of 33 bytes or an uncompressed one of 65. -/
def normalizeSecp256k1Pubkey (raw : List UInt8) : Option (List UInt8) :=
  if raw.length = 33 then L.secp256k1Decompress raw
  else if raw.length = 65 then L.secp256k1Unmarshal raw
  else none

/-- `normalizeSecp256r1Pubkey`: the coordinates of a key of 33 or 65 bytes, laid out again. -/
def normalizeSecp256r1Pubkey (raw : List UInt8) : Option (List UInt8) :=
  let xy := if raw.length = 33 then L.p256UnmarshalCompressed raw
    else if raw.length = 65 then L.p256Unmarshal raw
    else none
  xy.map fun c => p256Bytes c.1 c.2

/-- `normalizeSchnorrPubkey`: an x-only key of 32 bytes, or a secp256k1 key of 33 or 65 bytes. -/
def normalizeSchnorrPubkey (raw : List UInt8) : Option (List UInt8) :=
  if raw.length = 32 then L.schnorrParse raw
  else if raw.length = 33 ∨ raw.length = 65 then L.btcecParse raw
  else none

/-- `normalizeBLS12381Pubkey`, of the build with the `blst` backend: a compressed key of 48
bytes. -/
def normalizeBLS12381Pubkey (raw : List UInt8) : Option (List UInt8) :=
  if raw.length = 48 then L.blsUncompress raw else none

/-- `normalizeElgamalPubkey`: a Ristretto point of 32 bytes. -/
def normalizeElgamalPubkey (raw : List UInt8) : Option (List UInt8) :=
  if raw.length = 32 then L.ristrettoCanonical raw else none

/-- The normaliser of each curve type, as `NormalizeSigner` dispatches; an Ed25519 key is not
parsed. -/
def CurveLibrary.normalizeCurve : SignerType → List UInt8 → Option (List UInt8)
  | .secp256k1 => normalizeSecp256k1Pubkey L
  | .schnorr => normalizeSchnorrPubkey L
  | .secp256r1 => normalizeSecp256r1Pubkey L
  | .ed25519 => fun _ => none
  | .bls12381 => normalizeBLS12381Pubkey L
  | .elgamal => normalizeElgamalPubkey L

end Normalise

/-- What the claim assumes of the libraries: the canonical form of a key has the length of its
type and parses back to itself, and P-256 coordinates fit in 32 bytes. -/
structure CurveLibrary.Lawful (L : CurveLibrary) : Prop where
  /-- `FromECDSAPub` writes 65 bytes that `UnmarshalPubkey` reads back. -/
  secp256k1 : ∀ raw pub, (L.secp256k1Decompress raw = some pub ∨ L.secp256k1Unmarshal raw = some pub) →
    pub.length = 65 ∧ L.secp256k1Unmarshal pub = some pub
  /-- The coordinates of a P-256 point are below `2 ^ 256`, and `Unmarshal` reads them back. -/
  secp256r1 : ∀ raw x y,
    (L.p256UnmarshalCompressed raw = some (x, y) ∨ L.p256Unmarshal raw = some (x, y)) →
    x < 2 ^ 256 ∧ y < 2 ^ 256 ∧ L.p256Unmarshal (p256Bytes x y) = some (x, y)
  /-- `SerializePubKey` writes 32 bytes that `ParsePubKey` reads back. -/
  schnorr : ∀ raw pub, (L.schnorrParse raw = some pub ∨ L.btcecParse raw = some pub) →
    pub.length = 32 ∧ L.schnorrParse pub = some pub
  /-- `Compress` writes 48 bytes that `Uncompress` reads back. -/
  bls12381 : ∀ raw pub, L.blsUncompress raw = some pub →
    pub.length = 48 ∧ L.blsUncompress pub = some pub
  /-- `Bytes` writes 32 bytes that `SetCanonicalBytes` reads back. -/
  elgamal : ∀ raw pub, L.ristrettoCanonical raw = some pub →
    pub.length = 32 ∧ L.ristrettoCanonical pub = some pub

/-! ## Canonical keys -/

section Canonical

variable {L : CurveLibrary} (hL : L.Lawful) {raw pub : List UInt8}
include hL

/-- A secp256k1 key of either length ends in the 65-byte form, which `UnmarshalPubkey` reads
back. -/
theorem normalizeSecp256k1Pubkey_spec (h : normalizeSecp256k1Pubkey L raw = some pub) :
    pub.length = 65 ∧ L.secp256k1Unmarshal pub = some pub := by
  unfold normalizeSecp256k1Pubkey at h
  split at h
  · exact hL.secp256k1 raw pub (.inl h)
  · split at h
    · exact hL.secp256k1 raw pub (.inr h)
    · cases h

/-- A P-256 key is laid out again from coordinates that `Unmarshal` reads back from it. -/
theorem normalizeSecp256r1Pubkey_spec (h : normalizeSecp256r1Pubkey L raw = some pub) :
    ∃ x y, pub = p256Bytes x y ∧ L.p256Unmarshal (p256Bytes x y) = some (x, y) := by
  simp only [normalizeSecp256r1Pubkey] at h
  obtain ⟨⟨x, y⟩, hxy, rfl⟩ := Option.map_eq_some_iff.mp h
  have hread : L.p256UnmarshalCompressed raw = some (x, y) ∨ L.p256Unmarshal raw = some (x, y) := by
    split at hxy
    · exact .inl hxy
    · split at hxy
      · exact .inr hxy
      · cases hxy
  exact ⟨x, y, rfl, (hL.secp256r1 raw x y hread).2.2⟩

/-- A Schnorr key of any length ends in the 32-byte x-only form, which `ParsePubKey` reads back. -/
theorem normalizeSchnorrPubkey_spec (h : normalizeSchnorrPubkey L raw = some pub) :
    pub.length = 32 ∧ L.schnorrParse pub = some pub := by
  unfold normalizeSchnorrPubkey at h
  split at h
  · exact hL.schnorr raw pub (.inl h)
  · split at h
    · exact hL.schnorr raw pub (.inr h)
    · cases h

theorem normalizeBLS12381Pubkey_spec (h : normalizeBLS12381Pubkey L raw = some pub) :
    pub.length = 48 ∧ L.blsUncompress pub = some pub := by
  unfold normalizeBLS12381Pubkey at h
  split at h
  case isTrue => exact hL.bls12381 raw pub h
  case isFalse => cases h

theorem normalizeElgamalPubkey_spec (h : normalizeElgamalPubkey L raw = some pub) :
    pub.length = 32 ∧ L.ristrettoCanonical pub = some pub := by
  unfold normalizeElgamalPubkey at h
  split at h
  case isTrue => exact hL.elgamal raw pub h
  case isFalse => cases h

/-- **A canonical key is a fixed point** of its type's normaliser, of 32 to 65 bytes. -/
theorem normalizeCurve_canonical {t : SignerType} (h : L.normalizeCurve t raw = some pub) :
    0 < pub.length ∧ pub.length ≤ 65 ∧ L.normalizeCurve t pub = some pub := by
  cases t with
  | secp256k1 =>
    -- the 65-byte form is taken by the branch of uncompressed keys
    obtain ⟨hlen, hback⟩ := normalizeSecp256k1Pubkey_spec hL h
    refine ⟨by omega, by omega, ?_⟩
    simp [CurveLibrary.normalizeCurve, normalizeSecp256k1Pubkey, hlen, hback]
  | schnorr =>
    obtain ⟨hlen, hback⟩ := normalizeSchnorrPubkey_spec hL h
    refine ⟨by omega, by omega, ?_⟩
    simp [CurveLibrary.normalizeCurve, normalizeSchnorrPubkey, hlen, hback]
  | secp256r1 =>
    obtain ⟨x, y, rfl, hback⟩ := normalizeSecp256r1Pubkey_spec hL h
    refine ⟨by rw [length_p256Bytes]; omega, by rw [length_p256Bytes], ?_⟩
    simp [CurveLibrary.normalizeCurve, normalizeSecp256r1Pubkey, length_p256Bytes, hback]
  | ed25519 => cases h
  | bls12381 =>
    obtain ⟨hlen, hback⟩ := normalizeBLS12381Pubkey_spec hL h
    refine ⟨by omega, by omega, ?_⟩
    simp [CurveLibrary.normalizeCurve, normalizeBLS12381Pubkey, hlen, hback]
  | elgamal =>
    obtain ⟨hlen, hback⟩ := normalizeElgamalPubkey_spec hL h
    refine ⟨by omega, by omega, ?_⟩
    simp [CurveLibrary.normalizeCurve, normalizeElgamalPubkey, hlen, hback]

variable {b : SignerBackend}
  (hcurve : ∀ t raw, t ≠ .ed25519 → b.normalizeCurve t raw = L.normalizeCurve t raw)
include hcurve

omit hL in
/-- Past Ed25519, `normalizePubkey` is the library's normaliser. -/
theorem normalizePubkey_of_ne {t : SignerType} (ht : t ≠ .ed25519) (raw : List UInt8) :
    normalizePubkey b t raw = L.normalizeCurve t raw := by
  cases t <;> first | exact absurd rfl ht | exact hcurve _ raw ht

/-- A key of any type normalises to a fixed point of `normalizePubkey`, of 1 to 65 bytes. -/
theorem normalizePubkey_canonical {t : SignerType} (h : normalizePubkey b t raw = some pub) :
    0 < pub.length ∧ pub.length ≤ 65 ∧ normalizePubkey b t pub = some pub := by
  by_cases ht : t = .ed25519
  case pos =>
    -- an Ed25519 key is taken as it is, at 32 bytes
    subst ht
    simp only [normalizePubkey] at h ⊢
    split at h
    case isTrue hlen =>
      cases h
      rw [if_pos hlen]
      exact ⟨by omega, by omega, rfl⟩
    case isFalse => cases h
  case neg =>
    rw [normalizePubkey_of_ne hcurve ht] at h ⊢
    exact normalizeCurve_canonical hL h

end Canonical

/-! ## `hexutil` text of a key -/

/-- The digits of `hex.EncodeToString` are no white space. -/
theorem not_isSpace_of_mem_encodeToString {bytes : List UInt8} {c : Char}
    (hc : c ∈ Hex.encodeToString bytes) : Text.isSpace c = false := by
  have hdigit : ∀ n < 16, Text.isSpace (Hex.digitChar n) = false := by decide
  simp only [Hex.encodeToString, List.mem_flatMap, List.mem_cons, List.not_mem_nil, or_false] at hc
  obtain ⟨b, -, rfl | rfl⟩ := hc
  · exact hdigit _ (by have := b.toNat_lt; omega)
  · exact hdigit _ (Nat.mod_lt _ (by norm_num))

/-- `strings.TrimSpace` keeps a text with no white space. -/
theorem trimSpace_of_forall {cs : List Char} (h : ∀ c ∈ cs, Text.isSpace c = false) :
    Text.trimSpace cs = cs := by
  have hdrop : ∀ l : List Char, (∀ c ∈ l, Text.isSpace c = false) → l.dropWhile Text.isSpace = l := by
    intro l hl
    cases l with
    | nil => rfl
    | cons c l => exact List.dropWhile_cons_of_neg (by simp [hl c List.mem_cons_self])
  unfold Text.trimSpace
  rw [hdrop cs h, hdrop cs.reverse fun c hc => h c (List.mem_reverse.mp hc), List.reverse_reverse]

/-- **`hexutil` round trip**: the text of a key, trimmed and decoded, is the key. -/
theorem hexutilDecode_hexutilEncode (bytes : List UInt8) :
    hexutilDecode (String.ofList (Text.trimSpace (hexutilEncode bytes).toList)) = some bytes := by
  have htext : (hexutilEncode bytes).toList = '0' :: 'x' :: Hex.encodeToString bytes := by
    simp [hexutilEncode]
  have htrim : Text.trimSpace (hexutilEncode bytes).toList = (hexutilEncode bytes).toList := by
    refine trimSpace_of_forall fun c hc => ?_
    rw [htext] at hc
    rcases List.mem_cons.mp hc with rfl | hc
    · decide
    rcases List.mem_cons.mp hc with rfl | hc
    · decide
    exact not_isSpace_of_mem_encodeToString hc
  rw [htrim, String.ofList_toList, hexutilDecode, htext]
  simp [has0xPrefix, Hex.decodeString_encodeToString]

/-! ## `NormalizeSigner` -/

/-- **What `NormalizeSigner` accepts**: a type name that normalises, a value that decodes as
`hexutil` text to 1 to `MaxSignerValueLen` bytes, and a key the type's normaliser accepts; the
result is the type, the canonical key and its text. -/
theorem normalizeSigner_eq_ok (b : SignerBackend) (signerType signerValue : String)
    (t : SignerType) (pub : List UInt8) (text : String) :
    normalizeSigner b signerType signerValue = .ok (t, pub, text) ↔
      normalizeSignerType b.unicode signerType = .ok t ∧
      ∃ raw, hexutilDecode (String.ofList (Text.trimSpace signerValue.toList)) = some raw ∧
        raw ≠ [] ∧ raw.length ≤ maxSignerValueLen ∧ normalizePubkey b t raw = some pub ∧
        pub ≠ [] ∧ text = hexutilEncode pub := by
  unfold normalizeSigner
  cases htype : normalizeSignerType b.unicode signerType with
  | error e => simp
  | ok t' =>
    cases hraw : hexutilDecode (String.ofList (Text.trimSpace signerValue.toList)) with
    | none => simp
    | some raw =>
      by_cases hlen : raw = [] ∨ maxSignerValueLen < raw.length
      case pos =>
        -- a value of no bytes or too many is refused before its key is read
        simp only [List.length_eq_zero_iff, gt_iff_lt, if_pos hlen]
        simp only [except_ok_bind, except_throw, except_error_bind, reduceCtorEq, false_iff]
        rintro ⟨-, r, hr, hne, hle, -⟩
        cases hr
        rcases hlen with h | h
        · exact hne h
        · omega
      case neg =>
        simp only [List.length_eq_zero_iff, gt_iff_lt, if_neg hlen, except_ok_bind, Except.ok.injEq]
        cases hpub : normalizePubkey b t' raw with
        | none =>
          simp only [except_throw, reduceCtorEq, false_iff, not_and]
          rintro rfl ⟨r, hr, -, -, h, -⟩
          cases hr
          rw [hpub] at h
          cases h
        | some p =>
          by_cases hp : p = []
          case pos =>
            simp only [hp, if_true, except_throw, except_error_bind, reduceCtorEq, false_iff,
              not_and]
            rintro rfl ⟨r, hr, -, -, h, hne, -⟩
            cases hr
            rw [hpub, hp] at h
            cases h
            exact absurd rfl hne
          case neg =>
            simp only [not_or, not_lt] at hlen
            simp only [if_neg hp, except_pure, Except.ok.injEq, Prod.mk.injEq]
            constructor
            · rintro ⟨rfl, rfl, rfl⟩
              exact ⟨rfl, raw, rfl, hlen.1, hlen.2, hpub, hp, rfl⟩
            · rintro ⟨ht, r, hr, -, -, h, -, htext⟩
              cases ht
              cases hr
              rw [hpub] at h
              cases h
              exact ⟨rfl, rfl, htext.symm⟩

section Signer

variable {L : CurveLibrary} (hL : L.Lawful) {b : SignerBackend}
  (hcurve : ∀ t raw, t ≠ .ed25519 → b.normalizeCurve t raw = L.normalizeCurve t raw)
include hL hcurve

/-- **Normalisation is idempotent**: the canonical type and key of a signer normalise to
themselves, with the same text. -/
theorem normalizeSigner_canonical {signerType signerValue : String} {t : SignerType}
    {pub : List UInt8} {text : String}
    (h : normalizeSigner b signerType signerValue = .ok (t, pub, text)) :
    text = hexutilEncode pub ∧ normalizeSigner b t.name (hexutilEncode pub) = .ok (t, pub, text) := by
  obtain ⟨-, raw, -, -, -, hpub, -, rfl⟩ := (normalizeSigner_eq_ok b _ _ t pub text).mp h
  obtain ⟨hpos, hle, hfix⟩ := normalizePubkey_canonical hL hcurve hpub
  refine ⟨rfl, (normalizeSigner_eq_ok b _ _ t pub _).mpr ⟨normalizeSignerType_name b.unicode t, pub,
    hexutilDecode_hexutilEncode pub, List.ne_nil_of_length_pos hpos, ?_, hfix,
    List.ne_nil_of_length_pos hpos, rfl⟩⟩
  -- a canonical key has at most 65 bytes, well below the bound on values
  exact le_trans hle (by decide)

/-- **A canonical key has an address**: `AddressFromSigner` accepts what `NormalizeSigner`
returns, given that the backend's `UnmarshalPubkey` is the library's. -/
theorem addressFromSigner_canonical
    (hunmarshal : ∀ raw, b.unmarshalSecp256k1 raw = (L.secp256k1Unmarshal raw).isSome)
    {signerType signerValue : String} {t : SignerType} {pub : List UInt8} {text : String}
    (h : normalizeSigner b signerType signerValue = .ok (t, pub, text)) :
    ∃ addr, addressFromSigner b t pub = .ok addr := by
  obtain ⟨-, raw, -, -, -, hpub, hne, -⟩ := (normalizeSigner_eq_ok b _ _ t pub text).mp h
  cases t with
  | secp256k1 =>
    -- the canonical secp256k1 key is the form that `UnmarshalPubkey` reads
    rw [normalizePubkey_of_ne hcurve (by decide)] at hpub
    have hback := (normalizeSecp256k1Pubkey_spec hL hpub).2
    exact ⟨b.keccak256 (pub.drop 1), by simp [addressFromSigner, hunmarshal, hback]⟩
  | secp256r1 =>
    -- the canonical P-256 key is `0x04` and the coordinates
    rw [normalizePubkey_of_ne hcurve (by decide)] at hpub
    obtain ⟨x, y, rfl, -⟩ := normalizeSecp256r1Pubkey_spec hL hpub
    refine ⟨b.keccak256 ((p256Bytes x y).drop 1), ?_⟩
    simp only [addressFromSigner]
    rw [if_pos ⟨length_p256Bytes x y, rfl⟩]
  | ed25519 =>
    simp only [normalizePubkey] at hpub
    split at hpub
    case isTrue hlen =>
      cases hpub
      exact ⟨b.keccak256 pub, by simp [addressFromSigner, hlen]⟩
    case isFalse => cases hpub
  | bls12381 => exact ⟨b.keccak256 pub, by simp [addressFromSigner, hne]⟩
  | schnorr =>
    -- `AddressFromSigner` normalises the key again and gets it back
    have hfix : b.normalizeCurve .schnorr pub = some pub := (normalizePubkey_canonical hL hcurve hpub).2.2
    exact ⟨b.keccak256 pub, by simp [addressFromSigner, hfix]⟩
  | elgamal =>
    have hfix : b.normalizeCurve .elgamal pub = some pub := (normalizePubkey_canonical hL hcurve hpub).2.2
    exact ⟨b.keccak256 pub, by simp [addressFromSigner, hfix]⟩

end Signer

/-! ## The signature metadata of `V` -/

/-- `signatureMetaPrefix`: `[]byte("GTOSSIG1")`. -/
def signatureMetaPrefix : List UInt8 := Text.utf8 "GTOSSIG1"

/-- `ErrInvalidSignatureMeta`. -/
def errInvalidSignatureMeta : String := "accountsigner: invalid signature metadata"

theorem signatureMetaPrefix_eq : signatureMetaPrefix = [71, 84, 79, 83, 83, 73, 71, 49] := by
  decide

/-- `signatureMetaAlgToType`: the `signatureMetaAlg*` byte of each type. -/
def signatureMetaAlgToType (alg : UInt8) : Except String SignerType :=
  if alg = 1 then .ok .secp256k1
  else if alg = 6 then .ok .schnorr
  else if alg = 2 then .ok .secp256r1
  else if alg = 3 then .ok .ed25519
  else if alg = 4 then .ok .bls12381
  else if alg = 5 then .ok .elgamal
  else .error errInvalidSignatureMeta

/-- `signatureTypeToMetaAlg`, on the canonical names `NormalizeSigner` returns; its
`ErrUnknownSignerType` branch takes no such name. -/
def signatureTypeToMetaAlg : SignerType → UInt8
  | .secp256k1 => 1
  | .schnorr => 6
  | .secp256r1 => 2
  | .ed25519 => 3
  | .bls12381 => 4
  | .elgamal => 5

/-- `EncodeSignatureMeta`: the prefix, the algorithm byte and the canonical key, read as a
`big.Int`. -/
def encodeSignatureMeta (b : SignerBackend) (signerType : String) (signerPub : List UInt8) :
    Except String ℕ := do
  let (t, pub, _) ← normalizeSigner b signerType (hexutilEncode signerPub)
  return Bytes.ofBytesBE (signatureMetaPrefix ++ signatureTypeToMetaAlg t :: pub)

/-- `DecodeSignatureMeta`, on a `V` that may be `nil`: `ok none` is `ok = false` with no error,
the legacy semantics of `V`. `v.Bytes()` is the magnitude's bytes. -/
def decodeSignatureMeta (b : SignerBackend) (v : Option ℤ) :
    Except String (Option (SignerType × List UInt8)) :=
  match v with
  | none => .ok none
  | some v =>
    let raw := Bytes.bigIntBytes v.natAbs
    if raw.length < signatureMetaPrefix.length + 2 then .ok none
    else if raw.take signatureMetaPrefix.length ≠ signatureMetaPrefix then .ok none
    else
      -- `raw[len(signatureMetaPrefix)]` and the bytes after it; the length check leaves both
      match raw.drop signatureMetaPrefix.length with
      | [] => .ok none
      | alg :: pub =>
        match signatureMetaAlgToType alg with
        | .error e => .error e
        | .ok typ =>
          match normalizeSigner b typ.name (hexutilEncode pub) with
          | .error e => .error (errInvalidSignatureMeta ++ ": " ++ e)
          | .ok (t, pub', _) => .ok (some (t, pub'))

theorem signatureMetaAlgToType_signatureTypeToMetaAlg (t : SignerType) :
    signatureMetaAlgToType (signatureTypeToMetaAlg t) = .ok t := by
  cases t <;> rfl

/-- Metadata bytes are decoded from their algorithm byte and key. -/
theorem decodeSignatureMeta_of_eq {b : SignerBackend} {v : ℤ} {alg : UInt8} {pub : List UInt8}
    (h : Bytes.bigIntBytes v.natAbs = signatureMetaPrefix ++ alg :: pub) (hpub : pub ≠ []) :
    decodeSignatureMeta b (some v) =
      match signatureMetaAlgToType alg with
      | .error e => .error e
      | .ok typ =>
        match normalizeSigner b typ.name (hexutilEncode pub) with
        | .error e => .error (errInvalidSignatureMeta ++ ": " ++ e)
        | .ok (t, pub', _) => .ok (some (t, pub')) := by
  have hlen : ¬ (signatureMetaPrefix ++ alg :: pub).length < signatureMetaPrefix.length + 2 := by
    have := List.length_pos_iff.mpr hpub
    simp only [List.length_append, List.length_cons]
    omega
  simp only [decodeSignatureMeta, h, if_neg hlen, List.take_left, List.drop_left, ne_eq,
    not_true_eq_false, if_false]

/-- What a decoded signer is: the canonical type and key of the key bytes after a known algorithm
byte. -/
theorem decodeSignatureMeta_eq_some {b : SignerBackend} {v : Option ℤ} {t : SignerType}
    {P : List UInt8} (h : decodeSignatureMeta b v = .ok (some (t, P))) :
    ∃ alg pub typ text, signatureMetaAlgToType alg = .ok typ ∧
      normalizeSigner b typ.name (hexutilEncode pub) = .ok (t, P, text) := by
  unfold decodeSignatureMeta at h
  split at h
  · cases h
  · dsimp only at h
    split at h
    · cases h
    split at h
    · cases h
    split at h
    · cases h
    next alg pub _ =>
      split at h
      · cases h
      next typ halg =>
        split at h
        · cases h
        next t' P' text hnorm =>
          cases h
          exact ⟨alg, pub, typ, text, halg, hnorm⟩

theorem signatureMetaAlgToType_eq_error {alg : UInt8} {e : String}
    (h : signatureMetaAlgToType alg = .error e) : e = errInvalidSignatureMeta := by
  unfold signatureMetaAlgToType at h
  split_ifs at h
  all_goals (cases h; rfl)

/-- What a decoding error is: the error of an unknown algorithm byte, or that of a key that does
not normalise after `ErrInvalidSignatureMeta`. -/
theorem decodeSignatureMeta_eq_error {b : SignerBackend} {v : Option ℤ} {e : String}
    (h : decodeSignatureMeta b v = .error e) :
    e = errInvalidSignatureMeta ∨
      ∃ (typ : SignerType) (pub : List UInt8) (e' : String), normalizeSigner b typ.name (hexutilEncode pub) = .error e' ∧
        e = errInvalidSignatureMeta ++ ": " ++ e' := by
  unfold decodeSignatureMeta at h
  split at h
  · cases h
  · dsimp only at h
    split at h
    · cases h
    split at h
    · cases h
    split at h
    · cases h
    next alg pub _ =>
      split at h
      next e₁ halg =>
        cases h
        exact .inl (signatureMetaAlgToType_eq_error halg)
      next typ _ =>
        split at h
        next e' hnorm =>
          cases h
          exact .inr ⟨typ, pub, e', hnorm, rfl⟩
        · cases h

/-- `EncodeSignatureMeta` succeeds exactly when the signer normalises, with the metadata of the
canonical type and key. -/
theorem encodeSignatureMeta_eq_ok {b : SignerBackend} {signerType : String} {raw : List UInt8}
    {v : ℕ} :
    encodeSignatureMeta b signerType raw = .ok v ↔
      ∃ t P text, normalizeSigner b signerType (hexutilEncode raw) = .ok (t, P, text) ∧
        v = Bytes.ofBytesBE (signatureMetaPrefix ++ signatureTypeToMetaAlg t :: P) := by
  unfold encodeSignatureMeta
  cases h : normalizeSigner b signerType (hexutilEncode raw) with
  | error e => simp
  | ok r =>
    obtain ⟨t, P, text⟩ := r
    simp [eq_comm]

theorem signatureTypeToMetaAlg_injective : Function.Injective signatureTypeToMetaAlg := by
  intro t t' h
  have ht := signatureMetaAlgToType_signatureTypeToMetaAlg t
  rw [h, signatureMetaAlgToType_signatureTypeToMetaAlg] at ht
  cases ht
  rfl

/-- `SetBytes` then `Bytes` gives metadata bytes back: the prefix starts with `G`, not a zero. -/
theorem bigIntBytes_signatureMeta (l : List UInt8) :
    Bytes.bigIntBytes ((Bytes.ofBytesBE (signatureMetaPrefix ++ l) : ℕ) : ℤ).natAbs =
      signatureMetaPrefix ++ l := by
  rw [Int.natAbs_natCast]
  apply Bytes.bigIntBytes_ofBytesBE
  rw [signatureMetaPrefix_eq]
  rintro a ⟨⟩
  decide

section RoundTrip

variable {L : CurveLibrary} (hL : L.Lawful) {b : SignerBackend}
  (hcurve : ∀ t raw, t ≠ .ed25519 → b.normalizeCurve t raw = L.normalizeCurve t raw)
include hL hcurve

end RoundTrip

/-! ## A library that accepts canonical encodings only -/

/-- A curve library that accepts each type's canonical encoding and no compressed point; the
P-256 coordinates are the two 32-byte halves after `0x04`. -/
def canonicalCurves : CurveLibrary where
  secp256k1Decompress _ := none
  secp256k1Unmarshal raw := if raw.length = 65 then some raw else none
  p256UnmarshalCompressed _ := none
  p256Unmarshal raw := if raw.length = 65 ∧ raw.head? = some 4 then
      some (Bytes.ofBytesBE ((raw.drop 1).take 32), Bytes.ofBytesBE (raw.drop 33))
    else none
  schnorrParse raw := if raw.length = 32 then some raw else none
  btcecParse _ := none
  blsUncompress raw := if raw.length = 48 then some raw else none
  ristrettoCanonical raw := if raw.length = 32 then some raw else none

/-- A number of 32 bytes is below `2 ^ 256`. -/
theorem ofBytesBE_lt_of_length_le {l : List UInt8} (hl : l.length ≤ 32) :
    Bytes.ofBytesBE l < 2 ^ 256 :=
  calc Bytes.ofBytesBE l < 256 ^ l.length := Bytes.ofBytesBE_lt l
    _ ≤ 256 ^ 32 := Nat.pow_le_pow_right (by norm_num) hl
    _ = 2 ^ 256 := by norm_num

/-- The halves of an uncompressed P-256 key are its coordinates. -/
theorem p256Unmarshal_canonicalCurves_p256Bytes {x y : ℕ} (hx : x < 2 ^ 256) (hy : y < 2 ^ 256) :
    canonicalCurves.p256Unmarshal (p256Bytes x y) = some (x, y) := by
  have hxlen : (Bytes.toBytesBE x 32).length = 32 := Bytes.length_toBytesBE x 32
  have hdrop₁ : (p256Bytes x y).drop 1 = Bytes.toBytesBE x 32 ++ Bytes.toBytesBE y 32 := by
    rw [p256Bytes, List.drop_succ_cons, List.drop_zero]
  have hdrop₃₃ : (p256Bytes x y).drop 33 = (Bytes.toBytesBE x 32 ++ Bytes.toBytesBE y 32).drop 32 :=
    by rw [p256Bytes, List.drop_succ_cons]
  have hcoord : ∀ n, n < 2 ^ 256 → Bytes.ofBytesBE (Bytes.toBytesBE n 32) = n := fun n hn => by
    rw [Bytes.ofBytesBE_toBytesBE]
    exact Nat.mod_eq_of_lt (by simpa using hn)
  simp only [canonicalCurves]
  rw [if_pos ⟨length_p256Bytes x y, rfl⟩, hdrop₁, hdrop₃₃, List.take_left' hxlen,
    List.drop_left' hxlen, hcoord x hx, hcoord y hy]

theorem canonicalCurves_lawful : canonicalCurves.Lawful where
  secp256k1 raw pub h := by
    simp only [canonicalCurves, reduceCtorEq, false_or] at h
    split at h
    case isTrue hlen =>
      cases h
      simp [canonicalCurves, hlen]
    case isFalse => cases h
  secp256r1 raw x y h := by
    simp only [canonicalCurves, reduceCtorEq, false_or] at h
    split at h
    case isTrue hraw =>
      cases h
      -- each coordinate is read from 32 bytes
      have hx : Bytes.ofBytesBE ((raw.drop 1).take 32) < 2 ^ 256 :=
        ofBytesBE_lt_of_length_le (by simp)
      have hy : Bytes.ofBytesBE (raw.drop 33) < 2 ^ 256 :=
        ofBytesBE_lt_of_length_le (by simp [hraw.1])
      exact ⟨hx, hy, p256Unmarshal_canonicalCurves_p256Bytes hx hy⟩
    case isFalse => cases h
  schnorr raw pub h := by
    simp only [canonicalCurves, reduceCtorEq, or_false] at h
    split at h
    case isTrue hlen =>
      cases h
      simp [canonicalCurves, hlen]
    case isFalse => cases h
  bls12381 raw pub h := by
    simp only [canonicalCurves] at h
    split at h
    case isTrue hlen =>
      cases h
      simp [canonicalCurves, hlen]
    case isFalse => cases h
  elgamal raw pub h := by
    simp only [canonicalCurves] at h
    split at h
    case isTrue hlen =>
      cases h
      simp [canonicalCurves, hlen]
    case isFalse => cases h

/-- A backend whose curve code is `canonicalCurves`. -/
def canonicalBackend : SignerBackend where
  keccak256 _ := 0
  normalizeCurve := canonicalCurves.normalizeCurve
  unmarshalSecp256k1 raw := (canonicalCurves.secp256k1Unmarshal raw).isSome
  supportsBLS := true
  verifyRawSignature _ _ _ _ _ := false
  recoverPlain _ _ _ _ := none
  sigToAddress _ _ _ _ := none
  unicode := Text.asciiLower

/-- An uncompressed secp256k1 key. -/
def demoSecp256k1Key : List UInt8 := 4 :: List.replicate 64 1

/-- Every name of the secp256k1 type normalises the key to itself. -/
theorem normalizeSigner_demoSecp256k1Key {signerType : String}
    (h : normalizeSignerType canonicalBackend.unicode signerType = .ok .secp256k1) :
    normalizeSigner canonicalBackend signerType (hexutilEncode demoSecp256k1Key) =
      .ok (.secp256k1, demoSecp256k1Key, hexutilEncode demoSecp256k1Key) :=
  (normalizeSigner_eq_ok _ _ _ _ _ _).mpr ⟨h, demoSecp256k1Key, hexutilDecode_hexutilEncode _,
    by decide, by decide, by decide, by decide, rfl⟩

/-! ## Canonical signers and their metadata -/

/-- **The metadata names its signer**: two signers whose metadata is the same `V` normalise to the
same type and key. -/
theorem signatureMeta_determines_signer {b : SignerBackend} {signerType signerType' : String}
    {raw raw' : List UInt8} {v : ℕ} (h : encodeSignatureMeta b signerType raw = .ok v)
    (h' : encodeSignatureMeta b signerType' raw' = .ok v) :
    ∃ t P text text', normalizeSigner b signerType (hexutilEncode raw) = .ok (t, P, text) ∧
      normalizeSigner b signerType' (hexutilEncode raw') = .ok (t, P, text') := by
  obtain ⟨t, P, text, hn, rfl⟩ := encodeSignatureMeta_eq_ok.mp h
  obtain ⟨t', P', text', hn', hv⟩ := encodeSignatureMeta_eq_ok.mp h'
  -- `big.Int` keeps every byte of the metadata, so the two byte strings are one
  have hbytes := congrArg (fun n : ℕ => Bytes.bigIntBytes (n : ℤ).natAbs) hv
  simp only [bigIntBytes_signatureMeta, List.append_cancel_left_eq, List.cons.injEq] at hbytes
  obtain ⟨halg, rfl⟩ := hbytes
  cases signatureTypeToMetaAlg_injective halg
  exact ⟨t, P, text, text', hn, hn'⟩

theorem signatureMeta_determines_signer_alias :
    ∃ t P text text',
      normalizeSigner canonicalBackend "secp256k1" (hexutilEncode demoSecp256k1Key) =
        .ok (t, P, text) ∧
      normalizeSigner canonicalBackend " Ethereum_Secp256k1" (hexutilEncode demoSecp256k1Key) =
        .ok (t, P, text') := by
  have h : encodeSignatureMeta canonicalBackend "secp256k1" demoSecp256k1Key =
      .ok (Bytes.ofBytesBE (signatureMetaPrefix ++ 1 :: demoSecp256k1Key)) :=
    encodeSignatureMeta_eq_ok.mpr
      ⟨_, _, _, normalizeSigner_demoSecp256k1Key (by decide), rfl⟩
  have h' : encodeSignatureMeta canonicalBackend " Ethereum_Secp256k1" demoSecp256k1Key =
      .ok (Bytes.ofBytesBE (signatureMetaPrefix ++ 1 :: demoSecp256k1Key)) :=
    encodeSignatureMeta_eq_ok.mpr
      ⟨_, _, _, normalizeSigner_demoSecp256k1Key (by decide), rfl⟩
  exact signatureMeta_determines_signer h h'

/-- **Every error of `DecodeSignatureMeta` is `ErrInvalidSignatureMeta`**, alone or followed by the
error of `NormalizeSigner`: `errors.Is(err, ErrInvalidSignatureMeta)` holds of each. -/
theorem decodeSignatureMeta_error_isInvalid {b : SignerBackend} {v : Option ℤ} {e : String}
    (h : decodeSignatureMeta b v = .error e) : ∃ detail, e = errInvalidSignatureMeta ++ detail := by
  rcases decodeSignatureMeta_eq_error h with rfl | ⟨-, -, e', -, rfl⟩
  · exact ⟨"", String.append_empty.symm⟩
  · exact ⟨": " ++ e', String.append_assoc⟩

theorem decodeSignatureMeta_error_isInvalid_shortKey :
    ∃ detail, errInvalidSignatureMeta ++ ": " ++ errInvalidSignerValue =
      errInvalidSignatureMeta ++ detail := by
  have h : decodeSignatureMeta canonicalBackend
      (some ((Bytes.ofBytesBE (signatureMetaPrefix ++ [1, 1]) : ℕ) : ℤ)) =
        .error (errInvalidSignatureMeta ++ ": " ++ errInvalidSignerValue) := by
    rw [decodeSignatureMeta_of_eq (bigIntBytes_signatureMeta [1, 1]) (List.cons_ne_nil 1 [])]
    decide
  exact decodeSignatureMeta_error_isInvalid h

/-- **A decoded signer is canonical and has an address**, over a lawful library: its key
normalises to itself and `AddressFromSigner` accepts it. -/
theorem decodeSignatureMeta_signer_canonical {L : CurveLibrary} (hL : L.Lawful)
    {b : SignerBackend}
    (hcurve : ∀ t raw, t ≠ .ed25519 → b.normalizeCurve t raw = L.normalizeCurve t raw)
    (hunmarshal : ∀ raw, b.unmarshalSecp256k1 raw = (L.secp256k1Unmarshal raw).isSome)
    {v : Option ℤ} {t : SignerType} {P : List UInt8}
    (h : decodeSignatureMeta b v = .ok (some (t, P))) :
    normalizeSigner b t.name (hexutilEncode P) = .ok (t, P, hexutilEncode P) ∧
      ∃ addr, addressFromSigner b t P = .ok addr := by
  obtain ⟨_, _, _, _, -, hnorm⟩ := decodeSignatureMeta_eq_some h
  obtain ⟨rfl, hcanon⟩ := normalizeSigner_canonical hL hcurve hnorm
  exact ⟨hcanon, addressFromSigner_canonical hL hcurve hunmarshal hnorm⟩

theorem decodeSignatureMeta_signer_canonical_demoSecp256k1Key :
    canonicalCurves.Lawful ∧
      normalizeSigner canonicalBackend SignerType.secp256k1.name (hexutilEncode demoSecp256k1Key) =
        .ok (.secp256k1, demoSecp256k1Key, hexutilEncode demoSecp256k1Key) ∧
      ∃ addr, addressFromSigner canonicalBackend .secp256k1 demoSecp256k1Key = .ok addr := by
  have h : decodeSignatureMeta canonicalBackend
      (some ((Bytes.ofBytesBE (signatureMetaPrefix ++ 1 :: demoSecp256k1Key) : ℕ) : ℤ)) =
        .ok (some (.secp256k1, demoSecp256k1Key)) := by
    rw [decodeSignatureMeta_of_eq (bigIntBytes_signatureMeta _) (by decide),
      show signatureMetaAlgToType 1 = .ok .secp256k1 from rfl]
    simp only [normalizeSigner_demoSecp256k1Key (normalizeSignerType_name _ _)]
  exact ⟨canonicalCurves_lawful, decodeSignatureMeta_signer_canonical canonicalCurves_lawful
    (fun _ _ _ => rfl) (fun _ => rfl) h⟩

end Gtos.AccountSigner
