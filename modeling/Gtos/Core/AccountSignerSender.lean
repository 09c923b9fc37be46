import Gtos.Core.SignerTx
import Gtos.AccountSigner.Handler
import Gtos.Core.StateProcessor

/-! # Sender and sponsor resolution (`core/accountsigner_sender.go`)

`ResolveSender` decides who sent a `SignerTx`. A secp256k1 transaction recovers its signer from
the signature; any other type needs the signer the account configured. Either way, when the
account has a configured signer the signature must verify under it and the key must derive the
account's address. An account without one may still bind a first non-secp256k1 signer by a
self-signed `ACCOUNT_SET_SIGNER` action (the bootstrap rule). `ResolveSponsor` does the same for
the sponsor of a sponsored transaction.

The curve code is `SignerBackend`; the chain signer is its chain ID and the hash of its signing
payload. An error wrapped with the two addresses it compares (`"%w: expected %s got %s"`) is
modelled by the error it wraps. -/

namespace Gtos.Core

open Gtos.AccountSigner Gtos.Sysaction Gtos.Parallel

/-- `ErrInvalidAccountSignerSignature`. -/
def errInvalidAccountSignerSignature : String := "invalid account signer signature"

/-- `ErrAccountSignerMismatch`. -/
def errAccountSignerMismatch : String := "account signer metadata mismatch"

/-- `ErrUnsupportedAccountSignerType`. -/
def errUnsupportedAccountSignerType : String :=
  "account signer type is not supported by current tx signature format"

/-- `types.ErrTxTypeNotSupported`. -/
def errTxTypeNotSupported : String := "transaction type not supported"

/-- `types.ErrInvalidChainId`. -/
def errInvalidChainId : String := "invalid chain id for signer"

/-- `types.ErrInvalidSig`. -/
def errInvalidSig : String := "invalid transaction v, r, s values"

/-- What sender resolution takes from outside: the curve code, the chain signer's ID, the hash of
its signing payload, and the JSON decoders of a system action and of its signer payload. -/
structure SenderNatives where
  /-- The curve code. -/
  backend : SignerBackend
  /-- `chainSigner.ChainID()`. -/
  chainId : ℤ
  /-- `prefixedRlpHash` of a signing payload. -/
  rlpHash : SigningPayload → Hash
  /-- The JSON decoder of a system-action envelope. -/
  decodeSysAction : List UInt8 → Except String SysAction
  /-- The JSON decoder of a `SetSignerPayload`. -/
  decodeSetSigner : List UInt8 → Except String SetSignerPayload

variable (n : SenderNatives)

/-- `chainSigner.Hash(tx)`. -/
def SenderNatives.hash (tx : SignerTx) : Hash :=
  signingHash n.rlpHash n.chainId tx

/-- `accessListSigner.Sender(tx)` through `types.Sender`: the literal type `secp256k1`, the
chain's ID, and the recovered signer, which a non-zero explicit `From` must equal. -/
def sender (tx : SignerTx) : Except TxError Address :=
  if tx.signerType ≠ "secp256k1" then .error (.native errTxTypeNotSupported)
  else if tx.chainId ≠ n.chainId then .error (.native errInvalidChainId)
  else match n.backend.recoverPlain (n.hash tx) tx.r tx.s (tx.v + 27) with
    | none => .error (.native errInvalidSig)
    | some recovered =>
      if tx.fromAddr ≠ 0 ∧ tx.fromAddr ≠ recovered then .error (.native errInvalidSig)
      else .ok recovered

/-- `tryResolveBootstrapSigner`: a transaction to the system-action address that sets a signer of
the transaction's own type, signed by that key, and whose key derives the sender, binds it. Any
other transaction is not a bootstrap (`false`), unless its payload names a key that fails. -/
def tryResolveBootstrapSigner (tx : SignerTx) (fromAddr : Address)
    (normalizedSignerType : SignerType) (txHash : Hash) (r s : ℤ) : Except TxError Bool :=
  if tx.toAddr ≠ some systemActionAddress then .ok false else
  match decode n.decodeSysAction tx.data with
  | .error _ => .ok false
  | .ok sa =>
    if sa.action ≠ actionAccountSetSigner then .ok false else
    match decodeSetSignerPayload n.decodeSetSigner sa with
    | .error _ => .ok false
    | .ok payload =>
      match normalizeSigner n.backend payload.signerType payload.signerValue with
      | .error _ => .ok false
      | .ok (payloadType, payloadPub, _) =>
        if payloadType ≠ normalizedSignerType then .error (.native errAccountSignerMismatch)
        else if !verifyRawSignature n.backend payloadType payloadPub txHash r s then
          .error (.native errInvalidAccountSignerSignature)
        else match addressFromSigner n.backend payloadType payloadPub with
          | .error e => .error (.native e)
          | .ok addrFromSigner =>
            if addrFromSigner ≠ fromAddr then .error (.native errAccountSignerMismatch)
            else .ok true

/-- The checks every resolution makes against a configured signer: it normalises, its type is
accepted (`typeOk`, else `typeErr`), the signature verifies under its key, and the key derives
the account. An error of the address derivation is reported by `addrErr`. -/
def checkConfiguredSigner (b : SignerBackend) (cfgType cfgValue : String)
    (typeOk : SignerType → Bool) (typeErr : TxError) (addrErr : String → TxError) (hash : Hash)
    (r s : ℤ) (account : Address) : Except TxError Unit :=
  match normalizeSigner b cfgType cfgValue with
  | .error e => .error (.native e)
  | .ok (normType, normPub, _) =>
    if !typeOk normType then .error typeErr
    else if !verifyRawSignature b normType normPub hash r s then
      .error (.native errInvalidAccountSignerSignature)
    else match addressFromSigner b normType normPub with
      | .error e => .error (addrErr e)
      | .ok addrFromSigner =>
        if addrFromSigner ≠ account then .error (.native errAccountSignerMismatch) else .ok ()

/-- The secp256k1 branch of `ResolveSender`: the recovered signer must be the sender, and a
configured signer must be a secp256k1 key of the sender. -/
def resolveSecp256k1Sender (statedb : StateDB) (tx : SignerTx) : Except TxError Address :=
  let fromAddr := tx.fromAddr
  match sender n tx with
  | .error e => .error e
  | .ok recovered =>
    if recovered ≠ fromAddr then .error (.native errAccountSignerMismatch) else
    let (cfgType, cfgValue, configured) := get n.backend statedb fromAddr
    if !configured then .ok fromAddr
    else (checkConfiguredSigner n.backend cfgType cfgValue (· = .secp256k1)
      (.native errAccountSignerMismatch) .native (n.hash tx) tx.r tx.s fromAddr).map
        fun _ => fromAddr

/-- The branch of `ResolveSender` for the other types: the configured signer, of the
transaction's type, or else the bootstrap rule. -/
def resolveConfiguredSender (statedb : StateDB) (tx : SignerTx)
    (normalizedSignerType : SignerType) : Except TxError Address :=
  let fromAddr := tx.fromAddr
  let (cfgType, cfgValue, configured) := get n.backend statedb fromAddr
  if !configured then
    match tryResolveBootstrapSigner n tx fromAddr normalizedSignerType (n.hash tx) tx.r tx.s with
    | .error e => .error e
    | .ok true => .ok fromAddr
    | .ok false => .error (.native errAccountSignerMismatch)
  else (checkConfiguredSigner n.backend cfgType cfgValue (· = normalizedSignerType)
    (.native errAccountSignerMismatch) (fun _ => .native errAccountSignerMismatch) (n.hash tx)
    tx.r tx.s fromAddr).map fun _ => fromAddr

/-- `ResolveSender(tx, chainSigner, statedb)`: the chain, a known type the signature format
supports, then the branch of the type. -/
def resolveSender (statedb : StateDB) (tx : SignerTx) : Except TxError Address :=
  if tx.chainId ≠ n.chainId then .error (.native errInvalidChainId) else
  match normalizeSignerType n.backend.unicode tx.signerType with
  | .error e => .error (.native e)
  | .ok normalizedSignerType =>
    if !supportsCurrentTxSignatureType n.backend normalizedSignerType then
      .error (.native errUnsupportedAccountSignerType)
    else match normalizedSignerType with
      | .secp256k1 => resolveSecp256k1Sender n statedb tx
      | t => resolveConfiguredSender n statedb tx t

/-- `buildRecoverableSignature(v, r, s)`: the recovery id is the low byte of `v`, and must be 0
or 1. The decoder has checked `r` and `s` of a secp256k1 sponsor against the curve order, so
`FillBytes` into 32 bytes does not fail. -/
def buildRecoverableSignature (v r s : ℤ) : Except TxError (ℤ × ℤ × ℕ) :=
  let vb := v.natAbs % 2 ^ 64 % 256
  if vb > 1 then .error (.native errInvalidAccountSignerSignature) else .ok (r, s, vb)

/-- `ResolveSponsor(tx, chainSigner, statedb)`. A configured sponsor signs with its configured
key, whatever type the transaction names; an unconfigured one must be a secp256k1 signer. -/
def resolveSponsor (statedb : StateDB) (tx : SignerTx) : Except TxError Address :=
  if !tx.isSponsored then .error (.native errTxTypeNotSupported)
  else if tx.chainId ≠ n.chainId then .error (.native errInvalidChainId) else
  let sponsor := tx.sponsor
  let (cfgType, cfgValue, configured) := get n.backend statedb sponsor
  if configured then
    (checkConfiguredSigner n.backend cfgType cfgValue (supportsCurrentTxSignatureType n.backend)
      (.native errUnsupportedAccountSignerType) (fun _ => .native errAccountSignerMismatch)
      (n.hash tx) tx.sponsorR tx.sponsorS sponsor).map fun _ => sponsor
  else match normalizeSignerType n.backend.unicode tx.sponsorSignerType with
    | .error e => .error (.native e)
    | .ok normalizedSponsorSignerType =>
      if normalizedSponsorSignerType ≠ .secp256k1 then
        .error (.native errUnsupportedAccountSignerType)
      else match buildRecoverableSignature tx.sponsorV tx.sponsorR tx.sponsorS with
        | .error e => .error e
        | .ok (r, s, vb) =>
          match n.backend.sigToAddress (n.hash tx) r s vb with
          | none => .error (.native errInvalidSig)
          | some recovered =>
            if recovered ≠ sponsor then .error (.native errAccountSignerMismatch) else .ok sponsor

/-! ## What resolution asks of a configured signer -/

/-- A signer normalises to a key that derives the address. -/
def signerDerives (b : SignerBackend) (signerType signerValue : String) (addr : Address) : Bool :=
  match normalizeSigner b signerType signerValue with
  | .ok (t, pub, _) =>
    match addressFromSigner b t pub with
    | .ok a => a = addr
    | .error _ => false
  | .error _ => false

/-- A configured signer passes the checks only if it normalises to a key of the account. -/
theorem signerDerives_of_checkConfiguredSigner {b : SignerBackend} {cfgType cfgValue : String}
    {typeOk : SignerType → Bool} {typeErr : TxError} {addrErr : String → TxError} {hash : Hash}
    {r s : ℤ} {account : Address}
    (h : checkConfiguredSigner b cfgType cfgValue typeOk typeErr addrErr hash r s account = .ok ()) :
    signerDerives b cfgType cfgValue account := by
  unfold checkConfiguredSigner at h
  split at h
  case h_1 => cases h
  case h_2 normType normPub text hnorm =>
    split_ifs at h
    split at h
    case h_1 => cases h
    case h_2 addr haddr =>
      split_ifs at h with hne
      simp [signerDerives, hnorm, haddr, not_not.mp hne]


/-- A result of `map` on a check that returns unit is the mapped value of a passed check. -/
theorem map_eq_ok {ε α : Type} {x : Except ε Unit} {f : Unit → α} {a : α}
    (h : x.map f = .ok a) : x = .ok () ∧ f () = a := by
  cases x with
  | error e => cases h
  | ok u => exact ⟨rfl, Except.ok.inj h⟩

theorem resolveSecp256k1Sender_ok_of_configured {s : StateDB} {tx : SignerTx} {a : Address}
    {cfgType cfgValue : String} (hget : get n.backend s tx.fromAddr = (cfgType, cfgValue, true))
    (hok : resolveSecp256k1Sender n s tx = .ok a) :
    a = tx.fromAddr ∧ signerDerives n.backend cfgType cfgValue tx.fromAddr := by
  unfold resolveSecp256k1Sender at hok
  split at hok
  case h_1 => cases hok
  case h_2 recovered _ =>
    dsimp only at hok
    simp only [hget, Bool.not_true, Bool.false_eq_true, if_false] at hok
    split_ifs at hok
    obtain ⟨hcheck, hfrom⟩ := map_eq_ok hok
    exact ⟨hfrom.symm, signerDerives_of_checkConfiguredSigner hcheck⟩

theorem resolveConfiguredSender_ok_of_configured {s : StateDB} {tx : SignerTx} {a : Address}
    {t : SignerType} {cfgType cfgValue : String}
    (hget : get n.backend s tx.fromAddr = (cfgType, cfgValue, true))
    (hok : resolveConfiguredSender n s tx t = .ok a) :
    a = tx.fromAddr ∧ signerDerives n.backend cfgType cfgValue tx.fromAddr := by
  unfold resolveConfiguredSender at hok
  simp only [hget, Bool.not_true, Bool.false_eq_true, if_false] at hok
  obtain ⟨hcheck, hfrom⟩ := map_eq_ok hok
  exact ⟨hfrom.symm, signerDerives_of_checkConfiguredSigner hcheck⟩

theorem resolveSender_ok_of_configured {s : StateDB} {tx : SignerTx} {a : Address}
    {cfgType cfgValue : String} (hget : get n.backend s tx.fromAddr = (cfgType, cfgValue, true))
    (hok : resolveSender n s tx = .ok a) :
    a = tx.fromAddr ∧ signerDerives n.backend cfgType cfgValue tx.fromAddr := by
  unfold resolveSender at hok
  split_ifs at hok
  split at hok
  case h_1 => cases hok
  case h_2 t _ =>
    split_ifs at hok
    split at hok
    case h_1 => exact resolveSecp256k1Sender_ok_of_configured n hget hok
    case h_2 => exact resolveConfiguredSender_ok_of_configured n hget hok

theorem resolveSponsor_ok_of_configured {s : StateDB} {tx : SignerTx} {a : Address}
    {cfgType cfgValue : String} (hget : get n.backend s tx.sponsor = (cfgType, cfgValue, true))
    (hok : resolveSponsor n s tx = .ok a) :
    a = tx.sponsor ∧ signerDerives n.backend cfgType cfgValue tx.sponsor := by
  unfold resolveSponsor at hok
  split_ifs at hok
  simp only [hget, if_true] at hok
  obtain ⟨hcheck, hfrom⟩ := map_eq_ok hok
  exact ⟨hfrom.symm, signerDerives_of_checkConfiguredSigner hcheck⟩


theorem length_utf8_name_lt (t : SignerType) : (Text.utf8 t.name).length < 2 ^ 64 := by
  cases t <;> decide

theorem handle_locks_out_account (decodeJson : List UInt8 → Except String SetSignerPayload)
    (ctx : Context) (sa : SysAction) (payload : SetSignerPayload) (s : StateDB) (t : SignerType)
    (pub : List UInt8) (text : String) (hvalue : ctx.value = 0)
    (hdecode : decodeSetSignerPayload decodeJson sa = .ok payload)
    (hnorm : normalizeSigner n.backend payload.signerType payload.signerValue = .ok (t, pub, text))
    (hforeign : signerDerives n.backend t.name text ctx.sender = false)
    (hlen : (Text.utf8 text).length < 2 ^ 64)
    (hslots : SlotsDistinct n.backend
      (chunkCount (readUint64 s ctx.sender (signerTypeLenSlot n.backend)) ⊔
        chunkCount (Text.utf8 t.name).length)
      (chunkCount (readUint64 s ctx.sender (signerValueLenSlot n.backend)) ⊔
        chunkCount (Text.utf8 text).length)) :
    ∃ s', (handle n.backend decodeJson ctx sa).run.run s = (.ok (), s') ∧
      (∀ tx : SignerTx, tx.fromAddr = ctx.sender → ∀ a, resolveSender n s' tx ≠ .ok a) ∧
      (∀ tx : SignerTx, tx.sponsor = ctx.sender → ∀ a, resolveSponsor n s' tx ≠ .ok a) := by
  have hget := get_set n.backend s ctx.sender t.name text (length_utf8_name_lt t) hlen hslots
  refine ⟨set n.backend s ctx.sender t.name text,
    handle_ok n.backend decodeJson ctx sa payload s t pub text hvalue hdecode hnorm, ?_, ?_⟩
  · -- a sender resolved against a configured signer is derived by it
    intro tx hfrom a hok
    rw [← hfrom] at hget
    have hderives := (resolveSender_ok_of_configured n hget (hfrom ▸ hok)).2
    rw [hfrom, hforeign] at hderives
    exact Bool.false_ne_true hderives
  · intro tx hsponsor a hok
    rw [← hsponsor] at hget
    have hderives := (resolveSponsor_ok_of_configured n hget (hsponsor ▸ hok)).2
    rw [hsponsor, hforeign] at hderives
    exact Bool.false_ne_true hderives


/-! ## What the signatures bind -/
/-- Resolution of the sender reads the chain ID, the signer type, the sender, the destination and
data (for the bootstrap rule), the signature and the signing hash, and nothing else. -/
theorem resolveSender_congr {s : StateDB} {tx₁ tx₂ : SignerTx}
    (hchain : tx₁.chainId = tx₂.chainId) (htype : tx₁.signerType = tx₂.signerType)
    (hfrom : tx₁.fromAddr = tx₂.fromAddr) (hto : tx₁.toAddr = tx₂.toAddr)
    (hdata : tx₁.data = tx₂.data) (hhash : n.hash tx₁ = n.hash tx₂)
    (hv : tx₁.v = tx₂.v) (hr : tx₁.r = tx₂.r) (hs : tx₁.s = tx₂.s) :
    resolveSender n s tx₁ = resolveSender n s tx₂ := by
  simp only [resolveSender, resolveSecp256k1Sender, resolveConfiguredSender, sender,
    tryResolveBootstrapSigner, hchain, htype, hfrom, hto, hdata, hhash, hv, hr, hs]

theorem resolveSponsor_congr {s : StateDB} {tx₁ tx₂ : SignerTx}
    (hsponsored : tx₁.isSponsored = tx₂.isSponsored) (hchain : tx₁.chainId = tx₂.chainId)
    (hsponsor : tx₁.sponsor = tx₂.sponsor) (htype : tx₁.sponsorSignerType = tx₂.sponsorSignerType)
    (hhash : n.hash tx₁ = n.hash tx₂) (hv : tx₁.sponsorV = tx₂.sponsorV)
    (hr : tx₁.sponsorR = tx₂.sponsorR) (hs : tx₁.sponsorS = tx₂.sponsorS) :
    resolveSponsor n s tx₁ = resolveSponsor n s tx₂ := by
  simp only [resolveSponsor, hsponsored, hchain, hsponsor, htype, hhash, hv, hr, hs]


/-- Transactions with one signing payload have one summary, up to their hash and size. -/
theorem SignerTx.toTransaction_eq_of_signingPayload_eq {chainId : ℤ} {tx₁ tx₂ : SignerTx}
    (h : tx₁.signingPayload chainId = tx₂.signingPayload chainId) (hash : Hash) (size : ℕ) :
    tx₁.toTransaction hash size = tx₂.toTransaction hash size := by
  obtain ⟨hnonce, hgas, hto, hvalue, hdata, hfrom, -, hsponsored, hfields⟩ :=
    SignerTx.eq_of_signingPayload_eq h
  simp only [SignerTx.toTransaction, SignerTx.sponsorFrom, SignerTx.sponsorNonceOf,
    SignerTx.sponsorExpiryOf, hnonce, hgas, hto, hvalue, hdata, hfrom, hsponsored]
  by_cases hs : tx₂.isSponsored
  · obtain ⟨hsponsor, -, hsn, hse⟩ := hfields (hsponsored ▸ hs)
    simp [hs, hsponsor, hsn, hse]
  · simp [hs]

/-- Block natives whose sender and sponsor resolution is the modelled one, on the signed
envelope of each transaction. -/
def BlockNatives.withSigner (nat : BlockNatives) (envelope : Transaction → SignerTx) :
    BlockNatives :=
  { nat with
    resolveSender := fun s tx => Core.resolveSender n s (envelope tx)
    resolveSponsor := fun s tx => Core.resolveSponsor n s (envelope tx) }

theorem signerTx_nonMalleable (nat : BlockNatives) (envelope : Transaction → SignerTx)
    (s : StateDB) (tx₁ tx₂ : SignerTx) (hash₁ hash₂ : Hash) (size₁ size₂ : ℕ)
    (henv₁ : envelope (tx₁.toTransaction hash₁ size₁) = tx₁)
    (henv₂ : envelope (tx₂.toTransaction hash₂ size₂) = tx₂)
    (hhash : n.hash tx₁ = n.hash tx₂)
    (hcr : n.rlpHash (tx₁.signingPayload n.chainId) = n.rlpHash (tx₂.signingPayload n.chainId) →
      tx₁.signingPayload n.chainId = tx₂.signingPayload n.chainId)
    (hchain : tx₁.chainId = tx₂.chainId)
    (hsig : tx₁.v = tx₂.v ∧ tx₁.r = tx₂.r ∧ tx₁.s = tx₂.s)
    (hsponsorSig : tx₁.sponsorV = tx₂.sponsorV ∧ tx₁.sponsorR = tx₂.sponsorR ∧
      tx₁.sponsorS = tx₂.sponsorS) :
    resolveSender n s tx₁ = resolveSender n s tx₂ ∧
      resolveSponsor n s tx₁ = resolveSponsor n s tx₂ ∧
      ∀ baseFee : ℤ,
        txAsMessageWithAccountSigner (nat.withSigner n envelope) (tx₁.toTransaction hash₁ size₁)
            baseFee s =
          txAsMessageWithAccountSigner (nat.withSigner n envelope) (tx₂.toTransaction hash₂ size₂)
            baseFee s ∧
        ∀ (ctx : BlockContext) (gp : ℕ),
          (txAsMessageWithAccountSigner (nat.withSigner n envelope)
              (tx₁.toTransaction hash₁ size₁) baseFee s).map
              (fun msg => applyMessage nat.env nat.natDb ctx msg gp s) =
            (txAsMessageWithAccountSigner (nat.withSigner n envelope)
              (tx₂.toTransaction hash₂ size₂) baseFee s).map
              (fun msg => applyMessage nat.env nat.natDb ctx msg gp s) := by
  have hpayload := hcr hhash
  obtain ⟨hnonce, hgas, hto, hvalue, hdata, hfrom, htype, hsponsored, hfields⟩ :=
    SignerTx.eq_of_signingPayload_eq hpayload
  obtain ⟨hv, hr, hs⟩ := hsig
  obtain ⟨hsv, hsr, hss⟩ := hsponsorSig
  have hsender := resolveSender_congr n hchain htype hfrom hto hdata hhash hv hr hs (s := s)
  have hsponsor : resolveSponsor n s tx₁ = resolveSponsor n s tx₂ := by
    by_cases h₁ : tx₁.isSponsored
    · obtain ⟨hsp, hst, -, -⟩ := hfields h₁
      exact resolveSponsor_congr n hsponsored hchain hsp hst hhash hsv hsr hss
    · have h₂ : tx₂.isSponsored = false := by rw [← hsponsored]; simpa using h₁
      simp [resolveSponsor, h₂, Bool.eq_false_iff.mpr h₁]
  have hsum := SignerTx.toTransaction_eq_of_signingPayload_eq hpayload hash₂ size₂
  have hmsg : ∀ baseFee : ℤ,
      txAsMessageWithAccountSigner (nat.withSigner n envelope) (tx₁.toTransaction hash₁ size₁)
          baseFee s =
        txAsMessageWithAccountSigner (nat.withSigner n envelope) (tx₂.toTransaction hash₂ size₂)
          baseFee s := by
    intro baseFee
    simp only [txAsMessageWithAccountSigner, BlockNatives.withSigner, henv₁, henv₂, hsender,
      hsponsor]
    -- the message reads every field of the summary but its hash and size
    rw [show tx₁.toTransaction hash₁ size₁ =
        { tx₁.toTransaction hash₂ size₂ with hash := hash₁, size := size₁ } from rfl, hsum]
    rfl
  -- the state transition runs on the message alone
  exact ⟨hsender, hsponsor, fun baseFee => ⟨hmsg baseFee, fun ctx gp => by rw [hmsg baseFee]⟩⟩

/-! ## A failing input -/

/-- A stand-in for the curve code: Keccak-256 replaced by the last 32 bytes of its input, which
has no collision among the slots used here, every key normalising to itself and every signature
verifying. -/
def foreignKeyBackend : SignerBackend where
  keccak256 l := BitVec.ofNat 256 (Bytes.ofBytesBE l)
  normalizeCurve _ raw := some raw
  unmarshalSecp256k1 _ := true
  supportsBLS := true
  verifyRawSignature _ _ _ _ _ := true
  recoverPlain _ _ _ _ := none
  sigToAddress _ _ _ _ := none
  unicode := Text.asciiLower

/-- Sender resolution on chain 1 with that backend. -/
def foreignKeyNatives : SenderNatives :=
  ⟨foreignKeyBackend, 1, fun _ => 0, fun _ => .error "", fun _ => .error ""⟩

/-- The ed25519 key of 32 bytes `0x11`, which derives the address `0x1111…11`, not `0xa`. -/
def foreignKeyText : String :=
  "0x1111111111111111111111111111111111111111111111111111111111111111"

/-- `0xa` sets the key above as its signer. -/
def foreignKeyContext : Context := ⟨0xA#256, 0, 1⟩

theorem handle_locks_out_foreign_key :
    ∃ s', (handle foreignKeyBackend (fun _ => .ok ⟨"ed25519", foreignKeyText⟩) foreignKeyContext
        ⟨actionAccountSetSigner, [1]⟩).run.run StateDB.empty = (.ok (), s') ∧
      (∀ tx : SignerTx, tx.fromAddr = 0xA#256 → ∀ a, resolveSender foreignKeyNatives s' tx ≠ .ok a) ∧
      (∀ tx : SignerTx, tx.sponsor = 0xA#256 → ∀ a, resolveSponsor foreignKeyNatives s' tx ≠ .ok a) :=
  handle_locks_out_account foreignKeyNatives _ foreignKeyContext ⟨actionAccountSetSigner, [1]⟩
    ⟨"ed25519", foreignKeyText⟩ StateDB.empty .ed25519 (List.replicate 32 0x11) foreignKeyText rfl
    (by decide) (by decide) (by decide) (by decide)
    ⟨by decide +kernel, by decide +kernel, by decide +kernel, by decide +kernel, by decide +kernel,
      by decide +kernel⟩

/-- A secp256k1 transfer from `0xa` on chain 1, and the same transaction naming chain 2. -/
def chainOneTx : SignerTx :=
  ⟨1, 0, 21000, some 0xB#256, 0, [], [], 0xA#256, "secp256k1", 0, "", 0, 0, 0, 0, 1, 1, 0, 0, 0,
    0, 0⟩

/-- Chain 1, with a curve code that recovers `0xa` from every signature. -/
def chainOneNatives : SenderNatives :=
  ⟨{ foreignKeyBackend with recoverPlain := fun _ _ _ _ => some 0xA#256 }, 1, fun _ => 0,
    fun _ => .error "", fun _ => .error ""⟩

/-- The transaction's own chain ID is not signed: changing it keeps the signing payload and the
signature, and turns an accepted sender into `ErrInvalidChainId`. -/
theorem resolveSender_reads_unsigned_chainId :
    chainOneTx.signingPayload 1 = { chainOneTx with chainId := 2 }.signingPayload 1 ∧
      resolveSender chainOneNatives StateDB.empty chainOneTx = .ok 0xA#256 ∧
      resolveSender chainOneNatives StateDB.empty { chainOneTx with chainId := 2 } =
        .error (.native errInvalidChainId) := by
  decide

/-- Block natives of chain 1 whose own resolvers `withSigner` replaces. -/
def chainOneBlockNatives : BlockNatives where
  env := ⟨fun _ => 0, fun _ => 0, 1#256, fun _ _ => 0, fun _ => false⟩
  natBuf := inertNatives WriteBuf
  natDb := inertNatives StateDB
  executePrivacyTx s _ _ := (s, true)
  resolveSender _ _ := .error (.native "")
  resolveSponsor _ _ := .error (.native "")
  runScheduledTasks s _ gp := (s, .ok (0, gp))
  finalize _ s := s
  verifyFinalizedState _ _ := none
  author h := h.coinbase
  headerHash _ := 0

/-- The transfer above with another terminal class and trust tier, which the signature does not
cover. -/
def chainOneRetaggedTx : SignerTx :=
  { chainOneTx with terminalClass := 1, trustTier := 2 }

/-- The envelope of each summary: the retagged transaction for the hash `0x2`. -/
def chainOneEnvelope (tx : Transaction) : SignerTx :=
  if tx.hash = 0x2#256 then chainOneRetaggedTx else chainOneTx

theorem signerTx_nonMalleable_retagged :
    txAsMessageWithAccountSigner (chainOneBlockNatives.withSigner chainOneNatives chainOneEnvelope)
        (chainOneTx.toTransaction 0x1#256 100) 0 StateDB.empty =
      txAsMessageWithAccountSigner (chainOneBlockNatives.withSigner chainOneNatives chainOneEnvelope)
        (chainOneRetaggedTx.toTransaction 0x2#256 100) 0 StateDB.empty :=
  ((signerTx_nonMalleable chainOneNatives chainOneBlockNatives chainOneEnvelope StateDB.empty
    chainOneTx chainOneRetaggedTx 0x1#256 0x2#256 100 100 (by decide) (by decide)
    rfl (fun _ => by decide) rfl ⟨rfl, rfl, rfl⟩ ⟨rfl, rfl, rfl⟩).2.2 0).1

end Gtos.Core
