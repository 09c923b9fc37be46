import Gtos.Dpos.CheckpointAssemble

/-! # Checkpoint QCs in block headers (`FinalizeAndAssemble`, `verifyHeader`, `consensus/dpos/dpos.go`)

The producer writes the QC `assembleCheckpointQC` returns into `header.Extra` in
`FinalizeAndAssemble`; `Seal` then overwrites the placeholder at the end of `Extra` with the seal.
An importer checks the shape of `Extra` in `verifyHeader`, parses the QC back with
`parseCheckpointQCFromExtra`, and verifies it in two phases. `Extra` has two layouts:

* epoch blocks: `[32B vanity][1B count=N][N×20B validators][QC RLP (optional)][96B seal]`,
* other blocks: `[32B vanity][QC RLP (optional)][96B seal]`.

* **`finalizeAndAssembleExtra`** — the `Extra` `FinalizeAndAssemble` writes, with
  `expectedEpochValidators` for the validator list of epoch blocks.
* **`verifyHeaderExtraShape`** — the `Extra` length and structure checks of `verifyHeader`.
* **`checkpointQC_assembler_verifier_agree`** — a QC the producer assembles and embeds passes
  every check of the importer, which parses it back unchanged and stages its finality.
-/

namespace Gtos.Dpos

/-! ## The producer's `Extra` -/

/-- `common.Address.Bytes()`: the 32 bytes of an address, most significant first. -/
def addressBytes (a : Address) : List UInt8 :=
  (List.range addressLength).map fun i => UInt8.ofNat (a.toNat / 256 ^ (addressLength - 1 - i))

@[simp] theorem length_addressBytes (a : Address) : (addressBytes a).length = addressLength := by
  simp [addressBytes]

/-- What `FinalizeAndAssemble` reads beyond the QC assembler's reads. -/
structure AssembleEnv where
  /-- `d.fakeDiff`: the test engine of `NewFaker`. -/
  fakeDiff : Bool
  /-- `rawdb.ReadHeader(d.db, hash, number)`, the parent lookup when the chain has none;
  `none` without a database. -/
  readHeader : Hash → ℕ → Option Header
  /-- `d.fallbackValidatorsFromHeader(chain, parent)`: the validators of the latest epoch or
  genesis header at or before `parent`. -/
  fallbackValidatorsFromHeader : Header → Except String (List Address)
  /-- `d.activeValidatorsAtRoot(parent.Root, st.Database(), parent.Number+1)`. -/
  activeValidatorsAtRoot : Header → Except String (List Address)
  /-- `rlp.EncodeToBytes(qc)`, `none` on error. -/
  encodeQC : CheckpointQC → Option (List UInt8)

/-- The errors `FinalizeAndAssemble` returns while building `Extra`. -/
inductive AssembleError
  /-- `consensus.ErrUnknownAncestor`: no parent header. -/
  | unknownAncestor
  /-- An error of `fallbackValidatorsFromHeader` or `expectedEpochValidators`. -/
  | validators (msg : String)
  /-- `header.Extra[:extraVanity]` on a shorter `Extra`, a run-time panic in the source. -/
  | vanityOutOfRange
  deriving DecidableEq, Repr

/-- `expectedEpochValidators`: the active validators at the parent's state, else the fallback
list, else an error. -/
def expectedEpochValidators (ae : AssembleEnv) (parent : Header) (fallback : List Address) :
    Except String (List Address) :=
  match ae.activeValidatorsAtRoot parent with
  | .ok actual =>
    if actual.length > 0 then .ok actual
    else if fallback.length > 0 then .ok fallback
    else .error "dpos: no active validators at epoch boundary"
  | .error err => if fallback.length > 0 then .ok fallback else .error err

/-- The QC bytes of `FinalizeAndAssemble`: the encoded QC `assembleCheckpointQC` returns against
the parent snapshot, empty when there is none, and the vote pool afterwards. -/
def assembleQCBytes (cfg : DPoSConfig) (env : QCEnv) (ae : AssembleEnv)
    (votePool : Option CheckpointVotePool) (header : Header) :
    Option (List UInt8) × Option CheckpointVotePool :=
  match env.snapshot (header.number - 1) header.parentHash with
  | none => (none, votePool)
  | some snap =>
    let r := assembleCheckpointQC cfg env votePool header snap
    (r.1.bind ae.encodeQC, r.2)

/-- The `Extra` `FinalizeAndAssemble` writes into `header` and the vote pool afterwards; the seal
is a placeholder of zero bytes. -/
def finalizeAndAssembleExtra (cfg : DPoSConfig) (env : QCEnv) (ae : AssembleEnv)
    (votePool : Option CheckpointVotePool) (header : Header) :
    Except AssembleError (List UInt8 × Option CheckpointVotePool) :=
  let number := header.number
  let placeholder := List.replicate extraSealEd25519 (0 : UInt8)
  if number % cfg.epoch = 0 ∧ ae.fakeDiff = false then
    -- an epoch block carries the validator list of the parent state
    match (env.getHeader header.parentHash (number - 1)).orElse
        fun _ => ae.readHeader header.parentHash (number - 1) with
    | none => .error .unknownAncestor
    | some parent =>
      match ae.fallbackValidatorsFromHeader parent with
      | .error e => .error (.validators e)
      | .ok fallback =>
        match expectedEpochValidators ae parent fallback with
        | .error e => .error (.validators e)
        | .ok validators =>
          if header.extra.length < extraVanity then .error .vanityOutOfRange
          else
            let vanity := header.extra.take extraVanity
            if cfg.isCheckpointFinality number then
              let qc := assembleQCBytes cfg env ae votePool header
              -- an encoding error leaves the QC bytes empty
              let qcBytes := qc.1.getD []
              let valPayload := UInt8.ofNat validators.length :: validators.flatMap addressBytes
              .ok (vanity ++ (valPayload ++ qcBytes) ++ placeholder, qc.2)
            else .ok (vanity ++ validators.flatMap addressBytes ++ placeholder, votePool)
  else if ae.fakeDiff = false ∧ cfg.isCheckpointFinality number then
    let qc := assembleQCBytes cfg env ae votePool header
    match qc.1 with
    | none => .ok (header.extra, qc.2)
    | some qcBytes =>
      if header.extra.length < extraVanity then .error .vanityOutOfRange
      else .ok (header.extra.take extraVanity ++ qcBytes ++ placeholder, qc.2)
  else .ok (header.extra, votePool)

/-- `Seal`'s `copy(header.Extra[len(header.Extra)-d.sealLength:], seal)` for a seal of
`extraSealEd25519` bytes. -/
def sealExtra (extra sealBytes : List UInt8) : List UInt8 :=
  extra.take (extra.length - extraSealEd25519) ++ sealBytes

/-! ## The importer's shape checks -/

/-- The errors of `verifyHeader`'s `Extra` checks. -/
inductive ExtraError
  /-- `errMissingVanity`. -/
  | missingVanity
  /-- `errMissingSignature`. -/
  | missingSignature
  /-- `errInvalidCheckpointValidators`. -/
  | invalidCheckpointValidators
  /-- `errExtraValidators`. -/
  | extraValidators
  deriving DecidableEq, Repr

/-- The "Validate Extra length and structure" block of `verifyHeader`. -/
def verifyHeaderExtraShape (cfg : DPoSConfig) (number : ℕ) (extra : List UInt8) :
    Except ExtraError Unit :=
  if number = 0 then
    -- genesis: vanity and validator addresses, no seal
    if extra.length < extraVanity then .error .missingVanity
    else if (extra.length - extraVanity) % addressLength ≠ 0 then
      .error .invalidCheckpointValidators
    else .ok ()
  else if extra.length < extraVanity + extraSealEd25519 then .error .missingSignature
  else
    let isEpoch := number % cfg.epoch = 0
    let cfActive := cfg.isCheckpointFinality number
    let middle := (extra.take (extra.length - extraSealEd25519)).drop extraVanity
    if isEpoch ∧ cfActive = true then
      match middle with
      | [] => .error .invalidCheckpointValidators
      | count :: _ =>
        let n := count.toNat
        if 1 + n * addressLength > middle.length then .error .invalidCheckpointValidators
        else if n = 0 then .error .invalidCheckpointValidators
        else .ok ()
    else if isEpoch then
      if middle.length = 0 ∨ middle.length % addressLength ≠ 0 then
        .error .invalidCheckpointValidators
      else .ok ()
    else if cfActive = false then
      if middle.length ≠ 0 then .error .extraValidators else .ok ()
    else .ok ()

/-! ## What the producer embeds -/

/-- `expectedEpochValidators` returns a non-empty list: the active validators at the parent's
state or the fallback list. -/
theorem expectedEpochValidators_eq_ok {ae : AssembleEnv} {parent : Header}
    {fallback validators : List Address}
    (h : expectedEpochValidators ae parent fallback = .ok validators) :
    0 < validators.length ∧
      (ae.activeValidatorsAtRoot parent = .ok validators ∨ validators = fallback) := by
  unfold expectedEpochValidators at h
  split at h
  · rename_i actual hactual
    split_ifs at h with hpos hfb
    · obtain rfl := Except.ok.inj h
      exact ⟨hpos, Or.inl hactual⟩
    · obtain rfl := Except.ok.inj h
      exact ⟨hfb, Or.inr rfl⟩
  · split_ifs at h with hfb
    obtain rfl := Except.ok.inj h
    exact ⟨hfb, Or.inr rfl⟩

/-- With a parent snapshot, the QC bytes are the encoding of the assembled QC. -/
theorem assembleQCBytes_of_qc {cfg : DPoSConfig} {env : QCEnv} {ae : AssembleEnv}
    {votePool : Option CheckpointVotePool} {header : Header} {snap : Snapshot}
    {qc : CheckpointQC} {qcBytes : List UInt8}
    (hsnap : env.snapshot (header.number - 1) header.parentHash = some snap)
    (hqc : (assembleCheckpointQC cfg env votePool header snap).1 = some qc)
    (henc : ae.encodeQC qc = some qcBytes) :
    (assembleQCBytes cfg env ae votePool header).1 = some qcBytes := by
  simp [assembleQCBytes, hsnap, hqc, henc]

/-- **What `FinalizeAndAssemble` embeds.** Outside the test engine, with checkpoint finality
active, when the QC assembled against the parent snapshot encodes to `qcBytes`, `Extra` is a
32-byte vanity, then for an epoch block the validator count and list (a non-empty list, the
parent's active validators or the fallback list), then `qcBytes`, then the seal placeholder. -/
theorem finalizeAndAssembleExtra_of_qc {cfg : DPoSConfig} {env : QCEnv} {ae : AssembleEnv}
    {votePool : Option CheckpointVotePool} {header : Header} {extra' : List UInt8}
    {pool' : Option CheckpointVotePool} {snap : Snapshot} {qc : CheckpointQC}
    {qcBytes : List UInt8}
    (h : finalizeAndAssembleExtra cfg env ae votePool header = .ok (extra', pool'))
    (hfake : ae.fakeDiff = false) (hcf : cfg.isCheckpointFinality header.number = true)
    (hsnap : env.snapshot (header.number - 1) header.parentHash = some snap)
    (hqc : (assembleCheckpointQC cfg env votePool header snap).1 = some qc)
    (henc : ae.encodeQC qc = some qcBytes) :
    ∃ vanity : List UInt8, vanity.length = extraVanity ∧
      ((header.number % cfg.epoch = 0 ∧ ∃ parent validators,
          0 < validators.length ∧
          (ae.activeValidatorsAtRoot parent = .ok validators ∨
            ae.fallbackValidatorsFromHeader parent = .ok validators) ∧
          extra' = vanity ++ ((UInt8.ofNat validators.length :: validators.flatMap addressBytes) ++
            qcBytes) ++ List.replicate extraSealEd25519 0) ∨
        (header.number % cfg.epoch ≠ 0 ∧
          extra' = vanity ++ qcBytes ++ List.replicate extraSealEd25519 0)) := by
  have hbytes : (assembleQCBytes cfg env ae votePool header).1 = some qcBytes :=
    assembleQCBytes_of_qc hsnap hqc henc
  unfold finalizeAndAssembleExtra at h
  dsimp only at h
  by_cases hep : header.number % cfg.epoch = 0
  · -- the epoch layout
    rw [if_pos ⟨hep, hfake⟩] at h
    split at h
    · cases h
    · rename_i parent _
      split at h
      · cases h
      · rename_i fallback hfallback
        split at h
        · cases h
        · rename_i validators hvalidators
          obtain ⟨hpos, hsrc⟩ := expectedEpochValidators_eq_ok hvalidators
          split_ifs at h with hshort
          obtain ⟨rfl, -⟩ := Prod.mk.inj (Except.ok.inj h)
          refine ⟨header.extra.take extraVanity, by simp; omega, Or.inl ⟨hep, parent, validators,
            hpos, ?_, by rw [hbytes, Option.getD_some]⟩⟩
          rcases hsrc with hactive | rfl
          · exact Or.inl hactive
          · exact Or.inr hfallback
  · -- the other layout
    rw [if_neg (fun h' => hep h'.1), if_pos ⟨hfake, hcf⟩] at h
    rw [hbytes] at h
    dsimp only at h
    split_ifs at h with hshort
    obtain ⟨rfl, -⟩ := Prod.mk.inj (Except.ok.inj h)
    exact ⟨header.extra.take extraVanity, by simp; omega, Or.inr ⟨hep, rfl⟩⟩

/-! ## Reading the layouts back -/

section Layout

variable {vanity middle sealBytes : List UInt8}

/-- The middle of an `Extra` laid out as vanity, middle and seal. -/
theorem middle_of_layout (hv : vanity.length = extraVanity)
    (hs : sealBytes.length = extraSealEd25519) :
    ((vanity ++ middle ++ sealBytes).take
        ((vanity ++ middle ++ sealBytes).length - extraSealEd25519)).drop extraVanity = middle := by
  have hlen : (vanity ++ middle ++ sealBytes).length - extraSealEd25519 =
      (vanity ++ middle).length := by
    simp only [List.length_append, hs]
    omega
  rw [hlen, List.take_left' rfl, List.drop_left' hv]

/-- `Seal` replaces the placeholder at the end of a laid-out `Extra`. -/
theorem sealExtra_layout {placeholder : List UInt8}
    (hp : placeholder.length = extraSealEd25519) :
    sealExtra (vanity ++ middle ++ placeholder) sealBytes = vanity ++ middle ++ sealBytes := by
  have hlen : (vanity ++ middle ++ placeholder).length - extraSealEd25519 =
      (vanity ++ middle).length := by
    simp only [List.length_append, hp]
    omega
  rw [sealExtra, hlen, List.take_left' rfl]

theorem length_layout_ge (hv : vanity.length = extraVanity)
    (hs : sealBytes.length = extraSealEd25519) :
    ¬(vanity ++ middle ++ sealBytes).length < extraVanity + extraSealEd25519 := by
  simp only [List.length_append, hv, hs]
  omega

theorem decodeQCBytes_of_decode {decodeQC : List UInt8 → Option CheckpointQC}
    {qcBytes : List UInt8} {qc : CheckpointQC} (hne : qcBytes ≠ [])
    (h : decodeQC qcBytes = some qc) : decodeQCBytes decodeQC qcBytes = .ok (some qc) := by
  unfold decodeQCBytes
  rw [if_neg (by simpa using hne), h]

/-- The epoch layout with checkpoint finality parses to its QC bytes. -/
theorem parseCheckpointQCFromExtra_epoch {decodeQC : List UInt8 → Option CheckpointQC}
    (hv : vanity.length = extraVanity) (hs : sealBytes.length = extraSealEd25519) {n : ℕ}
    {valBytes qcBytes : List UInt8} (hn : n < 256) (hval : valBytes.length = n * addressLength) :
    parseCheckpointQCFromExtra decodeQC
        (vanity ++ ((UInt8.ofNat n :: valBytes) ++ qcBytes) ++ sealBytes) true true =
      decodeQCBytes decodeQC qcBytes := by
  unfold parseCheckpointQCFromExtra
  rw [if_neg (length_layout_ge hv hs)]
  dsimp only
  rw [middle_of_layout hv hs]
  have hcount : (UInt8.ofNat n).toNat = n := by simp [Nat.mod_eq_of_lt hn]
  simp only [Bool.and_self, if_true, List.cons_append, hcount]
  -- the count byte and the validator addresses are skipped
  rw [if_neg (by simp only [List.length_cons, List.length_append, hval]; omega),
    show 1 + n * addressLength = (valBytes.length + 1) by omega,
    List.drop_succ_cons, List.drop_left' rfl]

/-- Outside epochs, with checkpoint finality, the middle is the QC bytes. -/
theorem parseCheckpointQCFromExtra_nonEpoch {decodeQC : List UInt8 → Option CheckpointQC}
    (hv : vanity.length = extraVanity) (hs : sealBytes.length = extraSealEd25519) :
    parseCheckpointQCFromExtra decodeQC (vanity ++ middle ++ sealBytes) false true =
      decodeQCBytes decodeQC middle := by
  unfold parseCheckpointQCFromExtra
  rw [if_neg (length_layout_ge hv hs)]
  dsimp only
  rw [middle_of_layout hv hs]
  simp

/-- The epoch layout with a positive validator count passes the shape checks. -/
theorem verifyHeaderExtraShape_epoch {cfg : DPoSConfig} {number : ℕ}
    (hv : vanity.length = extraVanity) (hs : sealBytes.length = extraSealEd25519) {n : ℕ}
    {valBytes qcBytes : List UInt8} (hn0 : 0 < n) (hn : n < 256)
    (hval : valBytes.length = n * addressLength) (hnum : number ≠ 0)
    (hep : number % cfg.epoch = 0) (hcf : cfg.isCheckpointFinality number = true) :
    verifyHeaderExtraShape cfg number
      (vanity ++ ((UInt8.ofNat n :: valBytes) ++ qcBytes) ++ sealBytes) = .ok () := by
  unfold verifyHeaderExtraShape
  rw [if_neg hnum, if_neg (length_layout_ge hv hs)]
  dsimp only
  rw [middle_of_layout hv hs, if_pos ⟨hep, hcf⟩]
  have hcount : (UInt8.ofNat n).toNat = n := by simp [Nat.mod_eq_of_lt hn]
  simp only [List.cons_append, hcount]
  rw [if_neg (by simp only [List.length_cons, List.length_append, hval]; omega),
    if_neg (by omega)]

/-- Outside epochs, with checkpoint finality active, any middle passes the shape checks. -/
theorem verifyHeaderExtraShape_nonEpoch {cfg : DPoSConfig} {number : ℕ}
    (hv : vanity.length = extraVanity) (hs : sealBytes.length = extraSealEd25519)
    (hnum : number ≠ 0) (hep : number % cfg.epoch ≠ 0)
    (hcf : cfg.isCheckpointFinality number = true) :
    verifyHeaderExtraShape cfg number (vanity ++ middle ++ sealBytes) = .ok () := by
  unfold verifyHeaderExtraShape
  rw [if_neg hnum, if_neg (length_layout_ge hv hs)]
  simp [hep, hcf]

/-- **The sealed `Extra` of an assembled block reads back.** Either layout `FinalizeAndAssemble`
builds, with its seal placeholder replaced by a seal of the right length, passes the shape checks
and parses to the QC its bytes decode to. -/
theorem sealExtra_shape_parse {cfg : DPoSConfig} {ae : AssembleEnv}
    {decodeQC : List UInt8 → Option CheckpointQC} {number : ℕ} {qcBytes extra' : List UInt8}
    {qc : CheckpointQC} (hv : vanity.length = extraVanity) (hs : sealBytes.length = extraSealEd25519)
    (hvalidators : ∀ p vs, (ae.activeValidatorsAtRoot p = .ok vs ∨
      ae.fallbackValidatorsFromHeader p = .ok vs) → vs.length ≤ cfg.maxValidators)
    (hmax : cfg.maxValidators ≤ 64) (hnum : number ≠ 0)
    (hcf : cfg.isCheckpointFinality number = true) (hne : qcBytes ≠ [])
    (hdecode : decodeQC qcBytes = some qc)
    (hlayout : (number % cfg.epoch = 0 ∧ ∃ parent validators,
          0 < validators.length ∧
          (ae.activeValidatorsAtRoot parent = .ok validators ∨
            ae.fallbackValidatorsFromHeader parent = .ok validators) ∧
          extra' = vanity ++ ((UInt8.ofNat validators.length :: validators.flatMap addressBytes) ++
            qcBytes) ++ List.replicate extraSealEd25519 0) ∨
        (number % cfg.epoch ≠ 0 ∧
          extra' = vanity ++ qcBytes ++ List.replicate extraSealEd25519 0)) :
    verifyHeaderExtraShape cfg number (sealExtra extra' sealBytes) = .ok () ∧
      parseCheckpointQCFromExtra decodeQC (sealExtra extra' sealBytes) (number % cfg.epoch == 0)
        true = .ok (some qc) := by
  have hplace : (List.replicate extraSealEd25519 (0 : UInt8)).length = extraSealEd25519 :=
    List.length_replicate
  rcases hlayout with ⟨hep, parent, validators, hvpos, hsrc, rfl⟩ | ⟨hep, rfl⟩
  · -- the epoch layout: count byte, validator addresses, QC bytes
    have hvlen := hvalidators parent validators hsrc
    have hvbytes : (validators.flatMap addressBytes).length =
        validators.length * addressLength := by
      simp [List.length_flatMap, Nat.mul_comm]
    rw [sealExtra_layout hplace, show (number % cfg.epoch == 0) = true by simp [hep]]
    refine ⟨verifyHeaderExtraShape_epoch hv hs hvpos (by omega) hvbytes hnum hep hcf, ?_⟩
    rw [parseCheckpointQCFromExtra_epoch hv hs (by omega) hvbytes]
    exact decodeQCBytes_of_decode hne hdecode
  · -- the other layout: the QC bytes alone
    rw [sealExtra_layout hplace, show (number % cfg.epoch == 0) = false by simp [hep]]
    refine ⟨verifyHeaderExtraShape_nonEpoch hv hs hnum hep hcf, ?_⟩
    rw [parseCheckpointQCFromExtra_nonEpoch hv hs]
    exact decodeQCBytes_of_decode hne hdecode

end Layout

/-! ## Agreement -/

/-- The verifier's walk from the parent reaches the checkpoint header the assembler's walk from
the block reached. -/
theorem exists_parent_of_walkBack {getHeader : Hash → ℕ → Option Header}
    (hchain : ∀ h n hd, getHeader h n = some hd → hd.number = n) {candidate : ℕ}
    {header cpHeader : Header} (hlt : candidate < header.number)
    (hwalk : walkBack getHeader candidate header.number (some header) = some cpHeader) :
    ∃ parent, getHeader header.parentHash (header.number - 1) = some parent ∧
      walkBack getHeader candidate parent.number (some parent) = some cpHeader := by
  obtain ⟨m, hm⟩ : ∃ m, header.number = m + 1 := ⟨header.number - 1, by omega⟩
  rw [hm, walkBack_succ_of_lt (by omega), hm, Nat.add_sub_cancel] at hwalk
  rw [hm, Nat.add_sub_cancel]
  cases hpar : getHeader header.parentHash m with
  | none =>
    rw [hpar, walkBack_none] at hwalk
    cases hwalk
  | some parent =>
    refine ⟨parent, rfl, ?_⟩
    rw [hchain _ _ _ hpar]
    rw [hpar] at hwalk
    exact hwalk

/-- A strictly increasing list of indices below `n` has at most `n` entries. -/
theorem length_le_of_pairwise_lt {idxs : List ℕ} {n : ℕ} (hsorted : idxs.Pairwise (· < ·))
    (hlt : ∀ i ∈ idxs, i < n) : idxs.length ≤ n := by
  have hnodup : idxs.Nodup := hsorted.imp ne_of_lt
  calc idxs.length = idxs.toFinset.card := (List.toFinset_card_of_nodup hnodup).symm
    _ ≤ (Finset.range n).card :=
      Finset.card_le_card fun i hi => Finset.mem_range.2 (hlt i (List.mem_toFinset.1 hi))
    _ = n := Finset.card_range n

/-- **Checkpoint QC assembler/verifier agreement.** Take a vote pool after any run of operations,
and a block `header` whose parent snapshot is `snap`. Suppose `assembleCheckpointQC` returns a QC,
its RLP encoding succeeds, `FinalizeAndAssemble` builds `Extra`, and `Seal` writes a seal of the
right length. Then the sealed header passes `verifyHeader`'s `Extra` checks,
`parseCheckpointQCFromExtra` returns the same QC, `verifyCheckpointQCStructure` accepts it, and
`verifyCheckpointQCFull` against the same chain and snapshot accepts it and stages its
finality.

What the proof takes from outside the modelled code: RLP decoding inverts the encoding of a QC
that carries a chain ID, and such an encoding is never empty; the chain returns headers of the number asked for; a pre-state signer
set is non-empty, ed25519 and at most `MaxValidators` long (`loadSignerSet` and the validator
cap); validator lists for epoch headers are at most `MaxValidators` long; `MaxValidators ≤ 64`
(`ValidateCheckpointConfig`); the chain has an ID; and the engine is not the test faker. -/
theorem checkpointQC_assembler_verifier_agree (cfg : DPoSConfig) (env : QCEnv)
    (ae : AssembleEnv) (ops : List PoolOp) (header : Header) (snap : Snapshot) (qc : CheckpointQC)
    (qcBytes extra' sealBytes : List UInt8) (pool' : Option CheckpointVotePool)
    (hrlp : ∀ q b, q.vote.chainID.isSome → ae.encodeQC q = some b → env.decodeQC b = some q ∧ b ≠ [])
    (hchain : ∀ h n hd, env.getHeader h n = some hd → hd.number = n)
    (hsigners : ∀ s rs, env.buildSignerSet s = .ok rs →
      0 < rs.length ∧ rs.length ≤ cfg.maxValidators ∧ ∀ r ∈ rs, r.signerType = signerTypeEd25519)
    (hvalidators : ∀ p vs, (ae.activeValidatorsAtRoot p = .ok vs ∨
      ae.fallbackValidatorsFromHeader p = .ok vs) → vs.length ≤ cfg.maxValidators)
    (hmax : cfg.maxValidators ≤ 64) (hchainID : env.chainID.isSome = true)
    (hfake : ae.fakeDiff = false)
    (hsnap : env.snapshot (header.number - 1) header.parentHash = some snap)
    (hqc : (assembleCheckpointQC cfg env (some (runPoolOps ops newCheckpointVotePool)) header
      snap).1 = some qc)
    (henc : ae.encodeQC qc = some qcBytes)
    (hfaa : finalizeAndAssembleExtra cfg env ae (some (runPoolOps ops newCheckpointVotePool))
      header = .ok (extra', pool'))
    (hseal : sealBytes.length = extraSealEd25519) :
    let sealed : Header := { header with extra := sealExtra extra' sealBytes }
    verifyHeaderExtraShape cfg sealed.number sealed.extra = .ok () ∧
      parseCheckpointQCFromExtra env.decodeQC sealed.extra (sealed.number % cfg.epoch == 0) true =
        .ok (some qc) ∧
      verifyCheckpointQCStructure cfg env sealed = .ok () ∧
      verifyCheckpointQCFull cfg env sealed snap =
        .ok (some ⟨env.headerHash sealed, qc.vote.number, qc.vote.hash,
          qc.vote.validatorSetHash⟩) := by
  intro sealed
  have hp : PoolInv (runPoolOps ops newCheckpointVotePool) := PoolInv.new.runPoolOps ops
  -- what the assembler did
  obtain ⟨candidate, cpHeader, preSnap, records, pool'', hcand, hcp, hpre, hrec, hcollect, -⟩ :=
    assembleCheckpointQC_eq_some (Prod.ext hqc rfl)
  obtain ⟨hvote, idxs, hsorted, hbitmap, hsigned, hquorum, -⟩ := hp.collectQC_eq_some hcollect
  obtain ⟨act, hact, hk, hfirst, hmul, hlt, hgap, hfin, hactlt⟩ := checkpointCandidate_eq_some hcand
  obtain ⟨hcpnum, hwalk⟩ := checkpointHeader_eq_some hcp
  obtain ⟨hNpos, hNmax, htypes⟩ := hsigners preSnap records hrec
  have hcf : cfg.isCheckpointFinality header.number = true := by
    simp only [DPoSConfig.isCheckpointFinality, hact, decide_eq_true_eq]
    omega
  -- the signer indices of the QC: strictly increasing, below `N ≤ 64`, one per signature
  have hidx : ∀ i ∈ idxs, i < records.length := fun i hi =>
    (exists_of_forall₂_of_mem hsigned hi).elim fun _ h => h.1
  have hsetBits : Bitmap.setBits qc.bitmap = idxs := by
    rw [hbitmap]
    exact Bitmap.setBits_ofIndices hsorted fun i hi => by have := hidx i hi; omega
  have hlen : idxs.length = qc.signatures.length := hsigned.length_eq
  have hindices : qcSignerIndices qc = idxs := by
    rw [qcSignerIndices, hsetBits, ← hlen, List.take_length]
  have hpop : Bitmap.onesCount qc.bitmap = qc.signatures.length := by
    rw [← Bitmap.length_setBits, hsetBits, hlen]
  have hcount : idxs.length ≤ records.length := length_le_of_pairwise_lt hsorted hidx
  have hquorum1 : 0 < (2 * records.length + 2) / 3 := by omega
  -- the bytes `FinalizeAndAssemble` embedded, read back
  obtain ⟨hdecode, hne⟩ := hrlp qc qcBytes (by rw [hvote]; exact hchainID) henc
  obtain ⟨vanity, hvan, hlayout⟩ := finalizeAndAssembleExtra_of_qc hfaa hfake hcf hsnap hqc henc
  have hnum : header.number ≠ 0 := by omega
  have hshape_parse :
      verifyHeaderExtraShape cfg sealed.number sealed.extra = .ok () ∧
        parseCheckpointQCFromExtra env.decodeQC sealed.extra (sealed.number % cfg.epoch == 0)
          true = .ok (some qc) :=
    sealExtra_shape_parse hvan hseal hvalidators hmax hnum hcf hne hdecode hlayout
  obtain ⟨hshape, hparse⟩ := hshape_parse
  obtain ⟨chainID, hchainID'⟩ := Option.isSome_iff_exists.1 hchainID
  obtain ⟨parent, hparent, hpwalk⟩ := exists_parent_of_walkBack hchain hlt hwalk
  refine ⟨hshape, hparse, ?_, ?_⟩
  · -- Phase 1
    refine verifyCheckpointQCStructure_eq_ok_of hcf hparse hk ?_ ?_ ?_ ?_
      (by rw [hvote]; exact hchainID') hchainID' (by omega) (by omega) hpop.symm
    · rw [hvote, hact]
      exact hfirst
    · rw [hvote]
      exact hmul
    · rw [hvote]
      exact hlt
    · rw [hvote]
      show header.number - candidate ≤ _
      omega
  · -- Phase 2: the same ancestor, pre-state and signer set, and every signature verifies
    have hsignedBy : List.Forall₂ (SignedBy env.verify records (env.signingHash qc.vote))
        (qcSignerIndices qc) qc.signatures := by
      rw [hindices]
      refine hsigned.imp fun i sig ⟨hi, hver⟩ => ⟨hi, htypes _ (List.getElem_mem hi), hver⟩
    refine verifyCheckpointQCFull_eq_stage hcf hparse hparent (by rw [hvote]; exact hpwalk)
      (by rw [hvote]; exact hcpnum) (by rw [hvote]) (by rw [hvote]; show candidate ≠ 0; omega)
      (by rw [hvote]; exact hpre) hrec (by rw [hvote]) (verifyCheckpointQCQuorum_of_forall₂ hsignedBy
        (by omega)) (by rw [hvote]; exact hfin)

/-- One validator, one vote for checkpoint `1` in the pool: block `2` embeds its QC after the
vanity, and the sealed block passes all four checks. -/
theorem checkpointQC_assembler_verifier_agree_single :
    let qc : CheckpointQC := ⟨⟨some 1, 1, 0, 0⟩, 1, [0]⟩
    let cfg : DPoSConfig := ⟨1000, 1, some 0, 1⟩
    let env : QCEnv := ⟨some 1, fun h n => some ⟨n, h, []⟩, fun _ => 0, fun _ _ => some ⟨0, 0⟩,
      fun _ => .ok [⟨0, signerTypeEd25519, []⟩], fun _ => 0, fun _ => 0, fun _ _ _ => true,
      fun b => if b = [1] then some qc else none⟩
    let ae : AssembleEnv := ⟨false, fun _ _ => none, fun _ => .error "", fun _ => .error "",
      fun q => if q = qc then some [1] else none⟩
    let ops := [PoolOp.addVote ⟨⟨some 1, 1, 0, 0⟩, 0, 0⟩]
    let header : Header := ⟨2, 1, List.replicate extraVanity 0⟩
    let extra' := List.replicate extraVanity 0 ++ [1] ++ List.replicate extraSealEd25519 0
    let sealed : Header := { header with extra := sealExtra extra' (List.replicate 96 0) }
    (assembleCheckpointQC cfg env (some (runPoolOps ops newCheckpointVotePool)) header
        ⟨0, 0⟩).1 = some qc ∧
      (finalizeAndAssembleExtra cfg env ae (some (runPoolOps ops newCheckpointVotePool))
        header).map Prod.fst = .ok extra' ∧
      verifyHeaderExtraShape cfg sealed.number sealed.extra = .ok () ∧
      parseCheckpointQCFromExtra env.decodeQC sealed.extra (sealed.number % cfg.epoch == 0) true =
        .ok (some qc) ∧
      verifyCheckpointQCStructure cfg env sealed = .ok () ∧
      verifyCheckpointQCFull cfg env sealed ⟨0, 0⟩ =
        .ok (some ⟨env.headerHash sealed, qc.vote.number, qc.vote.hash,
          qc.vote.validatorSetHash⟩) := by
  intro qc cfg env ae ops header extra' sealed
  have hrlp : ∀ q b, q.vote.chainID.isSome → ae.encodeQC q = some b →
      env.decodeQC b = some q ∧ b ≠ [] := by
    intro q b _ h
    by_cases hq : q = qc
    · subst hq
      simp only [ae, if_true, Option.some.injEq] at h
      subst h
      exact ⟨by simp [env], List.cons_ne_nil _ _⟩
    · simp [ae, hq] at h
  have hsigners : ∀ s rs, env.buildSignerSet s = .ok rs →
      0 < rs.length ∧ rs.length ≤ cfg.maxValidators ∧
        ∀ r ∈ rs, r.signerType = signerTypeEd25519 := by
    intro s rs h
    cases h
    simp [cfg]
  have hvalidators : ∀ p vs, (ae.activeValidatorsAtRoot p = .ok vs ∨
      ae.fallbackValidatorsFromHeader p = .ok vs) → vs.length ≤ cfg.maxValidators := by
    rintro p vs (h | h) <;> cases h
  -- the assembler's run, evaluated by the kernel (the vote sort is well-founded recursion)
  have hqc : (assembleCheckpointQC cfg env (some (runPoolOps ops newCheckpointVotePool)) header
      ⟨0, 0⟩).1 = some qc := by
    decide +kernel
  have hfaa : finalizeAndAssembleExtra cfg env ae (some (runPoolOps ops newCheckpointVotePool))
      header = .ok (extra', (assembleCheckpointQC cfg env
        (some (runPoolOps ops newCheckpointVotePool)) header ⟨0, 0⟩).2) := by
    have hsnap : env.snapshot (header.number - 1) header.parentHash = some ⟨0, 0⟩ := rfl
    have henc : ae.encodeQC qc = some [1] := by simp [ae]
    simp only [finalizeAndAssembleExtra, assembleQCBytes, hsnap, hqc]
    rw [if_neg (by decide), if_pos (by decide)]
    simp only [Option.bind_some, henc]
    rw [if_neg (by decide)]
    rfl
  refine ⟨hqc, by rw [hfaa]; rfl, ?_⟩
  exact checkpointQC_assembler_verifier_agree cfg env ae ops header ⟨0, 0⟩ qc [1] extra'
    (List.replicate 96 0) _ hrlp (fun _ _ _ h => by cases h; rfl) hsigners hvalidators
    (by decide) rfl rfl rfl hqc (by simp [ae]) hfaa rfl

/-! ## More than 64 signers -/

/-- **A signer index of 64 or more is lost.** `bitmap |= 1 << uint(v.idx)` shifts the bit of an
index at or above 64 out of the `uint64`, so a QC packed from such a vote has fewer set bits than
signatures, and `verifyCheckpointQCStructure` rejects every header that carries it. The assembler
packs one vote per admitted signer, at the signer's index in the signer set, and that set has more
than 64 members when the genesis validators do: `parseGenesisValidators` bounds nothing. -/
theorem packQC_drops_signer_index_64 (cfg : DPoSConfig) (env : QCEnv) (vote : CheckpointVote)
    (validVotes : List ValidVote) (hhigh : ∃ v ∈ validVotes, 64 ≤ v.idx) :
    Bitmap.onesCount (packQC vote validVotes).bitmap < (packQC vote validVotes).signatures.length ∧
      ∀ header : Header, cfg.isCheckpointFinality header.number = true →
        parseCheckpointQCFromExtra env.decodeQC header.extra (header.number % cfg.epoch == 0) true =
          .ok (some (packQC vote validVotes)) →
        verifyCheckpointQCStructure cfg env header ≠ .ok () := by
  obtain ⟨v, hv, h64⟩ := hhigh
  have hlt : Bitmap.onesCount (packQC vote validVotes).bitmap <
      (packQC vote validVotes).signatures.length := by
    have h := Bitmap.onesCount_ofIndices_lt (w := 64) (List.mem_map_of_mem (f := ValidVote.idx) hv) h64
    simpa [packQC] using h
  exact ⟨hlt, fun header hcf hparse =>
    verifyCheckpointQCStructure_ne_ok_of_count hcf hparse (Nat.ne_of_gt hlt)⟩

theorem packQC_drops_signer_index_64_single :
    (∃ v ∈ [(⟨64, 0⟩ : ValidVote)], 64 ≤ v.idx) ∧
      Bitmap.onesCount (packQC ⟨some 1, 1, 0, 0⟩ [⟨64, 0⟩]).bitmap <
        (packQC ⟨some 1, 1, 0, 0⟩ [⟨64, 0⟩]).signatures.length :=
  ⟨⟨_, List.mem_singleton_self _, le_rfl⟩,
    (packQC_drops_signer_index_64 ⟨1000, 1, some 0, 1⟩
      ⟨some 1, fun _ _ => none, fun _ => 0, fun _ _ => none, fun _ => .error "", fun _ => 0,
        fun _ => 0, fun _ _ _ => true, fun _ => none⟩
      ⟨some 1, 1, 0, 0⟩ [⟨64, 0⟩] ⟨_, List.mem_singleton_self _, le_rfl⟩).1⟩

end Gtos.Dpos
