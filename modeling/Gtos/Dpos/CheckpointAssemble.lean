import Gtos.Dpos.CheckpointQC

/-! # Assembling checkpoint quorum certificates (`assembleCheckpointQC`, `consensus/dpos/dpos.go`)

A block producer embeds a QC for the latest unfinalized checkpoint before its block when its vote
pool holds a quorum of valid votes for it. `assembleCheckpointQC` picks the candidate checkpoint,
finds it among the block's ancestors, loads the signer set of its pre-state, promotes the pending
votes for it into the pool, collects the valid votes, and packs them by signer index into a
bitmap and a list of signatures.

* **`checkpointCandidate`**, **`checkpointHeader`**, **`collectQC`** — the candidate arithmetic, the
  ancestor walk and the pool part of `assembleCheckpointQC` (`assembleCheckpointQC_eq_some`).
* **`PoolInv.collectQC_eq_some`** — from a pool that satisfies the uniqueness invariant, the QC's
  signatures belong to strictly increasing, hence distinct, signer indices, each signature
  verified against the key of its signer; and the pool keeps the invariant.
-/

namespace Gtos.Dpos

/-- `validVote`: a verified vote, by its signer's ordered index. -/
structure ValidVote where
  /-- `idx`: the signer's index in the ordered signer set. -/
  idx : ℕ
  /-- `sig`: the vote's signature. -/
  sig : Signature
  deriving DecidableEq, Repr

/-- `addrIdx`: `addrIdx[r.Address] = i` for the records in order. -/
def addrIndex (records : List ValidatorSigner) : AList fun _ : Address => ℕ :=
  records.zipIdx.foldl (fun m ri => m.insert ri.1.address ri.2) ∅

/-- The test both vote loops of `assembleCheckpointQC` apply: the signer's index, when the signer
is in the set and its key verifies the vote's signature over `signingHash`. -/
def admittedIndex (verify : List UInt8 → Hash → Signature → Bool) (records : List ValidatorSigner)
    (addrIdx : AList fun _ : Address => ℕ) (signingHash : Hash) (env : CheckpointVoteEnvelope) :
    Option ℕ :=
  match addrIdx.lookup env.signer with
  | none => none
  | some idx => if verify records[idx]!.signerPub signingHash env.signature then some idx else none

/-- One iteration of the promotion loop: a drained pending vote for this validator set whose
signer verifies goes through `AddVote`. -/
def promoteStep (verify : List UInt8 → Hash → Signature → Bool) (records : List ValidatorSigner)
    (addrIdx : AList fun _ : Address => ℕ) (vsHash signingHash : Hash) (pool : CheckpointVotePool)
    (env : CheckpointVoteEnvelope) : CheckpointVotePool :=
  if env.vote.validatorSetHash ≠ vsHash then pool
  else
    match admittedIndex verify records addrIdx signingHash env with
    | none => pool
    | some _ => (pool.addVote env).1

/-- The promotion loop over the votes `DrainPending` returned. -/
def promotePending (verify : List UInt8 → Hash → Signature → Bool) (records : List ValidatorSigner)
    (addrIdx : AList fun _ : Address => ℕ) (vsHash signingHash : Hash) (pool : CheckpointVotePool)
    (pendingVotes : List CheckpointVoteEnvelope) : CheckpointVotePool :=
  pendingVotes.foldl (promoteStep verify records addrIdx vsHash signingHash) pool

/-- The collection loop over `GetVotes`: the admitted votes, in the order returned. -/
def collectValidVotes (verify : List UInt8 → Hash → Signature → Bool)
    (records : List ValidatorSigner) (addrIdx : AList fun _ : Address => ℕ) (signingHash : Hash)
    (votes : List CheckpointVoteEnvelope) : List ValidVote :=
  votes.filterMap fun env =>
    (admittedIndex verify records addrIdx signingHash env).map fun idx => ⟨idx, env.signature⟩

/-- `sort.Slice(validVotes, … idx < idx …)`. -/
def sortValidVotes (validVotes : List ValidVote) : List ValidVote :=
  validVotes.mergeSort fun a b => decide (a.idx ≤ b.idx)

/-- The QC of sorted valid votes: `bitmap |= 1 << idx` and the signatures in order. -/
def packQC (vote : CheckpointVote) (validVotes : List ValidVote) : CheckpointQC :=
  ⟨vote, Bitmap.ofIndices (validVotes.map (·.idx)), validVotes.map (·.sig)⟩

/-- The candidate checkpoint for a block at `number`: the largest multiple of
`CheckpointInterval` below it, when that is eligible and above `finalizedNumber`. -/
def checkpointCandidate (cfg : DPoSConfig) (number finalizedNumber : ℕ) : Option ℕ :=
  match cfg.checkpointFinalityBlock with
  | none => none
  | some activationBlock =>
    if cfg.checkpointInterval = 0 then none
    else
      let k := cfg.checkpointInterval
      let firstEligible := firstCheckpointAtOrAfter activationBlock k
      if number ≤ firstEligible then none
      else
        let candidate := (number - 1) / k * k
        if candidate < firstEligible then none
        else if candidate ≤ finalizedNumber then none
        else some candidate

/-- The checkpoint block among the ancestors of `header`: `for h != nil && h.Number > candidate
{ h = GetHeader(h.ParentHash, h.Number-1) }`, kept when it stops at the candidate's height. -/
def checkpointHeader (getHeader : Hash → ℕ → Option Header) (candidate : ℕ) (header : Header) :
    Option Header :=
  match walkBack getHeader candidate header.number (some header) with
  | some h => if h.number = candidate then some h else none
  | none => none

/-- The pool part of `assembleCheckpointQC`, once the signer set `records` of the checkpoint's
pre-state is known: promote the pending votes, collect the valid votes, and pack a QC when they
reach the quorum. -/
def collectQC (env : QCEnv) (records : List ValidatorSigner) (candidate : ℕ) (cpHash : Hash)
    (pool : CheckpointVotePool) : Option CheckpointQC × CheckpointVotePool :=
  let n := records.length
  let quorum := (2 * n + 2) / 3
  let addrIdx := addrIndex records
  let vsHash := env.computeValidatorSetHash records
  let vote : CheckpointVote := ⟨env.chainID, candidate, cpHash, vsHash⟩
  let signingHash := env.signingHash vote
  let drained := pool.drainPending candidate
  let pool := promotePending env.verify records addrIdx vsHash signingHash drained.2 drained.1
  let validVotes :=
    collectValidVotes env.verify records addrIdx signingHash (pool.getVotes candidate cpHash)
  if validVotes.length < quorum then (none, pool)
  else (some (packQC vote (sortValidVotes validVotes)), pool)

/-- `assembleCheckpointQC`: the QC to embed in `header`, if any, and the vote pool after the
pending votes were promoted. The source never returns an error. The ancestor walk has
`header.Number` steps of fuel, enough on a chain whose lookups return headers of the number asked
for. -/
def assembleCheckpointQC (cfg : DPoSConfig) (env : QCEnv) (votePool : Option CheckpointVotePool)
    (header : Header) (snap : Snapshot) : Option CheckpointQC × Option CheckpointVotePool :=
  match votePool with
  | none => (none, none)
  | some pool =>
    match checkpointCandidate cfg header.number snap.finalizedNumber with
    | none => (none, some pool)
    | some candidate =>
      match checkpointHeader env.getHeader candidate header with
      | none => (none, some pool)
      | some cpHeader =>
        match env.snapshot (candidate - 1) cpHeader.parentHash with
        | none => (none, some pool)
        | some preSnap =>
          match env.buildSignerSet preSnap with
          | .error _ => (none, some pool)
          | .ok records =>
            let r := collectQC env records candidate (env.headerHash cpHeader) pool
            (r.1, some r.2)

/-! ## The steps of the assembler -/

/-- **The candidate checkpoint**: a multiple of the interval, at least the first eligible
checkpoint, above the finalized number, below the block by at most one interval, with checkpoint
finality active at the block. -/
theorem checkpointCandidate_eq_some {cfg : DPoSConfig} {number finalizedNumber candidate : ℕ}
    (h : checkpointCandidate cfg number finalizedNumber = some candidate) :
    ∃ activationBlock, cfg.checkpointFinalityBlock = some activationBlock ∧
      0 < cfg.checkpointInterval ∧
      firstCheckpointAtOrAfter activationBlock cfg.checkpointInterval ≤ candidate ∧
      candidate % cfg.checkpointInterval = 0 ∧ candidate < number ∧
      number - candidate ≤ cfg.checkpointInterval ∧ finalizedNumber < candidate ∧
      activationBlock < number := by
  unfold checkpointCandidate at h
  split at h
  · cases h
  · rename_i activationBlock hact
    dsimp only at h
    split_ifs at h with hk hle hlt hfin
    obtain rfl := Option.some.inj h
    have hfirst := le_firstCheckpointAtOrAfter activationBlock cfg.checkpointInterval
    -- `number - 1` splits into the candidate and a remainder below the interval
    have hsplit := Nat.mod_add_div' (number - 1) cfg.checkpointInterval
    have hmod := Nat.mod_lt (number - 1) (Nat.pos_of_ne_zero hk)
    have hmul : (number - 1) / cfg.checkpointInterval * cfg.checkpointInterval %
        cfg.checkpointInterval = 0 := Nat.mul_mod_left _ _
    generalize (number - 1) / cfg.checkpointInterval * cfg.checkpointInterval = c at *
    exact ⟨activationBlock, hact, Nat.pos_of_ne_zero hk, by omega, hmul, by omega, by omega,
      by omega, by omega⟩

/-- The checkpoint header is where the ancestor walk from the block stops, at the candidate's
height. -/
theorem checkpointHeader_eq_some {getHeader : Hash → ℕ → Option Header} {candidate : ℕ}
    {header cpHeader : Header} (h : checkpointHeader getHeader candidate header = some cpHeader) :
    cpHeader.number = candidate ∧
      walkBack getHeader candidate header.number (some header) = some cpHeader := by
  unfold checkpointHeader at h
  split at h
  · rename_i hwalk
    split_ifs at h with hnum
    obtain rfl := Option.some.inj h
    exact ⟨hnum, hwalk⟩
  · cases h

section Steps

variable {verify : List UInt8 → Hash → Signature → Bool} {records : List ValidatorSigner}
  {signingHash : Hash}

/-- Every index of `addrIdx` is a position of `records` holding that address. -/
theorem lookup_addrIndex {a : Address} {i : ℕ} (h : (addrIndex records).lookup a = some i) :
    ∃ hi : i < records.length, records[i].address = a := by
  rcases AList.lookup_foldl_insert h with ⟨⟨r, j⟩, hmem, hra, rfl⟩ | hnone
  · have hget := List.mem_zipIdx_iff_getElem?.1 hmem
    obtain ⟨hj, hrj⟩ := List.getElem?_eq_some_iff.1 hget
    exact ⟨hj, by rw [hrj]; exact hra⟩
  · cases hnone

/-- An admitted vote names the signer at its index, whose key verifies its signature. -/
theorem admittedIndex_eq_some {env : CheckpointVoteEnvelope} {i : ℕ}
    (h : admittedIndex verify records (addrIndex records) signingHash env = some i) :
    ∃ hi : i < records.length, records[i].address = env.signer ∧
      verify records[i].signerPub signingHash env.signature = true := by
  unfold admittedIndex at h
  split at h
  · cases h
  · rename_i idx hidx
    split_ifs at h with hver
    cases h
    obtain ⟨hi, haddr⟩ := lookup_addrIndex hidx
    rw [List.getElem!_eq_getElem?_getD, List.getElem?_eq_getElem hi, Option.getD_some] at hver
    exact ⟨hi, haddr, hver⟩

/-- A collected vote carries the index of a signer whose key verifies its signature. -/
theorem mem_collectValidVotes {votes : List CheckpointVoteEnvelope} {v : ValidVote}
    (hv : v ∈ collectValidVotes verify records (addrIndex records) signingHash votes) :
    ∃ hi : v.idx < records.length, verify records[v.idx].signerPub signingHash v.sig = true := by
  obtain ⟨env, -, henv⟩ := List.mem_filterMap.1 hv
  obtain ⟨i, hi, rfl⟩ := Option.map_eq_some_iff.1 henv
  obtain ⟨hlt, -, hver⟩ := admittedIndex_eq_some hi
  exact ⟨hlt, hver⟩

/-- **Distinct signers give distinct indices.** Votes of pairwise distinct signers are collected
under pairwise distinct indices. -/
theorem nodup_idx_collectValidVotes {votes : List CheckpointVoteEnvelope}
    (hvotes : (votes.map (·.signer)).Nodup) :
    ((collectValidVotes verify records (addrIndex records) signingHash votes).map (·.idx)).Nodup := by
  rw [List.Nodup, List.pairwise_map, collectValidVotes, List.pairwise_filterMap]
  rw [List.Nodup, List.pairwise_map] at hvotes
  refine hvotes.imp fun {e₁ e₂} hne => ?_
  intro v₁ hv₁ v₂ hv₂ hidx
  obtain ⟨i₁, hi₁, rfl⟩ := Option.map_eq_some_iff.1 hv₁
  obtain ⟨i₂, hi₂, rfl⟩ := Option.map_eq_some_iff.1 hv₂
  obtain ⟨hlt₁, ha₁, -⟩ := admittedIndex_eq_some hi₁
  obtain ⟨hlt₂, ha₂, -⟩ := admittedIndex_eq_some hi₂
  -- both signers are the address at the common index
  simp only at hidx
  subst hidx
  exact hne (ha₁.symm.trans ha₂)

end Steps

theorem PoolInv.promoteStep {p : CheckpointVotePool} (hp : PoolInv p)
    (verify : List UInt8 → Hash → Signature → Bool) (records : List ValidatorSigner)
    (addrIdx : AList fun _ : Address => ℕ) (vsHash signingHash : Hash)
    (env : CheckpointVoteEnvelope) :
    PoolInv (Dpos.promoteStep verify records addrIdx vsHash signingHash p env) := by
  unfold Dpos.promoteStep
  split_ifs
  · exact hp
  · split
    · exact hp
    · exact hp.addVote env

/-- Promoting pending votes keeps the pool invariant. -/
theorem PoolInv.promotePending {p : CheckpointVotePool} (hp : PoolInv p)
    (verify : List UInt8 → Hash → Signature → Bool) (records : List ValidatorSigner)
    (addrIdx : AList fun _ : Address => ℕ) (vsHash signingHash : Hash)
    (pendingVotes : List CheckpointVoteEnvelope) :
    PoolInv (Dpos.promotePending verify records addrIdx vsHash signingHash p pendingVotes) := by
  induction pendingVotes generalizing p with
  | nil => exact hp
  | cons env pendingVotes ih =>
    exact ih (hp.promoteStep verify records addrIdx vsHash signingHash env)

/-- **The QC the pool part packs.** From a pool satisfying the uniqueness invariant, a packed QC
certifies the vote `(ChainID, candidate, cpHash, ValidatorSetHash(records))`; its bitmap is that
of a strictly increasing list of signer indices, one per signature, each signature verified
against the key of its signer; there are at least `(2N + 2) / 3` of them; and the pool keeps the
invariant. -/
theorem PoolInv.collectQC_eq_some {env : QCEnv} {records : List ValidatorSigner} {candidate : ℕ}
    {cpHash : Hash} {pool pool' : CheckpointVotePool} {qc : CheckpointQC} (hp : PoolInv pool)
    (h : collectQC env records candidate cpHash pool = (some qc, pool')) :
    qc.vote = ⟨env.chainID, candidate, cpHash, env.computeValidatorSetHash records⟩ ∧
      ∃ idxs : List ℕ, idxs.Pairwise (· < ·) ∧ qc.bitmap = Bitmap.ofIndices idxs ∧
        List.Forall₂ (fun i sig => ∃ hi : i < records.length,
          env.verify records[i].signerPub (env.signingHash qc.vote) sig = true) idxs qc.signatures ∧
        (2 * records.length + 2) / 3 ≤ idxs.length ∧ PoolInv pool' := by
  unfold collectQC at h
  dsimp only at h
  split_ifs at h with hq
  · simp at h
  obtain ⟨hqc, rfl⟩ := Prod.mk.inj h
  obtain rfl := Option.some.inj hqc
  -- the pool after promotion, and the votes collected from it
  have hp' := (hp.drainPending candidate).promotePending env.verify records (addrIndex records)
    (env.computeValidatorSetHash records)
    (env.signingHash ⟨env.chainID, candidate, cpHash, env.computeValidatorSetHash records⟩)
    (pool.drainPending candidate).1
  set pool₁ := Dpos.promotePending env.verify records (addrIndex records)
    (env.computeValidatorSetHash records)
    (env.signingHash ⟨env.chainID, candidate, cpHash, env.computeValidatorSetHash records⟩)
    (pool.drainPending candidate).2 (pool.drainPending candidate).1
  set vs := collectValidVotes env.verify records (addrIndex records)
    (env.signingHash ⟨env.chainID, candidate, cpHash, env.computeValidatorSetHash records⟩)
    (pool₁.getVotes candidate cpHash)
  have hnodup : (vs.map (·.idx)).Nodup := nodup_idx_collectValidVotes (hp'.nodup_getVotes _ _)
  have hperm : (sortValidVotes vs).Perm vs := List.mergeSort_perm _ _
  refine ⟨rfl, (sortValidVotes vs).map (·.idx), Bitmap.pairwise_lt_map_mergeSort _ hnodup, rfl,
    ?_, ?_, hp'⟩
  · -- every sorted vote was collected, so its signer's key verifies it
    rw [packQC, List.forall₂_map_left_iff, List.forall₂_map_right_iff, List.forall₂_same]
    intro v hv
    exact mem_collectValidVotes (hperm.mem_iff.1 hv)
  · rw [List.length_map, hperm.length_eq]
    omega

/-- **Inversion of the assembler**: a QC comes from the candidate checkpoint, its header among the
block's ancestors, the signer set of its pre-state, and the pool part. -/
theorem assembleCheckpointQC_eq_some {cfg : DPoSConfig} {env : QCEnv}
    {pool : CheckpointVotePool} {header : Header} {snap : Snapshot} {qc : CheckpointQC}
    {pool' : Option CheckpointVotePool}
    (h : assembleCheckpointQC cfg env (some pool) header snap = (some qc, pool')) :
    ∃ candidate cpHeader preSnap records pool'',
      checkpointCandidate cfg header.number snap.finalizedNumber = some candidate ∧
      checkpointHeader env.getHeader candidate header = some cpHeader ∧
      env.snapshot (candidate - 1) cpHeader.parentHash = some preSnap ∧
      env.buildSignerSet preSnap = .ok records ∧
      collectQC env records candidate (env.headerHash cpHeader) pool = (some qc, pool'') ∧
      pool' = some pool'' := by
  unfold assembleCheckpointQC at h
  cases hcand : checkpointCandidate cfg header.number snap.finalizedNumber with
  | none => simp [hcand] at h
  | some candidate =>
    cases hcp : checkpointHeader env.getHeader candidate header with
    | none => simp [hcand, hcp] at h
    | some cpHeader =>
      cases hsnap : env.snapshot (candidate - 1) cpHeader.parentHash with
      | none => simp [hcand, hcp, hsnap] at h
      | some preSnap =>
        cases hrec : env.buildSignerSet preSnap with
        | error e => simp [hcand, hcp, hsnap, hrec] at h
        | ok records =>
          simp only [hcand, hcp, hsnap, hrec, Prod.mk.injEq] at h
          obtain ⟨hqc, rfl⟩ := h
          exact ⟨candidate, cpHeader, preSnap, records, _, rfl, hcp, hsnap, hrec,
            Prod.ext hqc rfl, rfl⟩

/-! ## Uniqueness of votes along every run of the pool -/

/-- **The vote pool's uniqueness invariant.** After any sequence of `AddVote`, `AddPending`,
`DrainPending`, `GetVotes` and `Prune` operations on a new pool: a signer has cached votes under
at most one hash per checkpoint number; a further vote of that signer at that number is ignored
when it has the same hash and only recorded as an equivocation otherwise; at most one hash per
number reaches `Quorum(N)` votes of any `N` eligible signers; and a QC `assembleCheckpointQC`
packs from the pool attributes its signatures one to one to strictly increasing signer indices of
the checkpoint's signer set, each signature verified against its own signer's key. -/
theorem checkpointVotePool_uniqueness (ops : List PoolOp) :
    let p := runPoolOps ops newCheckpointVotePool
    (∀ k₁ k₂ a, (p.voteOf k₁ a).isSome → (p.voteOf k₂ a).isSome → k₁.number = k₂.number →
        k₁.hash = k₂.hash) ∧
    (∀ (env e : CheckpointVoteEnvelope) (h : Hash),
        p.voteOf ⟨env.vote.number, h⟩ env.signer = some e →
        p.addVote env =
          if h = env.vote.hash then (p, false, false) else (p.recordEquivocation env, false, true)) ∧
    (∀ (E : Finset Address) (number : ℕ) (h₁ h₂ : Hash),
        quorum E.card ≤ (p.eligibleVoters E number h₁).card →
        quorum E.card ≤ (p.eligibleVoters E number h₂).card → h₁ = h₂) ∧
    (∀ cfg env header snap qc pool',
        assembleCheckpointQC cfg env (some p) header snap = (some qc, pool') →
        ∃ idxs : List ℕ, idxs.Pairwise (· < ·) ∧ qc.bitmap = Bitmap.ofIndices idxs ∧
          ∃ preSnap records, env.buildSignerSet preSnap = .ok records ∧
            qc.vote.validatorSetHash = env.computeValidatorSetHash records ∧
            List.Forall₂ (fun i sig => ∃ hi : i < records.length,
              env.verify records[i].signerPub (env.signingHash qc.vote) sig = true)
              idxs qc.signatures) := by
  intro p
  have hp : PoolInv p := PoolInv.new.runPoolOps ops
  refine ⟨fun k₁ k₂ a h₁ h₂ hn => congrArg CheckpointKey.hash (hp.unique k₁ k₂ a h₁ h₂ hn),
    fun env e h hv => hp.addVote_of_voteOf hv,
    fun E number h₁ h₂ => hp.eq_of_quorum_le_eligibleVoters E, ?_⟩
  intro cfg env header snap qc pool' h
  obtain ⟨candidate, cpHeader, preSnap, records, pool'', -, -, -, hrec, hcollect, -⟩ :=
    assembleCheckpointQC_eq_some h
  obtain ⟨hvote, idxs, hsorted, hbitmap, hsigned, -, -⟩ := hp.collectQC_eq_some hcollect
  exact ⟨idxs, hsorted, hbitmap, preSnap, records, hrec, by rw [hvote], hsigned⟩

end Gtos.Dpos
