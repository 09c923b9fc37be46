import Gtos.Dpos.CheckpointAssemble

/-! # Producing checkpoint votes (`consensus/dpos/dpos.go`, `signed_checkpoints.go`)

A validator signs a checkpoint vote in two places: `maybeProduceCheckpointVote`, when it seals a
block after an eligible checkpoint, and `RestartGossip`, which re-signs on startup the checkpoints
it signed before and that are not finalized yet. Both add the vote to the pool and gossip it.

The double-sign guard is the signed-checkpoint table of the node's database,
`dpos-signed-cp-` ‖ BE64(number) ↦ hash. Before signing at a number `maybeProduceCheckpointVote`
reads the record and refuses a different hash, and it writes the record before it publishes the
vote; `RestartGossip` only re-signs recorded pairs. Since the key encoding is injective in the
number, the table is a map from numbers to hashes here, and reads return the last successful
write. What each call reads from the chain, which may reorganise between calls, is its own
`VoteEnv`; whether a database write succeeds is an argument of the call.

* **`VoteOp.step_voteStep`** — each call keeps every record and publishes only votes that match
  the record of their number.
* **`checkpointVote_no_double_sign`** — over any sequence of seals, restart re-gossips and
  restarts on one database, every published vote matches its number's stored record, so no two
  published votes share a number with different hashes.
-/

namespace Gtos.Dpos

/-- What vote production reads at one call, beyond the QC verifier's reads. -/
structure VoteEnv extends QCEnv where
  /-- `chain.GetHeaderByNumber(number)`: the canonical header at `number`. -/
  getHeaderByNumber : ℕ → Option Header
  /-- `signFn(account, MimetypeDPoS, digest)`: the raw signature, `none` on error. -/
  signFn : Address → Hash → Option (List UInt8)

/-- The signed-checkpoint table: checkpoint number ↦ the hash this node signed. -/
abbrev SignedCheckpoints := AList fun _ : ℕ => Hash

/-- `ReadSignedCheckpoint`: the recorded hash at `number`, if any. -/
def readSignedCheckpoint (db : SignedCheckpoints) (number : ℕ) : Option Hash :=
  db.lookup number

/-- `WriteSignedCheckpoint`: record `(number, hash)`; `ok` says whether `db.Put` succeeded. -/
def writeSignedCheckpoint (db : SignedCheckpoints) (number : ℕ) (hash : Hash) (ok : Bool) :
    Except Unit SignedCheckpoints :=
  if ok then .ok (db.insert number hash) else .error ()

/-- `ListUnsettledSignedCheckpoints`: the records above `finalizedNumber`, in key order, which
is increasing number order. -/
def listUnsettledSignedCheckpoints (db : SignedCheckpoints) (finalizedNumber : ℕ) :
    List (ℕ × Hash) :=
  ((db.entries.filter fun e => decide (finalizedNumber < e.1)).map fun e => (e.1, e.2)).mergeSort
    fun a b => decide (a.1 ≤ b.1)

/-- `copy(sig[:], rawSig)`: 64 raw bytes as a signature, first byte most significant. -/
def signatureOfBytes (raw : List UInt8) : Signature :=
  BitVec.ofNat 512 (raw.foldl (fun acc b => acc * 256 + b.toNat) 0)

/-- The signing step both producers share: the vote for `(candidate, hash)` under the signer set
`records`, signed by `v`, when `signFn` returns a 64-byte signature. -/
def signCheckpointVote (env : VoteEnv) (v : Address) (records : List ValidatorSigner)
    (candidate : ℕ) (hash : Hash) : Option CheckpointVoteEnvelope :=
  let vote : CheckpointVote :=
    ⟨env.chainID, candidate, hash, env.computeValidatorSetHash records⟩
  match env.signFn v (env.signingHash vote) with
  | none => none
  | some rawSig => if rawSig.length ≠ 64 then none else some ⟨vote, v, signatureOfBytes rawSig⟩

/-- The node state vote production touches: the database table and the vote pool (`nil` when
checkpoint finality is off). -/
structure VoteNode where
  /-- The signed-checkpoint table of the node's database. -/
  db : SignedCheckpoints
  /-- `d.votePool`. -/
  votePool : Option CheckpointVotePool

/-- Publish a signed vote: `AddVote` into the pool, then `broadcastVoteFn`. -/
def publishVote (pool : CheckpointVotePool) (e : CheckpointVoteEnvelope) : CheckpointVotePool :=
  (pool.addVote e).1

/-- The signing part of `maybeProduceCheckpointVote` for checkpoint header `cpHeader` at
`candidate`: load the pre-state signer set, find `v`'s key (the first record of `v`; an empty key
counts as absent) and sign. -/
def signLocalVote (env : VoteEnv) (v : Address) (candidate : ℕ) (cpHeader : Header) :
    Option CheckpointVoteEnvelope :=
  match env.snapshot (candidate - 1) cpHeader.parentHash with
  | none => none
  | some preSnap =>
    match env.buildSignerSet preSnap with
    | .error _ => none
    | .ok records =>
      match records.find? fun r => r.address == v with
      | none => none
      | some r =>
        if r.signerPub.length = 0 then none
        else signCheckpointVote env v records candidate (env.headerHash cpHeader)

/-- `maybeProduceCheckpointVote`: sign the latest eligible unfinalized checkpoint before `header`,
unless a different hash is recorded at its number. `hasDb` is `d.db != nil`; `writeOk` is the
outcome of `WriteSignedCheckpoint`. The result is the new table and pool and the published
vote. -/
def maybeProduceCheckpointVote (cfg : DPoSConfig) (env : VoteEnv) (hasDb : Bool)
    (db : SignedCheckpoints) (pool : CheckpointVotePool) (header : Header) (snap : Snapshot)
    (v : Address) (writeOk : Bool) :
    SignedCheckpoints × CheckpointVotePool × Option CheckpointVoteEnvelope :=
  match checkpointCandidate cfg header.number snap.finalizedNumber with
  | none => (db, pool, none)
  | some candidate =>
    match env.getHeaderByNumber candidate with
    | none => (db, pool, none)
    | some cpHeader =>
      let cpHash := env.headerHash cpHeader
      -- the double-sign guard: a different hash already signed at this number
      if hasDb && (readSignedCheckpoint db candidate).any fun existing => existing != cpHash
      then (db, pool, none)
      else
        match signLocalVote env v candidate cpHeader with
        | none => (db, pool, none)
        | some e =>
          -- write ahead: the record is durable before the vote is published
          if hasDb then
            match writeSignedCheckpoint db candidate cpHash writeOk with
            | .error _ => (db, pool, none)
            | .ok db' => (db', publishVote pool e, some e)
          else (db, publishVote pool e, some e)

/-- The signing part of one `RestartGossip` iteration over a recorded `(candidate, hash)`: when
the canonical header at `candidate` still has that hash and `v` is in its pre-state signer set,
sign the vote again. -/
def signRecordedVote (env : VoteEnv) (v : Address) (candidate : ℕ) (hash : Hash) :
    Option CheckpointVoteEnvelope :=
  match env.getHeaderByNumber candidate with
  | none => none
  | some cpHeader =>
    -- reorganised away
    if env.headerHash cpHeader ≠ hash then none
    else
      match env.snapshot (candidate - 1) cpHeader.parentHash with
      | none => none
      | some preSnap =>
        match env.buildSignerSet preSnap with
        | .error _ => none
        | .ok records =>
          if records.any fun r => r.address == v then signCheckpointVote env v records candidate hash
          else none

/-- One iteration of `RestartGossip`: publish the re-signed vote of a record, if any. -/
def restartGossipStep (env : VoteEnv) (v : Address)
    (acc : CheckpointVotePool × List CheckpointVoteEnvelope) (record : ℕ × Hash) :
    CheckpointVotePool × List CheckpointVoteEnvelope :=
  match signRecordedVote env v record.1 record.2 with
  | none => acc
  | some e => (publishVote acc.1 e, acc.2 ++ [e])

/-- `RestartGossip`: re-sign and publish the unsettled signed checkpoints. `authorized` says that
the validator address is set and `signFn` is not `nil`. The result is the new pool and the
published votes. -/
def restartGossip (env : VoteEnv) (hasDb : Bool) (db : SignedCheckpoints)
    (pool : CheckpointVotePool) (finalizedNumber : ℕ) (v : Address) (authorized : Bool) :
    CheckpointVotePool × List CheckpointVoteEnvelope :=
  if !hasDb then (pool, [])
  else
    let records := listUnsettledSignedCheckpoints db finalizedNumber
    if records.length = 0 then (pool, [])
    else if !authorized then (pool, [])
    else records.foldl (restartGossipStep env v) (pool, [])

/-- The calls of one validator node that sign checkpoint votes, and a restart, which keeps the
database and empties the in-memory pool. -/
inductive VoteOp
  /-- `Seal` of `header` with parent snapshot `snap`: `maybeProduceCheckpointVote` then `Prune`
  when checkpoint finality is active at the header. -/
  | sealVote (env : VoteEnv) (header : Header) (snap : Snapshot) (v : Address) (writeOk : Bool)
  /-- `RestartGossip(chain, finalizedNumber)`. -/
  | restartGossip (env : VoteEnv) (finalizedNumber : ℕ) (v : Address) (authorized : Bool)
  /-- A node restart. -/
  | restart

/-- One call: the new node state and the votes it published. -/
def VoteOp.step (cfg : DPoSConfig) (hasDb : Bool) :
    VoteOp → VoteNode → VoteNode × List CheckpointVoteEnvelope
  | .sealVote env header snap v writeOk, n =>
    match n.votePool with
    | none => (n, [])
    | some pool =>
      if cfg.isCheckpointFinality header.number then
        let r := maybeProduceCheckpointVote cfg env hasDb n.db pool header snap v writeOk
        let pool' := r.2.1.prune snap.finalizedNumber header.number cfg.checkpointInterval
        (⟨r.1, some pool'⟩, r.2.2.toList)
      else (n, [])
  | .restartGossip env finalizedNumber v authorized, n =>
    match n.votePool with
    | none => (n, [])
    | some pool =>
      let r := Dpos.restartGossip env hasDb n.db pool finalizedNumber v authorized
      (⟨n.db, some r.1⟩, r.2)
  | .restart, n => (⟨n.db, n.votePool.map fun _ => newCheckpointVotePool⟩, [])

/-- A run of calls: the final node state and every vote published, in order. -/
def runVoteOps (cfg : DPoSConfig) (hasDb : Bool) :
    List VoteOp → VoteNode → VoteNode × List CheckpointVoteEnvelope
  | [], n => (n, [])
  | op :: ops, n =>
    let r := op.step cfg hasDb n
    let rest := runVoteOps cfg hasDb ops r.1
    (rest.1, r.2 ++ rest.2)

/-! ## The guard -/

/-- **What a call may do to the table**: keep every record, and publish only votes that match
the new table's record of their number. -/
def VoteStep (db db' : SignedCheckpoints) (published : List CheckpointVoteEnvelope) : Prop :=
  (∀ n h, db.lookup n = some h → db'.lookup n = some h) ∧
    ∀ e ∈ published, db'.lookup e.vote.number = some e.vote.hash

theorem VoteStep.refl (db : SignedCheckpoints) : VoteStep db db [] :=
  ⟨fun _ _ h => h, by simp⟩

/-- Votes published under one table agree on the hash at each number. -/
theorem VoteStep.hash_eq {db db' : SignedCheckpoints} {published : List CheckpointVoteEnvelope}
    (h : VoteStep db db' published) {e₁ e₂ : CheckpointVoteEnvelope} (he₁ : e₁ ∈ published)
    (he₂ : e₂ ∈ published) (hnum : e₁.vote.number = e₂.vote.number) :
    e₁.vote.hash = e₂.vote.hash := by
  have h₁ := h.2 e₁ he₁
  rw [hnum, h.2 e₂ he₂] at h₁
  exact (Option.some.inj h₁).symm

theorem signCheckpointVote_eq_some {env : VoteEnv} {v : Address} {records : List ValidatorSigner}
    {candidate : ℕ} {hash : Hash} {e : CheckpointVoteEnvelope}
    (h : signCheckpointVote env v records candidate hash = some e) :
    e.vote.number = candidate ∧ e.vote.hash = hash := by
  unfold signCheckpointVote at h
  dsimp only at h
  split at h
  · cases h
  · split_ifs at h
    cases h
    exact ⟨rfl, rfl⟩

theorem signLocalVote_eq_some {env : VoteEnv} {v : Address} {candidate : ℕ} {cpHeader : Header}
    {e : CheckpointVoteEnvelope} (h : signLocalVote env v candidate cpHeader = some e) :
    e.vote.number = candidate ∧ e.vote.hash = env.headerHash cpHeader := by
  unfold signLocalVote at h
  split at h
  · cases h
  · split at h
    · cases h
    · split at h
      · cases h
      · split_ifs at h
        exact signCheckpointVote_eq_some h

theorem signRecordedVote_eq_some {env : VoteEnv} {v : Address} {candidate : ℕ} {hash : Hash}
    {e : CheckpointVoteEnvelope} (h : signRecordedVote env v candidate hash = some e) :
    e.vote.number = candidate ∧ e.vote.hash = hash := by
  unfold signRecordedVote at h
  split at h
  · cases h
  · split_ifs at h
    split at h
    · cases h
    · split at h
      · cases h
      · split_ifs at h
        exact signCheckpointVote_eq_some h

/-- A vote `maybeProduceCheckpointVote` publishes is for the candidate's canonical hash, which is
recorded afterwards; the write happens only where no other hash is recorded. -/
theorem voteStep_maybeProduceCheckpointVote (cfg : DPoSConfig) (env : VoteEnv)
    (db : SignedCheckpoints) (pool : CheckpointVotePool) (header : Header) (snap : Snapshot)
    (v : Address) (writeOk : Bool) :
    let r := maybeProduceCheckpointVote cfg env true db pool header snap v writeOk
    VoteStep db r.1 r.2.2.toList := by
  unfold maybeProduceCheckpointVote
  split
  · exact VoteStep.refl db
  · rename_i candidate _
    split
    · exact VoteStep.refl db
    · rename_i cpHeader _
      dsimp only
      by_cases hguard : (true && (readSignedCheckpoint db candidate).any
          fun existing => existing != env.headerHash cpHeader) = true
      · rw [if_pos hguard]
        exact VoteStep.refl db
      · rw [if_neg hguard]
        -- the guard passed: no other hash is recorded at `candidate`
        have hfree : ∀ h, db.lookup candidate = some h → h = env.headerHash cpHeader := by
          intro h hh
          simpa [readSignedCheckpoint, hh] using hguard
        split
        · exact VoteStep.refl db
        · rename_i e he
          obtain ⟨hnum, hhash⟩ := signLocalVote_eq_some he
          rw [if_pos rfl, writeSignedCheckpoint]
          split_ifs
          · refine ⟨fun n h hn => ?_, ?_⟩
            · by_cases hnc : n = candidate
              · subst hnc
                rw [AList.lookup_insert, hfree h hn]
              · rw [AList.lookup_insert_ne hnc]
                exact hn
            · simp only [Option.toList_some, List.mem_singleton, forall_eq, hhash]
              rw [hnum, AList.lookup_insert]
          · exact VoteStep.refl db

/-- Every listed unsettled record is a record of the table. -/
theorem lookup_of_mem_listUnsettledSignedCheckpoints {db : SignedCheckpoints}
    {finalizedNumber : ℕ} {record : ℕ × Hash}
    (h : record ∈ listUnsettledSignedCheckpoints db finalizedNumber) :
    db.lookup record.1 = some record.2 := by
  unfold listUnsettledSignedCheckpoints at h
  obtain ⟨e, he, rfl⟩ := List.mem_map.1 ((List.mergeSort_perm _ _).mem_iff.1 h)
  rw [← Option.mem_def, AList.mem_lookup_iff]
  exact (List.mem_filter.1 he).1

/-- `RestartGossip` publishes only votes for recorded pairs: every iteration over records of the
table appends votes that match them. -/
theorem restartGossip_foldl_mem {env : VoteEnv} {v : Address} {db : SignedCheckpoints}
    {records : List (ℕ × Hash)} (hrec : ∀ r ∈ records, db.lookup r.1 = some r.2)
    {acc : CheckpointVotePool × List CheckpointVoteEnvelope}
    (hacc : ∀ e ∈ acc.2, db.lookup e.vote.number = some e.vote.hash) :
    ∀ e ∈ (records.foldl (restartGossipStep env v) acc).2,
      db.lookup e.vote.number = some e.vote.hash := by
  induction records generalizing acc with
  | nil => exact hacc
  | cons record records ih =>
    apply ih (fun r hr => hrec r (List.mem_cons_of_mem _ hr))
    -- one iteration appends at most the vote for `record`
    unfold restartGossipStep
    split
    · exact hacc
    · rename_i e he
      obtain ⟨hnum, hhash⟩ := signRecordedVote_eq_some he
      intro e' he'
      rcases List.mem_append.1 he' with he' | he'
      · exact hacc e' he'
      · rw [List.mem_singleton] at he'
        subst he'
        rw [hnum, hhash]
        exact hrec record List.mem_cons_self

theorem voteStep_restartGossip (env : VoteEnv) (db : SignedCheckpoints)
    (pool : CheckpointVotePool) (finalizedNumber : ℕ) (v : Address) (authorized : Bool) :
    VoteStep db db (restartGossip env true db pool finalizedNumber v authorized).2 := by
  refine ⟨fun _ _ h => h, ?_⟩
  unfold restartGossip
  dsimp only
  -- every early return publishes nothing
  split_ifs
  · exact fun _ h => absurd h List.not_mem_nil
  · exact fun _ h => absurd h List.not_mem_nil
  · exact fun _ h => absurd h List.not_mem_nil
  · apply restartGossip_foldl_mem
    · exact fun r hr => lookup_of_mem_listUnsettledSignedCheckpoints hr
    · exact fun _ h => absurd h List.not_mem_nil

/-- **Step lemma**: with a database, every call keeps the table's records and publishes only
votes that match them. -/
theorem VoteOp.step_voteStep (cfg : DPoSConfig) (op : VoteOp) (n : VoteNode) :
    VoteStep n.db (op.step cfg true n).1.db (op.step cfg true n).2 := by
  cases op with
  | sealVote env header snap v writeOk =>
    simp only [VoteOp.step]
    split
    · exact VoteStep.refl n.db
    · rename_i pool _
      split_ifs
      · exact voteStep_maybeProduceCheckpointVote cfg env n.db pool header snap v writeOk
      · exact VoteStep.refl n.db
  | restartGossip env finalizedNumber v authorized =>
    simp only [VoteOp.step]
    split
    · exact VoteStep.refl n.db
    · exact voteStep_restartGossip env n.db _ finalizedNumber v authorized
  | restart => exact VoteStep.refl n.db

/-- **Run lemma**: with a database, a run keeps every record and publishes only votes that match
the final table. -/
theorem runVoteOps_voteStep (cfg : DPoSConfig) (ops : List VoteOp) (n : VoteNode) :
    VoteStep n.db (runVoteOps cfg true ops n).1.db (runVoteOps cfg true ops n).2 := by
  induction ops generalizing n with
  | nil => exact VoteStep.refl n.db
  | cons op ops ih =>
    obtain ⟨hkeep, hpub⟩ := op.step_voteStep cfg n
    obtain ⟨hkeep', hpub'⟩ := ih (op.step cfg true n).1
    refine ⟨fun num h hn => hkeep' num h (hkeep num h hn), ?_⟩
    intro e he
    rcases List.mem_append.1 he with he | he
    · exact hkeep' _ _ (hpub e he)
    · exact hpub' e he

/-- **No local double vote.** Over any sequence of seals, restart re-gossips and restarts of one
validator node on a persistent database, across any reorganisations between the calls, every
published vote's `(Number, Hash)` is the record the table holds for that number, a record is
never replaced, and no two published votes have the same number and different hashes. -/
theorem checkpointVote_no_double_sign (cfg : DPoSConfig) (ops : List VoteOp) (n : VoteNode) :
    let r := runVoteOps cfg true ops n
    (∀ num h, n.db.lookup num = some h → r.1.db.lookup num = some h) ∧
      (∀ e ∈ r.2, r.1.db.lookup e.vote.number = some e.vote.hash) ∧
      ∀ e₁ ∈ r.2, ∀ e₂ ∈ r.2, e₁.vote.number = e₂.vote.number → e₁.vote.hash = e₂.vote.hash := by
  intro r
  have hrun : VoteStep n.db r.1.db r.2 := runVoteOps_voteStep cfg ops n
  exact ⟨hrun.1, hrun.2, fun e₁ he₁ e₂ he₂ hnum => hrun.hash_eq he₁ he₂ hnum⟩

end Gtos.Dpos
