import Gtos.Dpos.CheckpointQC

/-! # Committing checkpoint finality (`consensus/dpos/dpos.go`)

Checkpoint finality is proven in two steps. `VerifyFinalizedState` runs before fork choice: when
a block's QC newly finalizes a checkpoint, `verifyCheckpointQCFull` stages a
`CheckpointFinalityResult` keyed by the block's hash. `OnCanonicalBlock` runs once a block is
adopted: it takes the block's staged result and, unless the runtime finalized checkpoint is
already at or above the result's number, reads the finalized header and hands it to
`setFinalizedFn`.

The engine's finality state is the staged results (an ARC cache, which may drop entries at any
time: the `evict` operation) and the header `runtimeFinalizedBlock` returns. The header store
`rawdb.ReadHeader`, the epoch-extra check and the presence of the database, the cache and the
callback are fields of `FinalityEnv`; `setFinalizedFn(h)` makes `runtimeFinalizedBlock` return
`h`.

* **`FinalityOp.step_finalityStep`** — every operation leaves runtime finality alone or finalizes
  a header strictly above the current one.
* **`checkpointFinality_monotone`** — along every run, the runtime finalized number never
  decreases and the finalized headers have strictly increasing numbers, all above the one
  finalized before: no checkpoint number is finalized twice, with the same hash or another.
-/

namespace Gtos.Dpos

/-- What the finality commit reads from outside `dpos.go`. -/
structure FinalityEnv where
  /-- `d.finality != nil`. -/
  hasFinalityCache : Bool
  /-- `d.db != nil`. -/
  hasDb : Bool
  /-- `d.setFinalizedFn != nil`. -/
  hasSetFinalizedFn : Bool
  /-- `rawdb.ReadHeader(d.db, hash, number)`. -/
  readHeader : Hash → ℕ → Option Header
  /-- `d.VerifyEpochExtra(header, st) == nil`. -/
  verifyEpochExtra : Header → Bool

/-- The engine's finality state. -/
structure FinalityState where
  /-- `d.finality`: staged results by carrier block hash. -/
  staged : AList fun _ : Hash => CheckpointFinalityResult
  /-- The header stored as finalized, which `runtimeFinalizedBlock` reads back. -/
  finalized : Option Header

/-- The errors `VerifyFinalizedState` returns. -/
inductive FinalizedStateError
  /-- An error of `VerifyEpochExtra`. -/
  | epochExtra
  /-- An error of `d.snapshot` for the parent. -/
  | snapshotUnavailable
  /-- An error of `verifyCheckpointQCFull`. -/
  | qc (e : QCError)
  deriving DecidableEq, Repr

/-- `runtimeFinalizedBlock`: the finalized header, `nil` without a database. -/
def runtimeFinalizedBlock (fe : FinalityEnv) (s : FinalityState) : Option Header :=
  if fe.hasDb then s.finalized else none

/-- `runtimeFinalizedNumber`: the finalized header's number, `0` when there is none. -/
def runtimeFinalizedNumber (fe : FinalityEnv) (s : FinalityState) : ℕ :=
  ((runtimeFinalizedBlock fe s).map (·.number)).getD 0

/-- `stageFinalityResult`: record a result under its carrier block's hash. -/
def stageFinalityResult (fe : FinalityEnv) (s : FinalityState) (r : CheckpointFinalityResult) :
    FinalityState :=
  if fe.hasFinalityCache then { s with staged := s.staged.insert r.carrierHash r } else s

/-- `VerifyFinalizedState`: Phase 2 QC verification of a block with checkpoint finality active,
staging the result when its QC newly finalizes a checkpoint. The state is unchanged on error. -/
def verifyFinalizedState (cfg : DPoSConfig) (env : QCEnv) (fe : FinalityEnv) (s : FinalityState)
    (header : Header) : Except FinalizedStateError FinalityState :=
  if !fe.verifyEpochExtra header then .error .epochExtra
  else if cfg.isCheckpointFinality header.number && decide (header.number > 0) then
    -- no database in faker mode: Phase 2 is skipped
    if !fe.hasDb then .ok s
    else
      match env.snapshot (header.number - 1) header.parentHash with
      | none => .error .snapshotUnavailable
      | some snap =>
        match verifyCheckpointQCFull cfg env header snap with
        | .error e => .error (.qc e)
        | .ok none => .ok s
        | .ok (some r) => .ok (stageFinalityResult fe s r)
  else .ok s

/-- The commit at the end of `OnCanonicalBlock`: read the finalized header and hand it to
`setFinalizedFn`. Without a database only the in-memory validator-set hash and the journal are
updated. The second component is the header `setFinalizedFn` receives, if any. -/
def commitFinality (fe : FinalityEnv) (s : FinalityState) (result : CheckpointFinalityResult) :
    FinalityState × Option Header :=
  if !fe.hasDb then (s, none)
  else
    match fe.readHeader result.finalizedHash result.finalizedNumber with
    | none => (s, none)
    | some finalizedHeader =>
      if fe.hasSetFinalizedFn then ({ s with finalized := some finalizedHeader }, some finalizedHeader)
      else (s, none)

/-- `OnCanonicalBlock`: commit the result staged for an adopted block, unless the runtime
finalized checkpoint is at or above its number. The second component is the header
`setFinalizedFn` receives, if any. -/
def onCanonicalBlock (fe : FinalityEnv) (s : FinalityState) (blockHash : Hash) :
    FinalityState × Option Header :=
  if !fe.hasFinalityCache then (s, none)
  else
    match s.staged.lookup blockHash with
    | none => (s, none)
    | some result =>
      let s := { s with staged := s.staged.erase blockHash }
      match runtimeFinalizedBlock fe s with
      | none => commitFinality fe s result
      | some current =>
        if result.finalizedNumber < current.number then (s, none)
        -- an equal number is not committed again; a different hash is only logged
        else if result.finalizedNumber = current.number then (s, none)
        else commitFinality fe s result

/-- The calls that touch finality: block verification, canonical adoption, and the cache
dropping an entry. -/
inductive FinalityOp
  /-- `VerifyFinalizedState(header, st)`. -/
  | verifyFinalizedState (header : Header)
  /-- `OnCanonicalBlock(block)`, by the block's hash. -/
  | onCanonicalBlock (blockHash : Hash)
  /-- The ARC cache evicting the entry of a carrier block. -/
  | evict (carrierHash : Hash)

/-- One finality operation: the new state and the header finalized, if any. -/
def FinalityOp.step (cfg : DPoSConfig) (env : QCEnv) (fe : FinalityEnv) :
    FinalityOp → FinalityState → FinalityState × Option Header
  | .verifyFinalizedState header, s =>
    match Dpos.verifyFinalizedState cfg env fe s header with
    | .ok s' => (s', none)
    | .error _ => (s, none)
  | .onCanonicalBlock blockHash, s => Dpos.onCanonicalBlock fe s blockHash
  | .evict carrierHash, s => ({ s with staged := s.staged.erase carrierHash }, none)

/-- A run of finality operations: the final state and the headers finalized, in order. -/
def runFinality (cfg : DPoSConfig) (env : QCEnv) (fe : FinalityEnv) :
    List FinalityOp → FinalityState → FinalityState × List Header
  | [], s => (s, [])
  | op :: ops, s =>
    let r := op.step cfg env fe s
    let rest := runFinality cfg env fe ops r.1
    (rest.1, r.2.toList ++ rest.2)

/-! ## One step -/

/-- **What a step can do to runtime finality**: nothing, or finalize a header strictly above the
currently finalized one. -/
def FinalityStep (fe : FinalityEnv) (s s' : FinalityState) (ev : Option Header) : Prop :=
  (ev = none ∧ runtimeFinalizedBlock fe s' = runtimeFinalizedBlock fe s) ∨
    ∃ h, ev = some h ∧ runtimeFinalizedBlock fe s' = some h ∧
      ∀ c, runtimeFinalizedBlock fe s = some c → c.number < h.number

section Step

variable {fe : FinalityEnv} {s : FinalityState}

theorem finalityStep_of_finalized_eq {s' : FinalityState} (h : s'.finalized = s.finalized) :
    FinalityStep fe s s' none :=
  Or.inl ⟨rfl, by rw [runtimeFinalizedBlock, runtimeFinalizedBlock, h]⟩

theorem finalized_stageFinalityResult (r : CheckpointFinalityResult) :
    (stageFinalityResult fe s r).finalized = s.finalized := by
  unfold stageFinalityResult
  split_ifs <;> rfl

/-- Verification only stages results: it never touches the finalized header. -/
theorem finalized_verifyFinalizedState {cfg : DPoSConfig} {env : QCEnv} {header : Header}
    {s' : FinalityState} (h : verifyFinalizedState cfg env fe s header = .ok s') :
    s'.finalized = s.finalized := by
  unfold verifyFinalizedState at h
  split at h
  · cases h
  · split at h
    · split at h
      · obtain rfl := Except.ok.inj h
        rfl
      · split at h
        · cases h
        · split at h
          · cases h
          · obtain rfl := Except.ok.inj h
            rfl
          · obtain rfl := Except.ok.inj h
            exact finalized_stageFinalityResult _
    · obtain rfl := Except.ok.inj h
      rfl

/-- A commit finalizes the header read for the result, which has the result's number. -/
theorem finalityStep_commitFinality
    (hread : ∀ h n hd, fe.readHeader h n = some hd → hd.number = n)
    (result : CheckpointFinalityResult)
    (habove : ∀ c, runtimeFinalizedBlock fe s = some c → c.number < result.finalizedNumber) :
    FinalityStep fe s (commitFinality fe s result).1 (commitFinality fe s result).2 := by
  unfold commitFinality
  split
  · exact finalityStep_of_finalized_eq rfl
  · rename_i hdb
    split
    · exact finalityStep_of_finalized_eq rfl
    · rename_i finalizedHeader hhd
      split
      · -- `setFinalizedFn` makes the read header the runtime finalized one
        have hdb' : fe.hasDb = true := by simpa using hdb
        refine Or.inr ⟨finalizedHeader, rfl, by simp [runtimeFinalizedBlock, hdb'], ?_⟩
        rw [hread _ _ _ hhd]
        exact habove
      · exact finalityStep_of_finalized_eq rfl

/-- Dropping a staged result leaves runtime finality alone. -/
theorem runtimeFinalizedBlock_erase (blockHash : Hash) :
    runtimeFinalizedBlock fe { s with staged := s.staged.erase blockHash } =
      runtimeFinalizedBlock fe s := rfl

theorem finalityStep_onCanonicalBlock
    (hread : ∀ h n hd, fe.readHeader h n = some hd → hd.number = n) (blockHash : Hash) :
    FinalityStep fe s (onCanonicalBlock fe s blockHash).1 (onCanonicalBlock fe s blockHash).2 := by
  unfold onCanonicalBlock
  split_ifs
  · exact finalityStep_of_finalized_eq rfl
  · split
    · exact finalityStep_of_finalized_eq rfl
    · rename_i result _
      -- the commit is checked against the runtime finalized header, which erasing keeps
      have hcommit := @finalityStep_commitFinality fe { s with staged := s.staged.erase blockHash }
      simp only [FinalityStep, runtimeFinalizedBlock_erase] at hcommit ⊢
      split
      · rename_i hnone
        exact hcommit hread result (by simp [hnone])
      · rename_i current hcur
        split_ifs with hlt heq
        · exact Or.inl ⟨rfl, rfl⟩
        · exact Or.inl ⟨rfl, rfl⟩
        · refine hcommit hread result ?_
          intro c hc
          rw [hcur] at hc
          cases hc
          omega

end Step

/-- **Step lemma**: every finality operation leaves runtime finality alone or finalizes a header
strictly above the current one. -/
theorem FinalityOp.step_finalityStep {cfg : DPoSConfig} {env : QCEnv} {fe : FinalityEnv}
    (hread : ∀ h n hd, fe.readHeader h n = some hd → hd.number = n) (op : FinalityOp)
    (s : FinalityState) :
    FinalityStep fe s (op.step cfg env fe s).1 (op.step cfg env fe s).2 := by
  cases op with
  | verifyFinalizedState header =>
    simp only [FinalityOp.step]
    split
    · rename_i s' hs'
      exact finalityStep_of_finalized_eq (finalized_verifyFinalizedState hs')
    · exact finalityStep_of_finalized_eq rfl
  | onCanonicalBlock blockHash => exact finalityStep_onCanonicalBlock hread blockHash
  | evict carrierHash => exact finalityStep_of_finalized_eq rfl

/-- A step never lowers the runtime finalized number. -/
theorem FinalityStep.runtimeFinalizedNumber_le {fe : FinalityEnv} {s s' : FinalityState}
    {ev : Option Header} (h : FinalityStep fe s s' ev) :
    runtimeFinalizedNumber fe s ≤ runtimeFinalizedNumber fe s' := by
  rcases h with ⟨-, heq⟩ | ⟨hd, -, hnew, habove⟩
  · rw [runtimeFinalizedNumber, runtimeFinalizedNumber, heq]
  · rw [runtimeFinalizedNumber, runtimeFinalizedNumber, hnew]
    cases hcur : runtimeFinalizedBlock fe s with
    | none => simp
    | some c => simpa using (habove c hcur).le

/-! ## Runs -/

/-- **Finality is monotone and never conflicting.** If the header store returns headers of the
number asked for, then along any run of `VerifyFinalizedState`, `OnCanonicalBlock` and cache
evictions the runtime finalized number never decreases, and the headers handed to
`setFinalizedFn` have strictly increasing numbers, all above the header finalized when the run
starts; so a checkpoint number, once finalized, is never finalized again under any hash. -/
theorem checkpointFinality_monotone {cfg : DPoSConfig} {env : QCEnv} {fe : FinalityEnv}
    (hread : ∀ h n hd, fe.readHeader h n = some hd → hd.number = n) (ops : List FinalityOp)
    (s : FinalityState) :
    runtimeFinalizedNumber fe s ≤ runtimeFinalizedNumber fe (runFinality cfg env fe ops s).1 ∧
      ((runFinality cfg env fe ops s).2.map (·.number)).Pairwise (· < ·) ∧
      ∀ h ∈ (runFinality cfg env fe ops s).2, ∀ c, runtimeFinalizedBlock fe s = some c →
        c.number < h.number := by
  induction ops generalizing s with
  | nil => simp [runFinality]
  | cons op ops ih =>
    obtain ⟨hle, hpair, habove⟩ := ih (op.step cfg env fe s).1
    have hstep := @FinalityOp.step_finalityStep cfg env fe hread op s
    refine ⟨le_trans hstep.runtimeFinalizedNumber_le hle, ?_, ?_⟩
    · rcases hstep with ⟨hev, -⟩ | ⟨hd, hev, hnew, -⟩
      · simpa [runFinality, hev] using hpair
      · -- the later headers lie above `hd`, the header this step finalized
        simp only [runFinality, hev, Option.toList_some, List.singleton_append, List.map_cons,
          List.pairwise_cons, List.mem_map]
        refine ⟨?_, hpair⟩
        rintro _ ⟨h, hh, rfl⟩
        exact habove h hh hd hnew
    · rcases hstep with ⟨hev, hsame⟩ | ⟨hd, hev, hnew, hdabove⟩
      · simp only [runFinality, hev, Option.toList_none, List.nil_append]
        intro h hh c hc
        exact habove h hh c (hsame.trans hc)
      · simp only [runFinality, hev, Option.toList_some, List.singleton_append, List.mem_cons]
        rintro h (rfl | hh) c hc
        · exact hdabove c hc
        · exact (hdabove c hc).trans (habove h hh hd hnew)

/-- A staged result for block `1` committed on adoption: checkpoint `8` is finalized. -/
theorem checkpointFinality_monotone_commit :
    let fe : FinalityEnv := ⟨true, true, true, fun h n => some ⟨n, h, []⟩, fun _ => true⟩
    let cfg : DPoSConfig := ⟨1, 1, none, 1⟩
    let env : QCEnv := ⟨some 1, fun _ _ => none, fun _ => 0, fun _ _ => none, fun _ => .error "",
      fun _ => 0, fun _ => 0, fun _ _ _ => false, fun _ => none⟩
    let s : FinalityState := ⟨(∅ : AList fun _ : Hash => CheckpointFinalityResult).insert 1
      ⟨1, 8, 5, 0⟩, none⟩
    let ops := [FinalityOp.onCanonicalBlock 1]
    (∀ h n hd, fe.readHeader h n = some hd → hd.number = n) ∧
      runtimeFinalizedNumber fe s ≤ runtimeFinalizedNumber fe (runFinality cfg env fe ops s).1 ∧
      ((runFinality cfg env fe ops s).2.map (·.number)).Pairwise (· < ·) ∧
      ∀ h ∈ (runFinality cfg env fe ops s).2, ∀ c, runtimeFinalizedBlock fe s = some c →
        c.number < h.number := by
  intro fe cfg env s ops
  have hread : ∀ h n hd, fe.readHeader h n = some hd → hd.number = n := by
    intro h n hd hh
    cases hh
    rfl
  exact ⟨hread, checkpointFinality_monotone hread ops s⟩

end Gtos.Dpos
