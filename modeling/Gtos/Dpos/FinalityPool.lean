import Gtos.Types.Checkpoint
import Gtos.Lib.Bitmap
import Gtos.Lib.KeyMap
import Gtos.Lib.Quorum

/-! # The checkpoint vote pool (`consensus/dpos/finality_pool.go`)

`checkpointVotePool` caches the checkpoint votes a validator has received: verified votes by
`(number, hash)` and signer, conflicting votes as equivocation evidence, and votes waiting for
their pre-state as pending. Every method holds the pool's mutex for its whole body, so the pool is
a state machine whose steps are its methods, and the model leaves the lock out.

Go maps are `AList`s here. `AddVote` scans the votes cache in Go's unspecified map order; the
model scans in list order, and `PoolInv` (at most one key per number holds a signer) makes the
order irrelevant, as at most one key matches.

* **`PoolInv`** — every cached vote is filed under its own signer and key, and a signer appears
  under at most one hash per checkpoint number; it holds of the new pool and every operation
  keeps it (`PoolInv.runPoolOps`).
* **`PoolInv.addVote_of_voteOf`** — a second vote of a signer at a number is ignored when it has
  the same hash and goes to the equivocations when it does not.
* **`PoolInv.eq_of_quorum_le_eligibleVoters`** — at most one hash per number reaches `Quorum(N)`
  votes of any `N` eligible signers; **`PoolInv.nodup_getVotes`** — `GetVotes` returns at most
  one vote per signer.
-/

namespace Gtos.Dpos

/-! ## Quorum arithmetic -/

/-- `Quorum(n)`: the minimum number of votes for a valid QC over `n` validators, `⌈2n/3⌉`, and `1`
for an empty validator set. -/
def quorum (n : ℕ) : ℕ :=
  if n ≤ 0 then 1 else (2 * n + 2) / 3

/-- `BitmapPopcount(bitmap)`: `bits.OnesCount64`, the number of signers of a QC. -/
def bitmapPopcount (bitmap : BitVec 64) : ℕ := Bitmap.onesCount bitmap

/-- On a non-empty validator set, `Quorum` is the two-thirds quorum the QC verifier computes
inline as `(2*N + 2) / 3`. -/
theorem quorum_eq_twoThirds {n : ℕ} (hn : 0 < n) : quorum n = Quorum.twoThirds n := by
  rw [quorum, if_neg (by omega), Quorum.twoThirds]

/-! ## The pool and its methods -/

/-- `checkpointKey`: a checkpoint proposal, a block number and a block hash. -/
structure CheckpointKey where
  /-- `Number`. -/
  number : ℕ
  /-- `Hash`. -/
  hash : Hash
  deriving DecidableEq, Repr

/-- `checkpointVotePool`, without its mutex. -/
structure CheckpointVotePool where
  /-- `votes`: `(number, hash) → signer → envelope`, the verified votes counted for quorums. -/
  votes : AList fun _ : CheckpointKey => AList fun _ : Address => CheckpointVoteEnvelope
  /-- `equivocations`: `number → ` the conflicting envelopes received at that number. -/
  equivocations : AList fun _ : ℕ => List CheckpointVoteEnvelope
  /-- `pending`: `number → ` votes waiting for their snapshot pre-state. -/
  pending : AList fun _ : ℕ => List CheckpointVoteEnvelope

/-- `newCheckpointVotePool`: the empty pool. -/
def newCheckpointVotePool : CheckpointVotePool := ⟨∅, ∅, ∅⟩

/-- `maxPendingPerCheckpoint`: the cap on pending votes per checkpoint number. -/
def maxPendingPerCheckpoint : ℕ := 50

namespace CheckpointVotePool

/-- The cached vote of `signer` under key `k`, `p.votes[k][signer]`. -/
def voteOf (p : CheckpointVotePool) (k : CheckpointKey) (signer : Address) :
    Option CheckpointVoteEnvelope :=
  AList.lookup₂ k signer p.votes

/-- The scan shared by `AddVote` and `ExistingVote`: the entry of the votes cache at checkpoint
`number` whose signer map holds `signer`. -/
def findSigner (p : CheckpointVotePool) (number : ℕ) (signer : Address) :
    Option (Σ _ : CheckpointKey, AList fun _ : Address => CheckpointVoteEnvelope) :=
  AList.findOuter (fun k => k.number == number) signer p.votes

/-- `p.equivocations[number] = append(p.equivocations[number], env)`. -/
def recordEquivocation (p : CheckpointVotePool) (env : CheckpointVoteEnvelope) :
    CheckpointVotePool :=
  let number := env.vote.number
  let evidence := (p.equivocations.lookup number).getD [] ++ [env]
  { p with equivocations := p.equivocations.insert number evidence }

/-- `AddVote`: the new pool and `(added, isEquivocation)`. -/
def addVote (p : CheckpointVotePool) (env : CheckpointVoteEnvelope) :
    CheckpointVotePool × Bool × Bool :=
  let number := env.vote.number
  let hash := env.vote.hash
  let signer := env.signer
  let key : CheckpointKey := ⟨number, hash⟩
  match p.findSigner number signer with
  | some e =>
    -- the signer already voted at this number: a duplicate, or an equivocation across forks
    if e.1.hash = hash then (p, false, false) else (p.recordEquivocation env, false, true)
  | none => ({ p with votes := p.votes.insertNested key signer env }, true, false)

/-- `ExistingVote`: the cached vote of `signer` at checkpoint `number`, under any hash. -/
def existingVote (p : CheckpointVotePool) (number : ℕ) (signer : Address) :
    Option CheckpointVoteEnvelope :=
  (p.findSigner number signer).bind fun e => e.2.lookup signer

/-- `AddPending`: queue `env` unless its signer already has a pending vote at the number or the
number holds `maxPendingPerCheckpoint` pending votes. -/
def addPending (p : CheckpointVotePool) (env : CheckpointVoteEnvelope) : CheckpointVotePool :=
  let number := env.vote.number
  let existing := (p.pending.lookup number).getD []
  if existing.any fun e => e.signer == env.signer then p
  else if existing.length ≥ maxPendingPerCheckpoint then p
  else { p with pending := p.pending.insert number (existing ++ [env]) }

/-- `DrainPending`: the pending votes at `number`, removed from the pool. -/
def drainPending (p : CheckpointVotePool) (number : ℕ) :
    List CheckpointVoteEnvelope × CheckpointVotePool :=
  ((p.pending.lookup number).getD [], { p with pending := p.pending.erase number })

/-- `GetVotes`: the cached votes for `(number, hash)`, one per signer. -/
def getVotes (p : CheckpointVotePool) (number : ℕ) (hash : Hash) : List CheckpointVoteEnvelope :=
  match p.votes.lookup ⟨number, hash⟩ with
  | none => []
  | some signerMap => signerMap.entries.map (·.2)

/-- `VoteCount`: the number of signers with a cached vote for `(number, hash)`. -/
def voteCount (p : CheckpointVotePool) (number : ℕ) (hash : Hash) : ℕ :=
  ((p.votes.lookup ⟨number, hash⟩).map fun signerMap => signerMap.entries.length).getD 0

/-- The eviction test of `Prune`: at or below the finalized number, or at or below the sliding
window floor `currentHead - 2*checkpointInterval`. -/
def isStale (finalizedNumber currentHead checkpointInterval number : ℕ) : Bool :=
  let windowFloor :=
    if checkpointInterval > 0 ∧ currentHead > 2 * checkpointInterval then
      currentHead - 2 * checkpointInterval
    else 0
  decide (number ≤ finalizedNumber) || decide (number ≤ windowFloor)

/-- `Prune`: evict the votes, equivocations and pending votes of stale checkpoint numbers. -/
def prune (p : CheckpointVotePool) (finalizedNumber currentHead checkpointInterval : ℕ) :
    CheckpointVotePool :=
  let stale := isStale finalizedNumber currentHead checkpointInterval
  { votes := p.votes.filterKeys fun k => !stale k.number
    equivocations := p.equivocations.filterKeys fun n => !stale n
    pending := p.pending.filterKeys fun n => !stale n }

/-! ### What each method does to the votes cache -/

variable {p : CheckpointVotePool}

@[simp] theorem voteOf_new (k : CheckpointKey) (a : Address) :
    newCheckpointVotePool.voteOf k a = none :=
  AList.lookup₂_empty k a

/-- A method that leaves the votes cache alone leaves every cached vote. -/
theorem voteOf_congr {p' : CheckpointVotePool} (h : p'.votes = p.votes) (k : CheckpointKey)
    (a : Address) : p'.voteOf k a = p.voteOf k a := by
  rw [voteOf, voteOf, h]

/-- A scan that finds the signer at `number` leaves the votes cache unchanged. -/
theorem votes_addVote_of_findSigner_eq_some {env : CheckpointVoteEnvelope}
    {e : Σ _ : CheckpointKey, AList fun _ : Address => CheckpointVoteEnvelope}
    (h : p.findSigner env.vote.number env.signer = some e) : (p.addVote env).1.votes = p.votes := by
  unfold addVote
  simp only [h]
  split_ifs <;> rfl

/-- A scan that finds nothing inserts the vote under its own key and signer. -/
theorem addVote_of_findSigner_eq_none {env : CheckpointVoteEnvelope}
    (h : p.findSigner env.vote.number env.signer = none) :
    p.addVote env =
      ({ p with votes := p.votes.insertNested ⟨env.vote.number, env.vote.hash⟩ env.signer env },
        true, false) := by
  unfold addVote
  simp only [h]

theorem voteOf_insertNested (env : CheckpointVoteEnvelope) (k : CheckpointKey) (a : Address) :
    ({ p with votes := p.votes.insertNested ⟨env.vote.number, env.vote.hash⟩ env.signer env } :
        CheckpointVotePool).voteOf k a =
      if k = ⟨env.vote.number, env.vote.hash⟩ ∧ a = env.signer then some env else p.voteOf k a :=
  AList.lookup₂_insertNested _ _ _ _ _

/-- The scan finds nothing exactly when the signer has no cached vote at the number. -/
theorem voteOf_eq_none_of_findSigner_eq_none {number : ℕ} {signer : Address}
    (h : p.findSigner number signer = none) {k : CheckpointKey} (hk : k.number = number) :
    p.voteOf k signer = none :=
  AList.lookup₂_eq_none_of_findOuter_eq_none h (by simp [hk])

/-- The entry the scan finds is a key at the number under which the signer voted. -/
theorem findSigner_eq_some {number : ℕ} {signer : Address}
    {e : Σ _ : CheckpointKey, AList fun _ : Address => CheckpointVoteEnvelope}
    (h : p.findSigner number signer = some e) :
    e.1.number = number ∧ (p.voteOf e.1 signer).isSome := by
  obtain ⟨hq, hsome⟩ := AList.findOuter_eq_some h
  exact ⟨by simpa using hq, hsome⟩

@[simp] theorem votes_addPending (env : CheckpointVoteEnvelope) :
    (p.addPending env).votes = p.votes := by
  unfold addPending
  dsimp only
  split_ifs <;> rfl

@[simp] theorem votes_drainPending (number : ℕ) : (p.drainPending number).2.votes = p.votes := rfl

theorem voteOf_prune (finalizedNumber currentHead checkpointInterval : ℕ) (k : CheckpointKey)
    (a : Address) :
    (p.prune finalizedNumber currentHead checkpointInterval).voteOf k a =
      if isStale finalizedNumber currentHead checkpointInterval k.number then none
      else p.voteOf k a := by
  unfold voteOf prune
  rw [AList.lookup₂_filterKeys]
  cases isStale finalizedNumber currentHead checkpointInterval k.number <;> rfl

end CheckpointVotePool

/-! ## Runs of pool operations -/

/-- The pool methods that change or read the votes cache, as steps of the pool's state machine. -/
inductive PoolOp
  /-- `AddVote(env)`. -/
  | addVote (env : CheckpointVoteEnvelope)
  /-- `AddPending(env)`. -/
  | addPending (env : CheckpointVoteEnvelope)
  /-- `DrainPending(number)`. -/
  | drainPending (number : ℕ)
  /-- `GetVotes(number, hash)`. -/
  | getVotes (number : ℕ) (hash : Hash)
  /-- `Prune(finalizedNumber, currentHead, checkpointInterval)`. -/
  | prune (finalizedNumber currentHead checkpointInterval : ℕ)

/-- The pool after one operation; the values operations return are dropped. -/
def PoolOp.apply : PoolOp → CheckpointVotePool → CheckpointVotePool
  | .addVote env, p => (p.addVote env).1
  | .addPending env, p => p.addPending env
  | .drainPending number, p => (p.drainPending number).2
  | .getVotes _ _, p => p
  | .prune finalizedNumber currentHead checkpointInterval, p =>
    p.prune finalizedNumber currentHead checkpointInterval

/-- The pool after a sequence of operations. -/
def runPoolOps (ops : List PoolOp) (p : CheckpointVotePool) : CheckpointVotePool :=
  ops.foldl (fun p op => op.apply p) p

@[simp] theorem runPoolOps_nil (p : CheckpointVotePool) : runPoolOps [] p = p := rfl

@[simp] theorem runPoolOps_cons (op : PoolOp) (ops : List PoolOp) (p : CheckpointVotePool) :
    runPoolOps (op :: ops) p = runPoolOps ops (op.apply p) := rfl

/-! ## The uniqueness invariant -/

/-- **The pool invariant.** -/
structure PoolInv (p : CheckpointVotePool) : Prop where
  /-- A cached envelope is filed under its own signer and under its vote's `(number, hash)`. -/
  filed : ∀ k a env, p.voteOf k a = some env →
    env.signer = a ∧ env.vote.number = k.number ∧ env.vote.hash = k.hash
  /-- A signer appears under at most one hash per checkpoint number. -/
  unique : ∀ k₁ k₂ a, (p.voteOf k₁ a).isSome → (p.voteOf k₂ a).isSome →
    k₁.number = k₂.number → k₁ = k₂

namespace PoolInv

variable {p : CheckpointVotePool}

theorem new : PoolInv newCheckpointVotePool :=
  ⟨by simp, by simp⟩

/-- The invariant reads the pool only through `voteOf`, and holds of any pool whose cached votes
are among those of a pool where it holds. -/
theorem of_voteOf_sub {p' : CheckpointVotePool} (hp : PoolInv p)
    (h : ∀ k a env, p'.voteOf k a = some env → p.voteOf k a = some env) : PoolInv p' := by
  have hsome : ∀ k a, (p'.voteOf k a).isSome → (p.voteOf k a).isSome := by
    intro k a hk
    obtain ⟨env, henv⟩ := Option.isSome_iff_exists.1 hk
    rw [h k a env henv]
    rfl
  exact ⟨fun k a env hv => hp.filed k a env (h k a env hv),
    fun k₁ k₂ a h₁ h₂ hn => hp.unique k₁ k₂ a (hsome k₁ a h₁) (hsome k₂ a h₂) hn⟩

theorem of_voteOf_eq {p' : CheckpointVotePool} (hp : PoolInv p)
    (h : ∀ k a, p'.voteOf k a = p.voteOf k a) : PoolInv p' :=
  hp.of_voteOf_sub fun k a env hv => by rwa [← h]

theorem addVote (hp : PoolInv p) (env : CheckpointVoteEnvelope) : PoolInv (p.addVote env).1 := by
  cases hfind : p.findSigner env.vote.number env.signer with
  | some e =>
    exact hp.of_voteOf_eq
      (CheckpointVotePool.voteOf_congr (CheckpointVotePool.votes_addVote_of_findSigner_eq_some hfind))
  | none =>
    -- the vote is inserted: the signer had no vote at this number under any hash
    have hnone := fun (k : CheckpointKey) (hk : k.number = env.vote.number) =>
      CheckpointVotePool.voteOf_eq_none_of_findSigner_eq_none hfind hk
    rw [CheckpointVotePool.addVote_of_findSigner_eq_none hfind]
    constructor
    · intro k a e' hv
      rw [CheckpointVotePool.voteOf_insertNested] at hv
      split_ifs at hv with hk
      · obtain ⟨rfl, rfl⟩ := hk
        cases hv
        exact ⟨rfl, rfl, rfl⟩
      · exact hp.filed k a e' hv
    · intro k₁ k₂ a h₁ h₂ hn
      rw [CheckpointVotePool.voteOf_insertNested] at h₁ h₂
      split_ifs at h₁ h₂ with hk₁ hk₂ hk₂
      · rw [hk₁.1, hk₂.1]
      · -- `k₁` is the new key, so `k₂` is an older key at the same number
        obtain ⟨rfl, rfl⟩ := hk₁
        simp [hnone k₂ hn.symm] at h₂
      · obtain ⟨rfl, rfl⟩ := hk₂
        simp [hnone k₁ hn] at h₁
      · exact hp.unique k₁ k₂ a h₁ h₂ hn

theorem prune (hp : PoolInv p) (finalizedNumber currentHead checkpointInterval : ℕ) :
    PoolInv (p.prune finalizedNumber currentHead checkpointInterval) := by
  apply hp.of_voteOf_sub
  intro k a env hv
  rw [CheckpointVotePool.voteOf_prune] at hv
  split_ifs at hv
  exact hv

theorem addPending (hp : PoolInv p) (env : CheckpointVoteEnvelope) : PoolInv (p.addPending env) :=
  hp.of_voteOf_eq (CheckpointVotePool.voteOf_congr (CheckpointVotePool.votes_addPending env))

theorem drainPending (hp : PoolInv p) (number : ℕ) : PoolInv (p.drainPending number).2 :=
  hp.of_voteOf_eq (CheckpointVotePool.voteOf_congr (CheckpointVotePool.votes_drainPending number))

/-- **Step lemma**: every pool operation keeps the invariant. -/
theorem apply (hp : PoolInv p) (op : PoolOp) : PoolInv (op.apply p) := by
  cases op with
  | addVote env => exact hp.addVote env
  | addPending env => exact hp.addPending env
  | drainPending number => exact hp.drainPending number
  | getVotes => exact hp
  | prune finalizedNumber currentHead checkpointInterval =>
    exact hp.prune finalizedNumber currentHead checkpointInterval

/-- **Run lemma**: every sequence of pool operations keeps the invariant. -/
theorem runPoolOps (hp : PoolInv p) (ops : List PoolOp) : PoolInv (Dpos.runPoolOps ops p) := by
  induction ops generalizing p with
  | nil => exact hp
  | cons op ops ih => exact ih (hp.apply op)

/-! ### Consequences -/

/-- **A second vote at a number.** When the signer already has a cached vote at the number under
hash `h`, `AddVote` ignores a vote for `h` and records a vote for any other hash as an
equivocation only. -/
theorem addVote_of_voteOf (hp : PoolInv p) {env e : CheckpointVoteEnvelope} {h : Hash}
    (hv : p.voteOf ⟨env.vote.number, h⟩ env.signer = some e) :
    p.addVote env =
      if h = env.vote.hash then (p, false, false) else (p.recordEquivocation env, false, true) := by
  cases hfind : p.findSigner env.vote.number env.signer with
  | none =>
    have := CheckpointVotePool.voteOf_eq_none_of_findSigner_eq_none hfind
      (show (⟨env.vote.number, h⟩ : CheckpointKey).number = env.vote.number from rfl)
    rw [hv] at this
    cases this
  | some e' =>
    -- the scan can only find the key `(number, h)`
    obtain ⟨hnum, hsome⟩ := CheckpointVotePool.findSigner_eq_some hfind
    have hkey : e'.1 = ⟨env.vote.number, h⟩ := hp.unique _ _ _ hsome (by simp [hv]) hnum
    unfold CheckpointVotePool.addVote
    simp only [hfind, hkey]

end PoolInv

/-- The signers of `E` with a cached vote for `(number, hash)`: the checkpoint's eligible votes. -/
def CheckpointVotePool.eligibleVoters (p : CheckpointVotePool) (E : Finset Address) (number : ℕ)
    (hash : Hash) : Finset Address :=
  E.filter fun a => (p.voteOf ⟨number, hash⟩ a).isSome

namespace PoolInv

variable {p : CheckpointVotePool}

/-- The eligible voters of two hashes at one number are disjoint. -/
theorem disjoint_eligibleVoters (hp : PoolInv p) (E : Finset Address) {number : ℕ}
    {h₁ h₂ : Hash} (hne : h₁ ≠ h₂) :
    Disjoint (p.eligibleVoters E number h₁) (p.eligibleVoters E number h₂) := by
  rw [Finset.disjoint_left]
  intro a ha₁ ha₂
  simp only [CheckpointVotePool.eligibleVoters, Finset.mem_filter] at ha₁ ha₂
  have := hp.unique _ _ a ha₁.2 ha₂.2 rfl
  exact hne (CheckpointKey.mk.inj this).2

/-- **One quorum per number.** For any set `E` of eligible signers, at most one hash at a number
has `Quorum(|E|)` or more eligible votes in the pool. -/
theorem eq_of_quorum_le_eligibleVoters (hp : PoolInv p) (E : Finset Address) {number : ℕ}
    {h₁ h₂ : Hash} (hq₁ : quorum E.card ≤ (p.eligibleVoters E number h₁).card)
    (hq₂ : quorum E.card ≤ (p.eligibleVoters E number h₂).card) : h₁ = h₂ := by
  by_contra hne
  have hsub : ∀ h, p.eligibleVoters E number h ⊆ E := fun _ => Finset.filter_subset _ _
  rcases Nat.eq_zero_or_pos E.card with hE | hE
  · -- no eligible signers: `Quorum(0) = 1` votes cannot be found
    have := Finset.card_le_card (hsub h₁)
    rw [quorum, if_pos (by omega)] at hq₁
    omega
  · rw [quorum_eq_twoThirds hE] at hq₁ hq₂
    exact Quorum.not_disjoint_of_twoThirds_le (hsub h₁) (hsub h₂) hE hq₁ hq₂
      (hp.disjoint_eligibleVoters E hne)


/-- **One vote per signer.** The votes `GetVotes` returns have pairwise distinct signers. -/
theorem nodup_getVotes (hp : PoolInv p) (number : ℕ) (hash : Hash) :
    ((p.getVotes number hash).map (·.signer)).Nodup := by
  unfold CheckpointVotePool.getVotes
  split
  · exact List.nodup_nil
  · rename_i signerMap hmap
    -- each envelope is filed under its signer, so the signers are the map's keys
    have hkeys : (signerMap.entries.map (·.2)).map (·.signer) = signerMap.keys := by
      rw [List.map_map, AList.keys, List.keys]
      apply List.map_congr_left
      intro e he
      have hv : p.voteOf ⟨number, hash⟩ e.1 = some e.2 := by
        rw [CheckpointVotePool.voteOf, AList.lookup₂, hmap, Option.bind_some,
          ← Option.mem_def, AList.mem_lookup_iff]
        exact he
      exact (hp.filed _ _ _ hv).1
    rw [hkeys]
    exact signerMap.keys_nodup

end PoolInv

end Gtos.Dpos
