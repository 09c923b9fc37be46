import Gtos.Lib.Loop
import Gtos.Lease.State

/-! # The prune sweep (`lease/prune.go`)

At an epoch boundary the sweep walks the prune queue from the head epoch up to the current epoch.
In each epoch it resumes at the epoch's cursor and looks at every entry up to the count: an entry
is acted on only if it is the position the lease's metadata points at and the lease is prunable
at the current block; then the refund is paid to the lease owner, the address tombstoned, the
metadata cleared and the contract destroyed. A swept epoch is cleared and the head moves past it.
A budget bounds the entries one sweep looks at: when it is spent, the sweep persists the cursor
and makes the epoch it stopped in the head.

The two nested `for` loops are folds over `List.range'` in `Except` (`Gtos.Lib.Loop`): an early
`return` is an `.error` carrying the state it leaves. The loop variable `epoch` of the outer loop
is a `uint64`; the model's loop ends after `currentEpoch`, where the code's would wrap around when
`currentEpoch` is `MaxUint64`, which takes an epoch length of one and the last block number.

How the refund is paid is a parameter of the loops (`pruneSweepWith`): `runPruneSweep` is the
sweep with `payRefund`, the code's payment, which caps the payout at the registry's balance. -/

namespace Gtos.Lease

open Gtos.Core

section Sweep

variable (keccak256 : List UInt8 → Hash) (dposEpoch : ℕ)

/-- `db.GetCodeHash(addr)`: Keccak-256 of the account's code. -/
def getCodeHash (s : StateDB) (addr : Address) : Hash :=
  keccak256 (s.code addr)

/-- `db.Suicide(addr)`, with the deletion that follows at the end of the block applied at once:
the account loses its balance, nonce, code and storage. -/
def suicide (s : StateDB) (addr : Address) : StateDB :=
  { s with
    balance := Function.update s.balance addr 0
    nonce := Function.update s.nonce addr 0
    code := Function.update s.code addr []
    storage := Function.update s.storage addr fun _ => 0 }

/-- The sweep's payment of a refund to the lease owner: nothing for a zero refund, and at most
what the registry holds. -/
def payRefund (s : StateDB) (owner : Address) (refund : ℕ) : StateDB :=
  if 0 < refund then
    let payout : ℤ := min (refund : ℤ) (VmStateDB.getBalance s leaseRegistryAddress)
    if 0 < payout then
      VmStateDB.addBalance (VmStateDB.subBalance s leaseRegistryAddress payout) owner payout
    else s
  else s

variable (pay : StateDB → Address → ℕ → StateDB) (currentBlock : ℕ)

/-- Pruning a lease: refund, tombstone, clear the metadata, destroy the contract. -/
def pruneLease (s : StateDB) (addr : Address) (m : Meta) : StateDB :=
  let s := pay s m.leaseOwner (refundFor m.depositWei)
  let s := writeTombstone keccak256 s addr ⟨getCodeHash keccak256 s addr, currentBlock⟩
  suicide (clearMeta keccak256 s addr) addr

/-- The work on the queue entry at `(epoch, cursor)`: skip an empty entry, an address without
metadata, a stale entry (the metadata points elsewhere) and a lease that is not prunable yet. -/
def pruneEntryWith (s : StateDB) (epoch cursor : ℕ) : StateDB :=
  let addr := readPruneEntry keccak256 s epoch cursor
  if addr = 0 then s else
  match readMeta keccak256 s addr with
  | none => s
  | some m =>
    if m.scheduledPruneEpoch ≠ epoch ∨ m.scheduledPruneSeq ≠ cursor then s
    else if effectiveStatus dposEpoch m currentBlock ≠ .prunable then s
    else pruneLease keccak256 pay currentBlock s addr m

variable (budget : ℕ)

/-- An iteration of the inner loop, over the queue of `epoch`: with the budget spent, persist the
cursor, make `epoch` the head and return; otherwise work on the entry. The accumulator is the
state and the number of entries processed. -/
def sweepEntry (epoch : ℕ) (acc : StateDB × ℕ) (cursor : ℕ) : Except StateDB (StateDB × ℕ) :=
  if budget ≠ 0 ∧ budget ≤ acc.2 then
    .error (writePruneHeadEpoch keccak256 (writePruneCursor keccak256 acc.1 epoch cursor) epoch)
  else .ok (pruneEntryWith keccak256 dposEpoch pay currentBlock acc.1 epoch cursor, acc.2 + 1)

/-- An iteration of the outer loop: sweep the entries of `epoch` from its cursor to its count,
then clear the epoch. -/
def sweepEpoch (acc : StateDB × ℕ) (epoch : ℕ) : Except StateDB (StateDB × ℕ) :=
  let count := readPruneEntryCount keccak256 acc.1 epoch
  let cursor := readPruneCursor keccak256 acc.1 epoch
  if count ≤ cursor then .ok (clearPruneEpoch keccak256 acc.1 epoch, acc.2)
  else
    match (List.range' cursor (count - cursor)).foldlM
        (sweepEntry keccak256 dposEpoch pay currentBlock budget epoch) acc with
    | .error s => .error s
    | .ok acc => .ok (clearPruneEpoch keccak256 acc.1 epoch, acc.2)

/-- The sweep of `runPruneSweep`, paying refunds with `pay`. After the last epoch the head is the
one after the current epoch. -/
def pruneSweepWith (s : StateDB) : StateDB :=
  let epochLength := epochLength dposEpoch
  if epochLength = 0 then s else
  let currentEpoch := currentBlock / epochLength
  let headEpoch := readPruneHeadEpoch keccak256 s
  if headEpoch = 0 ∨ currentEpoch < headEpoch then s else
  match (List.range' headEpoch (currentEpoch + 1 - headEpoch)).foldlM
      (sweepEpoch keccak256 dposEpoch pay currentBlock budget) (s, 0) with
  | .error s => s
  | .ok acc => writePruneHeadEpoch keccak256 acc.1 (currentEpoch + 1)

end Sweep

section Run

variable (keccak256 : List UInt8 → Hash) (dposEpoch : ℕ)

/-- `runPruneSweep(db, currentBlock, chainConfig, budget)`. -/
def runPruneSweep (s : StateDB) (currentBlock budget : ℕ) : StateDB :=
  pruneSweepWith keccak256 dposEpoch payRefund currentBlock budget s

/-- `RunPruneSweep(db, currentBlock, chainConfig)`, which sweeps only at an epoch boundary, with
its budget as a parameter: the code passes `LeasePruneBudgetPerSweep`. -/
def runPruneSweepAtBoundary (s : StateDB) (currentBlock budget : ℕ) : StateDB :=
  let epochLength := epochLength dposEpoch
  if epochLength = 0 ∨ currentBlock = 0 ∨ currentBlock % epochLength ≠ 0 then s
  else runPruneSweep keccak256 dposEpoch s currentBlock budget

end Run

/-! ## The sweep rule

What the sweep keeps true is proved once per property from what one step of it keeps true: the
work on one entry, the early return at a spent budget, the clearing of a swept epoch and the
final write of the head (`SweepInvariant`). The invariant `I ep c t` is about the state `t` at
position `c` of the queue of epoch `ep`. -/

section Rule

variable {keccak256 : List UInt8 → Hash} {dposEpoch : ℕ}
  {pay : StateDB → Address → ℕ → StateDB} {currentBlock budget : ℕ}

variable (keccak256 dposEpoch pay currentBlock) in
/-- `I` is an invariant of the sweep at `currentBlock` whose early return and end satisfy `Q`. -/
structure SweepInvariant (I : ℕ → ℕ → StateDB → Prop) (Q : StateDB → Prop) : Prop where
  /-- The inner loop starts at the epoch's cursor. -/
  resume : ∀ ep t, I ep 0 t → I ep (readPruneCursor keccak256 t ep) t
  /-- The work on an entry keeps the invariant and the epoch's count. -/
  entry : ∀ ep c t, ep ≤ currentBlock / epochLength dposEpoch →
    c < readPruneEntryCount keccak256 t ep → I ep c t →
    I ep (c + 1) (pruneEntryWith keccak256 dposEpoch pay currentBlock t ep c) ∧
      readPruneEntryCount keccak256 (pruneEntryWith keccak256 dposEpoch pay currentBlock t ep c) ep =
        readPruneEntryCount keccak256 t ep
  /-- The early return at a spent budget. -/
  stop : ∀ ep c t, ep ≤ currentBlock / epochLength dposEpoch →
    c < readPruneEntryCount keccak256 t ep → I ep c t →
    Q (writePruneHeadEpoch keccak256 (writePruneCursor keccak256 t ep c) ep)
  /-- Clearing an epoch whose entries are all looked at. -/
  clear : ∀ ep c t, ep ≤ currentBlock / epochLength dposEpoch →
    readPruneEntryCount keccak256 t ep ≤ c → I ep c t → I (ep + 1) 0 (clearPruneEpoch keccak256 t ep)
  /-- The head after the last epoch. -/
  final : ∀ t, I (currentBlock / epochLength dposEpoch + 1) 0 t →
    Q (writePruneHeadEpoch keccak256 t (currentBlock / epochLength dposEpoch + 1))

/-- **The work on an entry** leaves the state, or prunes the lease the entry names: one whose
metadata points back at the entry and which is prunable at the block. -/
theorem pruneEntryWith_cases (s : StateDB) (epoch cursor : ℕ) :
    pruneEntryWith keccak256 dposEpoch pay currentBlock s epoch cursor = s ∨
      ∃ m, readPruneEntry keccak256 s epoch cursor ≠ 0 ∧
        readMeta keccak256 s (readPruneEntry keccak256 s epoch cursor) = some m ∧
        m.scheduledPruneEpoch = epoch ∧ m.scheduledPruneSeq = cursor ∧
        effectiveStatus dposEpoch m currentBlock = .prunable ∧
        pruneEntryWith keccak256 dposEpoch pay currentBlock s epoch cursor =
          pruneLease keccak256 pay currentBlock s (readPruneEntry keccak256 s epoch cursor) m := by
  unfold pruneEntryWith
  dsimp only
  split_ifs with h0
  · exact .inl rfl
  · split
    · exact .inl rfl
    · rename_i m hm
      split_ifs with hstale hprun
      · exact .inl rfl
      · exact .inl rfl
      · push Not at hstale hprun
        exact .inr ⟨m, h0, hm, hstale.1, hstale.2, hprun, rfl⟩

variable {I : ℕ → ℕ → StateDB → Prop} {Q : StateDB → Prop}

/-- The inner loop over the queue of one epoch keeps the invariant, and its count. -/
theorem SweepInvariant.entryStep (h : SweepInvariant keccak256 dposEpoch pay currentBlock I Q)
    {ep : ℕ} (hep : ep ≤ currentBlock / epochLength dposEpoch) (count c : ℕ) (acc : StateDB × ℕ)
    (hc : c < count) (hI : I ep c acc.1 ∧ readPruneEntryCount keccak256 acc.1 ep = count) :
    (sweepEntry keccak256 dposEpoch pay currentBlock budget ep acc c).Post Q
      (fun acc' => I ep (c + 1) acc'.1 ∧ readPruneEntryCount keccak256 acc'.1 ep = count) := by
  obtain ⟨hI, hcount⟩ := hI
  unfold sweepEntry
  split_ifs
  · exact h.stop ep c acc.1 hep (hcount ▸ hc) hI
  · obtain ⟨hI', hcount'⟩ := h.entry ep c acc.1 hep (hcount ▸ hc) hI
    exact ⟨hI', hcount'.trans hcount⟩

/-- One epoch of the sweep keeps the invariant, from position zero of the epoch to position zero
of the next. -/
theorem SweepInvariant.epochStep (h : SweepInvariant keccak256 dposEpoch pay currentBlock I Q)
    {ep : ℕ} (hep : ep ≤ currentBlock / epochLength dposEpoch) (acc : StateDB × ℕ)
    (hI : I ep 0 acc.1) :
    (sweepEpoch keccak256 dposEpoch pay currentBlock budget acc ep).Post Q
      (fun acc' => I (ep + 1) 0 acc'.1) := by
  have hresume := h.resume ep acc.1 hI
  unfold sweepEpoch
  dsimp only
  split_ifs with hle
  · exact h.clear ep _ acc.1 hep hle hresume
  · -- the inner loop runs from the cursor to the count read at the start of the epoch
    have hloop := List.foldlM_range'_post
      (f := sweepEntry keccak256 dposEpoch pay currentBlock budget ep)
      (fun c acc' => I ep c acc'.1 ∧
        readPruneEntryCount keccak256 acc'.1 ep = readPruneEntryCount keccak256 acc.1 ep) Q
      (a := readPruneCursor keccak256 acc.1 ep)
      (n := readPruneEntryCount keccak256 acc.1 ep - readPruneCursor keccak256 acc.1 ep)
      ⟨hresume, rfl⟩ fun c acc' _ hc hI' => h.entryStep hep _ c acc' (by omega) hI'
    rw [show readPruneCursor keccak256 acc.1 ep +
        (readPruneEntryCount keccak256 acc.1 ep - readPruneCursor keccak256 acc.1 ep) =
        readPruneEntryCount keccak256 acc.1 ep by omega] at hloop
    split
    · rename_i s' heq
      rw [heq] at hloop
      exact hloop
    · rename_i acc' heq
      rw [heq] at hloop
      exact h.clear ep _ acc'.1 hep hloop.2.le hloop.1

/-- **The sweep rule**: an invariant that holds at the head epoch when the sweep starts gives `Q`
of the state the sweep ends in. -/
theorem SweepInvariant.sweep (h : SweepInvariant keccak256 dposEpoch pay currentBlock I Q)
    (s : StateDB)
    (hskip : readPruneHeadEpoch keccak256 s = 0 ∨
      currentBlock / epochLength dposEpoch < readPruneHeadEpoch keccak256 s → Q s)
    (hstart : 0 < readPruneHeadEpoch keccak256 s →
      readPruneHeadEpoch keccak256 s ≤ currentBlock / epochLength dposEpoch →
      I (readPruneHeadEpoch keccak256 s) 0 s) :
    Q (pruneSweepWith keccak256 dposEpoch pay currentBlock budget s) := by
  unfold pruneSweepWith
  dsimp only
  rw [if_neg (epochLength_pos dposEpoch).ne']
  split_ifs with hh
  · exact hskip hh
  · push Not at hh
    -- the outer loop runs from the head epoch to the current epoch
    have hloop := List.foldlM_range'_post
      (f := sweepEpoch keccak256 dposEpoch pay currentBlock budget)
      (fun ep acc => I ep 0 acc.1) Q (a := readPruneHeadEpoch keccak256 s)
      (n := currentBlock / epochLength dposEpoch + 1 - readPruneHeadEpoch keccak256 s) (b := (s, 0))
      (hstart (Nat.pos_of_ne_zero hh.1) hh.2)
      fun ep acc _ hep hI => h.epochStep (by omega) acc hI
    rw [show readPruneHeadEpoch keccak256 s +
        (currentBlock / epochLength dposEpoch + 1 - readPruneHeadEpoch keccak256 s) =
        currentBlock / epochLength dposEpoch + 1 by omega] at hloop
    split
    · rename_i s' heq
      rw [heq] at hloop
      exact hloop
    · rename_i acc heq
      rw [heq] at hloop
      exact h.final _ hloop

/-- **Sweep congruence**: two ways of paying refunds that agree on every entry the sweep prunes
from a state where the invariant holds give the same sweep. -/
theorem SweepInvariant.epoch_congr (h : SweepInvariant keccak256 dposEpoch pay currentBlock I Q)
    {pay' : StateDB → Address → ℕ → StateDB}
    (hpay : ∀ ep c t, ep ≤ currentBlock / epochLength dposEpoch →
      c < readPruneEntryCount keccak256 t ep → I ep c t →
      pruneEntryWith keccak256 dposEpoch pay currentBlock t ep c =
        pruneEntryWith keccak256 dposEpoch pay' currentBlock t ep c)
    {ep : ℕ} (hep : ep ≤ currentBlock / epochLength dposEpoch) (acc : StateDB × ℕ)
    (hI : I ep 0 acc.1) :
    sweepEpoch keccak256 dposEpoch pay currentBlock budget acc ep =
      sweepEpoch keccak256 dposEpoch pay' currentBlock budget acc ep := by
  have hresume := h.resume ep acc.1 hI
  unfold sweepEpoch
  dsimp only
  split_ifs with hle
  · rfl
  · -- the two inner loops agree entry by entry, the invariant and the count being kept
    rw [List.foldlM_range'_congr
      (g := sweepEntry keccak256 dposEpoch pay' currentBlock budget ep)
      (fun c acc' => I ep c acc'.1 ∧
        readPruneEntryCount keccak256 acc'.1 ep = readPruneEntryCount keccak256 acc.1 ep)
      ⟨hresume, rfl⟩ (fun c acc' _ hc hI' => ?_)
      fun c acc' _ hc hI' => (h.entryStep hep _ c acc' (by omega) hI').imp (fun _ _ => trivial)
        fun _ h' => h'.imp id id]
    unfold sweepEntry
    split_ifs
    · rfl
    · rw [hpay ep c acc'.1 hep (by omega) hI'.1]

theorem SweepInvariant.sweep_congr (h : SweepInvariant keccak256 dposEpoch pay currentBlock I Q)
    {pay' : StateDB → Address → ℕ → StateDB}
    (hpay : ∀ ep c t, ep ≤ currentBlock / epochLength dposEpoch →
      c < readPruneEntryCount keccak256 t ep → I ep c t →
      pruneEntryWith keccak256 dposEpoch pay currentBlock t ep c =
        pruneEntryWith keccak256 dposEpoch pay' currentBlock t ep c)
    (s : StateDB)
    (hstart : 0 < readPruneHeadEpoch keccak256 s →
      readPruneHeadEpoch keccak256 s ≤ currentBlock / epochLength dposEpoch →
      I (readPruneHeadEpoch keccak256 s) 0 s) :
    pruneSweepWith keccak256 dposEpoch pay currentBlock budget s =
      pruneSweepWith keccak256 dposEpoch pay' currentBlock budget s := by
  unfold pruneSweepWith
  dsimp only
  simp only [if_neg (epochLength_pos dposEpoch).ne']
  by_cases hh : readPruneHeadEpoch keccak256 s = 0 ∨
    currentBlock / epochLength dposEpoch < readPruneHeadEpoch keccak256 s
  · rw [if_pos hh, if_pos hh]
  · rw [if_neg hh, if_neg hh]
    push Not at hh
    -- the two outer loops agree epoch by epoch
    rw [List.foldlM_range'_congr (g := sweepEpoch keccak256 dposEpoch pay' currentBlock budget)
      (fun ep acc => I ep 0 acc.1) (hstart (Nat.pos_of_ne_zero hh.1) hh.2)
      (fun ep acc _ hep hI => h.epoch_congr hpay (by omega) acc hI)
      fun ep acc _ hep hI => (h.epochStep (by omega) acc hI).imp (fun _ _ => trivial) fun _ => id]

end Rule

end Gtos.Lease
