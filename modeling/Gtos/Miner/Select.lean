import Gtos.Core.StateProcessor

/-! # Choosing a block's transactions (`miner/worker.go`)

`selectTransactions` picks the transactions of a block from the pool without executing them.
For every sender a cursor walks its transactions in nonce order; a priority queue of cursors
(`pricedSenderHeap`) always yields the cursor whose head pays the highest tip, ties broken by the
smaller transaction hash. A head is taken when its nonce is the sender's next nonce, its sponsor
nonce the sponsor's next one, and its gas fits in the block; a cursor whose head waits for a
later sponsor nonce is paused, and resumed once that nonce comes up. Local transactions are
chosen first, then remote ones.

Only nonces and gas are checked. Balances are not: two transactions of one payer are both
chosen when each alone is affordable, whatever they cost together.

The model:
* the heap is a list, and `pop` returns the cursor that orders first (`PricedSenderCursor.less`),
  which is what `heap.Pop` returns whatever the list's order;
* the map `pausedBySponsor` is the list of its `(sponsor, cursor)` entries in the order they were
  paused; the source iterates that map in no fixed order, but it only pushes cursors into the
  heap, where order does not matter;
* the maps of the pool content are association lists;
* the interrupt is never raised;
* the loop has a fuel bound, two iterations per transaction: a cursor is popped at most twice at
  each position, once before a pause and once after its resumption. -/

namespace Gtos.Miner

open Gtos.Core

/-- `(*Transaction).EffectiveGasTip(baseFee)`: the tip, or an error when the fee cap is below
the base fee. -/
def effectiveGasTip (tx : Transaction) (baseFee : ℤ) : Except Unit ℤ :=
  if tx.gasFeeCap < baseFee then .error () else .ok (min tx.gasTipCap (tx.gasFeeCap - baseFee))

/-- `pricedSenderCursor`: the position of one sender's walk through its transactions. -/
structure PricedSenderCursor where
  /-- `from`. -/
  sender : Address
  /-- `txs`, in nonce order. -/
  txs : List Transaction
  /-- `index` of the head; `txs.length` once the walk is over. -/
  index : ℕ
  /-- `minerFee`: the head's tip; `nil` in the source once the walk is over, when the cursor
  never enters the heap again. -/
  minerFee : ℤ
  deriving DecidableEq, Repr

namespace PricedSenderCursor

/-- `Head()`: the transaction at `index`, if any. -/
def head (c : PricedSenderCursor) : Option Transaction :=
  c.txs[c.index]?

/-- The end of the walk: `index = len(txs)`, `minerFee = nil`. -/
def exhaust (c : PricedSenderCursor) : PricedSenderCursor :=
  { c with index := c.txs.length, minerFee := 0 }

/-- The first position from `i` on whose transaction has a tip, with that tip. -/
def firstTip (baseFee : ℤ) : List Transaction → ℕ → Option (ℕ × ℤ)
  | [], _ => none
  | tx :: rest, i =>
    match effectiveGasTip tx baseFee with
    | .ok fee => some (i, fee)
    | .error () => firstTip baseFee rest (i + 1)

/-- `setHead(index)`: move to the first transaction from `index` on with a tip. -/
def setHead (baseFee : ℤ) (c : PricedSenderCursor) (index : ℕ) : PricedSenderCursor × Bool :=
  match firstTip baseFee (c.txs.drop index) index with
  | some (i, fee) => ({ c with index := i, minerFee := fee }, true)
  | none => (c.exhaust, false)

/-- The position of the transaction with nonce `expected`, scanning from `i` on; the scan gives
up at the first larger nonce. -/
def findNonce (expected : ℕ) : List Transaction → ℕ → Option ℕ
  | [], _ => none
  | tx :: rest, i =>
    if tx.nonce < expected then findNonce expected rest (i + 1)
    else if tx.nonce > expected then none
    else some i

/-- `AdvanceToExpected(expected)`: move past the head to the transaction with nonce `expected`,
or end the walk. -/
def advanceToExpected (baseFee : ℤ) (c : PricedSenderCursor) (expected : ℕ) :
    PricedSenderCursor × Bool :=
  match findNonce expected (c.txs.drop (c.index + 1)) (c.index + 1) with
  | some i => c.setHead baseFee i
  | none => (c.exhaust, false)

/-- `newPricedSenderCursor(from, txs, baseFee)`: a cursor at the first transaction with a tip,
or `nil`. -/
def new (sender : Address) (txs : List Transaction) (baseFee : ℤ) : Option PricedSenderCursor :=
  match (⟨sender, txs, 0, 0⟩ : PricedSenderCursor).setHead baseFee 0 with
  | (c, true) => some c
  | (_, false) => none

/-- The hash of the head, zero past the end (where the source never asks for it). -/
def headHash (c : PricedSenderCursor) : Hash :=
  (c.head.map Transaction.hash).getD 0

/-- `pricedSenderHeap.Less`: the higher tip first, then the smaller head hash as bytes. -/
def less (a b : PricedSenderCursor) : Bool :=
  if a.minerFee = b.minerFee then a.headHash.toNat < b.headHash.toNat
  else a.minerFee > b.minerFee

end PricedSenderCursor

/-! ## The priority queue of cursors -/

/-- The cursor of `c :: rest` that orders first, and the others. -/
def pickFirst (c : PricedSenderCursor) :
    List PricedSenderCursor → PricedSenderCursor × List PricedSenderCursor
  | [] => (c, [])
  | d :: rest =>
    if d.less c then
      let (m, others) := pickFirst d rest
      (m, c :: others)
    else
      let (m, others) := pickFirst c rest
      (m, d :: others)

/-- `heap.Pop`: the cursor that orders first, if the heap is not empty. -/
def popHeap : List PricedSenderCursor → Option (PricedSenderCursor × List PricedSenderCursor)
  | [] => none
  | c :: rest => some (pickFirst c rest)

/-! ## Pausing on sponsor nonces -/

/-- One pass of `resumePausedSponsorCursors` over the paused cursors of every sponsor for which
`expectedOf` gives the expected sponsor nonce: a cursor whose head has that sponsor nonce goes
back to the heap, one with a larger sponsor nonce stays paused, the others are dropped. Paused
cursors of other sponsors stay. -/
def resumePaused (expectedOf : Address → Option ℕ) :
    List (Address × PricedSenderCursor) → List PricedSenderCursor × List (Address × PricedSenderCursor)
  | [] => ([], [])
  | (sponsor, c) :: rest =>
    let (resumed, keep) := resumePaused expectedOf rest
    match expectedOf sponsor, c.head with
    | none, _ => (resumed, (sponsor, c) :: keep)
    | some _, none => (resumed, keep)
    | some expected, some tx =>
      if tx.sponsorNonce = expected then (c :: resumed, keep)
      else if tx.sponsorNonce > expected then (resumed, (sponsor, c) :: keep)
      else (resumed, keep)

/-- `resumePausedSponsorCursors(heads, pausedBySponsor, sponsor, expected)`. -/
def resumePausedSponsorCursors (sponsor : Address) (expected : ℕ) :
    List (Address × PricedSenderCursor) → List PricedSenderCursor × List (Address × PricedSenderCursor) :=
  resumePaused fun s => if s = sponsor then some expected else none

/-! ## The selection loop -/

/-- The variables `selectTransactions` keeps across both passes. -/
structure SelectState where
  /-- `nextNonce`: the next nonce of each sender seen. -/
  nextNonce : Address → Option ℕ
  /-- `nextSponsorNonce`: the next sponsor nonce of each sponsor seen. -/
  nextSponsorNonce : Address → Option ℕ
  /-- `remainingGas`. -/
  remainingGas : ℕ
  /-- `pausedBySponsor`, as its entries in the order they were paused. -/
  paused : List (Address × PricedSenderCursor)
  /-- `selected`. -/
  selected : List Transaction
  /-- `msgs`. -/
  msgs : List Message

/-- What the selection reads of the block being built. -/
structure SelectEnv where
  /-- The natives, for sender and sponsor resolution. -/
  nat : BlockNatives
  /-- `types.Sender(signer, tx)`: the sender recovered from the signature, if it recovers. -/
  recoverSender : Transaction → Option Address
  /-- `priv.GetPrivNonce(state, addr)`: the nonce of an account's encrypted balance. -/
  getPrivNonce : StateDB → Address → ℕ
  /-- `env.state`. -/
  state : StateDB
  /-- `env.header.BaseFee`. -/
  baseFee : ℤ

/-- `txSenderHint(signer, tx)`: the privacy sender, else the recovered sender, else the explicit
`From` of a `SignerTx`. -/
def txSenderHint (senv : SelectEnv) (tx : Transaction) : Address :=
  match tx.privFrom with
  | some sender => sender
  | none => (senv.recoverSender tx).getD tx.signerFrom

/-- The outcome of one iteration: stop the pass, or go on with the state and the heap. -/
inductive SelectStep
  /-- `break`. -/
  | stop (st : SelectState)
  /-- The next iteration. -/
  | next (st : SelectState) (heads : List PricedSenderCursor)

/-- Push a cursor back when it still has a head. -/
def pushIf (heads : List PricedSenderCursor) : PricedSenderCursor × Bool → List PricedSenderCursor
  | (c, true) => c :: heads
  | (_, false) => heads

/-- The sponsor part of an iteration: the expected sponsor nonce, recorded on first sight, and
whether the head may be taken; a head that waits for a later sponsor nonce is paused. -/
def sponsorCheck (senv : SelectEnv) (st : SelectState) (cursor : PricedSenderCursor)
    (tx : Transaction) : SelectState × Bool :=
  match tx.sponsorFrom with
  | none => (st, true)
  | some sponsor =>
    let expectedSponsor := (st.nextSponsorNonce sponsor).getD
      (getSponsorNonce senv.nat.env senv.state sponsor)
    let st := { st with
      nextSponsorNonce := Function.update st.nextSponsorNonce sponsor (some expectedSponsor) }
    if tx.sponsorNonce < expectedSponsor then (st, false)
    else if tx.sponsorNonce > expectedSponsor then
      ({ st with paused := st.paused ++ [(sponsor, cursor)] }, false)
    else (st, true)

/-- Take the head: record the transaction and its message, bump the nonces, resume the cursors
that waited for the sponsor's next nonce, charge the gas and advance the cursor. -/
def takeHead (senv : SelectEnv) (st : SelectState) (cursor : PricedSenderCursor)
    (tx : Transaction) (msg : Message) (sender : Address) (expected : ℕ)
    (heads : List PricedSenderCursor) : SelectState × List PricedSenderCursor :=
  let st := { st with
    selected := st.selected ++ [tx], msgs := st.msgs ++ [msg],
    nextNonce := Function.update st.nextNonce sender (some (expected + 1)) }
  let (st, heads) := match tx.sponsorFrom with
    | none => (st, heads)
    | some sponsor =>
      let next := (st.nextSponsorNonce sponsor).getD 0 + 1
      let (resumed, keep) := resumePausedSponsorCursors sponsor next st.paused
      ({ st with
        nextSponsorNonce := Function.update st.nextSponsorNonce sponsor (some next),
        paused := keep }, resumed ++ heads)
  let st := if isPrivacyTxType tx.txType then st
    else { st with remainingGas := st.remainingGas - tx.gas }
  (st, pushIf heads (cursor.advanceToExpected senv.baseFee (expected + 1)))

/-- One iteration of the loop of `doSelect`, on the cursor popped from the heap. -/
def selectIteration (senv : SelectEnv) (st : SelectState) (cursor : PricedSenderCursor)
    (heads : List PricedSenderCursor) : SelectStep :=
  match cursor.head with
  | none => .stop st
  | some tx =>
    let isPrivTransfer := isPrivacyTxType tx.txType
    if !isPrivTransfer && st.remainingGas < txGas then .stop st
    else
      let sender := txSenderHint senv tx
      let expected := (st.nextNonce sender).getD
        (if isPrivTransfer then senv.getPrivNonce senv.state sender else senv.state.nonce sender)
      let st := { st with nextNonce := Function.update st.nextNonce sender (some expected) }
      if tx.nonce < expected then .next st (pushIf heads (cursor.advanceToExpected senv.baseFee expected))
      else if tx.nonce > expected then .next st heads
      else
        match sponsorCheck senv st cursor tx with
        | (st, false) => .next st heads
        | (st, true) =>
          if !isPrivTransfer && tx.gas > st.remainingGas then .next st heads
          else
            match txAsMessageWithAccountSigner senv.nat tx senv.baseFee senv.state with
            | .error _ =>
              .next st (pushIf heads (cursor.advanceToExpected senv.baseFee expected))
            | .ok msg =>
              let (st, heads) := takeHead senv st cursor tx msg sender expected heads
              .next st heads

/-- The loop of `doSelect`, for at most `fuel` iterations; `none` if the fuel runs out. -/
def selectLoop (senv : SelectEnv) : ℕ → SelectState → List PricedSenderCursor → Option SelectState
  | 0, _, _ => none
  | fuel + 1, st, heads =>
    match popHeap heads with
    | none => some st
    | some (cursor, heads) =>
      match selectIteration senv st cursor heads with
      | .stop st => some st
      | .next st heads => selectLoop senv fuel st heads

/-- The number of transactions of a pool content. -/
def txCount (m : List (Address × List Transaction)) : ℕ :=
  (m.map fun e => e.2.length).sum

/-- `doSelect(m)`: a cursor for every sender of `m`, the paused cursors whose sponsor nonce is
known, then the loop. -/
def doSelect (senv : SelectEnv) (fuel : ℕ) (m : List (Address × List Transaction))
    (st : SelectState) : Option SelectState :=
  if m.length = 0 then some st
  else
    let heads := m.filterMap fun (sender, txs) =>
      if txs.length = 0 then none else PricedSenderCursor.new sender txs senv.baseFee
    let (resumed, keep) := resumePaused st.nextSponsorNonce st.paused
    selectLoop senv fuel { st with paused := keep } (resumed ++ heads)

/-- `selectTransactions(env, localTxs, remoteTxs, nil)`: the chosen transactions and their
messages, locals first; `none` only if the fuel bound were too small. -/
def selectTransactions (senv : SelectEnv) (gasPool : ℕ)
    (localTxs remoteTxs : List (Address × List Transaction)) :
    Option (List Transaction × List Message) := do
  let fuel := 2 * (txCount localTxs + txCount remoteTxs) + 1
  let st : SelectState := ⟨fun _ => none, fun _ => none, gasPool, [], [], []⟩
  let st ← doSelect senv fuel localTxs st
  let st ← doSelect senv fuel remoteTxs st
  return (st.selected, st.msgs)

end Gtos.Miner
