import Gtos.Dpos.CheckpointExtra
import Gtos.Lib.Bytes

/-! # The validator list of an epoch header (`consensus/dpos/snapshot.go`, `dpos.go`)

An epoch header carries the validator set of the next epoch in `Extra`, after the 32-byte vanity
and before the seal: the addresses alone before checkpoint finality is active, and after it a
count byte, the addresses and the QC. Four readers slice that layout: the shape checks of
`verifyHeader` (`verifyHeaderExtraShape`) and of `verifyCascadingFields`
(`verifyCascadingEpochShape`), `parseEpochValidators`, which reads the list back and requires it
strictly ascending, and `verifyEpochExtraAgainstValidators`, which compares it with the expected
set.

**Round trip** (`epochExtra_roundtrip`): the `Extra` `FinalizeAndAssemble` writes for a strictly
ascending list within the bounds passes every reader, which reads the list back unchanged; and
no `Extra` parses to a list that is not strictly ascending.

Addresses are compared as `bytes.Compare` compares their 32 big-endian bytes: as numbers. -/

namespace Gtos.Dpos

/-- The errors of reading an epoch validator list. -/
inductive EpochValidatorsError
  /-- A shape error (`errMissingSignature`, `errInvalidCheckpointValidators`). -/
  | extra (e : ExtraError)
  /-- `epoch validator count %d exceeds maxValidators %d`. -/
  | tooManyValidators (n maxValidators : ℕ)
  /-- `epoch %d validator count mismatch: Extra has %d, expected %d`. -/
  | countMismatch (number claimed expected : ℕ)
  /-- `epoch %d validator mismatch at index %d`, with the two addresses. -/
  | validatorMismatch (number index : ℕ) (claimed expected : Address)
  deriving DecidableEq, Repr

/-- `copy(out[i][:], payload[i*AddressLength:])` for each of the `n` addresses. -/
def readAddresses (payload : List UInt8) (n : ℕ) : List Address :=
  (List.range n).map fun i =>
    BitVec.ofNat 256 (Bytes.ofBytesBE ((payload.drop (i * addressLength)).take addressLength))

/-- The part of `parseEpochValidators` after the payload is cut out: at most `MaxValidators`
addresses when the bound is set, in strictly ascending order. -/
def payloadValidators (cfg : DPoSConfig) (payload : List UInt8) :
    Except EpochValidatorsError (List Address) :=
  let n := payload.length / addressLength
  if 0 < cfg.maxValidators ∧ n > cfg.maxValidators then
    .error (.tooManyValidators n cfg.maxValidators)
  else
    let out := readAddresses payload n
    -- each address above the one before it
    if out.IsChain (· < ·) then .ok out else .error (.extra .invalidCheckpointValidators)

/-- `parseEpochValidators(extra, cfg, isCheckpointFinality)`: the payload of the layout in use,
read by `payloadValidators`. -/
def parseEpochValidators (cfg : DPoSConfig) (extra : List UInt8) (isCheckpointFinality : Bool) :
    Except EpochValidatorsError (List Address) :=
  if extra.length < extraVanity + extraSealEd25519 then .error (.extra .missingSignature) else
  let middle := (extra.take (extra.length - extraSealEd25519)).drop extraVanity
  let payload : Except EpochValidatorsError (List UInt8) :=
    if isCheckpointFinality then
      match middle with
      | [] => .error (.extra .invalidCheckpointValidators)
      | count :: _ =>
        let valEnd := 1 + count.toNat * addressLength
        if valEnd > middle.length then .error (.extra .invalidCheckpointValidators)
        else .ok ((middle.take valEnd).drop 1)
    else if middle.length % addressLength ≠ 0 then .error (.extra .invalidCheckpointValidators)
    else .ok middle
  match payload with
  | .error e => .error e
  | .ok payload => payloadValidators cfg payload

/-- The epoch shape check of `verifyCascadingFields`: unlike `verifyHeader`, it looks at epoch
headers only, and asks for a non-zero count before the length. -/
def verifyCascadingEpochShape (cfg : DPoSConfig) (number : ℕ) (extra : List UInt8) :
    Except ExtraError Unit :=
  if number % cfg.epoch ≠ 0 then .ok () else
  let middle := (extra.take (extra.length - extraSealEd25519)).drop extraVanity
  if cfg.isCheckpointFinality number then
    match middle with
    | [] => .error .invalidCheckpointValidators
    | count :: _ =>
      let n := count.toNat
      if n = 0 then .error .invalidCheckpointValidators
      else if 1 + n * addressLength > middle.length then .error .invalidCheckpointValidators
      else .ok ()
  else if middle.length = 0 ∨ middle.length % addressLength ≠ 0 then
    .error .invalidCheckpointValidators
  else .ok ()

/-- `verifyEpochExtraAgainstValidators(header, actual)`: the list in `Extra` is `actual`, entry
by entry. -/
def verifyEpochExtraAgainstValidators (cfg : DPoSConfig) (header : Header)
    (actual : List Address) : Except EpochValidatorsError Unit :=
  match parseEpochValidators cfg header.extra (cfg.isCheckpointFinality header.number) with
  | .error e => .error e
  | .ok claimed =>
    if claimed.length ≠ actual.length then
      .error (.countMismatch header.number claimed.length actual.length)
    else
      match (List.range actual.length).find? fun i => claimed[i]! ≠ actual[i]! with
      | some i => .error (.validatorMismatch header.number i claimed[i]! actual[i]!)
      | none => .ok ()

/-! ## Addresses read back -/

/-- The big-endian bytes of a number, byte by byte. -/
theorem toBytesBE_eq_map (n len : ℕ) :
    Bytes.toBytesBE n len = (List.range len).map fun i => UInt8.ofNat (n / 256 ^ (len - 1 - i)) := by
  induction len generalizing n with
  | zero => rfl
  | succ len ih =>
    rw [Bytes.toBytesBE, ih, List.range_succ, List.map_append, List.map_singleton]
    congr 1
    · apply List.map_congr_left
      intro i hi
      -- dividing by 256 first shifts every byte by one place
      have hlt : i < len := List.mem_range.mp hi
      have hexp : len + 1 - 1 - i = (len - 1 - i) + 1 := by omega
      rw [hexp, Nat.div_div_eq_div_mul, pow_succ, mul_comm]
    · simp

@[simp] theorem ofBytesBE_addressBytes (a : Address) : Bytes.ofBytesBE (addressBytes a) = a.toNat := by
  have hbytes : addressBytes a = Bytes.toBytesBE a.toNat addressLength := by
    rw [toBytesBE_eq_map]
    rfl
  have hlt : a.toNat < 256 ^ addressLength := by
    have := a.isLt
    simp only [addressLength]
    omega
  rw [hbytes, Bytes.ofBytesBE_toBytesBE, Nat.mod_eq_of_lt hlt]

/-- The addresses of a list, written one after the other, read back as the list. -/
theorem readAddresses_flatMap (validators : List Address) :
    readAddresses (validators.flatMap addressBytes) validators.length = validators := by
  induction validators with
  | nil => rfl
  | cons a rest ih =>
    unfold readAddresses at ih ⊢
    rw [List.length_cons, List.range_succ_eq_map, List.map_cons, List.map_map]
    -- the first address is the first chunk; the others are the chunks after it
    have hfirst : (((a :: rest).flatMap addressBytes).drop (0 * addressLength)).take addressLength =
        addressBytes a := by
      simp [List.take_left' (length_addressBytes a)]
    have hrest : ∀ i, (((a :: rest).flatMap addressBytes).drop ((i + 1) * addressLength)).take
        addressLength = ((rest.flatMap addressBytes).drop (i * addressLength)).take addressLength := by
      intro i
      rw [List.flatMap_cons, add_mul, one_mul, add_comm, ← List.drop_drop,
        List.drop_left' (length_addressBytes a)]
    rw [hfirst, ofBytesBE_addressBytes, BitVec.ofNat_toNat, BitVec.setWidth_eq]
    congr 1
    conv_rhs => rw [← ih]
    apply List.map_congr_left
    intro i _
    simp only [Function.comp, Nat.succ_eq_add_one, hrest]

/-! ## The readers on the two layouts -/

section Layout

variable {vanity sealBytes : List UInt8} (cfg : DPoSConfig) (validators : List Address)

theorem length_flatMap_addressBytes :
    (validators.flatMap addressBytes).length = validators.length * addressLength := by
  induction validators with
  | nil => rfl
  | cons a rest ih => simp [ih, add_mul, add_comm]

/-- The addresses of an ascending list within the bound read back as the list. -/
theorem payloadValidators_flatMap (hmax : 0 < cfg.maxValidators → validators.length ≤ cfg.maxValidators)
    (hasc : validators.IsChain (· < ·)) :
    payloadValidators cfg (validators.flatMap addressBytes) = .ok validators := by
  have hn : (validators.flatMap addressBytes).length / addressLength = validators.length := by
    rw [length_flatMap_addressBytes, Nat.mul_div_cancel _ (by decide)]
  simp only [payloadValidators, hn, readAddresses_flatMap, hasc, if_true]
  rw [if_neg (fun h => absurd (hmax h.1) (Nat.not_le.mpr h.2))]

/-- The layout after activation parses to its list, whatever QC bytes follow it. -/
theorem parseEpochValidators_countLayout (hv : vanity.length = extraVanity)
    (hs : sealBytes.length = extraSealEd25519) (qcBytes : List UInt8)
    (hn : validators.length < 256)
    (hmax : 0 < cfg.maxValidators → validators.length ≤ cfg.maxValidators)
    (hasc : validators.IsChain (· < ·)) :
    parseEpochValidators cfg (vanity ++ ((UInt8.ofNat validators.length ::
        validators.flatMap addressBytes) ++ qcBytes) ++ sealBytes) true = .ok validators := by
  unfold parseEpochValidators
  rw [if_neg (length_layout_ge hv hs)]
  dsimp only
  rw [middle_of_layout hv hs]
  have hcount : (UInt8.ofNat validators.length).toNat = validators.length := by
    simp [Nat.mod_eq_of_lt hn]
  have hlen := length_flatMap_addressBytes validators
  simp only [if_true, List.cons_append, hcount]
  -- the payload runs from the count byte to the end of the addresses
  rw [if_neg (by simp only [List.length_cons, List.length_append, hlen]; omega),
    show 1 + validators.length * addressLength = (validators.flatMap addressBytes).length + 1 by
      omega,
    List.take_succ_cons, List.drop_one, List.tail_cons, List.take_left' rfl]
  exact payloadValidators_flatMap cfg validators hmax hasc

/-- The layout before activation parses to its list. -/
theorem parseEpochValidators_plainLayout (hv : vanity.length = extraVanity)
    (hs : sealBytes.length = extraSealEd25519)
    (hmax : 0 < cfg.maxValidators → validators.length ≤ cfg.maxValidators)
    (hasc : validators.IsChain (· < ·)) :
    parseEpochValidators cfg (vanity ++ validators.flatMap addressBytes ++ sealBytes) false =
      .ok validators := by
  unfold parseEpochValidators
  rw [if_neg (length_layout_ge hv hs)]
  dsimp only
  rw [middle_of_layout hv hs, length_flatMap_addressBytes]
  simp only [Bool.false_eq_true, if_false, Nat.mul_mod_left, ne_eq, not_true_eq_false]
  exact payloadValidators_flatMap cfg validators hmax hasc

/-- The layout before activation, with at least one address, passes `verifyHeader`'s shape
checks of epoch headers. -/
theorem verifyHeaderExtraShape_plainLayout {number : ℕ} (hv : vanity.length = extraVanity)
    (hs : sealBytes.length = extraSealEd25519) (hpos : 0 < validators.length) (hnum : number ≠ 0)
    (hep : number % cfg.epoch = 0) (hcf : cfg.isCheckpointFinality number = false) :
    verifyHeaderExtraShape cfg number (vanity ++ validators.flatMap addressBytes ++ sealBytes) =
      .ok () := by
  unfold verifyHeaderExtraShape
  rw [if_neg hnum, if_neg (length_layout_ge hv hs)]
  dsimp only
  rw [middle_of_layout hv hs, length_flatMap_addressBytes]
  have hlen : validators.length * addressLength ≠ 0 :=
    Nat.mul_ne_zero (Nat.pos_iff_ne_zero.mp hpos) (by decide)
  simp [hep, hcf, hlen]

/-- The layout after activation, with a count of 1 to 255, passes `verifyCascadingFields`'s
shape check. -/
theorem verifyCascadingEpochShape_countLayout {number : ℕ} (hv : vanity.length = extraVanity)
    (hs : sealBytes.length = extraSealEd25519) (qcBytes : List UInt8) (hpos : 0 < validators.length)
    (hn : validators.length < 256) (hcf : cfg.isCheckpointFinality number = true) :
    verifyCascadingEpochShape cfg number (vanity ++ ((UInt8.ofNat validators.length ::
        validators.flatMap addressBytes) ++ qcBytes) ++ sealBytes) = .ok () := by
  unfold verifyCascadingEpochShape
  by_cases hep : number % cfg.epoch ≠ 0
  · rw [if_pos hep]
  · rw [if_neg hep]
    dsimp only
    rw [middle_of_layout hv hs, hcf, if_pos rfl]
    have hcount : (UInt8.ofNat validators.length).toNat = validators.length := by
      simp [Nat.mod_eq_of_lt hn]
    have hlen := length_flatMap_addressBytes validators
    simp only [List.cons_append, hcount]
    rw [if_neg (by omega),
      if_neg (by simp only [List.length_cons, List.length_append, hlen]; omega)]

/-- The layout before activation, with at least one address, passes `verifyCascadingFields`'s
shape check. -/
theorem verifyCascadingEpochShape_plainLayout {number : ℕ} (hv : vanity.length = extraVanity)
    (hs : sealBytes.length = extraSealEd25519) (hpos : 0 < validators.length)
    (hcf : cfg.isCheckpointFinality number = false) :
    verifyCascadingEpochShape cfg number (vanity ++ validators.flatMap addressBytes ++ sealBytes) =
      .ok () := by
  unfold verifyCascadingEpochShape
  by_cases hep : number % cfg.epoch ≠ 0
  · rw [if_pos hep]
  · rw [if_neg hep]
    dsimp only
    rw [middle_of_layout hv hs, hcf, length_flatMap_addressBytes]
    have hlen : validators.length * addressLength ≠ 0 :=
      Nat.mul_ne_zero (Nat.pos_iff_ne_zero.mp hpos) (by decide)
    simp [hlen]

end Layout

/-- An `Extra` that parses to the expected list passes the comparison. -/
theorem verifyEpochExtraAgainstValidators_of_parse {cfg : DPoSConfig} {header : Header}
    {actual : List Address}
    (h : parseEpochValidators cfg header.extra (cfg.isCheckpointFinality header.number) =
      .ok actual) :
    verifyEpochExtraAgainstValidators cfg header actual = .ok () := by
  unfold verifyEpochExtraAgainstValidators
  rw [h]
  dsimp only
  rw [if_neg (by simp), List.find?_eq_none.mpr (by simp)]

/-- **Only ascending lists parse**: whatever the `Extra`, a list `parseEpochValidators` returns
is strictly ascending. -/
theorem isChain_of_parseEpochValidators {cfg : DPoSConfig} {extra : List UInt8}
    {isCheckpointFinality : Bool} {out : List Address}
    (h : parseEpochValidators cfg extra isCheckpointFinality = .ok out) :
    out.IsChain (· < ·) := by
  unfold parseEpochValidators at h
  rw [if_neg (fun hshort => by rw [if_pos hshort] at h; cases h)] at h
  dsimp only at h
  split at h
  · cases h
  · rename_i payload _
    unfold payloadValidators at h
    dsimp only at h
    split_ifs at h with hmax hasc
    cases h
    exact hasc

/-! ## The producer's list, read back -/

/-- **What `FinalizeAndAssemble` writes into an epoch header**: outside the test engine, the
vanity, then the parent's active validators or the fallback list (a non-empty list), with the
count byte and some QC bytes after activation and alone before it, then the seal placeholder. -/
theorem finalizeAndAssembleExtra_epoch {cfg : DPoSConfig} {env : QCEnv} {ae : AssembleEnv}
    {votePool : Option CheckpointVotePool} {header : Header} {extra' : List UInt8}
    {pool' : Option CheckpointVotePool}
    (h : finalizeAndAssembleExtra cfg env ae votePool header = .ok (extra', pool'))
    (hep : header.number % cfg.epoch = 0) (hfake : ae.fakeDiff = false) :
    ∃ vanity validators, vanity.length = extraVanity ∧ 0 < validators.length ∧
      (∃ parent, ae.activeValidatorsAtRoot parent = .ok validators ∨
        ae.fallbackValidatorsFromHeader parent = .ok validators) ∧
      ((cfg.isCheckpointFinality header.number = true ∧ ∃ qcBytes, extra' =
          vanity ++ ((UInt8.ofNat validators.length :: validators.flatMap addressBytes) ++
            qcBytes) ++ List.replicate extraSealEd25519 0) ∨
        (cfg.isCheckpointFinality header.number = false ∧
          extra' = vanity ++ validators.flatMap addressBytes ++ List.replicate extraSealEd25519 0)) := by
  unfold finalizeAndAssembleExtra at h
  dsimp only at h
  rw [if_pos ⟨hep, hfake⟩] at h
  split at h
  · cases h
  · rename_i parent _
    split at h
    · cases h
    · rename_i fallback hfallback
      split at h
      · cases h
      · rename_i validators hvalidators
        obtain ⟨hpos, hsrc⟩ := expectedEpochValidators_eq_ok hvalidators
        have hsource : ae.activeValidatorsAtRoot parent = .ok validators ∨
            ae.fallbackValidatorsFromHeader parent = .ok validators := by
          rcases hsrc with hactive | rfl
          · exact Or.inl hactive
          · exact Or.inr hfallback
        split_ifs at h with hshort hcf
        · -- the layout with the count byte
          obtain ⟨rfl, -⟩ := Prod.mk.inj (Except.ok.inj h)
          exact ⟨header.extra.take extraVanity, validators, by simp; omega, hpos,
            ⟨parent, hsource⟩, Or.inl ⟨hcf, _, rfl⟩⟩
        · obtain ⟨rfl, -⟩ := Prod.mk.inj (Except.ok.inj h)
          exact ⟨header.extra.take extraVanity, validators, by simp; omega, hpos,
            ⟨parent, hsource⟩, Or.inr ⟨by simpa using hcf, rfl⟩⟩

/-- **Epoch `Extra` round trip.** Take the `Extra` `FinalizeAndAssemble` writes into an epoch
header (outside the test engine) and seal it with any 96 bytes. If the validator list it wrote is
strictly ascending, within `MaxValidators` when that bound is set, and fits the count byte after
activation, then the shape checks of `verifyHeader` and `verifyCascadingFields` accept it,
`parseEpochValidators` reads the list back unchanged, and `verifyEpochExtraAgainstValidators`
accepts it against that list. Conversely, every list `parseEpochValidators` returns, from any
`Extra`, is strictly ascending. -/
theorem epochExtra_roundtrip (cfg : DPoSConfig) (env : QCEnv) (ae : AssembleEnv)
    (votePool : Option CheckpointVotePool) (header : Header) (extra' : List UInt8)
    (pool' : Option CheckpointVotePool) (sealBytes : List UInt8)
    (h : finalizeAndAssembleExtra cfg env ae votePool header = .ok (extra', pool'))
    (hnum : header.number ≠ 0) (hep : header.number % cfg.epoch = 0)
    (hfake : ae.fakeDiff = false) (hs : sealBytes.length = extraSealEd25519) :
    (∃ validators : List Address, 0 < validators.length ∧
      (∃ parent, ae.activeValidatorsAtRoot parent = .ok validators ∨
        ae.fallbackValidatorsFromHeader parent = .ok validators) ∧
      (validators.IsChain (· < ·) →
        (0 < cfg.maxValidators → validators.length ≤ cfg.maxValidators) →
        (cfg.isCheckpointFinality header.number = true → validators.length < 256) →
        verifyHeaderExtraShape cfg header.number (sealExtra extra' sealBytes) = .ok () ∧
        verifyCascadingEpochShape cfg header.number (sealExtra extra' sealBytes) = .ok () ∧
        parseEpochValidators cfg (sealExtra extra' sealBytes)
          (cfg.isCheckpointFinality header.number) = .ok validators ∧
        verifyEpochExtraAgainstValidators cfg { header with extra := sealExtra extra' sealBytes }
          validators = .ok ())) ∧
    ∀ (extra : List UInt8) (isCheckpointFinality : Bool) (out : List Address),
      parseEpochValidators cfg extra isCheckpointFinality = .ok out → out.IsChain (· < ·) := by
  refine ⟨?_, fun _ _ _ hparse => isChain_of_parseEpochValidators hparse⟩
  obtain ⟨vanity, validators, hv, hpos, hsource, hlayout⟩ :=
    finalizeAndAssembleExtra_epoch h hep hfake
  refine ⟨validators, hpos, hsource, fun hasc hmax hcount => ?_⟩
  have hplaceholder : (List.replicate extraSealEd25519 (0 : UInt8)).length = extraSealEd25519 :=
    List.length_replicate
  rcases hlayout with ⟨hcf, qcBytes, rfl⟩ | ⟨hcf, rfl⟩
  · -- after activation: count byte, addresses, QC bytes
    have hn := hcount hcf
    rw [sealExtra_layout hplaceholder]
    have hparse := parseEpochValidators_countLayout cfg validators hv hs qcBytes hn hmax hasc
    rw [← hcf] at hparse
    exact ⟨verifyHeaderExtraShape_epoch hv hs hpos hn (length_flatMap_addressBytes validators)
        hnum hep hcf, verifyCascadingEpochShape_countLayout cfg validators hv hs qcBytes hpos hn hcf,
      hparse, verifyEpochExtraAgainstValidators_of_parse hparse⟩
  · -- before activation: the addresses alone
    rw [sealExtra_layout hplaceholder]
    have hparse := parseEpochValidators_plainLayout cfg validators hv hs hmax hasc
    rw [← hcf] at hparse
    exact ⟨verifyHeaderExtraShape_plainLayout cfg validators hv hs hpos hnum hep hcf,
      verifyCascadingEpochShape_plainLayout cfg validators hv hs hpos hcf, hparse,
      verifyEpochExtraAgainstValidators_of_parse hparse⟩

/-- Epoch block `2` before checkpoint finality, with the validators `0x1` and `0x2` at the
parent's state: the sealed header reads back `[0x1, 0x2]`. -/
theorem epochExtra_roundtrip_two_validators :
    let cfg : DPoSConfig := ⟨2, 1, none, 4⟩
    let ae : AssembleEnv := ⟨false, fun _ _ => none, fun _ => .ok [],
      fun _ => .ok [0x1#256, 0x2#256], fun _ => none⟩
    let header : Header := ⟨2, 0, List.replicate extraVanity 0⟩
    let extra' := List.replicate extraVanity 0 ++ [0x1#256, 0x2#256].flatMap addressBytes ++
      List.replicate extraSealEd25519 0
    ∃ validators : List Address, 0 < validators.length ∧
      (∃ parent, ae.activeValidatorsAtRoot parent = .ok validators ∨
        ae.fallbackValidatorsFromHeader parent = .ok validators) ∧
      (validators.IsChain (· < ·) →
        (0 < cfg.maxValidators → validators.length ≤ cfg.maxValidators) →
        (cfg.isCheckpointFinality header.number = true → validators.length < 256) →
        verifyHeaderExtraShape cfg header.number (sealExtra extra' (List.replicate 96 7)) = .ok () ∧
        verifyCascadingEpochShape cfg header.number (sealExtra extra' (List.replicate 96 7)) =
          .ok () ∧
        parseEpochValidators cfg (sealExtra extra' (List.replicate 96 7))
          (cfg.isCheckpointFinality header.number) = .ok validators ∧
        verifyEpochExtraAgainstValidators cfg
          { header with extra := sealExtra extra' (List.replicate 96 7) } validators = .ok ()) :=
  (epochExtra_roundtrip ⟨2, 1, none, 4⟩ ⟨none, fun h n => some ⟨n, h, []⟩, fun _ => 0,
    fun _ _ => none, fun _ => .ok [], fun _ => 0, fun _ => 0, fun _ _ _ => false, fun _ => none⟩
    _ none _ _ none (List.replicate 96 7) rfl (by decide) (by decide) rfl rfl).1

end Gtos.Dpos
