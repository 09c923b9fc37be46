import Mathlib.Data.Set.Function
import Gtos.Referral.Handler

/-! # The referrer relation under binds

The referrers the registry keeps form a parent map on addresses (`Gtos.Lib.ParentMap`). This
module relates the handler to that map.

* **`RefSlotsDistinct`** — Keccak-256 has no collision among the slots of the words of a list
  `A` of addresses. Under it a write to one word leaves every other word as it was, and the
  mutation phase of a bind sets the referrer of the sender and no other referrer of `A`
  (`readReferrer_bindWrites`).
* **`bindStep`** — what a bind does to the referrer map: the handler's three checks, the third
  being the bounded search `findUp` of `IsDownline`, then the new referrer.
* **`readReferrer_runBinds`** — every run of binds among the addresses of `A` moves the referrers
  of `A` as the run of `bindStep` does.
* a bind keeps the map acyclic unless the sender is already an ancestor of the referrer; the
  handler's check sees only `MaxReferralDepth` ancestors, so a deeper one closes a cycle.
* **`runBinds_deepChain_cycle`** — twenty-one binds build a chain of depth twenty-one, and its
  root then binds below its last address: the root becomes its own ancestor. -/

namespace Gtos.Referral

open Gtos.Core Gtos.Sysaction ParentMap

/-! ## The registry's words by key -/

/-- Keccak-256 has no collision among the slots of the four words of each address of `A`. -/
def RefSlotsDistinct (keccak256 : List UInt8 → Hash) (A : List Address) : Prop :=
  Set.InjOn (fun k : RefField × Address => refSlot keccak256 k.1 k.2) {k | k.2 ∈ A}

/-- The words of the addresses of `A`, listed. -/
def refKeys (A : List Address) : List (RefField × Address) :=
  A.flatMap fun a => [RefField.referrer, .block, .dcount, .tsize].map (·, a)

theorem mem_refKeys {A : List Address} {k : RefField × Address} (hk : k.2 ∈ A) :
    k ∈ refKeys A := by
  obtain ⟨f, a⟩ := k
  simp only [refKeys, List.mem_flatMap, List.mem_map]
  exact ⟨a, hk, f, by cases f <;> simp, rfl⟩

/-- A left inverse of the slots on the listed words gives `RefSlotsDistinct`, with one check per
word. -/
theorem refSlotsDistinct_of_leftInverse {keccak256 : List UInt8 → Hash} {A : List Address}
    (g : Hash → RefField × Address) (h : ∀ k ∈ refKeys A, g (refSlot keccak256 k.1 k.2) = k) :
    RefSlotsDistinct keccak256 A :=
  Set.LeftInvOn.injOn fun k hk => h k (mem_refKeys hk)

/-! ## What the writes do to the referrers -/

section Frame

variable {keccak256 : List UInt8 → Hash} {A : List Address}

/-- The referrers of `A` close on `A`: each is the zero address or an address of `A`. -/
abbrev ReferrersClosed (keccak256 : List UInt8 → Hash) (A : List Address) (s : StateDB) : Prop :=
  Closed 0 {a | a ∈ A} (readReferrer keccak256 s)

variable (hslots : RefSlotsDistinct keccak256 A)
include hslots

/-- **A write by key.** Writing a word of an address of `A` changes the referrer of an address of
`A` only when it is that referrer's word. -/
theorem readReferrer_setState {f : RefField} {b a : Address} (hb : b ∈ A) (ha : a ∈ A)
    (s : StateDB) (v : Hash) :
    readReferrer keccak256 (VmStateDB.setState s referralRegistryAddress (refSlot keccak256 f b) v) a =
      if f = .referrer ∧ b = a then v else readReferrer keccak256 s a := by
  simp only [readReferrer, StateDB.getState_eq, StateDB.storage_setState_self, Function.update_apply]
  refine if_congr ⟨fun h => ?_, fun h => by rw [h.1, h.2]⟩ rfl rfl
  have hkey := hslots (show (RefField.referrer, a) ∈ {k : RefField × Address | k.2 ∈ A} from ha)
    (show (f, b) ∈ {k : RefField × Address | k.2 ∈ A} from hb) h
  simp only [Prod.mk.injEq] at hkey
  exact ⟨hkey.1.symm, hkey.2.symm⟩

theorem readReferrer_writeReferrer {x r a : Address} (hx : x ∈ A) (ha : a ∈ A) (s : StateDB) :
    readReferrer keccak256 (writeReferrer keccak256 s x r) a =
      Function.update (readReferrer keccak256 s) x r a := by
  rw [writeReferrer, readReferrer_setState hslots hx ha, Function.update_apply]
  exact if_congr ⟨fun h => h.2.symm, fun h => ⟨rfl, h.symm⟩⟩ rfl rfl

theorem readReferrer_writeBoundBlock {x a : Address} (hx : x ∈ A) (ha : a ∈ A) (s : StateDB)
    (n : ℕ) : readReferrer keccak256 (writeBoundBlock keccak256 s x n) a = readReferrer keccak256 s a := by
  rw [writeBoundBlock, readReferrer_setState hslots hx ha]
  simp

theorem readReferrer_incrementDirectCount {x a : Address} (hx : x ∈ A) (ha : a ∈ A)
    (s : StateDB) :
    readReferrer keccak256 (incrementDirectCount keccak256 s x) a = readReferrer keccak256 s a := by
  rw [incrementDirectCount, readReferrer_setState hslots hx ha]
  simp

theorem readReferrer_incrementTeamSize {x a : Address} (hx : x ∈ A) (ha : a ∈ A) (s : StateDB) :
    readReferrer keccak256 (incrementTeamSize keccak256 s x) a = readReferrer keccak256 s a := by
  rw [incrementTeamSize, readReferrer_setState hslots hx ha]
  simp

/-- **The team-size walk keeps the referrers.** It climbs from an address of `A` along referrers
that stay in `A`, and writes only team sizes. -/
theorem readReferrer_incrementTeamSizes (n : ℕ) {s : StateDB} {cur : Address} (hcur : cur ∈ A)
    (hclosed : ReferrersClosed keccak256 A s) :
    ∀ a ∈ A, readReferrer keccak256 (incrementTeamSizes keccak256 n s cur) a =
      readReferrer keccak256 s a := by
  induction n generalizing s cur with
  | zero => intro a _; rfl
  | succ n ih =>
    intro a ha
    -- one increment keeps every referrer of `A`, so the walk climbs along the same referrers
    have hkeep : ∀ b ∈ A, readReferrer keccak256 (incrementTeamSize keccak256 s cur) b =
        readReferrer keccak256 s b := fun b hb => readReferrer_incrementTeamSize hslots hcur hb s
    simp only [incrementTeamSizes, hkeep cur hcur]
    split_ifs with hup
    · exact hkeep a ha
    · have hnext : readReferrer keccak256 s cur ∈ A := (hclosed cur hcur).resolve_left hup
      have hclosed' : ReferrersClosed keccak256 A (incrementTeamSize keccak256 s cur) := by
        intro b hb
        rw [hkeep b hb]
        exact hclosed b hb
      rw [ih hnext hclosed' a ha, hkeep a ha]

/-- **The mutation phase of a bind** sets the sender's referrer and no other referrer of `A`. -/
theorem readReferrer_bindWrites {x r : Address} (hx : x ∈ A) (hr : r ∈ A) {s : StateDB}
    (hclosed : ReferrersClosed keccak256 A s) (n : ℕ) :
    ∀ a ∈ A, readReferrer keccak256 (bindWrites keccak256 s x r n) a =
      Function.update (readReferrer keccak256 s) x r a := by
  intro a ha
  -- the referrers after steps 4 and 5, before the walk
  set s₁ := incrementDirectCount keccak256
    (writeBoundBlock keccak256 (writeReferrer keccak256 s x r) x (n % 2 ^ 64)) r
  have hs₁ : ∀ b ∈ A, readReferrer keccak256 s₁ b = Function.update (readReferrer keccak256 s) x r b := by
    intro b hb
    rw [readReferrer_incrementDirectCount hslots hr hb, readReferrer_writeBoundBlock hslots hx hb,
      readReferrer_writeReferrer hslots hx hb]
  have hclosed₁ : ReferrersClosed keccak256 A s₁ := by
    intro b hb
    rw [hs₁ b hb, Function.update_apply]
    split_ifs
    · exact .inr hr
    · exact hclosed b hb
  rw [bindWrites, readReferrer_incrementTeamSizes hslots _ hr hclosed₁ a ha, hs₁ a ha]

end Frame

/-! ## The abstract step -/

/-- What a bind of `x` under `r` does to the referrer map: nothing when `r` is `x`, when `x`
already has a referrer, or when `x` is among the first `MaxReferralDepth` ancestors of `r`;
otherwise `x`'s referrer becomes `r`. -/
def bindStep (p : Address → Address) (x r : Address) : Address → Address :=
  if r = x ∨ p x ≠ 0 ∨ findUp 0 p x maxReferralDepth r = true then p else Function.update p x r

/-- A bind action on the referrer map; a payload that did not decode is an error, reverted. -/
def abstractBind (p : Address → Address) (act : Context × Except String BindPayload) :
    Address → Address :=
  match act.2 with
  | .ok q => bindStep p act.1.sender (hexToAddress q.referrer)
  | .error _ => p

/-- A run of bind actions on the referrer map. -/
def abstractRun (p : Address → Address) (acts : List (Context × Except String BindPayload)) :
    Address → Address :=
  acts.foldl abstractBind p

@[simp] theorem abstractRun_nil (p : Address → Address) : abstractRun p [] = p := rfl

@[simp] theorem abstractRun_cons (p : Address → Address) (act : Context × Except String BindPayload)
    (acts : List (Context × Except String BindPayload)) :
    abstractRun p (act :: acts) = abstractRun (abstractBind p act) acts := rfl

theorem abstractRun_append (p : Address → Address) (l₁ l₂ : List (Context × Except String BindPayload)) :
    abstractRun p (l₁ ++ l₂) = abstractRun (abstractRun p l₁) l₂ :=
  List.foldl_append

/-- A bind among the addresses of `A`: its sender, and its referrer when the payload decoded. -/
def BindWithin (A : List Address) (act : Context × Except String BindPayload) : Prop :=
  act.1.sender ∈ A ∧ ∀ q, act.2 = .ok q → hexToAddress q.referrer ∈ A

theorem closed_bindStep {A : List Address} {p : Address → Address} (hp : Closed 0 {a | a ∈ A} p)
    {x r : Address} (hr : r ∈ A) : Closed 0 {a | a ∈ A} (bindStep p x r) := by
  intro b hb
  unfold bindStep
  split_ifs
  · exact hp b hb
  · rw [Function.update_apply]
    split_ifs
    · exact .inr hr
    · exact hp b hb

theorem closed_abstractBind {A : List Address} {p : Address → Address}
    (hp : Closed 0 {a | a ∈ A} p) {act : Context × Except String BindPayload}
    (hact : BindWithin A act) : Closed 0 {a | a ∈ A} (abstractBind p act) := by
  obtain ⟨ctx, payload⟩ := act
  cases payload with
  | error e => exact hp
  | ok q => exact closed_bindStep hp (hact.2 q rfl)

section Refinement

variable {keccak256 : List UInt8 → Hash} {A : List Address} (hslots : RefSlotsDistinct keccak256 A)
include hslots

/-- **One bind refines `bindStep`.** On a state whose referrers of `A` are those of `p` and stay
in `A`, a bind among the addresses of `A` leaves the referrers of `A` that `abstractBind` gives. -/
theorem readReferrer_applyBind {s : StateDB} {p : Address → Address}
    (hview : ∀ a ∈ A, readReferrer keccak256 s a = p a) (hp : Closed 0 {a | a ∈ A} p)
    {act : Context × Except String BindPayload} (hact : BindWithin A act) :
    ∀ a ∈ A, readReferrer keccak256 (applyBind keccak256 s act) a = abstractBind p act a := by
  obtain ⟨ctx, payload⟩ := act
  obtain ⟨hx, hpay⟩ := hact
  cases payload with
  | error e => exact hview
  | ok q =>
    intro a ha
    have hr : hexToAddress q.referrer ∈ A := hpay q rfl
    have hclosed : ReferrersClosed keccak256 A s := by
      intro b hb
      rw [hview b hb]
      exact hp b hb
    -- the three checks read the referrers of `A` only
    have hbound : hasReferrer keccak256 s ctx.sender = true ↔ p ctx.sender ≠ 0 := by
      simp [hasReferrer, hview _ hx]
    have hdown : isDownline keccak256 s ctx.sender (hexToAddress q.referrer) maxReferralDepth =
        findUp 0 p ctx.sender maxReferralDepth (hexToAddress q.referrer) := by
      rw [isDownline, min_self]
      exact findUp_congr 0 hview hclosed _ _ _ hr
    rw [applyBind_ok]
    show _ = bindStep p ctx.sender (hexToAddress q.referrer) a
    rw [bindStep, hdown]
    simp only [← hbound]
    split_ifs
    · exact hview a ha
    · rw [readReferrer_bindWrites hslots hx hr hclosed _ a ha, Function.update_apply,
        Function.update_apply, hview a ha]

/-- **A run of binds refines the run of `bindStep`** on the referrers of `A`. -/
theorem readReferrer_runBinds {s : StateDB} {p : Address → Address}
    (hview : ∀ a ∈ A, readReferrer keccak256 s a = p a) (hp : Closed 0 {a | a ∈ A} p)
    {acts : List (Context × Except String BindPayload)} (hacts : ∀ act ∈ acts, BindWithin A act) :
    ∀ a ∈ A, readReferrer keccak256 (runBinds keccak256 s acts) a = abstractRun p acts a := by
  induction acts generalizing s p with
  | nil => exact hview
  | cons act acts ih =>
    have hact := hacts act List.mem_cons_self
    exact ih (readReferrer_applyBind hslots hview hp hact) (closed_abstractBind hp hact)
      fun act' h => hacts act' (List.mem_cons_of_mem _ h)

end Refinement

/-! ## A chain deeper than the check -/

/-- The addresses `0x1`, `0x2`, …: `chainAddress i` is `i + 1`. -/
def chainAddress (i : ℕ) : Address := BitVec.ofNat 256 (i + 1)

/-- The twenty-two addresses of the chain. -/
def chainAddresses : List Address := (List.range 22).map chainAddress

/-- `chainAddress i` as the hexadecimal text of a payload. -/
def chainText (i : ℕ) : String := "0x" ++ String.ofList (Hex.encodeToString [UInt8.ofNat (i + 1)])

/-- The `i`-th bind of the chain: `chainAddress (i + 1)` binds under `chainAddress i`. -/
def chainBind (i : ℕ) : Context × Except String BindPayload :=
  (⟨chainAddress (i + 1), 0, i + 1⟩, .ok ⟨chainText i⟩)

/-- Twenty-one binds, each address under the one before; then the first address, the root of the
chain, binds under the last. -/
def deepChainBinds : List (Context × Except String BindPayload) :=
  (List.range 21).map chainBind ++ [(⟨chainAddress 0, 0, 22⟩, .ok ⟨chainText 21⟩)]

/-- The referrers after the first `k` binds of the chain: each address from `0x2` to `k + 1`
under the one before it. -/
def chainParent (k : ℕ) (a : Address) : Address :=
  if 2 ≤ a.toNat ∧ a.toNat ≤ k + 1 then BitVec.ofNat 256 (a.toNat - 1) else 0

theorem chainAddress_mem {i : ℕ} (hi : i < 22) : chainAddress i ∈ chainAddresses :=
  List.mem_map.mpr ⟨i, List.mem_range.mpr hi, rfl⟩

theorem hexToAddress_chainText : ∀ i < 22, hexToAddress (chainText i) = chainAddress i := by
  decide

/-- No check stops a bind of the chain: the sender is new and not above the referrer. -/
theorem chainBind_passes : ∀ k < 21, chainParent k (chainAddress (k + 1)) = 0 ∧
    findUp 0 (chainParent k) (chainAddress (k + 1)) maxReferralDepth (chainAddress k) = false := by
  decide

theorem update_chainParent {k : ℕ} (hk : k < 21) :
    Function.update (chainParent k) (chainAddress (k + 1)) (chainAddress k) = chainParent (k + 1) := by
  funext a
  have hlt : k + 2 < 2 ^ 256 := by
    calc k + 2 < 2 ^ 5 := by omega
      _ ≤ 2 ^ 256 := Nat.pow_le_pow_right (by norm_num) (by norm_num)
  by_cases ha : a = chainAddress (k + 1)
  · subst ha
    have htoNat : (chainAddress (k + 1)).toNat = k + 2 := by
      simp only [chainAddress, BitVec.toNat_ofNat]
      exact Nat.mod_eq_of_lt hlt
    rw [Function.update_self, chainParent, htoNat, if_pos (by omega)]
    rfl
  · rw [Function.update_of_ne ha]
    have hne : a.toNat ≠ k + 2 := by
      intro h
      apply ha
      apply BitVec.eq_of_toNat_eq
      rw [h, chainAddress, BitVec.toNat_ofNat, Nat.mod_eq_of_lt hlt]
    unfold chainParent
    split_ifs <;> first | rfl | omega

/-- The run of the first `k` binds of the chain, on the referrer map. -/
theorem abstractRun_chainBinds {k : ℕ} (hk : k ≤ 21) :
    abstractRun (fun _ => 0) ((List.range k).map chainBind) = chainParent k := by
  induction k with
  | zero =>
    funext a
    rw [List.range_zero, List.map_nil, abstractRun_nil, chainParent, if_neg (by omega)]
  | succ k ih =>
    obtain ⟨hnew, hfar⟩ := chainBind_passes k (by omega)
    have hne : chainAddress k ≠ chainAddress (k + 1) := by
      intro h
      have := congrArg BitVec.toNat h
      simp only [chainAddress, BitVec.toNat_ofNat] at this
      rw [Nat.mod_eq_of_lt (by omega), Nat.mod_eq_of_lt (by omega)] at this
      omega
    have hcheck : ¬ (chainAddress k = chainAddress (k + 1) ∨ chainParent k (chainAddress (k + 1)) ≠ 0 ∨
        findUp 0 (chainParent k) (chainAddress (k + 1)) maxReferralDepth (chainAddress k) = true) := by
      rintro (h | h | h)
      · exact hne h
      · exact h hnew
      · rw [hfar] at h
        exact Bool.false_ne_true h
    rw [List.range_succ, List.map_append, abstractRun_append, ih (by omega), List.map_cons,
      List.map_nil, abstractRun_cons, abstractRun_nil]
    show bindStep (chainParent k) (chainAddress (k + 1)) (hexToAddress (chainText k)) = _
    rw [hexToAddress_chainText k (by omega), bindStep, if_neg hcheck]
    exact update_chainParent (by omega)

/-- The referrers after the whole run: the chain, and its root under its last address. -/
def cycleParent : Address → Address :=
  Function.update (chainParent 21) (chainAddress 0) (chainAddress 21)

theorem abstractRun_deepChainBinds : abstractRun (fun _ => 0) deepChainBinds = cycleParent := by
  rw [deepChainBinds, abstractRun_append, abstractRun_chainBinds le_rfl, abstractRun_cons,
    abstractRun_nil]
  have hcheck : ¬ (chainAddress 21 = chainAddress 0 ∨ chainParent 21 (chainAddress 0) ≠ 0 ∨
      findUp 0 (chainParent 21) (chainAddress 0) maxReferralDepth (chainAddress 21) = true) := by
    decide
  show bindStep (chainParent 21) (chainAddress 0) (hexToAddress (chainText 21)) = _
  rw [hexToAddress_chainText 21 (by omega), bindStep, if_neg hcheck]
  rfl

/-- **The referrer relation of the registry is not a forest.** For every Keccak-256 with no
collision among the slots of the chain's addresses, the run `deepChainBinds` from the empty state
passes every check of every bind, and leaves `chainAddress 0` its own ancestor: its referrer is
`chainAddress 21`, twenty-one steps below it. -/
theorem runBinds_deepChain_cycle (keccak256 : List UInt8 → Hash)
    (hslots : RefSlotsDistinct keccak256 chainAddresses) :
    Above 0 (readReferrer keccak256 (runBinds keccak256 StateDB.empty deepChainBinds))
      (chainAddress 0) (chainAddress 0) := by
  have hacts : ∀ act ∈ deepChainBinds, BindWithin chainAddresses act := by
    intro act hact
    simp only [deepChainBinds, List.mem_append, List.mem_map, List.mem_range,
      List.mem_singleton] at hact
    rcases hact with ⟨i, hi, rfl⟩ | rfl
    · refine ⟨chainAddress_mem (by omega), fun q hq => ?_⟩
      cases hq
      rw [hexToAddress_chainText i (by omega)]
      exact chainAddress_mem (by omega)
    · refine ⟨chainAddress_mem (by omega), fun q hq => ?_⟩
      cases hq
      rw [hexToAddress_chainText 21 (by omega)]
      exact chainAddress_mem (by omega)
  -- the state's referrers of the chain are those of the abstract run
  have hview : ∀ a ∈ chainAddresses,
      readReferrer keccak256 (runBinds keccak256 StateDB.empty deepChainBinds) a = cycleParent a := by
    intro a ha
    rw [readReferrer_runBinds hslots (p := fun _ => 0) (fun _ _ => rfl) (fun _ _ => .inl rfl)
      hacts a ha, abstractRun_deepChainBinds]
  have hclosed : Closed 0 {a | a ∈ chainAddresses} cycleParent := by
    have hidx : ∀ i < 22, cycleParent (chainAddress i) = 0 ∨
        ∃ j < 22, cycleParent (chainAddress i) = chainAddress j := by
      decide
    intro a ha
    obtain ⟨i, hi, rfl⟩ := List.mem_map.mp ha
    rcases hidx i (List.mem_range.mp hi) with h | ⟨j, hj, h⟩
    · exact .inl h
    · exact .inr (h ▸ chainAddress_mem hj)
  have hcycle : upN 0 cycleParent 22 (chainAddress 0) = some (chainAddress 0) := by decide
  rw [above_iff_upN]
  exact ⟨21, (upN_congr 0 (fun a ha => (hview a ha).symm) hclosed 22 _
    (chainAddress_mem (by omega))).symm.trans hcycle⟩

/-- A stand-in for Keccak-256 that tells apart the referral slots of addresses below 256: the
fifth byte of the input, where the four tags differ, and its last byte. -/
def tagHash (b : List UInt8) : Hash :=
  BitVec.ofNat 256 ((b.getD 4 0).toNat * 256 + (b.getLastD 0).toNat)

/-- The word of a `tagHash` slot. -/
def untagHash (h : Hash) : RefField × Address :=
  let field : RefField :=
    if h.toNat / 256 = 98 then .block else if h.toNat / 256 = 100 then .dcount
    else if h.toNat / 256 = 116 then .tsize else .referrer
  (field, BitVec.ofNat 256 (h.toNat % 256))

theorem runBinds_deepChain_cycle_tagHash :
    RefSlotsDistinct tagHash chainAddresses ∧
      Above 0 (readReferrer tagHash (runBinds tagHash StateDB.empty deepChainBinds))
        (chainAddress 0) (chainAddress 0) := by
  have hslots : RefSlotsDistinct tagHash chainAddresses :=
    refSlotsDistinct_of_leftInverse untagHash (by decide +kernel)
  exact ⟨hslots, runBinds_deepChain_cycle tagHash hslots⟩

end Gtos.Referral
