import Gtos.Capability.Storage
import Gtos.Lib.Tally

/-! # The capability registry's invariant over every run

The capability registry's words say three things, which every run of the capability and registry
actions keeps (`capInv_runEvents`), failed actions being reverted:

* the names bound to a bit are numbered one-to-one onto the bits `0, …, bitCount - 1`
  (`CapInv.names`, a `Tally.Numbering`);
* each bit's holder count, `TotalEligible`, is the number of addresses whose bitmap has the bit
  (`CapInv.eligible_eq`);
* no bitmap has a bit at or above `bitCount` (`CapInv.bitmap_lt`).

The names and addresses are those of finite sets `N` and `Ad` whose words Keccak-256 keeps apart
(`CapSlotsDistinct`), and which hold every name and address an action of the run names
(`CapEvent.Within`). Registering a name takes the next bit (`CapInv.register`, from both entry
points); granting and revoking rewrite one bitmap and one count (`CapInv.writeBitmap_writeEligible`);
the registry's records and the delegation registry's words lie elsewhere (`CapInv.of_keyed`). -/

namespace Gtos.Capability

open Gtos.Core Gtos.Sysaction Gtos.Registry

section Inv

variable (keccak256 : List UInt8 → Hash)

/-- The number of the bit a name is bound to, if it is bound. -/
def nameNumber (s : StateDB) (n : String) : Option ℕ :=
  match readNameBit keccak256 s n with
  | (b, true) => some b.toNat
  | (_, false) => none

/-- **The registry's invariant** over the names of `N` and the addresses of `Ad`. -/
structure CapInv (N : Finset String) (Ad : Finset Address) (s : StateDB) : Prop where
  /-- The bound names are numbered one-to-one onto `0, …, bitCount - 1`. -/
  names : Tally.Numbering N (nameNumber keccak256 s) (readBitCount keccak256 s).toNat
  /-- A bit's holder count is the number of addresses that hold it. -/
  eligible_eq : ∀ b, readEligible keccak256 s b =
    (Ad.filter fun a => hasCapability keccak256 s a b).card
  /-- No bitmap has a bit at or above the count. -/
  bitmap_lt : ∀ a ∈ Ad, ∀ i, (readBitmap keccak256 s a).getLsbD i = true →
    i < (readBitCount keccak256 s).toNat

end Inv

section Lemmas

variable {keccak256 : List UInt8 → Hash} {N : Finset String} {Ad : Finset Address} {s s' : StateDB}

theorem nameNumber_eq_some {n : String} {i : ℕ} :
    nameNumber keccak256 s n = some i ↔ ∃ b, readNameBit keccak256 s n = (b, true) ∧ b.toNat = i := by
  unfold nameNumber
  rcases readNameBit keccak256 s n with ⟨b, _ | _⟩ <;> simp

theorem nameNumber_of_eq {n : String} {b : UInt8} (h : readNameBit keccak256 s n = (b, true)) :
    nameNumber keccak256 s n = some b.toNat :=
  nameNumber_eq_some.mpr ⟨b, h, rfl⟩

theorem nameNumber_congr {n : String} (h : readNameBit keccak256 s' n = readNameBit keccak256 s n) :
    nameNumber keccak256 s' n = nameNumber keccak256 s n := by
  unfold nameNumber
  rw [h]

/-- Two states whose holders of a bit agree on `Ad` count the same holders. -/
theorem card_holders_congr {b : UInt8}
    (h : ∀ a ∈ Ad, hasCapability keccak256 s' a b = hasCapability keccak256 s a b) :
    (Ad.filter fun a => hasCapability keccak256 s' a b).card =
      (Ad.filter fun a => hasCapability keccak256 s a b).card := by
  rw [Finset.filter_congr fun a ha => by rw [h a ha]]

theorem readNameBit_empty (n : String) : readNameBit keccak256 StateDB.empty n = (0, false) :=
  nameBitOfWord_zero

/-- The empty registry: no name is bound, no bit handed out and no address holds one. -/
theorem capInv_empty : CapInv keccak256 N Ad StateDB.empty where
  names :=
    { lt := fun n _ i h => by
        rw [nameNumber_eq_some, readNameBit_empty] at h
        simp at h
      inj := fun n _ _ _ i h => by
        rw [nameNumber_eq_some, readNameBit_empty] at h
        simp at h
      onto := fun i hi => absurd hi (Nat.not_lt_zero i) }
  eligible_eq b := by
    rw [Finset.filter_false_of_mem fun a _ => by simp [hasCapability, readBitmap, StateDB.empty]]
    rfl
  bitmap_lt a _ i h := by simp [readBitmap, StateDB.empty] at h

/-- The invariant reads the registry's words other than the records only. -/
theorem CapInv.of_keyed (hs : CapInv keccak256 N Ad s)
    (h : ∀ k, k.Within N Ad → (∀ n i, k ≠ .record n i) → keyed keccak256 s' k = keyed keccak256 s k) :
    CapInv keccak256 N Ad s' := by
  have hname : ∀ n ∈ N, readNameBit keccak256 s' n = readNameBit keccak256 s n := fun n hn => by
    simp only [readNameBit_eq, h _ (CapKey.within_name hn) (by simp)]
  have hcount : readBitCount keccak256 s' = readBitCount keccak256 s := by
    simp only [readBitCount_eq, h _ CapKey.within_bitCount (by simp)]
  have helig : ∀ b, readEligible keccak256 s' b = readEligible keccak256 s b := fun b => by
    simp only [readEligible_eq, h _ (CapKey.within_eligible b) (by simp)]
  have hbm : ∀ a ∈ Ad, readBitmap keccak256 s' a = readBitmap keccak256 s a := fun a ha => by
    simp only [readBitmap_eq, h _ (CapKey.within_bitmap ha) (by simp)]
  refine ⟨?_, fun b => ?_, fun a ha i hi => ?_⟩
  · rw [hcount]
    exact hs.names.congr fun n hn => nameNumber_congr (hname n hn)
  · rw [helig, hs.eligible_eq b]
    exact (card_holders_congr fun a ha => by simp only [hasCapability, hbm a ha]).symm
  · rw [hbm a ha] at hi
    rw [hcount]
    exact hs.bitmap_lt a ha i hi

/-- A delegation record write keeps the invariant. -/
theorem CapInv.writeDelegation (hs : CapInv keccak256 N Ad s) (record : DelegationRecord) :
    CapInv keccak256 N Ad (writeDelegation keccak256 s record) :=
  hs.of_keyed fun k _ _ => congrFun (keyed_writeDelegation s record) k

section Steps

variable (hslots : CapSlotsDistinct keccak256 N Ad)
include hslots

theorem hasCapability_writeBitmap {a x : Address} (ha : a ∈ Ad) (hx : x ∈ Ad) (w : Hash) (b : UInt8) :
    hasCapability keccak256 (writeBitmap keccak256 s a w) x b =
      if x = a then w.getLsbD b.toNat else hasCapability keccak256 s x b := by
  unfold hasCapability
  rw [readBitmap_writeBitmap hslots s ha hx]
  split_ifs <;> rfl

/-- A record write of a name of `N` keeps the invariant. -/
theorem CapInv.writeCapability (hs : CapInv keccak256 N Ad s) {record : CapabilityRecord}
    (hn : record.name ∈ N) : CapInv keccak256 N Ad (writeCapability keccak256 s record) :=
  hs.of_keyed fun _ hk hrec => keyed_writeCapability hslots s hn hk fun i => hrec _ i

/-- **Registering a name.** An unbound name of `N` bound to the count, below `255`, with the count
incremented. -/
theorem CapInv.register (hs : CapInv keccak256 N Ad s) {n : String} (hn : n ∈ N)
    (hfree : (readNameBit keccak256 s n).2 = false) (hfull : readBitCount keccak256 s < 255) :
    CapInv keccak256 N Ad (writeBitCount keccak256
      (writeNameBit keccak256 s n (readBitCount keccak256 s)) (readBitCount keccak256 s + 1)) := by
  set c := readBitCount keccak256 s
  have hcount : readBitCount keccak256 (writeBitCount keccak256
      (writeNameBit keccak256 s n c) (c + 1)) = c + 1 :=
    readBitCount_writeBitCount hslots _ _
  -- the count does not wrap: it is below `255`
  have hsucc : (c + 1).toNat = c.toNat + 1 := by
    have hlt := UInt8.lt_iff_toNat_lt.mp hfull
    rw [UInt8.toNat_add, UInt8.toNat_one]
    simp only [UInt8.reduceToNat] at hlt
    omega
  have hnone : nameNumber keccak256 s n = none := by
    unfold nameNumber
    rcases hr : readNameBit keccak256 s n with ⟨b, _ | _⟩
    · rfl
    · rw [hr] at hfree
      cases hfree
  have hnum : ∀ n' ∈ N, nameNumber keccak256 (writeBitCount keccak256
      (writeNameBit keccak256 s n c) (c + 1)) n' = Function.update (nameNumber keccak256 s) n
        (some c.toNat) n' := by
    intro n' hn'
    by_cases h : n' = n
    · subst h
      rw [Function.update_self]
      apply nameNumber_of_eq
      rw [readNameBit_writeBitCount hslots _ hn', readNameBit_writeNameBit hslots _ hn' hn', if_pos rfl]
    · rw [Function.update_of_ne h]
      apply nameNumber_congr
      rw [readNameBit_writeBitCount hslots _ hn', readNameBit_writeNameBit hslots _ hn hn', if_neg h]
  have hbm : ∀ a ∈ Ad, readBitmap keccak256 (writeBitCount keccak256
      (writeNameBit keccak256 s n c) (c + 1)) a = readBitmap keccak256 s a := fun a ha => by
    rw [readBitmap_writeBitCount hslots _ ha, readBitmap_writeNameBit hslots _ hn ha]
  refine ⟨?_, fun b => ?_, fun a ha i hi => ?_⟩
  · rw [hcount, hsucc]
    exact (hs.names.next hn hnone).congr hnum
  · rw [readEligible_writeBitCount hslots, readEligible_writeNameBit hslots _ hn, hs.eligible_eq b]
    exact (card_holders_congr fun a ha => by simp only [hasCapability, hbm a ha]).symm
  · rw [hbm a ha] at hi
    rw [hcount, hsucc]
    exact Nat.lt_succ_of_lt (hs.bitmap_lt a ha i hi)

/-- **Rewriting one bitmap and one count.** A bitmap of `Ad` rewritten with bits below the count and
changed at bit `b` only keeps the invariant once the count of `b` is set to its new number of
holders. -/
theorem CapInv.writeBitmap_writeEligible (hs : CapInv keccak256 N Ad s) {a : Address} (ha : a ∈ Ad)
    {b : UInt8} {w : Hash} (hw : ∀ i, w.getLsbD i = true → i < (readBitCount keccak256 s).toNat)
    (hoff : ∀ b' ≠ b, w.getLsbD b'.toNat = (readBitmap keccak256 s a).getLsbD b'.toNat) {count : ℕ}
    (hcount : count = (Ad.filter fun x => hasCapability keccak256 (writeBitmap keccak256 s a w) x b).card) :
    CapInv keccak256 N Ad (writeEligible keccak256 (writeBitmap keccak256 s a w) b count) := by
  set t := writeBitmap keccak256 s a w
  have hbits : readBitCount keccak256 (writeEligible keccak256 t b count) = readBitCount keccak256 s := by
    rw [readBitCount_writeEligible hslots, readBitCount_writeBitmap hslots _ ha]
  have hbm : ∀ x ∈ Ad, readBitmap keccak256 (writeEligible keccak256 t b count) x =
      readBitmap keccak256 t x := fun x hx => readBitmap_writeEligible hslots _ hx b count
  have hhas : ∀ x ∈ Ad, ∀ b', hasCapability keccak256 (writeEligible keccak256 t b count) x b' =
      hasCapability keccak256 t x b' := fun x hx b' => by simp only [hasCapability, hbm x hx]
  refine ⟨?_, fun b' => ?_, fun x hx i hi => ?_⟩
  · rw [hbits]
    exact hs.names.congr fun n hn => nameNumber_congr (by
      rw [readNameBit_writeEligible hslots _ hn, readNameBit_writeBitmap hslots _ ha hn])
  · rw [readEligible_writeEligible hslots, card_holders_congr fun x hx => hhas x hx b']
    by_cases hb' : b' = b
    · -- the count of `b` is the new number of its holders, which is below `2 ^ 256`
      rw [if_pos hb', hb', ← hcount, Nat.mod_eq_of_lt]
      exact hcount ▸ lt_of_le_of_lt (Finset.card_filter_le _ _) (card_lt_of_capSlotsDistinct hslots)
    · -- another bit's holders are the same addresses
      rw [if_neg hb', readEligible_writeBitmap hslots _ ha, hs.eligible_eq b']
      refine (card_holders_congr fun x hx => ?_).symm
      rw [hasCapability_writeBitmap hslots ha hx]
      split_ifs with hxa
      · rw [hxa, hoff b' hb']
        rfl
      · rfl
  · rw [hbits]
    rw [hbm x hx, readBitmap_writeBitmap hslots _ ha hx] at hi
    split_ifs at hi
    · exact hw i hi
    · exact hs.bitmap_lt x hx i hi

/-- **`GrantCapability`** of a bit below the count to an address of `Ad`. -/
theorem CapInv.grant (hs : CapInv keccak256 N Ad s) {a : Address} (ha : a ∈ Ad) {b : UInt8}
    (hb : b < readBitCount keccak256 s) : CapInv keccak256 N Ad (grantCapability keccak256 s a b) := by
  unfold grantCapability
  dsimp only
  split_ifs with hclear
  · rw [readEligible_writeBitmap hslots _ ha]
    have hbit : b.toNat < (readBitCount keccak256 s).toNat := UInt8.lt_iff_toNat_lt.mp hb
    refine hs.writeBitmap_writeEligible hslots ha (fun i hi => ?_) (fun b' hb' => ?_) ?_
    · -- the new bit is `b`, below the count
      rw [Bitmap.getLsbD_or_one_shiftLeft, Bool.or_eq_true] at hi
      rcases hi with hi | hi
      · exact hs.bitmap_lt a ha i hi
      · simp only [Bool.and_eq_true, decide_eq_true_eq] at hi
        exact hi.1 ▸ hbit
    · rw [Bitmap.getLsbD_or_one_shiftLeft, decide_eq_false fun h => hb' (UInt8.toNat_inj.mp h),
        Bool.false_and, Bool.or_false]
    · -- `a` joins the holders of `b`
      rw [hs.eligible_eq b]
      refine (Tally.card_filter_eq_add_one ha (by simpa [hasCapability] using hclear) ?_
        fun x hx hxa => ?_).symm
      · rw [hasCapability_writeBitmap hslots ha ha, if_pos rfl, Bitmap.getLsbD_or_one_shiftLeft]
        simp [b.toNat_lt]
      · rw [hasCapability_writeBitmap hslots ha hx, if_neg hxa]
  · exact hs

/-- **`RevokeCapability`** of a bit from an address of `Ad`. -/
theorem CapInv.revoke (hs : CapInv keccak256 N Ad s) {a : Address} (ha : a ∈ Ad) (b : UInt8) :
    CapInv keccak256 N Ad (revokeCapability keccak256 s a b) := by
  unfold revokeCapability
  dsimp only
  rw [readEligible_writeBitmap hslots _ ha]
  set w := readBitmap keccak256 s a &&& ~~~(1#256 <<< b.toNat) with hw
  split_ifs with hset hpos
  · -- `a` leaves the holders of `b`
    have hleave : (Ad.filter fun x => hasCapability keccak256 s x b).card =
        (Ad.filter fun x => hasCapability keccak256 (writeBitmap keccak256 s a w) x b).card + 1 := by
      refine Tally.card_filter_eq_add_one ha ?_ (by simpa [hasCapability] using hset) fun x hx hxa => ?_
      · rw [hasCapability_writeBitmap hslots ha ha, if_pos rfl, hw, Bitmap.getLsbD_and_not_one_shiftLeft]
        simp
      · rw [hasCapability_writeBitmap hslots ha hx, if_neg hxa]
    refine hs.writeBitmap_writeEligible hslots ha (fun i hi => ?_) (fun b' hb' => ?_) ?_
    · -- the cleared bitmap's bits are among the old ones
      rw [hw, Bitmap.getLsbD_and_not_one_shiftLeft, Bool.and_eq_true] at hi
      exact hs.bitmap_lt a ha i hi.1
    · rw [hw, Bitmap.getLsbD_and_not_one_shiftLeft, decide_eq_false fun h => hb' (UInt8.toNat_inj.mp h),
        Bool.not_false, Bool.and_true]
    · rw [hs.eligible_eq b, hleave, Nat.add_sub_cancel]
  · -- `a` holds `b`, so the count is positive
    have hmem : a ∈ Ad.filter fun x => hasCapability keccak256 s x b := Finset.mem_filter.mpr ⟨ha, hset⟩
    rw [hs.eligible_eq b] at hpos
    exact absurd (Finset.card_pos.mpr ⟨a, hmem⟩) hpos
  · exact hs

end Steps

end Lemmas

/-! ## Runs of capability and registry actions -/

/-- A capability or registry action, as the state transition runs it. -/
inductive CapEvent
  /-- A `CAPABILITY_*` action of a sender. -/
  | capability (ctx : Context) (a : CapabilityAction)
  /-- A `REGISTRY_*` action of a sender. -/
  | registry (ctx : Context) (a : RegistryAction)
  deriving DecidableEq, Repr

/-- The names and addresses an event names are among `N` and `Ad`. -/
def CapEvent.Within (N : Finset String) (Ad : Finset Address) : CapEvent → Prop
  | .capability _ (.register name) => name ∈ N
  | .capability _ (.grant target _) => target ∈ Ad
  | .capability _ (.revoke target _) => target ∈ Ad
  | .registry _ (.registerCap p) => String.ofList (Text.trimSpace p.name.toList) ∈ N
  | .registry _ (.deprecateCap p) => p.name ∈ N
  | .registry _ (.revokeCap p) => p.name ∈ N
  | .registry _ (.grantDelegation _) => True
  | .registry _ (.revokeDelegation _) => True

instance (N : Finset String) (Ad : Finset Address) : DecidablePred (CapEvent.Within N Ad)
  | .capability _ (.register name) => inferInstanceAs (Decidable (name ∈ N))
  | .capability _ (.grant target _) => inferInstanceAs (Decidable (target ∈ Ad))
  | .capability _ (.revoke target _) => inferInstanceAs (Decidable (target ∈ Ad))
  | .registry _ (.registerCap p) =>
    inferInstanceAs (Decidable (String.ofList (Text.trimSpace p.name.toList) ∈ N))
  | .registry _ (.deprecateCap p) => inferInstanceAs (Decidable (p.name ∈ N))
  | .registry _ (.revokeCap p) => inferInstanceAs (Decidable (p.name ∈ N))
  | .registry _ (.grantDelegation _) => inferInstanceAs (Decidable True)
  | .registry _ (.revokeDelegation _) => inferInstanceAs (Decidable True)

section Run

variable (keccak256 : List UInt8 → Hash)

/-- An event applied to the state; a failed action is reverted. -/
def applyEvent (s : StateDB) : CapEvent → StateDB
  | .capability ctx a => commit (handle keccak256 ctx a) s
  | .registry ctx a => commit (Registry.handle keccak256 ctx a) s

/-- A run of events. -/
def runEvents (s : StateDB) (evs : List CapEvent) : StateDB :=
  evs.foldl (applyEvent keccak256) s

end Run

section RunInv

variable {keccak256 : List UInt8 → Hash} {N : Finset String} {Ad : Finset Address} {s s' : StateDB}
  (hslots : CapSlotsDistinct keccak256 N Ad)
include hslots

/-- A successful capability action keeps the invariant. -/
theorem CapInv.handle_ok (hs : CapInv keccak256 N Ad s) {ctx : Context} {a : CapabilityAction}
    (ha : (CapEvent.capability ctx a).Within N Ad) {u : Unit}
    (h : (handle keccak256 ctx a).run.run s = (.ok u, s')) : CapInv keccak256 N Ad s' := by
  cases a with
  | register name =>
    obtain ⟨bit, hreg⟩ := handleRegister_ok h
    obtain ⟨hfree, rfl, hfull, rfl⟩ := registerCapabilityName_ok keccak256 hreg
    exact hs.register hslots ha hfree hfull
  | grant target bit =>
    obtain ⟨hbit, rfl⟩ := handleGrant_ok h
    exact hs.grant hslots ha hbit
  | revoke target bit =>
    obtain ⟨-, rfl⟩ := handleRevoke_ok h
    exact hs.revoke hslots ha bit

/-- A successful registry action keeps the invariant. -/
theorem CapInv.registryHandle_ok (hs : CapInv keccak256 N Ad s) {ctx : Context} {a : RegistryAction}
    (ha : (CapEvent.registry ctx a).Within N Ad) {u : Unit}
    (h : (Registry.handle keccak256 ctx a).run.run s = (.ok u, s')) : CapInv keccak256 N Ad s' := by
  cases a with
  | registerCap p =>
    obtain ⟨t, record, hname, rfl, ht⟩ := handleRegisterCap_ok h
    -- the name is bound already, or it takes the next bit
    have hst : CapInv keccak256 N Ad t := by
      rcases ht with rfl | hat
      · exact hs
      · obtain ⟨hfree, hbit, hfull, rfl⟩ := registerCapabilityNameAtBit_ok keccak256 hat
        rw [hbit] at hfull ⊢
        exact hs.register hslots ha hfree hfull
    exact hst.writeCapability hslots (by rw [hname]; exact ha)
  | deprecateCap p =>
    obtain ⟨record, hname, rfl⟩ := handleDeprecateCap_ok h
    exact hs.writeCapability hslots (by rw [hname]; exact ha)
  | revokeCap p =>
    obtain ⟨record, hname, rfl⟩ := handleRevokeCap_ok h
    exact hs.writeCapability hslots (by rw [hname]; exact ha)
  | grantDelegation p =>
    obtain ⟨record, rfl⟩ := handleGrantDelegation_ok h
    exact hs.writeDelegation record
  | revokeDelegation p =>
    obtain ⟨record, rfl⟩ := handleRevokeDelegation_ok h
    exact hs.writeDelegation record

/-- An event keeps the invariant, whether its action succeeds or is reverted. -/
theorem capInv_applyEvent (hs : CapInv keccak256 N Ad s) {ev : CapEvent} (hev : ev.Within N Ad) :
    CapInv keccak256 N Ad (applyEvent keccak256 s ev) := by
  cases ev with
  | capability ctx a => exact commit_induction _ hs fun _ _ h => hs.handle_ok hslots hev h
  | registry ctx a => exact commit_induction _ hs fun _ _ h => hs.registryHandle_ok hslots hev h

/-- **The invariant over every run** of events within `N` and `Ad`. -/
theorem capInv_runEvents (hs : CapInv keccak256 N Ad s) {evs : List CapEvent}
    (hevs : ∀ ev ∈ evs, ev.Within N Ad) : CapInv keccak256 N Ad (runEvents keccak256 s evs) := by
  induction evs generalizing s with
  | nil => exact hs
  | cons ev evs ih =>
    exact ih (capInv_applyEvent hslots hs (hevs ev List.mem_cons_self))
      fun e he => hevs e (List.mem_cons_of_mem ev he)

end RunInv

/-! ## The registry over every run -/

section Claim

variable {keccak256 : List UInt8 → Hash} {N : Finset String} {Ad : Finset Address}

theorem capability_bitmap_invariant (hslots : CapSlotsDistinct keccak256 N Ad) {s : StateDB}
    (hs : CapInv keccak256 N Ad s) {evs : List CapEvent} (hevs : ∀ ev ∈ evs, ev.Within N Ad) :
    let s' := runEvents keccak256 s evs
    (∀ n ∈ N, ∀ n' ∈ N, ∀ b, capabilityBit keccak256 s' n = (b, true) →
        capabilityBit keccak256 s' n' = (b, true) → n = n') ∧
      (∀ b, (∃ n ∈ N, capabilityBit keccak256 s' n = (b, true)) ↔ b < readBitCount keccak256 s') ∧
      (readBitCount keccak256 s').toNat ≤ 255 ∧
      (∀ b, totalEligible keccak256 s' b = (Ad.filter fun a => hasCapability keccak256 s' a b).card) ∧
      ∀ a ∈ Ad, ∀ i, (readBitmap keccak256 s' a).getLsbD i = true →
        i < (readBitCount keccak256 s').toNat := by
  intro s'
  have hinv : CapInv keccak256 N Ad s' := capInv_runEvents hslots hs hevs
  refine ⟨fun n hn n' hn' b h h' => ?_, fun b => ⟨?_, fun hb => ?_⟩,
    Nat.le_of_lt_succ (UInt8.toNat_lt _), hinv.eligible_eq, hinv.bitmap_lt⟩
  · exact hinv.names.inj n hn n' hn' b.toNat (nameNumber_of_eq h) (nameNumber_of_eq h')
  · rintro ⟨n, hn, h⟩
    exact UInt8.lt_iff_toNat_lt.mpr (hinv.names.lt n hn b.toNat (nameNumber_of_eq h))
  · -- the bit's number is handed out, to a name bound to the bit itself
    obtain ⟨n, hn, hnum⟩ := hinv.names.onto b.toNat (UInt8.lt_iff_toNat_lt.mp hb)
    obtain ⟨b', hb', hbb'⟩ := nameNumber_eq_some.mp hnum
    exact ⟨n, hn, by rw [capabilityBit, hb', UInt8.toNat_inj.mp hbb']⟩

/-- A registry where `0x1` holds the Registrar bit: the name `"r"` is bound to the first bit,
`0`, and the bit is granted to `0x1`. -/
def registrarState : StateDB :=
  grantCapability capHash (writeBitCount capHash
    (writeNameBit capHash StateDB.empty "r" (readBitCount capHash StateDB.empty))
    (readBitCount capHash StateDB.empty + 1)) 1#256 registrarBit

/-- The registrar registers `"s"`, which takes bit `1`, grants it to `0x2` and revokes it. -/
def registrarRun : List CapEvent :=
  [.capability ⟨1#256, 0, 1⟩ (.register "s"), .capability ⟨1#256, 0, 1⟩ (.grant 2#256 1),
    .capability ⟨1#256, 0, 1⟩ (.revoke 2#256 1)]

/-- `registrarState` keeps the invariant: it is a registration and a grant away from the empty
registry. -/
theorem capInv_registrarState : CapInv capHash {"r", "s"} {1#256, 2#256} registrarState := by
  have hcount : readBitCount capHash StateDB.empty = 0 := rfl
  have h₁ := capInv_empty.register capSlotsDistinct_capHash (n := "r") (by simp)
    (by rw [readNameBit_empty]) (by rw [hcount]; decide)
  unfold registrarState
  refine h₁.grant capSlotsDistinct_capHash (by simp) ?_
  rw [readBitCount_writeBitCount capSlotsDistinct_capHash, hcount]
  decide

theorem capability_bitmap_invariant_run :
    let s' := runEvents capHash registrarState registrarRun
    (∀ n ∈ ({"r", "s"} : Finset String), ∀ n' ∈ ({"r", "s"} : Finset String), ∀ b,
        capabilityBit capHash s' n = (b, true) → capabilityBit capHash s' n' = (b, true) → n = n') ∧
      (∀ b, (∃ n ∈ ({"r", "s"} : Finset String), capabilityBit capHash s' n = (b, true)) ↔
        b < readBitCount capHash s') ∧
      (readBitCount capHash s').toNat ≤ 255 ∧
      (∀ b, totalEligible capHash s' b =
        (({1#256, 2#256} : Finset Address).filter fun a => hasCapability capHash s' a b).card) ∧
      ∀ a ∈ ({1#256, 2#256} : Finset Address), ∀ i, (readBitmap capHash s' a).getLsbD i = true →
        i < (readBitCount capHash s').toNat :=
  capability_bitmap_invariant capSlotsDistinct_capHash capInv_registrarState (by decide)

end Claim

end Gtos.Capability
