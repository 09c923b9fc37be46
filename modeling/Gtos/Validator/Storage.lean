import Mathlib.Data.Set.Function
import Gtos.Validator.Handler

/-! # The registry's storage, word by word

Every word the registry keeps is named by a `RegistryKey`: a field of an address's record, the
count, or a slot of the list. The model reads the storage through these names (`keyed`). Keccak-256
is assumed to have no collision among the slots of the words of a set of addresses
(`RegistrySlotsDistinct`); under that assumption a write to one word leaves every other word as it
was (`keyed_setState`), and each mutation phase of the handlers has a lemma saying what the
registry reads after it (`registerWrites_effect`, `withdrawWrites_effect`, `statusWrites_effect`).

* **`RegistryKey`**, **`registrySlot`**, **`keyed`** — the words, their slots, and the storage
  read by word.
* **`validatorList_appendValidatorToList`** — an append below `A.length` adds the address at the
  end of the list. -/

namespace Gtos.Validator

open Gtos.Core Gtos.Sysaction

/-! ## The registry's storage by key -/

/-- The four words of a validator's record. -/
inductive ValidatorField
  | selfStake
  | status
  | maintenanceSince
  | registered
  deriving DecidableEq, Repr

/-- The field name the slot of a word hashes. -/
def ValidatorField.name : ValidatorField → String
  | .selfStake => "selfStake"
  | .status => "status"
  | .maintenanceSince => "maintenanceSince"
  | .registered => "registered"

/-- A word of the registry, named by what it stores. -/
inductive RegistryKey
  | validator (addr : Address) (field : ValidatorField)
  | count
  | list (i : ℕ)
  deriving DecidableEq, Repr

/-- The slot of each word. -/
def registrySlot (keccak256 : List UInt8 → Hash) : RegistryKey → Hash
  | .validator addr field => validatorSlot keccak256 addr field.name
  | .count => validatorCountSlot keccak256
  | .list i => validatorListSlot keccak256 i

/-- The words of a registry whose addresses are among `A`: their records, the count, and the
list slots below `A.length`. -/
@[reducible] def RegistryKey.Within (A : List Address) : RegistryKey → Prop
  | .validator addr _ => addr ∈ A
  | .count => True
  | .list i => i < A.length

/-- Keccak-256 has no collision among the slots of the words of `A`'s registry. -/
def RegistrySlotsDistinct (keccak256 : List UInt8 → Hash) (A : List Address) : Prop :=
  Set.InjOn (registrySlot keccak256) {k | k.Within A}

/-- The words of the registry of `A`, listed: the records of its addresses, the count, and the
list slots below `A.length`. -/
def registryKeys (A : List Address) : List RegistryKey :=
  A.flatMap (fun a => [ValidatorField.selfStake, .status, .maintenanceSince, .registered].map
    (.validator a)) ++ .count :: (List.range A.length).map .list

theorem mem_registryKeys {A : List Address} {k : RegistryKey} (hk : k.Within A) :
    k ∈ registryKeys A := by
  cases k with
  | validator a field =>
    simp only [registryKeys, List.mem_append, List.mem_flatMap, List.mem_map]
    exact Or.inl ⟨a, hk, field, by cases field <;> simp, rfl⟩
  | count => simp [registryKeys]
  | list i => simpa [registryKeys] using hk

/-- Distinct slots for the listed words give `RegistrySlotsDistinct`: for a given hash function
the condition is a computation. -/
theorem registrySlotsDistinct_of_nodup {keccak256 : List UInt8 → Hash} {A : List Address}
    (h : ((registryKeys A).map (registrySlot keccak256)).Nodup) : RegistrySlotsDistinct keccak256 A :=
  fun _ hk _ hk' heq => List.inj_on_of_nodup_map h (mem_registryKeys hk) (mem_registryKeys hk') heq

/-- The registry's storage, read by key. -/
def keyed (keccak256 : List UInt8 → Hash) (s : StateDB) (k : RegistryKey) : Hash :=
  s.storage validatorRegistryAddress (registrySlot keccak256 k)

section Keyed

variable {keccak256 : List UInt8 → Hash} {A : List Address}

/-- **A write by key.** Under `RegistrySlotsDistinct`, writing the slot of one word of `A`'s
registry changes that word only. -/
theorem keyed_setState (hslots : RegistrySlotsDistinct keccak256 A) {k k' : RegistryKey}
    (hk : k.Within A) (hk' : k'.Within A) (s : StateDB) (v : Hash) :
    keyed keccak256 (VmStateDB.setState s validatorRegistryAddress (registrySlot keccak256 k) v) k' =
      if k' = k then v else keyed keccak256 s k' := by
  rw [keyed, StateDB.storage_setState_self, Function.update_apply]
  exact if_congr ⟨fun h => hslots hk' hk h, fun h => h ▸ rfl⟩ rfl rfl

@[simp] theorem keyed_addBalance (s : StateDB) (a : Address) (x : ℤ) :
    keyed keccak256 (VmStateDB.addBalance s a x) = keyed keccak256 s := rfl

@[simp] theorem keyed_subBalance (s : StateDB) (a : Address) (x : ℤ) :
    keyed keccak256 (VmStateDB.subBalance s a x) = keyed keccak256 s := rfl

@[simp] theorem balance_setState (s : StateDB) (a : Address) (k v : Hash) :
    (VmStateDB.setState s a k v).balance = s.balance := rfl

/-! Every access of `validator/state.go` is a read or a write of one key. -/

theorem readSelfStake_eq (s : StateDB) (a : Address) :
    readSelfStake keccak256 s a = (keyed keccak256 s (.validator a .selfStake)).toNat := rfl

theorem readValidatorStatus_eq (s : StateDB) (a : Address) :
    readValidatorStatus keccak256 s a =
      UInt8.ofNat (keyed keccak256 s (.validator a .status)).toNat := rfl

theorem readRegisteredFlag_eq (s : StateDB) (a : Address) :
    readRegisteredFlag keccak256 s a =
      decide ((keyed keccak256 s (.validator a .registered)).toNat % 256 ≠ 0) := rfl

theorem readValidatorCount_eq (s : StateDB) :
    readValidatorCount keccak256 s = (keyed keccak256 s .count).toNat % 2 ^ 64 := rfl

theorem readValidatorAt_eq (s : StateDB) (i : ℕ) :
    readValidatorAt keccak256 s i = keyed keccak256 s (.list i) := rfl

theorem writeSelfStake_eq (s : StateDB) (a : Address) (x : ℤ) :
    writeSelfStake keccak256 s a x = VmStateDB.setState s validatorRegistryAddress
      (registrySlot keccak256 (.validator a .selfStake)) (BitVec.ofNat 256 x.natAbs) := rfl

theorem writeValidatorStatus_eq (s : StateDB) (a : Address) (t : ValidatorStatus) :
    writeValidatorStatus keccak256 s a t = VmStateDB.setState s validatorRegistryAddress
      (registrySlot keccak256 (.validator a .status)) (BitVec.ofNat 256 t.toNat) := rfl

theorem writeMaintenanceSince_eq (s : StateDB) (a : Address) (n : ℕ) :
    writeMaintenanceSince keccak256 s a n = VmStateDB.setState s validatorRegistryAddress
      (registrySlot keccak256 (.validator a .maintenanceSince)) (BitVec.ofNat 256 n) := rfl

theorem writeRegisteredFlag_eq (s : StateDB) (a : Address) :
    writeRegisteredFlag keccak256 s a = VmStateDB.setState s validatorRegistryAddress
      (registrySlot keccak256 (.validator a .registered)) 1#256 := rfl

theorem appendValidatorToList_eq (s : StateDB) (a : Address) :
    appendValidatorToList keccak256 s a =
      VmStateDB.setState
        (VmStateDB.setState s validatorRegistryAddress
          (registrySlot keccak256 (.list (readValidatorCount keccak256 s))) a)
        validatorRegistryAddress (registrySlot keccak256 .count)
        (BitVec.ofNat 256 ((readValidatorCount keccak256 s + 1) % 2 ^ 64)) := rfl

/-- The count after an append is the `uint64` successor of the count: the append writes the
count word last, whatever slot the list entry took. -/
theorem readValidatorCount_appendValidatorToList (s : StateDB) (a : Address) :
    readValidatorCount keccak256 (appendValidatorToList keccak256 s a) =
      (readValidatorCount keccak256 s + 1) % 2 ^ 64 := by
  rw [readValidatorCount_eq, appendValidatorToList_eq, keyed, StateDB.storage_setState_self,
    Function.update_self, BitVec.toNat_ofNat]
  omega

end Keyed

/-! ## What each action writes

One lemma per mutation phase says what the invariant reads after it, for the addresses of `A`:
the stake, status and flag of each address, the list, and the registry's balance. -/

section Effects

variable {keccak256 : List UInt8 → Hash} {A : List Address}

theorem validatorList_eq_of_keyed {s s' : StateDB}
    (hcount : keyed keccak256 s' .count = keyed keccak256 s .count)
    (hlist : ∀ i < readValidatorCount keccak256 s, keyed keccak256 s' (.list i) = keyed keccak256 s (.list i)) :
    validatorList keccak256 s' = validatorList keccak256 s := by
  have hc : readValidatorCount keccak256 s' = readValidatorCount keccak256 s := by
    rw [readValidatorCount_eq, readValidatorCount_eq, hcount]
  rw [validatorList, validatorList, hc]
  exact List.map_congr_left fun i hi => hlist i (List.mem_range.mp hi)

/-- A list whose count word grows by one and whose new slot holds `a` gains `a` at its end. -/
theorem validatorList_eq_append {s s' : StateDB} (a : Address)
    (hcount : readValidatorCount keccak256 s' = readValidatorCount keccak256 s + 1)
    (hlast : keyed keccak256 s' (.list (readValidatorCount keccak256 s)) = a)
    (hlist : ∀ i < readValidatorCount keccak256 s, keyed keccak256 s' (.list i) = keyed keccak256 s (.list i)) :
    validatorList keccak256 s' = validatorList keccak256 s ++ [a] := by
  rw [validatorList, validatorList, hcount, List.range_succ, List.map_append, List.map_singleton,
    readValidatorAt_eq, hlast]
  congr 1
  exact List.map_congr_left fun i hi => hlist i (List.mem_range.mp hi)

@[simp] theorem readValidatorCount_addBalance (s : StateDB) (a : Address) (x : ℤ) :
    readValidatorCount keccak256 (VmStateDB.addBalance s a x) = readValidatorCount keccak256 s := rfl

@[simp] theorem readValidatorCount_subBalance (s : StateDB) (a : Address) (x : ℤ) :
    readValidatorCount keccak256 (VmStateDB.subBalance s a x) = readValidatorCount keccak256 s := rfl

/-- A status written to its word reads back as itself. -/
theorem ofNat_toNat_ofNat_status (t : ValidatorStatus) :
    UInt8.ofNat (BitVec.ofNat 256 t.toNat).toNat = t :=
  ofNat_toNat_ofNat_byte t

section Slots
variable (hslots : RegistrySlotsDistinct keccak256 A)
include hslots

theorem readValidatorCount_setState {k : RegistryKey} (hk : k.Within A) (hne : k ≠ .count)
    (s : StateDB) (v : Hash) :
    readValidatorCount keccak256 (VmStateDB.setState s validatorRegistryAddress (registrySlot keccak256 k) v) =
      readValidatorCount keccak256 s := by
  rw [readValidatorCount_eq, readValidatorCount_eq, keyed_setState hslots hk trivial, if_neg hne.symm]

/-- A write to a validator's record leaves the list. -/
theorem validatorList_setState {a : Address} {field : ValidatorField} (ha : a ∈ A) (s : StateDB)
    (v : Hash) (hcA : readValidatorCount keccak256 s ≤ A.length) :
    validatorList keccak256 (VmStateDB.setState s validatorRegistryAddress
      (registrySlot keccak256 (.validator a field)) v) = validatorList keccak256 s := by
  refine validatorList_eq_of_keyed ?_ fun i hi => ?_
  · rw [keyed_setState hslots ha trivial, if_neg (by simp)]
  · rw [keyed_setState hslots ha (show i < A.length by omega), if_neg (by simp)]

/-- **`appendValidatorToList`** puts the address in the slot of index `count` and increments the
count, so the list gains the address at its end. -/
theorem validatorList_appendValidatorToList (s : StateDB) (a : Address)
    (hc : readValidatorCount keccak256 s < A.length) (hA : A.length < 2 ^ 64) :
    validatorList keccak256 (appendValidatorToList keccak256 s a) =
      validatorList keccak256 s ++ [a] := by
  have hlist : ∀ i, i < A.length → keyed keccak256 (appendValidatorToList keccak256 s a) (.list i) =
      if i = readValidatorCount keccak256 s then a else keyed keccak256 s (.list i) := by
    intro i hi
    rw [appendValidatorToList_eq, keyed_setState hslots trivial hi, if_neg (by simp),
      keyed_setState hslots hc hi]
    simp
  refine validatorList_eq_append a ?_ ?_ fun i hi => ?_
  · rw [readValidatorCount_appendValidatorToList]
    exact Nat.mod_eq_of_lt (by omega)
  · rw [hlist _ hc, if_pos rfl]
  · rw [hlist i (by omega), if_neg (by omega)]

theorem registerWrites_effect (s : StateDB) (f : Address) (v : ℤ) (hf : f ∈ A)
    (hcA : readValidatorCount keccak256 s ≤ A.length) (hA : A.length < 2 ^ 64)
    (hfresh : readRegisteredFlag keccak256 s f = false → readValidatorCount keccak256 s < A.length) :
    (∀ b ∈ A, readSelfStake keccak256 (registerWrites keccak256 s f v) b =
      if b = f then v.natAbs % 2 ^ 256 else readSelfStake keccak256 s b) ∧
    (∀ b ∈ A, readValidatorStatus keccak256 (registerWrites keccak256 s f v) b =
      if b = f then active else readValidatorStatus keccak256 s b) ∧
    (∀ b ∈ A, readRegisteredFlag keccak256 (registerWrites keccak256 s f v) b =
      if b = f then true else readRegisteredFlag keccak256 s b) ∧
    validatorList keccak256 (registerWrites keccak256 s f v) =
      if readRegisteredFlag keccak256 s f then validatorList keccak256 s
      else validatorList keccak256 s ++ [f] := by
  cases hflag : readRegisteredFlag keccak256 s f
  · -- a first registration: the record's writes, the flag, and the append
    have hc := hfresh hflag
    have hw : registerWrites keccak256 s f v = appendValidatorToList keccak256
        (writeRegisteredFlag keccak256 (writeMaintenanceSince keccak256 (writeValidatorStatus keccak256
          (writeSelfStake keccak256 (VmStateDB.addBalance (VmStateDB.subBalance s f v)
            validatorRegistryAddress v) f v) f active) f 0) f) f := by
      simp [registerWrites, hflag]
    refine ⟨fun b hb => ?_, fun b hb => ?_, fun b hb => ?_, ?_⟩
    · simp only [hw, readSelfStake_eq, writeSelfStake_eq, writeValidatorStatus_eq,
        writeMaintenanceSince_eq, writeRegisteredFlag_eq, appendValidatorToList_eq,
        readValidatorCount_setState hslots, keyed_addBalance, keyed_subBalance,
        readValidatorCount_addBalance, readValidatorCount_subBalance, keyed_setState hslots, ne_eq,
        not_false_eq_true, RegistryKey.Within, hf, hb, hc, RegistryKey.validator.injEq, reduceCtorEq,
        and_true, and_false, if_false]
      split_ifs <;> simp
    · simp only [hw, readValidatorStatus_eq, writeSelfStake_eq, writeValidatorStatus_eq,
        writeMaintenanceSince_eq, writeRegisteredFlag_eq, appendValidatorToList_eq,
        readValidatorCount_setState hslots, keyed_addBalance, keyed_subBalance,
        readValidatorCount_addBalance, readValidatorCount_subBalance, keyed_setState hslots, ne_eq,
        not_false_eq_true, RegistryKey.Within, hf, hb, hc, RegistryKey.validator.injEq, reduceCtorEq,
        and_true, and_false, if_false]
      split_ifs <;> simp only [ofNat_toNat_ofNat_status]
    · simp only [hw, readRegisteredFlag_eq, writeSelfStake_eq, writeValidatorStatus_eq,
        writeMaintenanceSince_eq, writeRegisteredFlag_eq, appendValidatorToList_eq,
        readValidatorCount_setState hslots, keyed_addBalance, keyed_subBalance,
        readValidatorCount_addBalance, readValidatorCount_subBalance, keyed_setState hslots, ne_eq,
        not_false_eq_true, RegistryKey.Within, hf, hb, hc, RegistryKey.validator.injEq, reduceCtorEq,
        and_true, and_false, if_false]
      split_ifs <;> simp
    · -- the list gains `f` in the slot of index `count`
      rw [if_neg (by simp)]
      have hc' : readValidatorCount keccak256 (VmStateDB.addBalance (VmStateDB.subBalance s f v)
          validatorRegistryAddress v) < A.length := hc
      simp only [hw, writeSelfStake_eq, writeValidatorStatus_eq, writeMaintenanceSince_eq,
        writeRegisteredFlag_eq, validatorList_appendValidatorToList hslots _ _ _ hA,
        validatorList_setState hslots hf, readValidatorCount_setState hslots, ne_eq, not_false_eq_true,
        reduceCtorEq, RegistryKey.Within, hf, hc', hc'.le]
      rfl
  · -- a registration after a withdrawal: the record's writes only
    have hw : registerWrites keccak256 s f v = writeMaintenanceSince keccak256
        (writeValidatorStatus keccak256 (writeSelfStake keccak256 (VmStateDB.addBalance
          (VmStateDB.subBalance s f v) validatorRegistryAddress v) f v) f active) f 0 := by
      simp [registerWrites, hflag]
    refine ⟨fun b hb => ?_, fun b hb => ?_, fun b hb => ?_, ?_⟩
    · simp only [hw, readSelfStake_eq, writeSelfStake_eq, writeValidatorStatus_eq,
        writeMaintenanceSince_eq, keyed_addBalance, keyed_subBalance, keyed_setState hslots,
        RegistryKey.Within, hf, hb, RegistryKey.validator.injEq, reduceCtorEq, and_true, and_false,
        if_false]
      split_ifs <;> simp
    · simp only [hw, readValidatorStatus_eq, writeSelfStake_eq, writeValidatorStatus_eq,
        writeMaintenanceSince_eq, keyed_addBalance, keyed_subBalance, keyed_setState hslots,
        RegistryKey.Within, hf, hb, RegistryKey.validator.injEq, reduceCtorEq, and_true, and_false,
        if_false]
      split_ifs <;> simp only [ofNat_toNat_ofNat_status]
    · simp only [hw, readRegisteredFlag_eq, writeSelfStake_eq, writeValidatorStatus_eq,
        writeMaintenanceSince_eq, keyed_addBalance, keyed_subBalance, keyed_setState hslots,
        RegistryKey.Within, hf, hb, RegistryKey.validator.injEq, reduceCtorEq, and_false, if_false]
      split_ifs with h
      · subst h
        simpa [readRegisteredFlag_eq] using hflag
      · rfl
    · have hcA' : readValidatorCount keccak256 (VmStateDB.addBalance (VmStateDB.subBalance s f v)
          validatorRegistryAddress v) ≤ A.length := hcA
      simp only [hw, writeSelfStake_eq, writeValidatorStatus_eq, writeMaintenanceSince_eq,
        validatorList_setState hslots hf, readValidatorCount_setState hslots, ne_eq, not_false_eq_true,
        reduceCtorEq, RegistryKey.Within, hf, hcA', if_true]
      rfl
/-- **`withdrawWrites`** clears the record of `f`; the flag and the list stay. -/
theorem withdrawWrites_effect (s : StateDB) (f : Address) (k : ℕ) (hf : f ∈ A)
    (hcA : readValidatorCount keccak256 s ≤ A.length) :
    (∀ b ∈ A, readSelfStake keccak256 (withdrawWrites keccak256 s f k) b =
      if b = f then 0 else readSelfStake keccak256 s b) ∧
    (∀ b ∈ A, readValidatorStatus keccak256 (withdrawWrites keccak256 s f k) b =
      if b = f then inactive else readValidatorStatus keccak256 s b) ∧
    (∀ b ∈ A, readRegisteredFlag keccak256 (withdrawWrites keccak256 s f k) b =
      readRegisteredFlag keccak256 s b) ∧
    validatorList keccak256 (withdrawWrites keccak256 s f k) = validatorList keccak256 s := by
  refine ⟨fun b hb => ?_, fun b hb => ?_, fun b hb => ?_, ?_⟩
  · simp only [withdrawWrites, readSelfStake_eq, writeSelfStake_eq, writeValidatorStatus_eq,
      writeMaintenanceSince_eq, keyed_addBalance, keyed_subBalance, keyed_setState hslots,
      RegistryKey.Within, hf, hb, RegistryKey.validator.injEq, reduceCtorEq, and_true, and_false,
      if_false]
    split_ifs <;> simp
  · simp only [withdrawWrites, readValidatorStatus_eq, writeSelfStake_eq, writeValidatorStatus_eq,
      writeMaintenanceSince_eq, keyed_addBalance, keyed_subBalance, keyed_setState hslots,
      RegistryKey.Within, hf, hb, RegistryKey.validator.injEq, reduceCtorEq, and_true, and_false,
      if_false]
    split_ifs <;> simp only [ofNat_toNat_ofNat_status]
  · simp only [withdrawWrites, readRegisteredFlag_eq, writeSelfStake_eq, writeValidatorStatus_eq,
      writeMaintenanceSince_eq, keyed_addBalance, keyed_subBalance, keyed_setState hslots,
      RegistryKey.Within, hf, hb, RegistryKey.validator.injEq, reduceCtorEq, and_false, if_false]
  · have hcA' : readValidatorCount keccak256 (VmStateDB.addBalance (VmStateDB.subBalance s
        validatorRegistryAddress k) f k) ≤ A.length := hcA
    simp only [withdrawWrites, writeSelfStake_eq, writeValidatorStatus_eq, writeMaintenanceSince_eq,
      validatorList_setState hslots hf, readValidatorCount_setState hslots, ne_eq, not_false_eq_true,
      reduceCtorEq, RegistryKey.Within, hf, hcA']
    rfl

/-- **A change of status** (`handleEnterMaintenance`, `handleExitMaintenance`) writes the status
and the start of maintenance of `f`, and nothing the invariant reads besides its status. -/
theorem statusWrites_effect (s : StateDB) (f : Address) (t : ValidatorStatus) (n : ℕ) (hf : f ∈ A)
    (hcA : readValidatorCount keccak256 s ≤ A.length) :
    (∀ b ∈ A, readSelfStake keccak256
      (writeMaintenanceSince keccak256 (writeValidatorStatus keccak256 s f t) f n) b =
        readSelfStake keccak256 s b) ∧
    (∀ b ∈ A, readValidatorStatus keccak256
      (writeMaintenanceSince keccak256 (writeValidatorStatus keccak256 s f t) f n) b =
        if b = f then t else readValidatorStatus keccak256 s b) ∧
    (∀ b ∈ A, readRegisteredFlag keccak256
      (writeMaintenanceSince keccak256 (writeValidatorStatus keccak256 s f t) f n) b =
        readRegisteredFlag keccak256 s b) ∧
    validatorList keccak256
      (writeMaintenanceSince keccak256 (writeValidatorStatus keccak256 s f t) f n) =
        validatorList keccak256 s := by
  refine ⟨fun b hb => ?_, fun b hb => ?_, fun b hb => ?_, ?_⟩
  · simp only [readSelfStake_eq, writeValidatorStatus_eq, writeMaintenanceSince_eq,
      keyed_setState hslots, RegistryKey.Within, hf, hb, RegistryKey.validator.injEq, reduceCtorEq,
      and_false, if_false]
  · simp only [readValidatorStatus_eq, writeValidatorStatus_eq, writeMaintenanceSince_eq,
      keyed_setState hslots, RegistryKey.Within, hf, hb, RegistryKey.validator.injEq, reduceCtorEq,
      and_true, and_false, if_false]
    split_ifs <;> simp only [ofNat_toNat_ofNat_status]
  · simp only [readRegisteredFlag_eq, writeValidatorStatus_eq, writeMaintenanceSince_eq,
      keyed_setState hslots, RegistryKey.Within, hf, hb, RegistryKey.validator.injEq, reduceCtorEq,
      and_false, if_false]
  · simp only [writeValidatorStatus_eq, writeMaintenanceSince_eq, validatorList_setState hslots hf,
      readValidatorCount_setState hslots, ne_eq, not_false_eq_true, reduceCtorEq, RegistryKey.Within,
      hf, hcA]

end Slots

theorem balance_registerWrites (s : StateDB) (f : Address) (v : ℤ)
    (hreg : f ≠ validatorRegistryAddress) :
    (registerWrites keccak256 s f v).balance validatorRegistryAddress =
      s.balance validatorRegistryAddress + v := by
  simp only [registerWrites]
  split <;> simp [writeSelfStake_eq, writeValidatorStatus_eq, writeMaintenanceSince_eq,
    writeRegisteredFlag_eq, appendValidatorToList_eq, Ne.symm hreg]

/-- A registration by the registry account moves the value from the registry to the registry. -/
theorem balance_registerWrites_self (s : StateDB) (v : ℤ) :
    (registerWrites keccak256 s validatorRegistryAddress v).balance validatorRegistryAddress =
      s.balance validatorRegistryAddress := by
  simp only [registerWrites]
  split <;> simp [writeSelfStake_eq, writeValidatorStatus_eq, writeMaintenanceSince_eq,
    writeRegisteredFlag_eq, appendValidatorToList_eq]

theorem balance_withdrawWrites (s : StateDB) (f : Address) (k : ℕ)
    (hreg : f ≠ validatorRegistryAddress) :
    (withdrawWrites keccak256 s f k).balance validatorRegistryAddress =
      s.balance validatorRegistryAddress - k := by
  simp [withdrawWrites, writeSelfStake_eq, writeValidatorStatus_eq, writeMaintenanceSince_eq,
    Ne.symm hreg]

theorem balance_statusWrites (s : StateDB) (f : Address) (t : ValidatorStatus) (n : ℕ) :
    (writeMaintenanceSince keccak256 (writeValidatorStatus keccak256 s f t) f n).balance =
      s.balance := rfl

end Effects


end Gtos.Validator
