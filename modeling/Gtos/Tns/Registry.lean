import Gtos.Tns.Handler

/-! # The name registry over a run (`tns/handler.go`, `tns/state.go`)

Over any run of registrations from an empty registry, each reverted when it fails, the two
directions of the registry stay a partial bijection (`MappingInv`): an address maps to a non-zero
hash exactly when that hash maps back to it, a non-zero address. An entry, once non-zero, never
changes: a registration writes only a name that is free, for an account without one. The hash an
address maps to is the hash of the checked, lower-cased name of the registration that wrote it.
And a successful registration moves its value, at least the fee, from its sender to the
registry's balance (`balance_of_handleRegister_ok`).

The invariant is stated for the addresses of a list `A` and the name hashes of a list `H` whose
registry words have distinct slots (`TnsSlotsDistinct`), and needs of the run what the handler does
not check: no sender is the zero address, whose registration maps it to a hash while the hash still
resolves to nothing (`resolve_unset_of_zero_sender`), and the hash of a name that passes the check
is one of `H`, none of which is zero. -/

namespace Gtos.Tns

open Gtos.Core Gtos.Sysaction

/-! ## The registry's words -/

/-- A word of the registry's storage. -/
inductive TnsKey
  /-- The address under a name's hash. -/
  | nameToAddr (nameHash : Hash)
  /-- The name's hash under an address. -/
  | addrToName (addr : Address)
  deriving DecidableEq

/-- The slot of a word. -/
def tnsKeySlot (keccak256 : List UInt8 → Hash) : TnsKey → Hash
  | .nameToAddr h => nameToAddrSlot keccak256 h
  | .addrToName a => addrToNameSlot keccak256 a

/-- The words of the hashes of `H` and the addresses of `A`. -/
@[reducible] def TnsKey.Within (A : List Address) (H : List Hash) : TnsKey → Prop
  | .nameToAddr h => h ∈ H
  | .addrToName a => a ∈ A

/-- Keccak-256 has no collision among the slots of the words of `A` and `H`. -/
def TnsSlotsDistinct (keccak256 : List UInt8 → Hash) (A : List Address) (H : List Hash) : Prop :=
  Set.InjOn (tnsKeySlot keccak256) {k | k.Within A H}

/-- Distinct slots for the listed words give `TnsSlotsDistinct`. -/
theorem tnsSlotsDistinct_of_nodup {keccak256 : List UInt8 → Hash} {A : List Address}
    {H : List Hash}
    (h : ((H.map TnsKey.nameToAddr ++ A.map TnsKey.addrToName).map (tnsKeySlot keccak256)).Nodup) :
    TnsSlotsDistinct keccak256 A H := by
  have hmem : ∀ k : TnsKey, k.Within A H → k ∈ H.map TnsKey.nameToAddr ++ A.map TnsKey.addrToName := by
    intro k hk
    cases k <;> simp_all
  exact fun _ hk _ hk' heq => List.inj_on_of_nodup_map h (hmem _ hk) (hmem _ hk') heq

/-- The registry's storage, read by key. -/
def keyed (keccak256 : List UInt8 → Hash) (s : StateDB) (k : TnsKey) : Hash :=
  s.storage tnsRegistryAddress (tnsKeySlot keccak256 k)

section Keyed

variable {keccak256 : List UInt8 → Hash}

theorem resolve_eq (s : StateDB) (h : Hash) :
    resolve keccak256 s h = keyed keccak256 s (.nameToAddr h) := rfl

theorem reverse_eq (s : StateDB) (a : Address) :
    reverse keccak256 s a = keyed keccak256 s (.addrToName a) := rfl

@[simp] theorem keyed_addBalance (s : StateDB) (a : Address) (x : ℤ) (k : TnsKey) :
    keyed keccak256 (VmStateDB.addBalance s a x) k = keyed keccak256 s k := rfl

@[simp] theorem keyed_subBalance (s : StateDB) (a : Address) (x : ℤ) (k : TnsKey) :
    keyed keccak256 (VmStateDB.subBalance s a x) k = keyed keccak256 s k := rfl

/-- **A write by key.** Under `TnsSlotsDistinct`, writing the slot of one word of `A` and `H`
changes that word and no other. -/
theorem keyed_setState {A : List Address} {H : List Hash} (hslots : TnsSlotsDistinct keccak256 A H)
    {k k' : TnsKey} (hk : k.Within A H) (hk' : k'.Within A H) (s : StateDB) (v : Hash) :
    keyed keccak256 (VmStateDB.setState s tnsRegistryAddress (tnsKeySlot keccak256 k) v) k' =
      if k' = k then v else keyed keccak256 s k' := by
  rw [keyed, StateDB.storage_setState_self, Function.update_apply]
  exact if_congr ⟨fun h => hslots hk' hk h, fun h => h ▸ rfl⟩ rfl rfl

end Keyed

/-! ## One registration -/

section Writes

variable {keccak256 : List UInt8 → Hash} {A : List Address} {H : List Hash}
  (hslots : TnsSlotsDistinct keccak256 A H)
include hslots

/-- **What a registration writes**: `f` under `h` and `h` under `f`, and no other word of `A`
and `H`. -/
theorem registerWrites_effect (s : StateDB) {f : Address} {h : Hash} (hf : f ∈ A) (hh : h ∈ H)
    (v : ℤ) :
    (∀ h' ∈ H, resolve keccak256 (registerWrites keccak256 s f v h) h' =
      if h' = h then f else resolve keccak256 s h') ∧
    (∀ a ∈ A, reverse keccak256 (registerWrites keccak256 s f v h) a =
      if a = f then h else reverse keccak256 s a) := by
  constructor
  · intro h' hh'
    rw [resolve_eq, registerWrites, writeMapping]
    -- the second write is of another kind of word
    rw [show addrToNameSlot keccak256 f = tnsKeySlot keccak256 (.addrToName f) from rfl,
      keyed_setState hslots (k := .addrToName f) hf hh',
      show nameToAddrSlot keccak256 h = tnsKeySlot keccak256 (.nameToAddr h) from rfl,
      if_neg (by simp), keyed_setState hslots (k := .nameToAddr h) hh hh']
    simp [resolve_eq]
  · intro a ha
    rw [reverse_eq, registerWrites, writeMapping]
    rw [show addrToNameSlot keccak256 f = tnsKeySlot keccak256 (.addrToName f) from rfl,
      keyed_setState hslots (k := .addrToName f) hf ha,
      show nameToAddrSlot keccak256 h = tnsKeySlot keccak256 (.nameToAddr h) from rfl,
      keyed_setState hslots (k := .nameToAddr h) hh ha]
    simp [reverse_eq]

end Writes

/-- **A registration's transfer.** A successful registration paid at least the fee, and moved
its value from the sender to the registry; no other balance changed. -/
theorem balance_of_handleRegister_ok {keccak256 : List UInt8 → Hash} {u : UnicodeTables}
    {ctx : Context} {payload : Except String RegisterPayload} {s s' : StateDB} {x : Unit}
    (h : (handleRegister keccak256 u ctx payload).run.run s = (.ok x, s')) :
    (tnsRegistrationFee : ℤ) ≤ ctx.value ∧ ∀ c, s'.balance c =
      s.balance c - (if c = ctx.sender then ctx.value else 0) +
        (if c = tnsRegistryAddress then ctx.value else 0) := by
  obtain ⟨hfee, -, p, -, -, -, -, rfl⟩ := handleRegister_ok keccak256 u h
  refine ⟨hfee, fun c => ?_⟩
  simp only [registerWrites, writeMapping, StateDB.balance_setState, StateDB.balance_addBalance,
    StateDB.balance_subBalance]
  by_cases hs : c = ctx.sender
  · subst hs
    by_cases hr : ctx.sender = tnsRegistryAddress
    · simp [hr]
    · simp [hr]
  · by_cases hr : c = tnsRegistryAddress
    · subst hr
      simp [hs]
    · simp [hs, hr]

/-! ## The partial bijection -/

/-- **The registry is a partial bijection** between the addresses of `A` and the hashes of `H`:
an address maps to a non-zero hash exactly when that hash maps back to it, a non-zero address. -/
def MappingInv (keccak256 : List UInt8 → Hash) (A : List Address) (H : List Hash) (s : StateDB) :
    Prop :=
  ∀ a ∈ A, ∀ h ∈ H, (reverse keccak256 s a = h ∧ h ≠ 0) ↔ (resolve keccak256 s h = a ∧ a ≠ 0)

/-- An action of a run the registry can be followed through: its sender is one of `A` and not
the zero address, and the hash of a name it would register is one of `H`. -/
def ActionWithin (keccak256 : List UInt8 → Hash) (u : UnicodeTables) (A : List Address)
    (H : List Hash) (act : Context × Except String RegisterPayload) : Prop :=
  act.1.sender ∈ A ∧ act.1.sender ≠ 0 ∧ ∀ p, act.2 = .ok p →
    validateName u (toLower u p.name) = .ok () → hashName keccak256 (toLower u p.name) ∈ H

/-- What a successful registration of `p` by `ctx.sender` does to a consistent registry. -/
structure RegisterStep (keccak256 : List UInt8 → Hash) (u : UnicodeTables) (A : List Address)
    (H : List Hash) (ctx : Context) (p : RegisterPayload) (s s' : StateDB) : Prop where
  /-- The invariant holds after. -/
  inv : MappingInv keccak256 A H s'
  /-- The name was checked. -/
  valid : validateName u (toLower u p.name) = .ok ()
  /-- The sender now maps to the name's hash; no other address changes. -/
  reverse_written : ∀ a ∈ A, reverse keccak256 s' a =
    if a = ctx.sender then hashName keccak256 (toLower u p.name) else reverse keccak256 s a
  /-- A hash that resolved keeps its address. -/
  resolve_stable : ∀ h ∈ H, resolve keccak256 s h ≠ 0 → resolve keccak256 s' h = resolve keccak256 s h
  /-- An address that had a name keeps it. -/
  reverse_stable : ∀ a ∈ A, reverse keccak256 s a ≠ 0 → reverse keccak256 s' a = reverse keccak256 s a

/-- The empty registry is a partial bijection: nothing maps anywhere. -/
theorem mappingInv_empty {keccak256 : List UInt8 → Hash} {A : List Address} {H : List Hash}
    {s : StateDB} (hempty : s.storage tnsRegistryAddress = fun _ => 0) :
    MappingInv keccak256 A H s := by
  intro a _ h _
  simp only [reverse, resolve, StateDB.getState_eq, hempty]
  exact ⟨fun ⟨h₁, h₂⟩ => absurd h₁.symm h₂, fun ⟨h₁, h₂⟩ => absurd h₁.symm h₂⟩

section Step

variable {keccak256 : List UInt8 → Hash} {A : List Address} {H : List Hash}
  (hslots : TnsSlotsDistinct keccak256 A H) (hH : ∀ h ∈ H, h ≠ 0)
include hslots hH

/-- **A registration keeps the partial bijection.** It maps a non-zero sender without a name to a
non-zero hash that was free, and that hash back to the sender. -/
theorem MappingInv.registerWrites (hinv : MappingInv keccak256 A H s) {f : Address} {h : Hash}
    (hf : f ∈ A) (hf0 : f ≠ 0) (hh : h ∈ H) (hname : reverse keccak256 s f = 0)
    (hfree : resolve keccak256 s h = 0) (v : ℤ) :
    MappingInv keccak256 A H (Tns.registerWrites keccak256 s f v h) := by
  obtain ⟨hres, hrev⟩ := registerWrites_effect hslots s hf hh v
  have hh0 := hH h hh
  intro a ha h' hh'
  rw [hres h' hh', hrev a ha]
  by_cases haf : a = f <;> by_cases hhh : h' = h
  · subst haf hhh
    rw [if_pos rfl, if_pos rfl]
    exact ⟨fun _ => ⟨rfl, hf0⟩, fun _ => ⟨rfl, hh0⟩⟩
  · -- `f` had no name, so no other hash resolved to it
    subst haf
    have hnot : ¬ (resolve keccak256 s h' = a ∧ a ≠ 0) := fun hr => by
      have := ((hinv a ha h' hh').mpr hr)
      rw [hname] at this
      exact this.2 this.1.symm
    rw [if_pos rfl, if_neg hhh]
    exact ⟨fun hc => absurd hc.1.symm hhh, fun hc => absurd hc hnot⟩
  · -- `h` was free, so no other address mapped to it
    subst hhh
    have hnot : ¬ (reverse keccak256 s a = h' ∧ h' ≠ 0) := fun hr => by
      have := ((hinv a ha h' hh').mp hr)
      rw [hfree] at this
      exact this.2 this.1.symm
    rw [if_neg haf, if_pos rfl]
    exact ⟨fun hc => absurd hc hnot, fun hc => absurd hc.1.symm haf⟩
  · rw [if_neg haf, if_neg hhh]
    exact hinv a ha h' hh'

/-- **Every successful registration is a registry step** from a consistent registry. -/
theorem registerStep_of_ok (hinv : MappingInv keccak256 A H s) {u : UnicodeTables}
    {act : Context × Except String RegisterPayload} (hw : ActionWithin keccak256 u A H act)
    {x : Unit} {s' : StateDB} (h : (handleRegister keccak256 u act.1 act.2).run.run s = (.ok x, s')) :
    ∃ p, act.2 = .ok p ∧ RegisterStep keccak256 u A H act.1 p s s' := by
  obtain ⟨-, -, p, hp, hvalid, hname, hfree, rfl⟩ := handleRegister_ok keccak256 u h
  obtain ⟨hf, hf0, hhash⟩ := hw
  have hh := hhash p hp hvalid
  have hname' : reverse keccak256 s act.1.sender = 0 := by simpa [hasName] using hname
  obtain ⟨hres, hrev⟩ := registerWrites_effect hslots s hf hh act.1.value
  refine ⟨p, hp, hinv.registerWrites hslots hH hf hf0 hh hname' hfree act.1.value, hvalid, hrev,
    fun h' hh' hne => ?_, fun a ha hne => ?_⟩
  · -- the written hash resolved to nothing
    rw [hres h' hh', if_neg]
    rintro rfl
    exact hne hfree
  · -- the sender had no name
    rw [hrev a ha, if_neg]
    rintro rfl
    exact hne hname'

end Step

/-! ## The run -/

section Run

variable {keccak256 : List UInt8 → Hash} {u : UnicodeTables} {A : List Address} {H : List Hash}
  (hslots : TnsSlotsDistinct keccak256 A H) (hH : ∀ h ∈ H, h ≠ 0)
include hslots hH

/-- **The run keeps the partial bijection.** Induction on the actions: a failed one is reverted,
a successful one is a registry step. -/
theorem mappingInv_runWith (acts : List (Context × Except String RegisterPayload))
    (hacts : ∀ act ∈ acts, ActionWithin keccak256 u A H act) {s : StateDB}
    (hinv : MappingInv keccak256 A H s) :
    MappingInv keccak256 A H (runWith (handleRegister keccak256 u) s acts) := by
  induction acts generalizing s with
  | nil => exact hinv
  | cons act acts ih =>
    rw [runWith_cons]
    apply ih (fun a h => hacts a (List.mem_cons_of_mem _ h))
    cases hok : succeedsWith (handleRegister keccak256 u) s act
    · rw [applyWith_of_not_succeeds _ hok]
      exact hinv
    · obtain ⟨s', hrun, happly⟩ := applyWith_of_succeeds _ hok
      rw [happly]
      obtain ⟨p, -, hstep⟩ := registerStep_of_ok hslots hH hinv (hacts act (List.mem_cons_self ..)) hrun
      exact hstep.inv

section Prefix

variable {acts : List (Context × Except String RegisterPayload)}
  (hacts : ∀ act ∈ acts, ActionWithin keccak256 u A H act) {s : StateDB}
  (hinv : MappingInv keccak256 A H s)
include hacts hinv

/-- The `i`-th action, when it succeeds, is a registry step from the state before it. -/
theorem registerStep_runWith_take {i : ℕ} {act : Context × Except String RegisterPayload} {x : Unit}
    (hk : acts[i]? = some act)
    (hrun : (handleRegister keccak256 u act.1 act.2).run.run
      (runWith (handleRegister keccak256 u) s (acts.take i)) =
        (.ok x, runWith (handleRegister keccak256 u) s (acts.take (i + 1)))) :
    ∃ p, act.2 = .ok p ∧ RegisterStep keccak256 u A H act.1 p
      (runWith (handleRegister keccak256 u) s (acts.take i))
      (runWith (handleRegister keccak256 u) s (acts.take (i + 1))) :=
  registerStep_of_ok hslots hH
    (mappingInv_runWith hslots hH _ (fun act h => hacts act (List.mem_of_mem_take h)) hinv)
    (hacts act (List.mem_of_getElem? hk)) hrun

/-- **Entries stay.** A hash that resolves after the first `i` actions resolves to the same
address after the first `j ≥ i`, and an address that has a name keeps it. Induction on `j`. -/
theorem entries_stable {i j : ℕ} (hij : i ≤ j) :
    (∀ h ∈ H, resolve keccak256 (runWith (handleRegister keccak256 u) s (acts.take i)) h ≠ 0 →
      resolve keccak256 (runWith (handleRegister keccak256 u) s (acts.take j)) h =
        resolve keccak256 (runWith (handleRegister keccak256 u) s (acts.take i)) h) ∧
    (∀ a ∈ A, reverse keccak256 (runWith (handleRegister keccak256 u) s (acts.take i)) a ≠ 0 →
      reverse keccak256 (runWith (handleRegister keccak256 u) s (acts.take j)) a =
        reverse keccak256 (runWith (handleRegister keccak256 u) s (acts.take i)) a) := by
  induction j, hij using Nat.le_induction with
  | base => exact ⟨fun _ _ _ => rfl, fun _ _ _ => rfl⟩
  | succ j _ ih =>
    obtain ⟨ihres, ihrev⟩ := ih
    rcases runWith_take_succ_cases (handleRegister keccak256 u) s acts j with heq | ⟨act, x, hk, hrun⟩
    · rw [heq]
      exact ⟨ihres, ihrev⟩
    · obtain ⟨p, -, hstep⟩ := registerStep_runWith_take hslots hH hacts hinv hk hrun
      refine ⟨fun h hh hne => ?_, fun a ha hne => ?_⟩
      · rw [hstep.resolve_stable h hh (by rw [ihres h hh hne]; exact hne), ihres h hh hne]
      · rw [hstep.reverse_stable a ha (by rw [ihrev a ha hne]; exact hne), ihrev a ha hne]

/-- **A name's origin.** From an empty registry, an address of `A` that maps to a hash after the
first `i` actions registered, by one of them and with success, a name that passed the check and
whose lower-cased form hashes to it. Induction on `i`: only a registration by the address itself
changes what it maps to. -/
theorem reverse_registered (hempty : s.storage tnsRegistryAddress = fun _ => 0) {a : Address}
    (ha : a ∈ A) (i : ℕ)
    (hne : reverse keccak256 (runWith (handleRegister keccak256 u) s (acts.take i)) a ≠ 0) :
    ∃ j < i, ∃ ctx p, acts[j]? = some (ctx, .ok p) ∧ ctx.sender = a ∧
      succeedsWith (handleRegister keccak256 u)
        (runWith (handleRegister keccak256 u) s (acts.take j)) (ctx, .ok p) = true ∧
      validateName u (toLower u p.name) = .ok () ∧
      reverse keccak256 (runWith (handleRegister keccak256 u) s (acts.take i)) a =
        hashName keccak256 (toLower u p.name) := by
  induction i with
  | zero =>
    simp [runWith, reverse, hempty] at hne
  | succ i ih =>
    rcases runWith_take_succ_cases (handleRegister keccak256 u) s acts i with heq | ⟨act, x, hk, hrun⟩
    · rw [heq] at hne ⊢
      obtain ⟨j, hj, rest⟩ := ih hne
      exact ⟨j, by omega, rest⟩
    · obtain ⟨p, hp, hstep⟩ := registerStep_runWith_take hslots hH hacts hinv hk hrun
      have hwritten := hstep.reverse_written a ha
      by_cases has : a = act.1.sender
      · -- the `i`-th action is the registration
        rw [if_pos has] at hwritten
        rw [hp] at hrun
        exact ⟨i, Nat.lt_succ_self i, act.1, p, by rw [← hp, hk], has.symm,
          succeedsWith_of_run_ok _ hrun, hstep.valid, hwritten⟩
      · rw [if_neg has] at hwritten
        rw [hwritten] at hne ⊢
        obtain ⟨j, hj, rest⟩ := ih hne
        exact ⟨j, by omega, rest⟩

end Prefix

end Run

/-! ## The run from an empty registry -/

theorem tns_registry_bijection (keccak256 : List UInt8 → Hash) (u : UnicodeTables)
    (A : List Address) (H : List Hash) (hslots : TnsSlotsDistinct keccak256 A H)
    (hH : ∀ h ∈ H, h ≠ 0) (s : StateDB) (hempty : s.storage tnsRegistryAddress = fun _ => 0)
    (acts : List (Context × Except String RegisterPayload))
    (hacts : ∀ act ∈ acts, ActionWithin keccak256 u A H act) :
    -- a partial bijection after every prefix, whose entries stay
    (∀ i, MappingInv keccak256 A H (runWith (handleRegister keccak256 u) s (acts.take i))) ∧
    (∀ i j, i ≤ j →
      (∀ h ∈ H, resolve keccak256 (runWith (handleRegister keccak256 u) s (acts.take i)) h ≠ 0 →
        resolve keccak256 (runWith (handleRegister keccak256 u) s (acts.take j)) h =
          resolve keccak256 (runWith (handleRegister keccak256 u) s (acts.take i)) h) ∧
      (∀ a ∈ A, reverse keccak256 (runWith (handleRegister keccak256 u) s (acts.take i)) a ≠ 0 →
        reverse keccak256 (runWith (handleRegister keccak256 u) s (acts.take j)) a =
          reverse keccak256 (runWith (handleRegister keccak256 u) s (acts.take i)) a)) ∧
    -- an address maps to the hash of the checked, lower-cased name it registered
    (∀ i, ∀ a ∈ A, reverse keccak256 (runWith (handleRegister keccak256 u) s (acts.take i)) a ≠ 0 →
      ∃ j < i, ∃ ctx p, acts[j]? = some (ctx, .ok p) ∧ ctx.sender = a ∧
        succeedsWith (handleRegister keccak256 u)
          (runWith (handleRegister keccak256 u) s (acts.take j)) (ctx, .ok p) = true ∧
        validateName u (toLower u p.name) = .ok () ∧
        reverse keccak256 (runWith (handleRegister keccak256 u) s (acts.take i)) a =
          hashName keccak256 (toLower u p.name)) ∧
    -- the names the check accepts
    (∀ name, validateName u name = .ok () ↔ tnsMinNameLen ≤ (Text.utf8 name).length ∧
      (Text.utf8 name).length ≤ tnsMaxNameLen ∧ name ∉ reservedNames ∧
        name.toList ∈ namePattern.matches') ∧
    -- a kept registration moves its value, at least the fee, from its sender to the registry
    ∀ i act, acts[i]? = some act →
      succeedsWith (handleRegister keccak256 u)
        (runWith (handleRegister keccak256 u) s (acts.take i)) act = true →
      (tnsRegistrationFee : ℤ) ≤ act.1.value ∧ ∀ c,
        (runWith (handleRegister keccak256 u) s (acts.take (i + 1))).balance c =
          (runWith (handleRegister keccak256 u) s (acts.take i)).balance c -
            (if c = act.1.sender then act.1.value else 0) +
            (if c = tnsRegistryAddress then act.1.value else 0) := by
  have hinv₀ : MappingInv keccak256 A H s := mappingInv_empty hempty
  refine ⟨fun i => mappingInv_runWith hslots hH _ (fun act h => hacts act (List.mem_of_mem_take h))
      hinv₀, fun i j hij => entries_stable hslots hH hacts hinv₀ hij,
    fun i a ha hne => reverse_registered hslots hH hacts hinv₀ hempty ha i hne,
    validateName_eq_ok u, fun i act hk hok => ?_⟩
  -- the kept action's run ends in the next prefix's state
  obtain ⟨s', hrun, happly⟩ := applyWith_of_succeeds _ hok
  rw [runWith_take_succ _ s hk, happly]
  exact balance_of_handleRegister_ok hrun

/-- The registration of `alice` by `0xA`, funded with the fee. -/
def aliceRun : List (Context × Except String RegisterPayload) :=
  [(⟨0xA#256, tnsRegistrationFee, 0⟩, .ok ⟨"alice"⟩)]

theorem tns_registry_bijection_alice :
    TnsSlotsDistinct bytesToHash [0xA#256] [hashName bytesToHash "alice"] ∧
      MappingInv bytesToHash [0xA#256] [hashName bytesToHash "alice"]
        (runWith (handleRegister bytesToHash asciiTables) (StateDB.funded 0xA#256 tnsRegistrationFee)
          (aliceRun.take 1)) := by
  have hslots : TnsSlotsDistinct bytesToHash [0xA#256] [hashName bytesToHash "alice"] :=
    tnsSlotsDistinct_of_nodup (by decide +kernel)
  have hacts : ∀ act ∈ aliceRun, ActionWithin bytesToHash asciiTables [0xA#256]
      [hashName bytesToHash "alice"] act := by
    intro act hact
    simp only [aliceRun, List.mem_singleton] at hact
    subst hact
    refine ⟨by simp, by decide, fun p hp _ => ?_⟩
    simp only [Except.ok.injEq] at hp
    subst hp
    rw [toLower_eq_self (by simp [asciiTables])]
    simp
  have hH : ∀ h ∈ [hashName bytesToHash "alice"], h ≠ 0 := by
    simp only [List.mem_singleton, forall_eq]
    decide
  exact ⟨hslots, (tns_registry_bijection bytesToHash asciiTables _ _ hslots hH _ rfl aliceRun
    hacts).1 1⟩

/-- **A registration by the zero address** maps the zero address to the name's hash, while the
hash still resolves to the zero address, that is to no one. -/
theorem resolve_unset_of_zero_sender (keccak256 : List UInt8 → Hash) (u : UnicodeTables)
    {v : ℤ} {b : ℕ} {p : RegisterPayload} {s s' : StateDB} {x : Unit}
    (hslots : TnsSlotsDistinct keccak256 [0] [hashName keccak256 (toLower u p.name)])
    (h : (handleRegister keccak256 u ⟨0, v, b⟩ (.ok p)).run.run s = (.ok x, s')) :
    reverse keccak256 s' 0 = hashName keccak256 (toLower u p.name) ∧
      resolve keccak256 s' (hashName keccak256 (toLower u p.name)) = 0 := by
  obtain ⟨-, -, q, hq, -, -, -, rfl⟩ := handleRegister_ok keccak256 u h
  simp only [Except.ok.injEq] at hq
  subst hq
  obtain ⟨hres, hrev⟩ := registerWrites_effect hslots s (f := 0)
    (h := hashName keccak256 (toLower u p.name)) (by simp) (by simp) v
  show reverse keccak256 (registerWrites keccak256 s 0 v _) 0 = _ ∧
    resolve keccak256 (registerWrites keccak256 s 0 v _) _ = 0
  rw [hres _ (by simp), hrev _ (by simp), if_pos rfl, if_pos rfl]
  exact ⟨rfl, rfl⟩

/-- The registration of `alice` by the zero address, funded with the fee. -/
def zeroSenderRun : List (Context × Except String RegisterPayload) :=
  [(⟨0, tnsRegistrationFee, 0⟩, .ok ⟨"alice"⟩)]

theorem zero_sender_breaks_bijection :
    reverse bytesToHash (runWith (handleRegister bytesToHash asciiTables)
        (StateDB.funded 0 tnsRegistrationFee) zeroSenderRun) 0 = hashName bytesToHash "alice" ∧
      hashName bytesToHash "alice" ≠ 0 ∧
      resolve bytesToHash (runWith (handleRegister bytesToHash asciiTables)
        (StateDB.funded 0 tnsRegistrationFee) zeroSenderRun) (hashName bytesToHash "alice") = 0 := by
  have hlower : toLower asciiTables "alice" = "alice" := toLower_eq_self (by simp [asciiTables])
  have hslots : TnsSlotsDistinct bytesToHash [0] [hashName bytesToHash (toLower asciiTables "alice")] := by
    rw [hlower]
    exact tnsSlotsDistinct_of_nodup (by decide +kernel)
  -- the registration passes every check
  have hname : toLower asciiTables ({ name := "alice" } : RegisterPayload).name = "alice" := hlower
  have hrun : (handleRegister bytesToHash asciiTables ⟨0, tnsRegistrationFee, 0⟩ (.ok ⟨"alice"⟩)).run.run
      (StateDB.funded 0 tnsRegistrationFee) = _ :=
    run_handleRegister bytesToHash asciiTables le_rfl (by simp [StateDB.funded])
      (by rw [hname]; decide) (by decide) (by rw [hname]; decide)
  have happly : runWith (handleRegister bytesToHash asciiTables) (StateDB.funded 0 tnsRegistrationFee)
      zeroSenderRun = _ := commit_of_ok hrun
  obtain ⟨hrev, hres⟩ := resolve_unset_of_zero_sender bytesToHash asciiTables hslots hrun
  rw [happly, hname]
  rw [hname] at hrev hres
  exact ⟨hrev, by decide, hres⟩

end Gtos.Tns
