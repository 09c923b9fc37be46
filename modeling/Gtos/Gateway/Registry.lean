import Gtos.Gateway.Handler
import Gtos.Gateway.Storage

/-! # What each gateway action leaves in the registry

The configuration of a gateway as its reads return it (`GatewayView`) after each of the three
actions:

* a registration leaves `registeredView`: the payload's endpoint, policy and relay gas, its kinds in
  the order of their bytes without those of 32 bytes (`storedKinds`: a kind is stored in one word,
  after its length byte, and a length above 31 reads back as no kind), the absolute value of the
  fee amount modulo `2 ^ 256` (`BigToHash` keeps the magnitude's last 32 bytes), the active flag,
  and the block; it adds one to the count (`view_registerWrites`, `readGatewayCount_registerWrites`);
* an update leaves `updatedView`: its given fields replace the stored ones and the others stay
  (`view_handleUpdate`);
* a deregistration clears the active flag and leaves the rest of the configuration readable
  (`view_handleDeregister`).

No action changes the configuration of another address. Each effect is first stated as one map
from keys to words (`eqOn_registerWrites`, `eqOn_updateWrites`), from which each field is read. -/

namespace Gtos.Gateway

open Gtos.Core Gtos.Sysaction Gtos.AccountSigner

/-! ## The configurations the actions leave -/

/-- The kinds the registry holds for a list of kinds: in the order of their bytes, without the
kinds of more than 31 bytes. -/
def storedKinds (kinds : List String) : List String :=
  (sortStrings kinds).filter fun k => (Text.utf8 k).length ≤ 31

/-- The configuration a registration with payload `p`, fee amount `feeAmount` and block
`blockNumber` leaves. -/
def registeredView (p : RegisterGatewayPayload) (feeAmount : ℤ) (blockNumber : ℕ) : GatewayView where
  endpoint := p.endpoint
  supportedKinds := storedKinds p.supportedKinds
  maxRelayGas := p.maxRelayGas.toNat
  feePolicy := p.feePolicy
  feeAmount := feeAmount.natAbs % 2 ^ 256
  active := true
  registeredAt := blockNumber % 2 ^ 64

/-- The configuration an update with payload `p` and fee amount `feeAmount` makes of `v`: each
given field is replaced, and a field left out keeps its value. -/
def updatedView (v : GatewayView) (p : UpdateGatewayPayload) (feeAmount : ℤ) : GatewayView where
  endpoint := if p.endpoint ≠ "" then p.endpoint else v.endpoint
  supportedKinds := if p.supportedKinds.length > 0 then storedKinds p.supportedKinds
    else v.supportedKinds
  maxRelayGas := if p.maxRelayGas ≠ 0 then p.maxRelayGas.toNat else v.maxRelayGas
  feePolicy := if p.feePolicy ≠ "" then p.feePolicy else v.feePolicy
  feeAmount := if p.feeAmount ≠ "" then feeAmount.natAbs % 2 ^ 256 else v.feeAmount
  active := v.active
  registeredAt := v.registeredAt

/-- Kinds that pass the checks are not empty, so the registry drops exactly those of 32 bytes. -/
theorem filter_sortStrings_of_checkKinds {kinds : List String}
    (hkinds : checkKinds kinds = .ok ()) :
    (sortStrings kinds).filter (fun k => 0 < (Text.utf8 k).length ∧ (Text.utf8 k).length ≤ 31) =
      storedKinds kinds := by
  have hok := ((checkKinds_eq_ok kinds).mp hkinds).2
  refine List.filter_congr fun k hk => ?_
  have hpos : (Text.utf8 k).length ≠ 0 := by
    have hk' := hok k ((perm_sortStrings kinds).subset hk)
    simp only [kindLengthOk, decide_eq_true_eq] at hk'
    exact hk'.1
  simp only [Nat.pos_of_ne_zero hpos, true_and]

/-- A kind that passes the checks has at most `MaxKindLength` bytes, so its length fits its byte. -/
theorem length_utf8_lt_of_checkKinds {kinds : List String} (hkinds : checkKinds kinds = .ok ()) :
    ∀ k ∈ kinds, (Text.utf8 k).length < 256 := by
  intro k hk
  have hk' := ((checkKinds_eq_ok kinds).mp hkinds).2 k hk
  simp only [kindLengthOk, decide_eq_true_eq] at hk'
  have hmax : maxKindLength = 32 := rfl
  omega

/-- A valid fee policy is a short string of 4 to 7 bytes. -/
theorem readShortString_validFeePolicy {policy : String} (h : validFeePolicy policy = true) :
    readShortString (shortStringWord (Text.utf8 policy)) = some (Text.utf8 policy) := by
  have hlen : 0 < (Text.utf8 policy).length ∧ (Text.utf8 policy).length ≤ 31 := by
    simp only [validFeePolicy, decide_eq_true_eq] at h
    rcases h with rfl | rfl | rfl <;> decide
  rw [readShortString_shortStringWord (by omega), if_pos hlen]

/-! ## A registration -/

section Register

variable {keccak256 : List UInt8 → Hash} {A : List Address}
  (hslots : GatewaySlotsDistinct keccak256 A) {a : Address} (ha : a ∈ A)
include hslots ha

/-- **The words a registration leaves**: the endpoint's length and chunks, the kinds' count and
short strings, the relay gas, the policy, the fee amount, the active flag, the block and the
count, each over the words before. -/
theorem eqOn_registerWrites (s : StateDB) (p : RegisterGatewayPayload) (fee : ℤ) (blk : ℕ)
    (he : (Text.utf8 p.endpoint).length ≤ maxEndpointLength)
    (hnum : p.supportedKinds.length ≤ maxSupportedKinds) :
    Set.EqOn (keyed keccak256 (registerWrites keccak256 s a p fee blk))
      (Function.update (Function.update (Function.update (Function.update (Function.update
        (Function.update
          (WriteLoop.run (.kind a)
            (fun i => shortStringWord (Text.utf8 ((sortStrings p.supportedKinds).getD i "")))
            (List.range (sortStrings p.supportedKinds).length)
            (Function.update
              (WriteLoop.run (.endpointChunk a) (fun j => chunkWord (chunkBytes (Text.utf8 p.endpoint) j))
                (List.range (chunkCount (Text.utf8 p.endpoint).length))
                (Function.update (keyed keccak256 s) (.endpointLen a)
                  (BitVec.ofNat 256 ((Text.utf8 p.endpoint).length % 2 ^ 64))))
              (.kindsCount a) (BitVec.ofNat 256 ((sortStrings p.supportedKinds).length % 2 ^ 64))))
          (.maxRelayGas a) (BitVec.ofNat 256 (p.maxRelayGas.toNat % 2 ^ 64)))
          (.feePolicy a) (shortStringWord (Text.utf8 p.feePolicy)))
          (.feeAmount a) (BitVec.ofNat 256 fee.natAbs))
          (.active a) 1#256)
          (.registeredAt a) (BitVec.ofNat 256 (blk % 2 ^ 64)))
        .count (BitVec.ofNat 256 ((readGatewayCount keccak256 s + 1) % 2 ^ 64)))
      {k | k.Within A} := by
  have h₁ := eqOn_writeEndpoint hslots (Set.eqOn_refl (keyed keccak256 s) _) ha he
  have h₂ := eqOn_writeSupportedKinds hslots h₁ ha hnum
  have h₃ := eqOn_writeMaxRelayGas hslots h₂ ha p.maxRelayGas
  have h₄ := eqOn_writeFeePolicy hslots h₃ ha p.feePolicy
  have h₅ := eqOn_writeFeeAmount hslots h₄ ha fee
  have h₆ := eqOn_writeActive hslots h₅ ha true
  rw [if_pos rfl] at h₆
  have h₇ := eqOn_writeRegisteredAt hslots h₆ ha blk
  -- the count word is written last, from the count the earlier writes left alone
  exact eqOn_incrementGatewayCount hslots h₇ (c := keyed keccak256 s .count)
    (by simp [WriteLoop.run_apply_of_forall_ne])

/-- **A registration's configuration reads back** as `registeredView` at the registering address,
and leaves every other address's configuration as it was. -/
theorem view_registerWrites (s : StateDB) {p : RegisterGatewayPayload} {fee : ℤ} (blk : ℕ)
    (hcheck : checkRegisterPayload p = .ok fee) {b : Address} (hb : b ∈ A) :
    view keccak256 (registerWrites keccak256 s a p fee blk) b =
      if b = a then registeredView p fee blk else view keccak256 s b := by
  obtain ⟨-, he, -, hkinds, -, hpolicy, -⟩ := (checkRegisterPayload_eq_ok p fee).mp hcheck
  have hnum := ((checkKinds_eq_ok _).mp hkinds).1
  have h := eqOn_registerWrites hslots ha s p fee blk he hnum
  by_cases hba : b = a
  case neg =>
    -- the words of `b` are not among those the registration writes
    rw [if_neg hba]
    refine view_congr hb fun k hk hown => ?_
    rw [h hk]
    simp [update_apply_of_owner_ne, run_apply_of_owner_ne, hown, hba]
  case pos =>
    subst hba
    rw [if_pos rfl]
    simp only [view, registeredView, GatewayView.mk.injEq]
    refine ⟨?_, ?_, ?_, ?_, ?_, ?_, ?_⟩
    · -- the length word, and the word of each chunk the endpoint has
      refine readEndpoint_of_words he
        (by rw [h (x := .endpointLen b) hb]; simp [WriteLoop.run_apply_of_forall_ne]) fun j hj => ?_
      rw [h (x := .endpointChunk b j) ⟨hb, lt_of_lt_of_le hj (chunkCount_mono he)⟩]
      simp [WriteLoop.run_apply_of_forall_ne, WriteLoop.run_apply_key, hj]
    · -- the count word, and the short string of each sorted kind
      have hsorted : (sortStrings p.supportedKinds).length = p.supportedKinds.length :=
        (perm_sortStrings _).length_eq
      rw [readSupportedKinds_of_words hnum (length_utf8_lt_of_checkKinds hkinds)
        (by rw [h (x := .kindsCount b) hb]; simp [WriteLoop.run_apply_of_forall_ne]) fun i hi => ?_,
        filter_sortStrings_of_checkKinds hkinds]
      rw [h (x := .kind b i) ⟨hb, lt_of_lt_of_le (hsorted ▸ hi) hnum⟩]
      simp [WriteLoop.run_apply_key, hi]
    · rw [readMaxRelayGas_eq, h (x := .maxRelayGas b) hb]
      simp
    · rw [readFeePolicy_eq, h (x := .feePolicy b) hb]
      simp [readShortString_validFeePolicy hpolicy]
    · rw [readFeeAmount_eq, h (x := .feeAmount b) hb]
      simp
    · rw [readActive_eq, h (x := .active b) hb]
      simp
    · rw [readRegisteredAt_eq, h (x := .registeredAt b) hb]
      simp

/-- A registration adds one to the `uint64` count. -/
theorem readGatewayCount_registerWrites (s : StateDB) {p : RegisterGatewayPayload} {fee : ℤ}
    (blk : ℕ) (hcheck : checkRegisterPayload p = .ok fee) :
    readGatewayCount keccak256 (registerWrites keccak256 s a p fee blk) =
      (readGatewayCount keccak256 s + 1) % 2 ^ 64 := by
  obtain ⟨-, he, -, hkinds, -⟩ := (checkRegisterPayload_eq_ok p fee).mp hcheck
  rw [readGatewayCount_eq, eqOn_registerWrites hslots ha s p fee blk he
    ((checkKinds_eq_ok _).mp hkinds).1 (x := .count) trivial]
  simp

end Register

/-! ## An update and a deregistration -/

/-- `f` applied when `c` holds: a field of an update, written only when given. -/
def applyIf (c : Prop) [Decidable c] {α : Type} (f : α → α) (x : α) : α :=
  if c then f x else x

@[simp] theorem applyIf_apply (c : Prop) [Decidable c] {κ β : Type} (g : (κ → β) → κ → β)
    (m : κ → β) (k : κ) : applyIf c g m k = if c then g m k else m k := by
  unfold applyIf
  split <;> rfl

section Update

variable {keccak256 : List UInt8 → Hash} {A : List Address}
  (hslots : GatewaySlotsDistinct keccak256 A) {a : Address} (ha : a ∈ A)
include hslots ha

omit hslots ha in
/-- A write made when `c` holds updates the map when `c` holds. -/
theorem eqOn_applyIf {c : Prop} [Decidable c] {f : StateDB → StateDB}
    {g : (GatewayKey → Hash) → GatewayKey → Hash}
    (hfg : c → ∀ s m, Set.EqOn (keyed keccak256 s) m {k | k.Within A} →
      Set.EqOn (keyed keccak256 (f s)) (g m) {k | k.Within A})
    {s : StateDB} {m : GatewayKey → Hash} (hm : Set.EqOn (keyed keccak256 s) m {k | k.Within A}) :
    Set.EqOn (keyed keccak256 (applyIf c f s)) (applyIf c g m) {k | k.Within A} := by
  unfold applyIf
  split
  case isTrue hc => exact hfg hc s m hm
  case isFalse => exact hm

omit hslots ha in
/-- `handleUpdate`'s writes, each made when its field is given. -/
theorem updateWrites_eq (s : StateDB) (p : UpdateGatewayPayload) (fee : ℤ) :
    (let db := if p.endpoint ≠ "" then writeEndpoint keccak256 s a p.endpoint else s
      let db := if p.supportedKinds.length > 0 then
        writeSupportedKinds keccak256 db a p.supportedKinds else db
      let db := if p.maxRelayGas ≠ 0 then writeMaxRelayGas keccak256 db a p.maxRelayGas else db
      let db := if p.feePolicy ≠ "" then writeFeePolicy keccak256 db a p.feePolicy else db
      if p.feeAmount ≠ "" then writeFeeAmount keccak256 db a fee else db) =
    applyIf (p.feeAmount ≠ "") (writeFeeAmount keccak256 · a fee)
      (applyIf (p.feePolicy ≠ "") (writeFeePolicy keccak256 · a p.feePolicy)
        (applyIf (p.maxRelayGas ≠ 0) (writeMaxRelayGas keccak256 · a p.maxRelayGas)
          (applyIf (p.supportedKinds.length > 0) (writeSupportedKinds keccak256 · a p.supportedKinds)
            (applyIf (p.endpoint ≠ "") (writeEndpoint keccak256 · a p.endpoint) s)))) :=
  rfl

/-- **The words an update leaves**: each given field's words over the words before, in the order
of the source. -/
theorem eqOn_updateWrites (s : StateDB) (p : UpdateGatewayPayload) (fee : ℤ)
    (he : p.endpoint ≠ "" → (Text.utf8 p.endpoint).length ≤ maxEndpointLength)
    (hnum : p.supportedKinds.length > 0 → p.supportedKinds.length ≤ maxSupportedKinds) :
    Set.EqOn (keyed keccak256
      (applyIf (p.feeAmount ≠ "") (writeFeeAmount keccak256 · a fee)
        (applyIf (p.feePolicy ≠ "") (writeFeePolicy keccak256 · a p.feePolicy)
          (applyIf (p.maxRelayGas ≠ 0) (writeMaxRelayGas keccak256 · a p.maxRelayGas)
            (applyIf (p.supportedKinds.length > 0)
              (writeSupportedKinds keccak256 · a p.supportedKinds)
              (applyIf (p.endpoint ≠ "") (writeEndpoint keccak256 · a p.endpoint) s))))))
      (applyIf (p.feeAmount ≠ "") (Function.update · (.feeAmount a) (BitVec.ofNat 256 fee.natAbs))
        (applyIf (p.feePolicy ≠ "")
          (Function.update · (.feePolicy a) (shortStringWord (Text.utf8 p.feePolicy)))
          (applyIf (p.maxRelayGas ≠ 0)
            (Function.update · (.maxRelayGas a) (BitVec.ofNat 256 (p.maxRelayGas.toNat % 2 ^ 64)))
            (applyIf (p.supportedKinds.length > 0)
              (fun m => WriteLoop.run (.kind a)
                (fun i => shortStringWord (Text.utf8 ((sortStrings p.supportedKinds).getD i "")))
                (List.range (sortStrings p.supportedKinds).length)
                (Function.update m (.kindsCount a)
                  (BitVec.ofNat 256 ((sortStrings p.supportedKinds).length % 2 ^ 64))))
              (applyIf (p.endpoint ≠ "")
                (fun m => WriteLoop.run (.endpointChunk a)
                  (fun j => chunkWord (chunkBytes (Text.utf8 p.endpoint) j))
                  (List.range (chunkCount (Text.utf8 p.endpoint).length))
                  (Function.update m (.endpointLen a)
                    (BitVec.ofNat 256 ((Text.utf8 p.endpoint).length % 2 ^ 64))))
                (keyed keccak256 s))))))
      {k | k.Within A} := by
  -- the fields from the last written to the first
  refine eqOn_applyIf (fun _ _ _ hm => eqOn_writeFeeAmount hslots hm ha _) ?_
  refine eqOn_applyIf (fun _ _ _ hm => eqOn_writeFeePolicy hslots hm ha _) ?_
  refine eqOn_applyIf (fun _ _ _ hm => eqOn_writeMaxRelayGas hslots hm ha _) ?_
  refine eqOn_applyIf (fun hc _ _ hm => eqOn_writeSupportedKinds hslots hm ha (hnum hc)) ?_
  exact eqOn_applyIf (fun hc _ _ hm => eqOn_writeEndpoint hslots hm ha (he hc)) (Set.eqOn_refl _ _)

/-- **An update's configuration reads back** as `updatedView` at the updating address: the given
fields are replaced, the others kept. Every other address's configuration stays as it was. -/
theorem view_updateWrites (s : StateDB) (p : UpdateGatewayPayload) (fee : ℤ)
    (he : p.endpoint ≠ "" → (Text.utf8 p.endpoint).length ≤ maxEndpointLength)
    (hkinds : p.supportedKinds.length > 0 → checkKinds p.supportedKinds = .ok ())
    (hpolicy : p.feePolicy ≠ "" → validFeePolicy p.feePolicy = true) {b : Address} (hb : b ∈ A) :
    view keccak256
      (applyIf (p.feeAmount ≠ "") (writeFeeAmount keccak256 · a fee)
        (applyIf (p.feePolicy ≠ "") (writeFeePolicy keccak256 · a p.feePolicy)
          (applyIf (p.maxRelayGas ≠ 0) (writeMaxRelayGas keccak256 · a p.maxRelayGas)
            (applyIf (p.supportedKinds.length > 0)
              (writeSupportedKinds keccak256 · a p.supportedKinds)
              (applyIf (p.endpoint ≠ "") (writeEndpoint keccak256 · a p.endpoint) s))))) b =
      if b = a then updatedView (view keccak256 s b) p fee else view keccak256 s b := by
  have hnum : p.supportedKinds.length > 0 → p.supportedKinds.length ≤ maxSupportedKinds :=
    fun hc => ((checkKinds_eq_ok _).mp (hkinds hc)).1
  have h := eqOn_updateWrites hslots ha s p fee he hnum
  by_cases hba : b = a
  case neg =>
    rw [if_neg hba]
    refine view_congr hb fun k hk hown => ?_
    rw [h hk]
    simp [update_apply_of_owner_ne, run_apply_of_owner_ne, hown, hba]
  case pos =>
    subst hba
    rw [if_pos rfl]
    simp only [view, updatedView, GatewayView.mk.injEq]
    refine ⟨?_, ?_, ?_, ?_, ?_, ?_, ?_⟩
    · by_cases ce : p.endpoint ≠ ""
      · rw [if_pos ce]
        refine readEndpoint_of_words (he ce)
          (by rw [h (x := .endpointLen b) hb]; simp [ce, WriteLoop.run_apply_of_forall_ne])
          fun j hj => ?_
        rw [h (x := .endpointChunk b j) ⟨hb, lt_of_lt_of_le hj (chunkCount_mono (he ce))⟩]
        simp [ce, WriteLoop.run_apply_of_forall_ne, WriteLoop.run_apply_key, hj]
      · rw [if_neg ce]
        exact readEndpoint_congr
          (by rw [h (x := .endpointLen b) hb]; simp [ce, WriteLoop.run_apply_of_forall_ne])
          fun j hj => by
            rw [h (x := .endpointChunk b j) ⟨hb, hj⟩]
            simp [ce, WriteLoop.run_apply_of_forall_ne]
    · by_cases ck : p.supportedKinds.length > 0
      · have hsorted : (sortStrings p.supportedKinds).length = p.supportedKinds.length :=
          (perm_sortStrings _).length_eq
        rw [if_pos ck, readSupportedKinds_of_words (hnum ck) (length_utf8_lt_of_checkKinds (hkinds ck))
          (by rw [h (x := .kindsCount b) hb]; simp [ck, WriteLoop.run_apply_of_forall_ne])
          fun i hi => ?_, filter_sortStrings_of_checkKinds (hkinds ck)]
        rw [h (x := .kind b i) ⟨hb, lt_of_lt_of_le (hsorted ▸ hi) (hnum ck)⟩]
        simp [ck, WriteLoop.run_apply_key, hi]
      · rw [if_neg ck]
        exact readSupportedKinds_congr
          (by rw [h (x := .kindsCount b) hb]; simp [ck, WriteLoop.run_apply_of_forall_ne])
          fun i hi => by
            rw [h (x := .kind b i) ⟨hb, hi⟩]
            simp [ck, WriteLoop.run_apply_of_forall_ne]
    · rw [readMaxRelayGas_eq, readMaxRelayGas_eq, h (x := .maxRelayGas b) hb]
      by_cases cg : p.maxRelayGas = 0 <;> simp [cg, WriteLoop.run_apply_of_forall_ne]
    · rw [readFeePolicy_eq, readFeePolicy_eq, h (x := .feePolicy b) hb]
      by_cases cp : p.feePolicy = ""
      · simp [cp, WriteLoop.run_apply_of_forall_ne]
      · simp [cp, readShortString_validFeePolicy (hpolicy cp)]
    · rw [readFeeAmount_eq, readFeeAmount_eq, h (x := .feeAmount b) hb]
      by_cases cf : p.feeAmount = "" <;> simp [cf, WriteLoop.run_apply_of_forall_ne]
    · rw [readActive_eq, readActive_eq, h (x := .active b) hb]
      simp [WriteLoop.run_apply_of_forall_ne]
    · rw [readRegisteredAt_eq, readRegisteredAt_eq, h (x := .registeredAt b) hb]
      simp [WriteLoop.run_apply_of_forall_ne]

/-- An update leaves the count. -/
theorem readGatewayCount_updateWrites (s : StateDB) (p : UpdateGatewayPayload) (fee : ℤ)
    (he : p.endpoint ≠ "" → (Text.utf8 p.endpoint).length ≤ maxEndpointLength)
    (hnum : p.supportedKinds.length > 0 → p.supportedKinds.length ≤ maxSupportedKinds) :
    readGatewayCount keccak256
      (applyIf (p.feeAmount ≠ "") (writeFeeAmount keccak256 · a fee)
        (applyIf (p.feePolicy ≠ "") (writeFeePolicy keccak256 · a p.feePolicy)
          (applyIf (p.maxRelayGas ≠ 0) (writeMaxRelayGas keccak256 · a p.maxRelayGas)
            (applyIf (p.supportedKinds.length > 0)
              (writeSupportedKinds keccak256 · a p.supportedKinds)
              (applyIf (p.endpoint ≠ "") (writeEndpoint keccak256 · a p.endpoint) s))))) =
      readGatewayCount keccak256 s := by
  rw [readGatewayCount_eq, readGatewayCount_eq,
    eqOn_updateWrites hslots ha s p fee he hnum (x := .count) trivial]
  simp [WriteLoop.run_apply_of_forall_ne]

/-- **A write of the active flag** changes only the flag: the rest of the configuration stays
readable. -/
theorem view_writeActive (s : StateDB) (v : Bool) {b : Address} (hb : b ∈ A) :
    view keccak256 (writeActive keccak256 s a v) b =
      if b = a then { view keccak256 s b with active := v } else view keccak256 s b := by
  have h := eqOn_writeActive hslots (Set.eqOn_refl (keyed keccak256 s) _) ha v
  by_cases hba : b = a
  case neg =>
    rw [if_neg hba]
    refine view_congr hb fun k hk hown => ?_
    rw [h hk]
    simp [update_apply_of_owner_ne, hown, hba]
  case pos =>
    subst hba
    rw [if_pos rfl]
    simp only [view, GatewayView.mk.injEq]
    refine ⟨readEndpoint_congr (by rw [h (x := .endpointLen b) hb]; simp)
        fun j hj => by rw [h (x := .endpointChunk b j) ⟨hb, hj⟩]; simp,
      readSupportedKinds_congr (by rw [h (x := .kindsCount b) hb]; simp)
        fun i hi => by rw [h (x := .kind b i) ⟨hb, hi⟩]; simp, ?_, ?_, ?_, ?_, ?_⟩
    · rw [readMaxRelayGas_eq, readMaxRelayGas_eq, h (x := .maxRelayGas b) hb]
      simp
    · rw [readFeePolicy_eq, readFeePolicy_eq, h (x := .feePolicy b) hb]
      simp
    · rw [readFeeAmount_eq, readFeeAmount_eq, h (x := .feeAmount b) hb]
      simp
    · rw [readActive_eq, h (x := .active b) hb]
      cases v <;> simp
    · rw [readRegisteredAt_eq, readRegisteredAt_eq, h (x := .registeredAt b) hb]
      simp

/-- A write of the active flag leaves the count. -/
theorem readGatewayCount_writeActive (s : StateDB) (v : Bool) :
    readGatewayCount keccak256 (writeActive keccak256 s a v) = readGatewayCount keccak256 s := by
  rw [readGatewayCount_eq, readGatewayCount_eq,
    eqOn_writeActive hslots (Set.eqOn_refl (keyed keccak256 s) _) ha v (x := .count) trivial]
  simp

end Update

/-! ## The three actions -/

section Actions

variable {keccak256 : List UInt8 → Hash} {A : List Address}
  (hslots : GatewaySlotsDistinct keccak256 A) {ctx : Context} (hsender : ctx.sender ∈ A)
  {s s' : StateDB}
include hslots hsender

/-- **A successful registration** was made by an agent holding `GatewayRelay` with no active
gateway; it leaves `registeredView` of its payload at the sender, every other configuration as it
was, and one more in the count. -/
theorem view_handleRegister {payload : Except String RegisterGatewayPayload} {x : Unit}
    (h : (handleRegister keccak256 ctx payload).run.run s = (.ok x, s')) :
    requireGatewayCapability keccak256 s ctx.sender = .ok () ∧
      readActive keccak256 s ctx.sender = false ∧
      ∃ p fee, payload = .ok p ∧ checkRegisterPayload p = .ok fee ∧
        (∀ b ∈ A, view keccak256 s' b =
          if b = ctx.sender then registeredView p fee ctx.blockNumber else view keccak256 s b) ∧
        readGatewayCount keccak256 s' = (readGatewayCount keccak256 s + 1) % 2 ^ 64 := by
  obtain ⟨hcap, hactive, p, fee, rfl, hcheck, rfl⟩ := handleRegister_ok keccak256 h
  exact ⟨hcap, hactive, p, fee, rfl, hcheck,
    fun b hb => view_registerWrites hslots hsender s _ hcheck hb,
    readGatewayCount_registerWrites hslots hsender s _ hcheck⟩

/-- **A successful update** was made for an active gateway; it leaves `updatedView` of the sender's
configuration, every other configuration as it was, and the count. -/
theorem view_handleUpdate {payload : Except String UpdateGatewayPayload} {x : Unit}
    (h : (handleUpdate keccak256 ctx payload).run.run s = (.ok x, s')) :
    readActive keccak256 s ctx.sender = true ∧
      ∃ p fee, payload = .ok p ∧ (p.feeAmount ≠ "" → parseFeeAmount p.feeAmount = .ok fee) ∧
        (∀ b ∈ A, view keccak256 s' b =
          if b = ctx.sender then updatedView (view keccak256 s b) p fee else view keccak256 s b) ∧
        readGatewayCount keccak256 s' = readGatewayCount keccak256 s := by
  obtain ⟨hactive, p, fee, rfl, he, hkinds, hpolicy, hfee, rfl⟩ := handleUpdate_ok keccak256 h
  rw [updateWrites_eq]
  exact ⟨hactive, p, fee, rfl, hfee,
    fun b hb => view_updateWrites hslots hsender s p fee he hkinds hpolicy hb,
    readGatewayCount_updateWrites hslots hsender s p fee he
      fun hc => ((checkKinds_eq_ok _).mp (hkinds hc)).1⟩

/-- **A successful deregistration** was made for an active gateway; it clears the sender's flag and
leaves the rest of its configuration, every other configuration, and the count. -/
theorem view_handleDeregister {x : Unit}
    (h : (handleDeregister keccak256 ctx).run.run s = (.ok x, s')) :
    readActive keccak256 s ctx.sender = true ∧
      (∀ b ∈ A, view keccak256 s' b =
        if b = ctx.sender then { view keccak256 s b with active := false } else view keccak256 s b) ∧
      readGatewayCount keccak256 s' = readGatewayCount keccak256 s := by
  obtain ⟨hactive, rfl⟩ := handleDeregister_ok keccak256 h
  exact ⟨hactive, fun b hb => view_writeActive hslots hsender s false hb,
    readGatewayCount_writeActive hslots hsender s false⟩

end Actions

/-! ## What the actions leave alone

Every write of the registry is a `SetState` of the registry's account, so an action changes that
account's storage and nothing else: no balance, nonce, code or log, and no other account's storage
(`onlyStorageOf_handle`). In particular the agent and capability registries, which the check of a
registration reads, stay as they were (`requireGatewayCapability_congr`). -/

/-- `s'` is `s` with the storage of `a` replaced. -/
def OnlyStorageOf (a : Address) (s s' : StateDB) : Prop :=
  ∃ g, s' = { s with storage := Function.update s.storage a g }

namespace OnlyStorageOf

variable {a : Address} {s s₁ s₂ : StateDB}

theorem refl (a : Address) (s : StateDB) : OnlyStorageOf a s s :=
  ⟨s.storage a, by rw [Function.update_eq_self]⟩

theorem trans (h₁ : OnlyStorageOf a s s₁) (h₂ : OnlyStorageOf a s₁ s₂) : OnlyStorageOf a s s₂ := by
  obtain ⟨g₁, rfl⟩ := h₁
  obtain ⟨g₂, rfl⟩ := h₂
  exact ⟨g₂, by rw [Function.update_idem]⟩

theorem setState (s : StateDB) (k v : Hash) : OnlyStorageOf a s (VmStateDB.setState s a k v) :=
  ⟨Function.update (s.storage a) k v, rfl⟩

theorem foldl_setState {ι : Type} (is : List ι) (key val : ι → Hash) (s : StateDB) :
    OnlyStorageOf a s (is.foldl (fun s i => VmStateDB.setState s a (key i) (val i)) s) := by
  induction is generalizing s with
  | nil => exact refl a s
  | cons i is ih => exact (setState s _ _).trans (ih _)

theorem storage_of_ne (h : OnlyStorageOf a s s₁) {c : Address} (hc : c ≠ a) :
    s₁.storage c = s.storage c := by
  obtain ⟨g, rfl⟩ := h
  exact Function.update_of_ne hc g s.storage

theorem balance_eq (h : OnlyStorageOf a s s₁) : s₁.balance = s.balance := by
  obtain ⟨g, rfl⟩ := h
  rfl

end OnlyStorageOf

section Frame

variable {keccak256 : List UInt8 → Hash} (s : StateDB)

theorem onlyStorageOf_writeEndpoint (a : Address) (e : String) :
    OnlyStorageOf gatewayRegistryAddress s (writeEndpoint keccak256 s a e) := by
  rw [writeEndpoint_eq]
  exact (OnlyStorageOf.setState s _ _).trans (OnlyStorageOf.foldl_setState _ _ _ _)

theorem onlyStorageOf_writeSupportedKinds (a : Address) (kinds : List String) :
    OnlyStorageOf gatewayRegistryAddress s (writeSupportedKinds keccak256 s a kinds) := by
  rw [writeSupportedKinds_eq]
  exact (OnlyStorageOf.setState s _ _).trans (OnlyStorageOf.foldl_setState _ _ _ _)

theorem onlyStorageOf_writeActive (a : Address) (v : Bool) :
    OnlyStorageOf gatewayRegistryAddress s (writeActive keccak256 s a v) :=
  OnlyStorageOf.setState s _ _

theorem onlyStorageOf_registerWrites (a : Address) (p : RegisterGatewayPayload) (fee : ℤ)
    (blk : ℕ) : OnlyStorageOf gatewayRegistryAddress s (registerWrites keccak256 s a p fee blk) :=
  -- the endpoint and the kinds are loops of writes; the other six are one write each
  (((((((onlyStorageOf_writeEndpoint s a p.endpoint).trans
    (onlyStorageOf_writeSupportedKinds _ a p.supportedKinds)).trans
    (OnlyStorageOf.setState _ _ _)).trans (OnlyStorageOf.setState _ _ _)).trans
    (OnlyStorageOf.setState _ _ _)).trans (onlyStorageOf_writeActive _ a true)).trans
    (OnlyStorageOf.setState _ _ _)).trans (OnlyStorageOf.setState _ _ _)

theorem onlyStorageOf_applyIf {c : Prop} [Decidable c] {f : StateDB → StateDB}
    (hf : ∀ s, OnlyStorageOf gatewayRegistryAddress s (f s)) {s₁ : StateDB}
    (h : OnlyStorageOf gatewayRegistryAddress s s₁) :
    OnlyStorageOf gatewayRegistryAddress s (applyIf c f s₁) := by
  unfold applyIf
  split
  case isTrue => exact h.trans (hf s₁)
  case isFalse => exact h

variable {s} {ctx : Context} {s' : StateDB}

/-- **A successful action changes the registry's storage and nothing else.** -/
theorem onlyStorageOf_handle {act : GatewayAction} {x : Unit}
    (h : (handle keccak256 ctx act).run.run s = (.ok x, s')) :
    OnlyStorageOf gatewayRegistryAddress s s' := by
  cases act with
  | register payload =>
    obtain ⟨-, -, p, fee, -, -, rfl⟩ := handleRegister_ok keccak256 h
    exact onlyStorageOf_registerWrites s _ p fee _
  | update payload =>
    obtain ⟨-, p, fee, -, -, -, -, -, rfl⟩ := handleUpdate_ok keccak256 h
    rw [updateWrites_eq]
    -- the fields from the last written to the first, each written or skipped
    refine onlyStorageOf_applyIf _ (fun _ => OnlyStorageOf.setState _ _ _) ?_
    refine onlyStorageOf_applyIf _ (fun _ => OnlyStorageOf.setState _ _ _) ?_
    refine onlyStorageOf_applyIf _ (fun _ => OnlyStorageOf.setState _ _ _) ?_
    refine onlyStorageOf_applyIf _ (fun _ => onlyStorageOf_writeSupportedKinds _ _ _) ?_
    exact onlyStorageOf_applyIf _ (fun _ => onlyStorageOf_writeEndpoint _ _ _) (.refl _ s)
  | deregister =>
    obtain ⟨-, rfl⟩ := handleDeregister_ok keccak256 h
    exact onlyStorageOf_writeActive s _ false

/-- The capability check reads the agent and the capability registries only. -/
theorem requireGatewayCapability_congr
    (hagent : s'.storage Agent.agentRegistryAddress = s.storage Agent.agentRegistryAddress)
    (hcap : s'.storage Capability.capabilityRegistryAddress =
      s.storage Capability.capabilityRegistryAddress) (a : Address) :
    requireGatewayCapability keccak256 s' a = requireGatewayCapability keccak256 s a := by
  simp only [requireGatewayCapability, Agent.isRegistered, Agent.readRegisteredFlag,
    Capability.capabilityBit, Capability.readNameBit, Capability.hasCapability,
    Capability.readBitmap, StateDB.getState_eq, hagent, hcap]
  rfl

end Frame

end Gtos.Gateway
