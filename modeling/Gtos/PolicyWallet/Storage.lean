import Mathlib.Data.Set.Function
import Gtos.PolicyWallet.Handler

/-! # The wallet registry's storage, word by word

Every word a handler writes is named by a `WalletKey`: a scalar field of a wallet, an allowlist
entry, a field of a terminal policy, or a field of a delegate's authorisation. Keccak-256 is
assumed to have no collision among the slots of the words of a set of addresses
(`WalletSlotsDistinct`); under it a write to one word leaves every other word as it was
(`keyed_setState`).

What decides who owns a wallet is five of its words, the owner and the recovery record
(`ownershipKeys`). Every writer of `policywallet/state.go` other than `WriteOwner` and
`WriteRecoveryState` leaves them (`ownership_writeGuardian` and the others), and `claimOwner`,
the write of `requireOwner`, leaves an owner that is already set.

* **`WalletKey`**, **`walletKeySlot`**, **`keyed`** — the words, their slots, and the storage read
  by word.
* **`PolicyAction.Within`** — the wallets, targets and delegates an action names are among `A`. -/

namespace Gtos.PolicyWallet

open Gtos.Core

/-! ## The registry's storage by key -/

/-- The scalar fields of a wallet. -/
inductive WalletField
  | owner
  | guardian
  | suspended
  | dailyLimit
  | singleTxLimit
  | recoveryFlags
  | recoveryNewOwner
  | recoveryTiming
  | recoveryGuardian
  | auditorKey
  deriving DecidableEq, Repr

/-- The field name the slot of a scalar word hashes. -/
def WalletField.name : WalletField → String
  | .owner => "owner"
  | .guardian => "guardian"
  | .suspended => "suspended"
  | .dailyLimit => "dailyLimit"
  | .singleTxLimit => "singleTxLimit"
  | .recoveryFlags => "recoveryFlags"
  | .recoveryNewOwner => "recoveryNewOwner"
  | .recoveryTiming => "recoveryTiming"
  | .recoveryGuardian => "recoveryGuardian"
  | .auditorKey => "auditorKey"

/-- The three words of a terminal policy. -/
inductive TerminalField
  | maxSingle
  | maxDaily
  | metaWord
  deriving DecidableEq, Repr

/-- The field name of a terminal policy's word. -/
def TerminalField.name : TerminalField → String
  | .maxSingle => "maxSingle"
  | .maxDaily => "maxDaily"
  | .metaWord => "meta"

/-- The two words of a delegate's authorisation. -/
inductive DelegateField
  | allowance
  | metaWord
  deriving DecidableEq, Repr

/-- The field name of a delegate's word. -/
def DelegateField.name : DelegateField → String
  | .allowance => "allowance"
  | .metaWord => "meta"

/-- A word of the registry that a handler writes, named by what it stores. -/
inductive WalletKey
  | wallet (addr : Address) (field : WalletField)
  | allowlist (addr target : Address)
  | terminal (addr : Address) (cls : UInt8) (field : TerminalField)
  | delegate (addr delegate : Address) (field : DelegateField)
  deriving DecidableEq, Repr

/-- The slot of each word. -/
def walletKeySlot (keccak256 : List UInt8 → Hash) : WalletKey → Hash
  | .wallet addr field => walletSlot keccak256 addr field.name
  | .allowlist addr target => walletMapSlot keccak256 addr "allowlist" (wordBytes target)
  | .terminal addr cls field => terminalFieldSlot keccak256 addr cls field.name
  | .delegate addr d field => delegateFieldSlot keccak256 addr d field.name

/-- The words of the wallets of `A`: their scalar fields, their allowlist entries and delegates
among `A`, and the policies of the terminal classes up to `TerminalAPI`, the only ones a handler
writes. -/
@[reducible] def WalletKey.Within (A : List Address) : WalletKey → Prop
  | .wallet addr _ => addr ∈ A
  | .allowlist addr target => addr ∈ A ∧ target ∈ A
  | .terminal addr cls _ => addr ∈ A ∧ cls ≤ terminalAPI
  | .delegate addr d _ => addr ∈ A ∧ d ∈ A

/-- Keccak-256 has no collision among the slots of the words of `A`'s wallets. -/
def WalletSlotsDistinct (keccak256 : List UInt8 → Hash) (A : List Address) : Prop :=
  Set.InjOn (walletKeySlot keccak256) {k | k.Within A}

/-- The words of `A`'s wallets, listed. -/
def walletKeys (A : List Address) : List WalletKey :=
  A.flatMap fun a =>
    [WalletField.owner, .guardian, .suspended, .dailyLimit, .singleTxLimit, .recoveryFlags,
      .recoveryNewOwner, .recoveryTiming, .recoveryGuardian, .auditorKey].map (.wallet a) ++
    A.map (.allowlist a) ++
    ((List.range (terminalAPI.toNat + 1)).flatMap fun c =>
      [TerminalField.maxSingle, .maxDaily, .metaWord].map (.terminal a (UInt8.ofNat c))) ++
    A.flatMap fun d => [DelegateField.allowance, .metaWord].map (.delegate a d)

theorem mem_walletKeys {A : List Address} {k : WalletKey} (hk : k.Within A) : k ∈ walletKeys A := by
  simp only [walletKeys, List.mem_flatMap, List.mem_append, List.mem_map, List.mem_range]
  cases k with
  | wallet a field => exact ⟨a, hk, .inl (.inl (.inl ⟨field, by cases field <;> simp, rfl⟩))⟩
  | allowlist a t => exact ⟨a, hk.1, .inl (.inl (.inr ⟨t, hk.2, rfl⟩))⟩
  | terminal a c field =>
    refine ⟨a, hk.1, .inl (.inr ⟨c.toNat, ?_, field, by cases field <;> simp, by simp⟩)⟩
    have := hk.2
    rw [UInt8.le_iff_toNat_le] at this
    omega
  | delegate a d field => exact ⟨a, hk.1, .inr ⟨d, hk.2, field, by cases field <;> simp, rfl⟩⟩

/-- A left inverse of the slots on the listed words gives `WalletSlotsDistinct`: for a given hash
function the condition is a computation. -/
theorem walletSlotsDistinct_of_leftInverse {keccak256 : List UInt8 → Hash} {A : List Address}
    (g : Hash → WalletKey) (h : ∀ k ∈ walletKeys A, g (walletKeySlot keccak256 k) = k) :
    WalletSlotsDistinct keccak256 A := fun k hk k' hk' heq => by
  rw [← h k (mem_walletKeys hk), ← h k' (mem_walletKeys hk'), heq]

/-- A stand-in for Keccak-256 that separates the words of the wallets `0x0` to `0xff`: it keeps the
length of the hashed bytes, the last byte of the wallet, the first letter of the field or mapping
name, the terminal class, the last byte of a delegate, and the last byte hashed. -/
def lengthHash (b : List UInt8) : Hash :=
  BitVec.ofNat 256 (b.length + 2 ^ 8 * (b.getD 33 0).toNat + 2 ^ 16 * (b.getD 42 0).toNat +
    2 ^ 24 * (b.getLastD 0).toNat + 2 ^ 32 * (b.getD 31 0).toNat + 2 ^ 40 * (b.getD 73 0).toNat)

/-- The word whose slot is a `lengthHash`, read back from the length and the bytes it keeps. -/
def lengthHashKey (h : Hash) : WalletKey :=
  let n := h.toNat
  let first := n / 2 ^ 8 % 256
  let cls := UInt8.ofNat (n / 2 ^ 16 % 256)
  let last := n / 2 ^ 24 % 256
  let w : Address := BitVec.ofNat 256 (n / 2 ^ 32 % 256)
  match n % 256 with
  | 38 => .wallet w .owner
  | 41 => .wallet w .guardian
  | 42 => .wallet w .suspended
  | 43 => if first = 100 then .wallet w .dailyLimit else .wallet w .auditorKey
  | 46 => if first = 115 then .wallet w .singleTxLimit else .wallet w .recoveryFlags
  | 47 => if first = 114 then .wallet w .recoveryTiming else .terminal w cls .metaWord
  | 49 => if last = 114 then .wallet w .recoveryNewOwner else .wallet w .recoveryGuardian
  | 51 => .terminal w cls .maxDaily
  | 52 => .terminal w cls .maxSingle
  | 75 => .allowlist w (BitVec.ofNat 256 last)
  | 83 => .delegate w (BitVec.ofNat 256 (n / 2 ^ 40 % 256)) .allowance
  | _ => .delegate w (BitVec.ofNat 256 (n / 2 ^ 40 % 256)) .metaWord

theorem walletSlotsDistinct_lengthHash : WalletSlotsDistinct lengthHash [1#256, 3#256] :=
  walletSlotsDistinct_of_leftInverse lengthHashKey (by decide +kernel)

/-- The registry's storage, read by key. -/
def keyed (keccak256 : List UInt8 → Hash) (s : StateDB) (k : WalletKey) : Hash :=
  s.storage policyWalletRegistryAddress (walletKeySlot keccak256 k)

/-- The keys an action writes belong to `A`: its wallet, and the target or delegate it names. -/
def PolicyAction.Within (A : List Address) : PolicyAction → Prop
  | .setAllowlist p => p.account ∈ A ∧ p.target ∈ A
  | .authorizeDelegate p => p.account ∈ A ∧ p.delegate ∈ A
  | .revokeDelegate account delegate => account ∈ A ∧ delegate ∈ A
  | act => act.account ∈ A

theorem PolicyAction.account_mem {A : List Address} {act : PolicyAction} (h : act.Within A) :
    act.account ∈ A := by
  cases act <;> first | exact h | exact h.1

section Keyed

variable {keccak256 : List UInt8 → Hash} {A : List Address}

/-- **A write by key.** Under `WalletSlotsDistinct`, writing the slot of one word of `A`'s
wallets changes that word only. -/
theorem keyed_setState (hslots : WalletSlotsDistinct keccak256 A) (k k' : WalletKey)
    (hk : k.Within A) (hk' : k'.Within A) (s : StateDB) (v : Hash) :
    keyed keccak256 (VmStateDB.setState s policyWalletRegistryAddress (walletKeySlot keccak256 k) v)
      k' = if k' = k then v else keyed keccak256 s k' := by
  rw [keyed, StateDB.storage_setState_self, Function.update_apply]
  exact if_congr ⟨fun h => hslots hk' hk h, fun h => h ▸ rfl⟩ rfl rfl

/-! Every access of the handlers is a read or a write of keys. -/

theorem readOwner_eq (s : StateDB) (w : Address) :
    readOwner keccak256 s w = keyed keccak256 s (.wallet w .owner) := rfl

theorem readSuspended_eq (s : StateDB) (w : Address) :
    readSuspended keccak256 s w = wordFlag (keyed keccak256 s (.wallet w .suspended)) := rfl

theorem readAllowlisted_eq (s : StateDB) (w t : Address) :
    readAllowlisted keccak256 s w t = wordFlag (keyed keccak256 s (.allowlist w t)) := rfl

theorem readTerminalPolicy_eq (s : StateDB) (w : Address) (c : UInt8) :
    readTerminalPolicy keccak256 s w c =
      ⟨(keyed keccak256 s (.terminal w c .maxSingle)).toNat,
        (keyed keccak256 s (.terminal w c .maxDaily)).toNat,
        UInt8.ofNat ((keyed keccak256 s (.terminal w c .metaWord)).toNat / 256),
        wordFlag (keyed keccak256 s (.terminal w c .metaWord))⟩ := rfl

theorem readRecoveryState_eq (s : StateDB) (w : Address) :
    readRecoveryState keccak256 s w =
      ⟨wordFlag (keyed keccak256 s (.wallet w .recoveryFlags)),
        keyed keccak256 s (.wallet w .recoveryGuardian),
        keyed keccak256 s (.wallet w .recoveryNewOwner),
        (keyed keccak256 s (.wallet w .recoveryTiming)).toNat / 2 ^ 64 % 2 ^ 64,
        (keyed keccak256 s (.wallet w .recoveryTiming)).toNat % 2 ^ 64⟩ := rfl

/-- A write of the word of a key. -/
def writeKey (keccak256 : List UInt8 → Hash) (s : StateDB) (k : WalletKey) (v : Hash) : StateDB :=
  VmStateDB.setState s policyWalletRegistryAddress (walletKeySlot keccak256 k) v

theorem writeOwner_eq (s : StateDB) (w o : Address) :
    writeOwner keccak256 s w o = writeKey keccak256 s (.wallet w .owner) o := rfl

theorem writeSuspended_eq (s : StateDB) (w : Address) (b : Bool) :
    writeSuspended keccak256 s w b = writeKey keccak256 s (.wallet w .suspended) (flagWord b) := rfl

theorem writeTerminalPolicy_eq (s : StateDB) (w : Address) (c : UInt8) (tp : TerminalPolicy) :
    writeTerminalPolicy keccak256 s w c tp =
      writeKey keccak256 (writeKey keccak256 (writeKey keccak256 s
        (.terminal w c .maxSingle) (BitVec.ofNat 256 tp.maxSingleValue))
        (.terminal w c .maxDaily) (BitVec.ofNat 256 tp.maxDailyValue))
        (.terminal w c .metaWord)
        (BitVec.ofNat 256 (tp.minTrustTier.toNat * 256 + if tp.enabled then 1 else 0)) := rfl

theorem writeDelegateAuth_eq (s : StateDB) (w d : Address) (allowance expiry : ℕ) (b : Bool) :
    writeDelegateAuth keccak256 s w d allowance expiry b =
      writeKey keccak256 (writeKey keccak256 s (.delegate w d .allowance)
        (BitVec.ofNat 256 allowance))
        (.delegate w d .metaWord) (BitVec.ofNat 256 (expiry % 2 ^ 64 * 2 ^ 64 + if b then 1 else 0)) :=
  rfl

theorem writeRecoveryState_eq (s : StateDB) (w : Address) (rs : RecoveryState) :
    writeRecoveryState keccak256 s w rs =
      writeKey keccak256 (writeKey keccak256 (writeKey keccak256 (writeKey keccak256 s
        (.wallet w .recoveryFlags) (flagWord rs.active))
        (.wallet w .recoveryNewOwner) rs.newOwner)
        (.wallet w .recoveryTiming)
        (BitVec.ofNat 256 (rs.initiatedAt % 2 ^ 64 * 2 ^ 64 + rs.timelock % 2 ^ 64)))
        (.wallet w .recoveryGuardian) rs.guardian := rfl

end Keyed

/-- What a written recovery record reads back as: the two block counts are stored as `uint64`s. -/
def RecoveryState.stored (rs : RecoveryState) : RecoveryState :=
  { rs with initiatedAt := rs.initiatedAt % 2 ^ 64, timelock := rs.timelock % 2 ^ 64 }

@[simp] theorem wordFlag_flagWord (b : Bool) : wordFlag (flagWord b) = b := by
  cases b <;> decide

/-- The timing word packs two `uint64`s below bit 128, so both read back. -/
theorem timing_roundTrip (a t : ℕ) :
    (BitVec.ofNat 256 (a % 2 ^ 64 * 2 ^ 64 + t % 2 ^ 64)).toNat / 2 ^ 64 % 2 ^ 64 = a % 2 ^ 64 ∧
      (BitVec.ofNat 256 (a % 2 ^ 64 * 2 ^ 64 + t % 2 ^ 64)).toNat % 2 ^ 64 = t % 2 ^ 64 := by
  have ha := Nat.mod_lt a (show 0 < 2 ^ 64 by norm_num)
  have ht := Nat.mod_lt t (show 0 < 2 ^ 64 by norm_num)
  have hlt : a % 2 ^ 64 * 2 ^ 64 + t % 2 ^ 64 < 2 ^ 256 := by omega
  rw [BitVec.toNat_ofNat, Nat.mod_eq_of_lt hlt]
  constructor <;> omega

/-! ## Who owns a wallet

The owner and the recovery record of `W` are five words. A write to any other word of `A`'s
wallets leaves both, and so does every writer but `WriteOwner` and `WriteRecoveryState`. -/

/-- The words that decide who owns `W`. -/
def ownershipKeys (W : Address) : List WalletKey :=
  [.wallet W .owner, .wallet W .recoveryFlags, .wallet W .recoveryNewOwner,
    .wallet W .recoveryTiming, .wallet W .recoveryGuardian]

/-- What decides who owns `W`: its owner and its recovery record. -/
def ownership (keccak256 : List UInt8 → Hash) (s : StateDB) (W : Address) :
    Address × RecoveryState :=
  (readOwner keccak256 s W, readRecoveryState keccak256 s W)

section Ownership

variable {keccak256 : List UInt8 → Hash} {A : List Address} {W : Address}
  (hslots : WalletSlotsDistinct keccak256 A) (hW : W ∈ A)
include hslots hW

/-- **The frame of ownership.** A write to a word of `A`'s wallets outside `ownershipKeys W`
leaves the owner and the recovery record of `W`. -/
theorem ownership_writeKey (k : WalletKey) (hk : k.Within A) (hout : k ∉ ownershipKeys W)
    (s : StateDB) (v : Hash) :
    ownership keccak256 (writeKey keccak256 s k v) W = ownership keccak256 s W := by
  have hkey : ∀ f, WalletKey.wallet W f ∈ ownershipKeys W →
      keyed keccak256 (writeKey keccak256 s k v) (.wallet W f) = keyed keccak256 s (.wallet W f) :=
    fun f hf => by
      rw [writeKey, keyed_setState hslots k _ hk hW, if_neg]
      rintro rfl
      exact hout hf
  simp only [ownership, readOwner_eq, readRecoveryState_eq]
  rw [hkey .owner (by simp [ownershipKeys]), hkey .recoveryFlags (by simp [ownershipKeys]),
    hkey .recoveryNewOwner (by simp [ownershipKeys]), hkey .recoveryTiming (by simp [ownershipKeys]),
    hkey .recoveryGuardian (by simp [ownershipKeys])]

theorem ownership_writeGuardian {w : Address} (hw : w ∈ A) (s : StateDB) (g : Address) :
    ownership keccak256 (writeGuardian keccak256 s w g) W = ownership keccak256 s W :=
  ownership_writeKey hslots hW (.wallet w .guardian) hw (by simp [ownershipKeys]) s g

theorem ownership_writeSuspended {w : Address} (hw : w ∈ A) (s : StateDB) (b : Bool) :
    ownership keccak256 (writeSuspended keccak256 s w b) W = ownership keccak256 s W :=
  ownership_writeKey hslots hW (.wallet w .suspended) hw (by simp [ownershipKeys]) s _

theorem ownership_writeDailyLimit {w : Address} (hw : w ∈ A) (s : StateDB) (x : ℤ) :
    ownership keccak256 (writeDailyLimit keccak256 s w x) W = ownership keccak256 s W :=
  ownership_writeKey hslots hW (.wallet w .dailyLimit) hw (by simp [ownershipKeys]) s _

theorem ownership_writeSingleTxLimit {w : Address} (hw : w ∈ A) (s : StateDB) (x : ℤ) :
    ownership keccak256 (writeSingleTxLimit keccak256 s w x) W = ownership keccak256 s W :=
  ownership_writeKey hslots hW (.wallet w .singleTxLimit) hw (by simp [ownershipKeys]) s _

theorem ownership_writeAuditorKey {w : Address} (hw : w ∈ A) (s : StateDB) (key : Hash) :
    ownership keccak256 (writeAuditorKey keccak256 s w key) W = ownership keccak256 s W :=
  ownership_writeKey hslots hW (.wallet w .auditorKey) hw (by simp [ownershipKeys]) s key

theorem ownership_writeAllowlisted {w t : Address} (hw : w ∈ A) (ht : t ∈ A) (s : StateDB)
    (b : Bool) :
    ownership keccak256 (writeAllowlisted keccak256 s w t b) W = ownership keccak256 s W :=
  ownership_writeKey hslots hW (.allowlist w t) ⟨hw, ht⟩ (by simp [ownershipKeys]) s _

theorem ownership_writeTerminalPolicy {w : Address} {c : UInt8} (hw : w ∈ A)
    (hc : c ≤ terminalAPI) (s : StateDB) (tp : TerminalPolicy) :
    ownership keccak256 (writeTerminalPolicy keccak256 s w c tp) W = ownership keccak256 s W := by
  rw [writeTerminalPolicy_eq,
    ownership_writeKey hslots hW (.terminal w c .metaWord) ⟨hw, hc⟩ (by simp [ownershipKeys]),
    ownership_writeKey hslots hW (.terminal w c .maxDaily) ⟨hw, hc⟩ (by simp [ownershipKeys]),
    ownership_writeKey hslots hW (.terminal w c .maxSingle) ⟨hw, hc⟩ (by simp [ownershipKeys])]

theorem ownership_writeDelegateAuth {w d : Address} (hw : w ∈ A) (hd : d ∈ A) (s : StateDB)
    (allowance expiry : ℕ) (b : Bool) :
    ownership keccak256 (writeDelegateAuth keccak256 s w d allowance expiry b) W =
      ownership keccak256 s W := by
  rw [writeDelegateAuth_eq,
    ownership_writeKey hslots hW (.delegate w d .metaWord) ⟨hw, hd⟩ (by simp [ownershipKeys]),
    ownership_writeKey hslots hW (.delegate w d .allowance) ⟨hw, hd⟩ (by simp [ownershipKeys])]

/-- `WriteOwner` changes the owner of its wallet only, and no recovery record. -/
theorem ownership_writeOwner {w : Address} (hw : w ∈ A) (s : StateDB) (o : Address) :
    ownership keccak256 (writeOwner keccak256 s w o) W =
      (if W = w then o else readOwner keccak256 s W, readRecoveryState keccak256 s W) := by
  have hkey : ∀ f, f ≠ .owner →
      keyed keccak256 (writeOwner keccak256 s w o) (.wallet W f) = keyed keccak256 s (.wallet W f) :=
    fun f hf => by
      rw [writeOwner_eq, writeKey, keyed_setState hslots (.wallet w .owner) _ hw hW, if_neg]
      simp [hf]
  simp only [ownership, readRecoveryState_eq, readOwner_eq]
  rw [hkey .recoveryFlags (by simp), hkey .recoveryNewOwner (by simp),
    hkey .recoveryTiming (by simp), hkey .recoveryGuardian (by simp), writeOwner_eq, writeKey,
    keyed_setState hslots (.wallet w .owner) _ hw hW]
  simp

/-- `WriteRecoveryState` changes the recovery record of its wallet only, to the record as stored,
and no owner. -/
theorem ownership_writeRecoveryState {w : Address} (hw : w ∈ A) (s : StateDB)
    (rs : RecoveryState) :
    ownership keccak256 (writeRecoveryState keccak256 s w rs) W =
      (readOwner keccak256 s W, if W = w then rs.stored else readRecoveryState keccak256 s W) := by
  have hw' : ∀ f, (WalletKey.wallet w f).Within A := fun _ => hw
  have hW' : ∀ f, (WalletKey.wallet W f).Within A := fun _ => hW
  simp only [ownership, readOwner_eq, readRecoveryState_eq, writeRecoveryState_eq, writeKey,
    keyed_setState hslots _ _ (hw' _) (hW' _), WalletKey.wallet.injEq, reduceCtorEq, and_false,
    and_true, if_false]
  by_cases hWw : W = w
  · subst hWw
    simp only [if_true, wordFlag_flagWord, timing_roundTrip, RecoveryState.stored]
  · simp only [hWw, if_false]

/-- `requireOwner`'s write leaves an owner that is already set. -/
theorem ownership_claimOwner {w : Address} (hw : w ∈ A) {s : StateDB}
    (hset : readOwner keccak256 s W ≠ 0) (sender : Address) :
    ownership keccak256 (claimOwner keccak256 s w sender) W = ownership keccak256 s W := by
  unfold claimOwner
  split_ifs with h0
  · rw [ownership_writeOwner hslots hW hw, if_neg]
    · rfl
    · rintro rfl
      exact hset h0
  · rfl

/-- `requireOwner`'s write leaves every recovery record. -/
theorem readRecoveryState_claimOwner {w : Address} (hw : w ∈ A) (s : StateDB) (sender : Address) :
    readRecoveryState keccak256 (claimOwner keccak256 s w sender) W =
      readRecoveryState keccak256 s W := by
  unfold claimOwner
  split_ifs
  · exact congrArg Prod.snd (ownership_writeOwner hslots hW hw s sender)
  · rfl

end Ownership

/-! ## The words of one wallet

Every writer of `policywallet/state.go` writes words of the wallet it is given, so a run of writes
to one wallet is framed by the words of the others (`WalletFrame`); what reads one wallet sees the
same words in two states that agree on them (`SameWallet`). -/

/-- The wallet a word belongs to. -/
def WalletKey.account : WalletKey → Address
  | .wallet addr _ => addr
  | .allowlist addr _ => addr
  | .terminal addr _ _ => addr
  | .delegate addr _ _ => addr

/-- Among the words of `A`'s wallets, `t` differs from `s` in words of `w`'s wallet only. -/
def WalletFrame (keccak256 : List UInt8 → Hash) (A : List Address) (w : Address) (s t : StateDB) :
    Prop :=
  ∀ k : WalletKey, k.Within A → k.account ≠ w → keyed keccak256 t k = keyed keccak256 s k

/-- `s` and `t` agree on every word of `W`'s wallet among the words of `A`'s wallets. -/
def SameWallet (keccak256 : List UInt8 → Hash) (A : List Address) (W : Address) (s t : StateDB) :
    Prop :=
  ∀ k : WalletKey, k.Within A → k.account = W → keyed keccak256 t k = keyed keccak256 s k

section Frame

variable {keccak256 : List UInt8 → Hash} {A : List Address} {w : Address} {s t u : StateDB}

theorem WalletFrame.refl (s : StateDB) : WalletFrame keccak256 A w s s := fun _ _ _ => rfl

theorem WalletFrame.trans (h₁ : WalletFrame keccak256 A w s t) (h₂ : WalletFrame keccak256 A w t u) :
    WalletFrame keccak256 A w s u :=
  fun k hk hw => (h₂ k hk hw).trans (h₁ k hk hw)

/-- A frame is extended by a write to a word of its wallet. -/
theorem WalletFrame.writeKey (hslots : WalletSlotsDistinct keccak256 A) {k : WalletKey}
    (hk : k.Within A) (h : WalletFrame keccak256 A k.account s t) (v : Hash) :
    WalletFrame keccak256 A k.account s (writeKey keccak256 t k v) := fun k' hk' hne => by
  rw [PolicyWallet.writeKey, keyed_setState hslots k k' hk hk', if_neg (by rintro rfl; exact hne rfl)]
  exact h k' hk' hne

theorem SameWallet.refl (s : StateDB) : SameWallet keccak256 A w s s := fun _ _ _ => rfl

theorem SameWallet.trans (h₁ : SameWallet keccak256 A w s t) (h₂ : SameWallet keccak256 A w t u) :
    SameWallet keccak256 A w s u :=
  fun k hk hw => (h₂ k hk hw).trans (h₁ k hk hw)

theorem SameWallet.readOwner (hW : w ∈ A) (h : SameWallet keccak256 A w s t) :
    readOwner keccak256 t w = readOwner keccak256 s w := h (.wallet w .owner) hW rfl

theorem SameWallet.readGuardian (hW : w ∈ A) (h : SameWallet keccak256 A w s t) :
    readGuardian keccak256 t w = readGuardian keccak256 s w := h (.wallet w .guardian) hW rfl

theorem SameWallet.readSuspended (hW : w ∈ A) (h : SameWallet keccak256 A w s t) :
    readSuspended keccak256 t w = readSuspended keccak256 s w := by
  rw [readSuspended_eq, readSuspended_eq, h (.wallet w .suspended) hW rfl]

theorem SameWallet.readAllowlisted {target : Address} (hW : w ∈ A) (ht : target ∈ A)
    (h : SameWallet keccak256 A w s t) :
    readAllowlisted keccak256 t w target = readAllowlisted keccak256 s w target := by
  rw [readAllowlisted_eq, readAllowlisted_eq, h (.allowlist w target) ⟨hW, ht⟩ rfl]

theorem SameWallet.readTerminalPolicy {c : UInt8} (hW : w ∈ A) (hc : c ≤ terminalAPI)
    (h : SameWallet keccak256 A w s t) :
    readTerminalPolicy keccak256 t w c = readTerminalPolicy keccak256 s w c := by
  rw [readTerminalPolicy_eq, readTerminalPolicy_eq, h (.terminal w c .maxSingle) ⟨hW, hc⟩ rfl,
    h (.terminal w c .maxDaily) ⟨hW, hc⟩ rfl, h (.terminal w c .metaWord) ⟨hW, hc⟩ rfl]

theorem SameWallet.readRecoveryState (hW : w ∈ A) (h : SameWallet keccak256 A w s t) :
    readRecoveryState keccak256 t w = readRecoveryState keccak256 s w := by
  rw [readRecoveryState_eq, readRecoveryState_eq, h (.wallet w .recoveryFlags) hW rfl,
    h (.wallet w .recoveryGuardian) hW rfl, h (.wallet w .recoveryNewOwner) hW rfl,
    h (.wallet w .recoveryTiming) hW rfl]

variable (hslots : WalletSlotsDistinct keccak256 A) (hw : w ∈ A)
include hslots hw

/-! Each writer that writes more than one word, and `requireOwner`'s claim, extend a frame of
their wallet. -/

theorem WalletFrame.writeTerminalPolicy {c : UInt8} (hc : c ≤ terminalAPI)
    (h : WalletFrame keccak256 A w s t) (tp : TerminalPolicy) :
    WalletFrame keccak256 A w s (writeTerminalPolicy keccak256 t w c tp) := by
  rw [writeTerminalPolicy_eq]
  exact ((h.writeKey hslots (k := .terminal w c .maxSingle) ⟨hw, hc⟩ _).writeKey hslots
    (k := .terminal w c .maxDaily) ⟨hw, hc⟩ _).writeKey hslots (k := .terminal w c .metaWord) ⟨hw, hc⟩ _

theorem WalletFrame.writeDelegateAuth {d : Address} (hd : d ∈ A) (h : WalletFrame keccak256 A w s t)
    (allowance expiry : ℕ) (b : Bool) :
    WalletFrame keccak256 A w s (writeDelegateAuth keccak256 t w d allowance expiry b) := by
  rw [writeDelegateAuth_eq]
  exact (h.writeKey hslots (k := .delegate w d .allowance) ⟨hw, hd⟩ _).writeKey hslots
    (k := .delegate w d .metaWord) ⟨hw, hd⟩ _

theorem WalletFrame.writeRecoveryState (h : WalletFrame keccak256 A w s t) (rs : RecoveryState) :
    WalletFrame keccak256 A w s (writeRecoveryState keccak256 t w rs) := by
  rw [writeRecoveryState_eq]
  exact (((h.writeKey hslots (k := .wallet w .recoveryFlags) hw _).writeKey hslots
    (k := .wallet w .recoveryNewOwner) hw _).writeKey hslots (k := .wallet w .recoveryTiming) hw _).writeKey
    hslots (k := .wallet w .recoveryGuardian) hw _

end Frame

end Gtos.PolicyWallet
