import Gtos.Common.Hex
import Gtos.Core.StateDB

/-! # The policy-wallet registry (`policywallet/state.go`, `policywallet/types.go`)

A policy wallet is a set of words in the storage of `PolicyWalletRegistryAddress`, kept for an
account (the wallet). Its scalar fields sit at `walletSlot(wallet, field)`, Keccak-256 of the
wallet, a zero byte and the field name; its mappings (allowlist, terminal policies, delegates)
at `walletMapSlot`, which appends a zero byte and the mapping key.

Every word is read and written whole: an address fills the word, a flag is its last byte, an
amount is the word as an unsigned integer, and the recovery timing packs two `uint64`s into its
last sixteen bytes.

* **`readWalletWord`**, **`writeWalletWord`** — a scalar field's word; the readers and writers of
  the owner, the guardian, the suspension flag, the spend caps, the recovery record and the
  auditor key are these applied to their field names.
* **`RecoveryState`** — the recovery in progress, four words.

The daily-spent counter and the spend day, which nothing in the repository writes, are left out.
Keccak-256 is a parameter (`keccak256`). -/

namespace Gtos.PolicyWallet

open Gtos.Core

/-- `params.PolicyWalletRegistryAddress`. -/
def policyWalletRegistryAddress : Address := 0x10C#256

/-- `TerminalApp`. -/
def terminalApp : UInt8 := 0

/-- `TerminalAPI`, the largest terminal class. -/
def terminalAPI : UInt8 := 6

/-- `TrustMedium`. -/
def trustMedium : UInt8 := 2

/-- `TrustFull`. -/
def trustFull : UInt8 := 4

/-- `RecoveryTimelockBlocks`. -/
def recoveryTimelockBlocks : ℕ := 240000

section Slots

variable (keccak256 : List UInt8 → Hash)

/-- `walletSlot(addr, field)`. -/
def walletSlot (addr : Address) (field : String) : Hash :=
  keccak256 (wordBytes addr ++ [0] ++ field.toUTF8.toList)

/-- `walletMapSlot(addr, field, mapKey)`. -/
def walletMapSlot (addr : Address) (field : String) (mapKey : List UInt8) : Hash :=
  keccak256 (wordBytes addr ++ [0] ++ field.toUTF8.toList ++ [0] ++ mapKey)

/-- `terminalFieldSlot(wallet, class, field)`. -/
def terminalFieldSlot (wallet : Address) (cls : UInt8) (field : String) : Hash :=
  walletMapSlot keccak256 wallet "terminal" (cls :: field.toUTF8.toList)

/-- `delegateFieldSlot(wallet, delegate, field)`. -/
def delegateFieldSlot (wallet delegate : Address) (field : String) : Hash :=
  walletMapSlot keccak256 wallet "delegate" (wordBytes delegate ++ field.toUTF8.toList)

/-- `privTerminalFieldSlot(wallet, class, field)`. -/
def privTerminalFieldSlot (wallet : Address) (cls : UInt8) (field : String) : Hash :=
  keccak256 (wordBytes wallet ++ [0] ++ "privTerminal".toUTF8.toList ++ [0] ++ [cls] ++
    field.toUTF8.toList)

end Slots

/-- A word whose last byte is the flag. -/
def flagWord (b : Bool) : Hash := if b then 1#256 else 0#256

/-- Whether the last byte of a word is set. -/
def wordFlag (w : Hash) : Bool := w.toNat % 256 ≠ 0

/-- `TerminalPolicy`. -/
structure TerminalPolicy where
  /-- `MaxSingleValue`; zero means unlimited. -/
  maxSingleValue : ℕ
  /-- `MaxDailyValue`. -/
  maxDailyValue : ℕ
  /-- `MinTrustTier`. -/
  minTrustTier : UInt8
  /-- `Enabled`. -/
  enabled : Bool
  deriving DecidableEq, Repr

/-- `RecoveryState`: the recovery in progress. -/
structure RecoveryState where
  /-- `Active`. -/
  active : Bool
  /-- `Guardian`: the guardian that initiated it. -/
  guardian : Address
  /-- `NewOwner`. -/
  newOwner : Address
  /-- `InitiatedAt`, a block number. -/
  initiatedAt : ℕ
  /-- `Timelock`, in blocks. -/
  timelock : ℕ
  deriving DecidableEq, Repr

/-- `RecoveryState{}`: no recovery. -/
def RecoveryState.none : RecoveryState := ⟨false, 0, 0, 0, 0⟩

/-- `PrivacyTerminalPolicy`, without the class it is read for. -/
structure PrivacyTerminalPolicy where
  /-- `MaxPrivateValue`; zero means no limit. -/
  maxPrivateValue : ℕ
  /-- `AllowShield`. -/
  allowShield : Bool
  /-- `AllowUnshield`. -/
  allowUnshield : Bool
  /-- `AllowPrivTransfer`. -/
  allowPrivTransfer : Bool
  /-- `MinTrustTier`. -/
  minTrustTier : UInt8
  deriving DecidableEq, Repr

section Access

variable {σ : Type} [VmStateDB σ] (keccak256 : List UInt8 → Hash)

/-- The word of a scalar field of a wallet. -/
def readWalletWord (db : σ) (wallet : Address) (field : String) : Hash :=
  VmStateDB.getState db policyWalletRegistryAddress (walletSlot keccak256 wallet field)

/-- Write the word of a scalar field of a wallet. -/
def writeWalletWord (db : σ) (wallet : Address) (field : String) (v : Hash) : σ :=
  VmStateDB.setState db policyWalletRegistryAddress (walletSlot keccak256 wallet field) v

/-- `ReadOwner`: the zero address when the wallet is not initialised. -/
def readOwner (db : σ) (wallet : Address) : Address := readWalletWord keccak256 db wallet "owner"

/-- `WriteOwner`. -/
def writeOwner (db : σ) (wallet owner : Address) : σ :=
  writeWalletWord keccak256 db wallet "owner" owner

/-- `ReadGuardian`. -/
def readGuardian (db : σ) (wallet : Address) : Address :=
  readWalletWord keccak256 db wallet "guardian"

/-- `WriteGuardian`. -/
def writeGuardian (db : σ) (wallet guardian : Address) : σ :=
  writeWalletWord keccak256 db wallet "guardian" guardian

/-- `ReadSuspended`. -/
def readSuspended (db : σ) (wallet : Address) : Bool :=
  wordFlag (readWalletWord keccak256 db wallet "suspended")

/-- `WriteSuspended`. -/
def writeSuspended (db : σ) (wallet : Address) (suspended : Bool) : σ :=
  writeWalletWord keccak256 db wallet "suspended" (flagWord suspended)

/-- `ReadDailyLimit`. -/
def readDailyLimit (db : σ) (wallet : Address) : ℕ :=
  (readWalletWord keccak256 db wallet "dailyLimit").toNat

/-- `WriteDailyLimit`: `common.BigToHash` keeps the low 32 bytes of the absolute value. -/
def writeDailyLimit (db : σ) (wallet : Address) (limit : ℤ) : σ :=
  writeWalletWord keccak256 db wallet "dailyLimit" (BitVec.ofNat 256 limit.natAbs)

/-- `ReadSingleTxLimit`. -/
def readSingleTxLimit (db : σ) (wallet : Address) : ℕ :=
  (readWalletWord keccak256 db wallet "singleTxLimit").toNat

/-- `WriteSingleTxLimit`. -/
def writeSingleTxLimit (db : σ) (wallet : Address) (limit : ℤ) : σ :=
  writeWalletWord keccak256 db wallet "singleTxLimit" (BitVec.ofNat 256 limit.natAbs)

/-- `ReadAllowlisted`. -/
def readAllowlisted (db : σ) (wallet target : Address) : Bool :=
  wordFlag (VmStateDB.getState db policyWalletRegistryAddress
    (walletMapSlot keccak256 wallet "allowlist" (wordBytes target)))

/-- `WriteAllowlisted`. -/
def writeAllowlisted (db : σ) (wallet target : Address) (allowed : Bool) : σ :=
  VmStateDB.setState db policyWalletRegistryAddress
    (walletMapSlot keccak256 wallet "allowlist" (wordBytes target)) (flagWord allowed)

/-- `ReadTerminalPolicy`: the two amounts, and the trust tier and the enabled flag in the last
two bytes of the third word. -/
def readTerminalPolicy (db : σ) (wallet : Address) (cls : UInt8) : TerminalPolicy :=
  let maxSingle := VmStateDB.getState db policyWalletRegistryAddress
    (terminalFieldSlot keccak256 wallet cls "maxSingle")
  let maxDaily := VmStateDB.getState db policyWalletRegistryAddress
    (terminalFieldSlot keccak256 wallet cls "maxDaily")
  let metaWord := VmStateDB.getState db policyWalletRegistryAddress
    (terminalFieldSlot keccak256 wallet cls "meta")
  ⟨maxSingle.toNat, maxDaily.toNat, UInt8.ofNat (metaWord.toNat / 256), wordFlag metaWord⟩

/-- `WriteTerminalPolicy`. -/
def writeTerminalPolicy (db : σ) (wallet : Address) (cls : UInt8) (tp : TerminalPolicy) : σ :=
  let db := VmStateDB.setState db policyWalletRegistryAddress
    (terminalFieldSlot keccak256 wallet cls "maxSingle") (BitVec.ofNat 256 tp.maxSingleValue)
  let db := VmStateDB.setState db policyWalletRegistryAddress
    (terminalFieldSlot keccak256 wallet cls "maxDaily") (BitVec.ofNat 256 tp.maxDailyValue)
  VmStateDB.setState db policyWalletRegistryAddress (terminalFieldSlot keccak256 wallet cls "meta")
    (BitVec.ofNat 256 (tp.minTrustTier.toNat * 256 + if tp.enabled then 1 else 0))

/-- `WriteDelegateAuth`: the allowance, then the expiry in bytes 16 to 23 and the active flag in
the last byte of the second word. -/
def writeDelegateAuth (db : σ) (wallet delegate : Address) (allowance : ℕ) (expiry : ℕ)
    (active : Bool) : σ :=
  let db := VmStateDB.setState db policyWalletRegistryAddress
    (delegateFieldSlot keccak256 wallet delegate "allowance") (BitVec.ofNat 256 allowance)
  VmStateDB.setState db policyWalletRegistryAddress (delegateFieldSlot keccak256 wallet delegate "meta")
    (BitVec.ofNat 256 (expiry % 2 ^ 64 * 2 ^ 64 + if active then 1 else 0))

/-- `ReadRecoveryState`: the flag, the new owner, the two `uint64`s of the timing word (bytes 16
to 23, then 24 to 31) and the guardian. -/
def readRecoveryState (db : σ) (wallet : Address) : RecoveryState :=
  let timing := (readWalletWord keccak256 db wallet "recoveryTiming").toNat
  ⟨wordFlag (readWalletWord keccak256 db wallet "recoveryFlags"),
    readWalletWord keccak256 db wallet "recoveryGuardian",
    readWalletWord keccak256 db wallet "recoveryNewOwner",
    timing / 2 ^ 64 % 2 ^ 64, timing % 2 ^ 64⟩

/-- `WriteRecoveryState`: the flag, the new owner, the timing and the guardian, in this order. -/
def writeRecoveryState (db : σ) (wallet : Address) (rs : RecoveryState) : σ :=
  let db := writeWalletWord keccak256 db wallet "recoveryFlags" (flagWord rs.active)
  let db := writeWalletWord keccak256 db wallet "recoveryNewOwner" rs.newOwner
  let db := writeWalletWord keccak256 db wallet "recoveryTiming"
    (BitVec.ofNat 256 (rs.initiatedAt % 2 ^ 64 * 2 ^ 64 + rs.timelock % 2 ^ 64))
  writeWalletWord keccak256 db wallet "recoveryGuardian" rs.guardian

/-- `WriteAuditorKey`. -/
def writeAuditorKey (db : σ) (wallet : Address) (key : Hash) : σ :=
  writeWalletWord keccak256 db wallet "auditorKey" key

/-- `ReadPrivacyTerminalPolicy`: the limit, and the three permissions and the trust tier in bytes
28 to 31 of the flags word. -/
def readPrivacyTerminalPolicy (db : σ) (wallet : Address) (cls : UInt8) : PrivacyTerminalPolicy :=
  let maxVal := VmStateDB.getState db policyWalletRegistryAddress
    (privTerminalFieldSlot keccak256 wallet cls "maxVal")
  let flags := (VmStateDB.getState db policyWalletRegistryAddress
    (privTerminalFieldSlot keccak256 wallet cls "flags")).toNat
  ⟨maxVal.toNat, flags / 2 ^ 24 % 256 ≠ 0, flags / 2 ^ 16 % 256 ≠ 0, flags / 2 ^ 8 % 256 ≠ 0,
    UInt8.ofNat flags⟩

end Access

end Gtos.PolicyWallet
