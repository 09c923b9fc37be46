import Gtos.Referral.Forest

/-! # The referral counters (`referral/state.go`, `referral/handler.go`)

`REFERRAL_BIND` adds one to the direct count of the referrer and one to the team size of each of
the first `MaxReferralDepth` addresses of the chain that starts at the referrer: the uplines the
sender has once it is bound. `GetUplines` lists those uplines (`getUplines`); it is the search of
`IsDownline` written out as a list (`mem_getUplines_iff_isDownline`).

A sender may already have downlines when it binds, since nothing stops an unbound address from
being chosen as a referrer. Its downlines then gain the same new uplines, but only the sender is
counted: the referrer's team size stays below the number of addresses that have it among their
uplines (`teamSize_misses_subtree`). -/

namespace Gtos.Referral

open Gtos.Core Gtos.Sysaction

section Uplines

variable {σ : Type} [VmStateDB σ] (keccak256 : List UInt8 → Hash)

/-- `GetUplines(db, addr, levels)`: the first `min levels MaxReferralDepth` referrers above
`addr`, nearest first, as far as the chain goes. -/
def getUplines (db : σ) (addr : Address) (levels : ℕ) : List Address :=
  ParentMap.upList 0 (readReferrer keccak256 db) (min levels maxReferralDepth) addr

/-- **An upline is what `IsDownline` finds.** -/
theorem mem_getUplines_iff_isDownline (db : σ) (ancestor addr : Address) (levels : ℕ) :
    ancestor ∈ getUplines keccak256 db addr levels ↔
      isDownline keccak256 db ancestor addr levels = true :=
  ParentMap.mem_upList_iff 0

end Uplines

/-- `0x3` binds to `0x2` at block 1, then `0x2`, which had no referrer, binds to `0x1` at
block 2. -/
def lateRootBinds : List (Context × Except String BindPayload) :=
  [(⟨3, 0, 1⟩, .ok ⟨"0x02"⟩), (⟨2, 0, 2⟩, .ok ⟨"0x01"⟩)]

theorem teamSize_misses_subtree :
    readTeamSize tagHash (runBinds tagHash StateDB.empty lateRootBinds) 1 = 1 ∧
      (1 : Address) ∈ getUplines tagHash (runBinds tagHash StateDB.empty lateRootBinds) 2
        maxReferralDepth ∧
      (1 : Address) ∈ getUplines tagHash (runBinds tagHash StateDB.empty lateRootBinds) 3
        maxReferralDepth := by
  decide +kernel

end Gtos.Referral
