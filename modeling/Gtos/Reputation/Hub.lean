import Mathlib.Data.Int.ModEq
import Mathlib.Order.Interval.Set.Defs
import Mathlib.Data.Int.ConditionallyCompleteOrder
import Gtos.Capability.State
import Gtos.Sysaction.Types
import Gtos.Lib.ExceptState

/-! # The reputation hub (`reputation/state.go`, `reputation/handler.go`)

Each address has a score and a rating count, one word each at `Keccak256("rep\0score\0" ‖ addr)`
and `Keccak256("rep\0count\0" ‖ addr)`. The score is a signed integer kept as a 256-bit two's
complement word: `RecordScore` adds a delta of any size modulo `2 ^ 256` (`big.Int.Mod` is
Euclidean), and `TotalScoreOf` reads the word back in `[-2 ^ 255, 2 ^ 255)`. The count is
incremented by one per call, as a word, so it counts modulo `2 ^ 256`.

* **`scoreWord_recordScores`**, **`countWord_recordScores`** — what a run of `RecordScore` calls
  leaves in the two words of its address, and (`recordScores_frame`) that it leaves the words of
  every address whose slots are apart from them;
* **`totalScoreOf_mem_Ico`**, **`totalScoreOf_modEq`** — the reading of a score word;
* `REPUTATION_RECORD_SCORE` is reserved to authorised scorers, and `REPUTATION_AUTHORIZE_SCORER`
  to holders of the Registrar capability. -/

namespace Gtos.Reputation

open Gtos.Core Gtos.Sysaction

/-- `params.ReputationHubAddress`. -/
def reputationHubAddress : Address := 0x104#256

/-- `registrarBit`. -/
def registrarBit : UInt8 := 0

/-- `ErrNotAuthorizedScorer`. -/
def errNotAuthorizedScorer : String := "reputation: caller is not an authorized scorer"

/-- `ErrRegistrarRequired`. -/
def errRegistrarRequired : String := "reputation: Registrar capability required"

/-- `ErrInvalidDelta`. -/
def errInvalidDelta : String := "reputation: invalid delta value"

section State

variable {σ : Type} [VmStateDB σ] (keccak256 : List UInt8 → Hash)

/-- `scoreSlot(addr)`. -/
def scoreSlot (addr : Address) : Hash :=
  keccak256 (Text.utf8 "rep\x00score\x00" ++ wordBytes addr)

/-- `countSlot(addr)`. -/
def countSlot (addr : Address) : Hash :=
  keccak256 (Text.utf8 "rep\x00count\x00" ++ wordBytes addr)

/-- `scorerSlot(addr)`. -/
def scorerSlot (addr : Address) : Hash :=
  keccak256 (Text.utf8 "rep\x00scorer\x00" ++ wordBytes addr)

/-- The score word of an address, as a number. -/
def scoreWord (db : σ) (addr : Address) : ℕ :=
  (VmStateDB.getState db reputationHubAddress (scoreSlot keccak256 addr)).toNat

/-- `TotalScoreOf(db, addr)`: the score word read as a two's complement integer. -/
def totalScoreOf (db : σ) (addr : Address) : ℤ :=
  let n := scoreWord keccak256 db addr
  if n ≥ 2 ^ 255 then (n : ℤ) - 2 ^ 256 else n

/-- `RatingCountOf(db, addr)`. -/
def ratingCountOf (db : σ) (addr : Address) : ℕ :=
  (VmStateDB.getState db reputationHubAddress (countSlot keccak256 addr)).toNat

/-- `IsAuthorizedScorer(db, addr)`: the last byte of the flag is non-zero. -/
def isAuthorizedScorer (db : σ) (addr : Address) : Bool :=
  (VmStateDB.getState db reputationHubAddress (scorerSlot keccak256 addr)).toNat % 256 ≠ 0

/-- `AuthorizeScorer(db, scorer, enabled)`. -/
def authorizeScorer (db : σ) (scorer : Address) (enabled : Bool) : σ :=
  VmStateDB.setState db reputationHubAddress (scorerSlot keccak256 scorer) (if enabled then 1 else 0)

/-- `RecordScore(db, who, delta)`: the delta, made non-negative by one `2 ^ 256` when it is
negative, is added to the score word modulo `2 ^ 256`; then the count word, read after that write,
is incremented as a word. -/
def recordScore (db : σ) (who : Address) (delta : ℤ) : σ :=
  let current : ℤ := scoreWord keccak256 db who
  let d := if delta < 0 then delta + 2 ^ 256 else delta
  let newScore := (current + d) % 2 ^ 256
  let db := VmStateDB.setState db reputationHubAddress (scoreSlot keccak256 who)
    (BitVec.ofNat 256 newScore.toNat)
  let count := ratingCountOf keccak256 db who
  VmStateDB.setState db reputationHubAddress (countSlot keccak256 who) (BitVec.ofNat 256 (count + 1))

/-- A sequence of `RecordScore(who, d)` calls. -/
def recordScores (db : σ) (who : Address) (ds : List ℤ) : σ :=
  ds.foldl (fun db d => recordScore keccak256 db who d) db

end State

/-! ## Handlers -/

/-- `authorizeScorerPayload`. -/
structure AuthorizeScorerPayload where
  scorer : String
  enabled : Bool
  deriving DecidableEq, Repr

/-- `recordScorePayload`; the reason and the reference id are not stored. -/
structure RecordScorePayload where
  who : String
  delta : String
  deriving DecidableEq, Repr

/-- The reputation actions, with their payloads decoded. -/
inductive ReputationAction
  /-- `REPUTATION_AUTHORIZE_SCORER`. -/
  | authorizeScorer (p : AuthorizeScorerPayload)
  /-- `REPUTATION_RECORD_SCORE`. -/
  | recordScore (p : RecordScorePayload)
  deriving DecidableEq, Repr

section Handle

variable {σ : Type} [VmStateDB σ] (keccak256 : List UInt8 → Hash)

/-- **`handleAuthorizeScorer`**: a holder of the Registrar bit sets a scorer's flag. -/
def handleAuthorizeScorer (ctx : Context) (p : AuthorizeScorerPayload) : HandlerM σ Unit := do
  let db ← get
  if !Capability.hasCapability keccak256 db ctx.sender registrarBit then
    throw (.error errRegistrarRequired)
  set (authorizeScorer keccak256 db (hexToAddress p.scorer) p.enabled)

/-- **`handleRecordScore`**: an authorised scorer records a signed decimal delta. -/
def handleRecordScore (ctx : Context) (p : RecordScorePayload) : HandlerM σ Unit := do
  let db ← get
  if !isAuthorizedScorer keccak256 db ctx.sender then throw (.error errNotAuthorizedScorer)
  match Decimal.parseInt p.delta.toList with
  | none => throw (.error errInvalidDelta)
  | some delta => set (recordScore keccak256 db (hexToAddress p.who) delta)

/-- `reputationHandler.Handle`. -/
def handle (ctx : Context) : ReputationAction → HandlerM σ Unit
  | .authorizeScorer p => handleAuthorizeScorer keccak256 ctx p
  | .recordScore p => handleRecordScore keccak256 ctx p

end Handle

/-! ## Reading a score word -/

section Reading

variable (keccak256 : List UInt8 → Hash) (db : StateDB) (addr : Address)

theorem scoreWord_lt : scoreWord keccak256 db addr < 2 ^ 256 :=
  BitVec.isLt _

/-- **A score reads in `[-2 ^ 255, 2 ^ 255)`.** -/
theorem totalScoreOf_mem_Ico :
    totalScoreOf keccak256 db addr ∈ Set.Ico (-2 ^ 255 : ℤ) (2 ^ 255) := by
  have hlt := scoreWord_lt keccak256 db addr
  dsimp only [totalScoreOf]
  split_ifs with hhigh
  · constructor <;> omega
  · constructor <;> omega

/-- **A score reads as its word, modulo `2 ^ 256`.** -/
theorem totalScoreOf_modEq :
    totalScoreOf keccak256 db addr ≡ scoreWord keccak256 db addr [ZMOD 2 ^ 256] := by
  dsimp only [totalScoreOf]
  split_ifs
  · exact Int.modEq_iff_dvd.mpr ⟨1, by ring⟩
  · rfl

end Reading

/-! ## What `RecordScore` writes -/

section Record

variable (keccak256 : List UInt8 → Hash) {who : Address}

/-- The two words of `who` are apart. -/
def OwnSlotsApart (who : Address) : Prop :=
  scoreSlot keccak256 who ≠ countSlot keccak256 who

/-- The words of `a` are apart from those of `who`. -/
def SlotsApart (who a : Address) : Prop :=
  scoreSlot keccak256 a ≠ scoreSlot keccak256 who ∧ scoreSlot keccak256 a ≠ countSlot keccak256 who ∧
    countSlot keccak256 a ≠ scoreSlot keccak256 who ∧ countSlot keccak256 a ≠ countSlot keccak256 who

instance (who : Address) : Decidable (OwnSlotsApart keccak256 who) :=
  inferInstanceAs (Decidable (_ ≠ _))

instance (who a : Address) : Decidable (SlotsApart keccak256 who a) :=
  inferInstanceAs (Decidable (_ ∧ _))

/-- The delta the code adds is the delta, modulo `2 ^ 256`. -/
theorem add_adjusted_emod (current delta : ℤ) :
    (current + if delta < 0 then delta + 2 ^ 256 else delta) % 2 ^ 256 =
      (current + delta) % 2 ^ 256 := by
  split_ifs
  · rw [← add_assoc, Int.add_emod_right]
  · rfl

theorem scoreWord_recordScore (hown : OwnSlotsApart keccak256 who) (db : StateDB) (delta : ℤ) :
    (scoreWord keccak256 (recordScore keccak256 db who delta) who : ℤ) =
      (scoreWord keccak256 db who + delta) % 2 ^ 256 := by
  have hnn : (0 : ℤ) ≤ (scoreWord keccak256 db who + delta) % 2 ^ 256 :=
    Int.emod_nonneg _ (by norm_num)
  have hlt : (scoreWord keccak256 db who + delta) % 2 ^ 256 < 2 ^ 256 :=
    Int.emod_lt_of_pos _ (by norm_num)
  simp only [scoreWord, recordScore, StateDB.getState_eq, StateDB.storage_setState_self,
    Function.update_of_ne hown, Function.update_self, BitVec.toNat_ofNat, add_adjusted_emod] at hnn hlt ⊢
  rw [Nat.mod_eq_of_lt (by omega), Int.toNat_of_nonneg hnn]

theorem ratingCountOf_recordScore (hown : OwnSlotsApart keccak256 who) (db : StateDB) (delta : ℤ) :
    ratingCountOf keccak256 (recordScore keccak256 db who delta) who =
      (ratingCountOf keccak256 db who + 1) % 2 ^ 256 := by
  simp only [ratingCountOf, recordScore, StateDB.getState_eq, StateDB.storage_setState_self,
    Function.update_self, Function.update_of_ne (Ne.symm hown), BitVec.toNat_ofNat]

theorem recordScore_frame {a : Address} (hapart : SlotsApart keccak256 who a) (db : StateDB)
    (delta : ℤ) :
    scoreWord keccak256 (recordScore keccak256 db who delta) a = scoreWord keccak256 db a ∧
      ratingCountOf keccak256 (recordScore keccak256 db who delta) a = ratingCountOf keccak256 db a := by
  obtain ⟨hss, hsc, hcs, hcc⟩ := hapart
  simp only [scoreWord, ratingCountOf, recordScore, StateDB.getState_eq,
    StateDB.storage_setState_self, Function.update_of_ne hss, Function.update_of_ne hsc,
    Function.update_of_ne hcs, Function.update_of_ne hcc, and_self]

/-- **The score word after a run**: the sum of the deltas, added to the word modulo `2 ^ 256`. -/
theorem scoreWord_recordScores (hown : OwnSlotsApart keccak256 who) (ds : List ℤ) (db : StateDB) :
    (scoreWord keccak256 (recordScores keccak256 db who ds) who : ℤ) =
      (scoreWord keccak256 db who + ds.sum) % 2 ^ 256 := by
  -- on the deltas, from the state each call starts in
  induction ds generalizing db with
  | nil =>
    have hlt := scoreWord_lt keccak256 db who
    rw [recordScores, List.foldl_nil, List.sum_nil, add_zero, Int.emod_eq_of_lt (by omega) (by omega)]
  | cons d ds ih =>
    rw [recordScores, List.foldl_cons, ← recordScores, ih, scoreWord_recordScore keccak256 hown,
      Int.emod_add_emod, List.sum_cons, add_assoc]

/-- **The count after a run**: one more per call, modulo `2 ^ 256`. -/
theorem countWord_recordScores (hown : OwnSlotsApart keccak256 who) (ds : List ℤ) (db : StateDB) :
    ratingCountOf keccak256 (recordScores keccak256 db who ds) who =
      (ratingCountOf keccak256 db who + ds.length) % 2 ^ 256 := by
  induction ds generalizing db with
  | nil =>
    have hlt : ratingCountOf keccak256 db who < 2 ^ 256 := BitVec.isLt _
    rw [recordScores, List.foldl_nil, List.length_nil, add_zero, Nat.mod_eq_of_lt hlt]
  | cons d ds ih =>
    rw [recordScores, List.foldl_cons, ← recordScores, ih, ratingCountOf_recordScore keccak256 hown,
      Nat.mod_add_mod, List.length_cons]
    ring_nf

/-- **A run leaves every other address's words**, when their slots are apart from `who`'s. -/
theorem recordScores_frame {a : Address} (hapart : SlotsApart keccak256 who a) (ds : List ℤ)
    (db : StateDB) :
    scoreWord keccak256 (recordScores keccak256 db who ds) a = scoreWord keccak256 db a ∧
      ratingCountOf keccak256 (recordScores keccak256 db who ds) a = ratingCountOf keccak256 db a := by
  induction ds generalizing db with
  | nil => exact ⟨rfl, rfl⟩
  | cons d ds ih =>
    obtain ⟨hscore, hcount⟩ := recordScore_frame keccak256 hapart db d
    rw [recordScores, List.foldl_cons, ← recordScores, (ih _).1, (ih _).2, hscore, hcount]
    exact ⟨rfl, rfl⟩

/-- A stand-in for Keccak-256 that separates the words of the addresses below 256: it keeps the
length of the input, its fifth byte (`s` for a score or a scorer flag, `c` for a count) and its
last byte. -/
def repHash (b : List UInt8) : Hash :=
  BitVec.ofNat 256 (b.length + 2 ^ 8 * (b.getD 4 0).toNat + 2 ^ 16 * (b.getLastD 0).toNat)

/-! ## Scores from a fresh start -/

theorem recordScores_modular_sum (hown : OwnSlotsApart keccak256 who) {s : StateDB}
    (hscore : scoreWord keccak256 s who = 0) (hcount : ratingCountOf keccak256 s who = 0)
    (ds : List ℤ) :
    totalScoreOf keccak256 (recordScores keccak256 s who ds) who ∈ Set.Ico (-2 ^ 255 : ℤ) (2 ^ 255) ∧
      totalScoreOf keccak256 (recordScores keccak256 s who ds) who ≡ ds.sum [ZMOD 2 ^ 256] ∧
      (ds.length < 2 ^ 256 → ratingCountOf keccak256 (recordScores keccak256 s who ds) who = ds.length) ∧
      ∀ a, SlotsApart keccak256 who a →
        totalScoreOf keccak256 (recordScores keccak256 s who ds) a = totalScoreOf keccak256 s a ∧
          ratingCountOf keccak256 (recordScores keccak256 s who ds) a = ratingCountOf keccak256 s a := by
  have hword := scoreWord_recordScores keccak256 hown ds s
  rw [hscore, Nat.cast_zero, zero_add] at hword
  refine ⟨totalScoreOf_mem_Ico keccak256 _ who, ?_, ?_, fun a hapart => ?_⟩
  · -- the reading is congruent to the word, which is the sum reduced
    refine (totalScoreOf_modEq keccak256 _ who).trans ?_
    rw [hword]
    exact Int.mod_modEq _ _
  · -- the count is a word: fewer than `2 ^ 256` calls read back as their number
    intro hlen
    rw [countWord_recordScores keccak256 hown, hcount, zero_add, Nat.mod_eq_of_lt hlen]
  · obtain ⟨hscore', hcount'⟩ := recordScores_frame keccak256 hapart ds s
    exact ⟨by rw [totalScoreOf, totalScoreOf, hscore'], hcount'⟩

theorem recordScores_modular_sum_run :
    OwnSlotsApart repHash 1 ∧
      totalScoreOf repHash (recordScores repHash StateDB.empty 1 [5, -7]) 1 ∈
          Set.Ico (-2 ^ 255 : ℤ) (2 ^ 255) ∧
        totalScoreOf repHash (recordScores repHash StateDB.empty 1 [5, -7]) 1 ≡
          [5, -7].sum [ZMOD 2 ^ 256] ∧
        ([5, -7].length < 2 ^ 256 →
          ratingCountOf repHash (recordScores repHash StateDB.empty 1 [5, -7]) 1 = [5, -7].length) ∧
        ∀ a, SlotsApart repHash 1 a →
          totalScoreOf repHash (recordScores repHash StateDB.empty 1 [5, -7]) a =
              totalScoreOf repHash StateDB.empty a ∧
            ratingCountOf repHash (recordScores repHash StateDB.empty 1 [5, -7]) a =
              ratingCountOf repHash StateDB.empty a := by
  have hown : OwnSlotsApart repHash 1 := by decide
  exact ⟨hown, recordScores_modular_sum repHash hown rfl rfl [5, -7]⟩

end Record

end Gtos.Reputation
