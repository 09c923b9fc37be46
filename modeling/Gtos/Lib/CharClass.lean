import Mathlib

/-! # Character classes, ranges and options in regular expressions

The bracket class `[abc]`, the range `[a-z]` and the option `r?` of the usual regular-expression
syntax, over Mathlib's `RegularExpression`, with the membership lemmas that reduce a match to the
characters of a word: a word matches a class iff it is one of its characters
(`mem_charClass`), a range holds the characters between its ends (`mem_charRange`), and a match
of `r*` is empty or a match of `r` followed by one of `r*` (`mem_star_iff`). -/

namespace CharClass

open RegularExpression

section Classes

variable {α : Type*}

/-- The bracket class of the characters of `cs`: a word of one of them. -/
def charClass (cs : List α) : RegularExpression α :=
  cs.foldr (fun c r => char c + r) 0

/-- The option `r?`: the empty word or a match of `r`. -/
def opt (r : RegularExpression α) : RegularExpression α :=
  r + 1

@[simp] theorem mem_charClass {cs x : List α} :
    x ∈ (charClass cs).matches' ↔ ∃ c ∈ cs, x = [c] := by
  induction cs with
  | nil => simp [charClass, Language.notMem_zero]
  | cons c cs ih =>
    rw [charClass, List.foldr_cons, matches'_add, Language.mem_add, matches'_char, ← charClass, ih]
    simp only [List.mem_cons, exists_eq_or_imp]
    -- a word of the singleton language is its one word
    exact Iff.rfl

@[simp] theorem mem_opt {r : RegularExpression α} {x : List α} :
    x ∈ (opt r).matches' ↔ x = [] ∨ x ∈ r.matches' := by
  rw [opt, matches'_add, Language.mem_add, matches'_epsilon, Language.mem_one, or_comm]

/-- **One unfolding of a star**: a match of `r*` is empty, or a match of `r` followed by a match
of `r*`. -/
theorem mem_star_iff {r : RegularExpression α} {x : List α} :
    x ∈ r.star.matches' ↔ x = [] ∨ ∃ a ∈ r.matches', ∃ b ∈ r.star.matches', a ++ b = x := by
  rw [matches'_star]
  conv_lhs => rw [← Language.one_add_self_mul_kstar_eq_kstar]
  rw [Language.mem_add, Language.mem_one, Language.mem_mul]

end Classes

/-! ## Ranges of characters -/

theorem le_iff_toNat_le {a b : Char} : a ≤ b ↔ a.toNat ≤ b.toNat := by
  rw [Char.le_def, UInt32.le_iff_toNat_le]
  rfl

/-- Below the surrogates every number is a character. -/
theorem toNat_ofNat_of_lt {n : ℕ} (h : n < 0xD800) : (Char.ofNat n).toNat = n := by
  have hv : n.isValidChar := Or.inl h
  simp [Char.ofNat, hv, Char.ofNatAux, Char.toNat]

/-- The characters from `lo` to `hi`, in order: the range `[lo-hi]`. -/
def charRange (lo hi : Char) : List Char :=
  (List.range (hi.toNat + 1 - lo.toNat)).map fun i => Char.ofNat (lo.toNat + i)

/-- A range below the surrogates holds exactly the characters between its ends. -/
theorem mem_charRange {lo hi c : Char} (hhi : hi.toNat < 0xD800) :
    c ∈ charRange lo hi ↔ lo ≤ c ∧ c ≤ hi := by
  simp only [charRange, List.mem_map, List.mem_range, le_iff_toNat_le]
  constructor
  · rintro ⟨i, hi', rfl⟩
    rw [toNat_ofNat_of_lt (by omega)]
    omega
  · rintro ⟨hlo, hc⟩
    refine ⟨c.toNat - lo.toNat, by omega, ?_⟩
    rw [Nat.add_sub_cancel' hlo, Char.ofNat_toNat]

example : charRange 'a' 'e' = ['a', 'b', 'c', 'd', 'e'] := by decide

end CharClass
