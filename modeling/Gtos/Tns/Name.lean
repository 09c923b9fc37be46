import Gtos.Lib.CharClass
import Gtos.Tns.State

/-! # The name check (`validateName`, `tns/handler.go`)

`validateName` checks a name's byte length, that it is not reserved, and then its runes: the first
a lower-case letter in Unicode's sense, the last not a separator, and each one a lower-case ASCII
letter, a digit, or a separator that does not follow one. The Unicode classes come from Go's
`unicode` tables, a parameter of the model (`UnicodeTables`) with the facts about ASCII that the
check relies on.

**`validateName_eq_ok`** says which names it accepts: those of 3 to 64 bytes that are not
reserved and match `[a-z]([._-]?[a-z0-9])*` (`namePattern`). The rune checks and the pattern
agree rune by rune (`runesValid_iff_mem_star`): a separator is followed by a letter or a digit
exactly when it is neither last nor followed by another separator. -/

namespace Gtos.Tns

open CharClass RegularExpression

/-- `ErrTNSInvalidName`. -/
def errTNSInvalidName : String := "tns: invalid name format"

/-- `reservedNames`. -/
def reservedNames : List String :=
  ["admin", "system", "tos", "root", "null", "test", "node", "validator"]

/-- The tables of Go's `unicode` package that the registry reads, with the facts about ASCII that
`validateName` relies on. -/
structure UnicodeTables where
  /-- `unicode.ToLower`. -/
  toLower : Char → Char
  /-- `unicode.IsLower`. -/
  isLower : Char → Bool
  /-- `unicode.IsLetter`. -/
  isLetter : Char → Bool
  /-- The ASCII lower-case letters are lower-case letters. -/
  lower_letter : ∀ c : Char, 'a' ≤ c → c ≤ 'z' → isLower c = true ∧ isLetter c = true
  /-- The digits are not lower case. -/
  digit_not_lower : ∀ c : Char, '0' ≤ c → c ≤ '9' → isLower c = false
  /-- Nor are the separators `.`, `-` and `_`. -/
  separator_not_lower : isLower '.' = false ∧ isLower '-' = false ∧ isLower '_' = false

/-- `r == '.' || r == '-' || r == '_'`. -/
def isSeparator (r : Char) : Bool :=
  r == '.' || r == '-' || r == '_'

/-- A lower-case ASCII letter or a digit. -/
abbrev IsAlnum (c : Char) : Prop :=
  ('a' ≤ c ∧ c ≤ 'z') ∨ ('0' ≤ c ∧ c ≤ '9')

/-- One case of the `switch` of `validateName`'s loop, with the rune before, if any. -/
def runeOk (prev : Option Char) (r : Char) : Bool :=
  if 'a' ≤ r ∧ r ≤ 'z' then true
  else if '0' ≤ r ∧ r ≤ '9' then true
  else if isSeparator r then !(prev.any isSeparator)
  else false

/-- The loop of `validateName` over the runes, with the rune before the first, if any. -/
def runesValid : Option Char → List Char → Bool
  | _, [] => true
  | prev, r :: rs => runeOk prev r && runesValid (some r) rs

/-- The checks of `validateName` on the runes of the name. -/
def validateRunes (u : UnicodeTables) : List Char → Except String Unit
  -- unreachable: a name of three bytes has a rune
  | [] => .error errTNSInvalidName
  | r :: rs =>
    if !u.isLower r || !u.isLetter r then .error errTNSInvalidName
    else if isSeparator ((r :: rs).getLast (List.cons_ne_nil r rs)) then .error errTNSInvalidName
    else if runesValid none (r :: rs) then .ok () else .error errTNSInvalidName

/-- `validateName(name)`: the length in bytes, the reserved words, then the runes. -/
def validateName (u : UnicodeTables) (name : String) : Except String Unit :=
  if (Text.utf8 name).length < tnsMinNameLen ∨ (Text.utf8 name).length > tnsMaxNameLen then
    .error errTNSInvalidName
  else if name ∈ reservedNames then .error errTNSInvalidName
  else validateRunes u name.toList

/-! ## The pattern of a name -/

/-- `[._-]`. -/
def separatorClass : RegularExpression Char :=
  charClass ['.', '-', '_']

/-- `[a-z0-9]`. -/
def alnumClass : RegularExpression Char :=
  charClass (charRange 'a' 'z' ++ charRange '0' '9')

/-- One group of the tail of a name: `[._-]?[a-z0-9]`. -/
def nameGroup : RegularExpression Char :=
  opt separatorClass * alnumClass

/-- `[a-z]([._-]?[a-z0-9])*`. -/
def namePattern : RegularExpression Char :=
  charClass (charRange 'a' 'z') * nameGroup.star

theorem mem_lower_range {c : Char} : c ∈ charRange 'a' 'z' ↔ 'a' ≤ c ∧ c ≤ 'z' :=
  mem_charRange (by decide)

theorem mem_separatorClass {x : List Char} :
    x ∈ separatorClass.matches' ↔ ∃ s, isSeparator s = true ∧ x = [s] := by
  simp [separatorClass, isSeparator, or_and_right, exists_or, or_assoc]

theorem mem_alnumClass {x : List Char} :
    x ∈ alnumClass.matches' ↔ ∃ c, IsAlnum c ∧ x = [c] := by
  simp only [alnumClass, mem_charClass, List.mem_append, mem_lower_range,
    mem_charRange (show '9'.toNat < 0xD800 by decide)]

/-- A separator is neither a letter nor a digit. -/
theorem isSeparator_eq_false_of_alnum {c : Char} (hc : IsAlnum c) : isSeparator c = false := by
  by_contra hs
  simp only [isSeparator, Bool.not_eq_false, Bool.or_eq_true, beq_iff_eq] at hs
  rcases hs with (rfl | rfl) | rfl <;> revert hc <;> decide

/-- A group is a letter or a digit, after a separator or not. -/
theorem mem_nameGroup {x : List Char} :
    x ∈ nameGroup.matches' ↔
      ∃ c, IsAlnum c ∧ (x = [c] ∨ ∃ s, isSeparator s = true ∧ x = [s, c]) := by
  rw [nameGroup, matches'_mul, Language.mem_mul]
  constructor
  · rintro ⟨a, ha, b, hb, rfl⟩
    obtain ⟨c, hc, rfl⟩ := mem_alnumClass.mp hb
    rcases mem_opt.mp ha with rfl | ha
    · exact ⟨c, hc, Or.inl rfl⟩
    · obtain ⟨s, hs, rfl⟩ := mem_separatorClass.mp ha
      exact ⟨c, hc, Or.inr ⟨s, hs, rfl⟩⟩
  · rintro ⟨c, hc, rfl | ⟨s, hs, rfl⟩⟩
    · exact ⟨[], mem_opt.mpr (Or.inl rfl), [c], mem_alnumClass.mpr ⟨c, hc, rfl⟩, rfl⟩
    · exact ⟨[s], mem_opt.mpr (Or.inr (mem_separatorClass.mpr ⟨s, hs, rfl⟩)), [c],
        mem_alnumClass.mpr ⟨c, hc, rfl⟩, rfl⟩

/-- **A tail that starts with `c`**: `c` is a letter or a digit and the rest is a tail, or `c` is a
separator followed by a letter or a digit and then a tail. -/
theorem cons_mem_star_nameGroup {c : Char} {t : List Char} :
    c :: t ∈ nameGroup.star.matches' ↔ (IsAlnum c ∧ t ∈ nameGroup.star.matches') ∨
      (isSeparator c = true ∧ ∃ d t', t = d :: t' ∧ IsAlnum d ∧ t' ∈ nameGroup.star.matches') := by
  rw [mem_star_iff]
  constructor
  · rintro (h | ⟨a, ha, b, hb, hab⟩)
    · cases h
    · obtain ⟨d, hd, rfl | ⟨s, hs, rfl⟩⟩ := mem_nameGroup.mp ha
      · -- a letter or a digit alone
        simp only [List.singleton_append, List.cons.injEq] at hab
        obtain ⟨rfl, rfl⟩ := hab
        exact Or.inl ⟨hd, hb⟩
      · -- a separator, then a letter or a digit
        simp only [List.cons_append, List.cons.injEq] at hab
        obtain ⟨rfl, rfl⟩ := hab
        exact Or.inr ⟨hs, d, b, rfl, hd, hb⟩
  · rintro (⟨hc, ht⟩ | ⟨hs, d, t', rfl, hd, ht'⟩)
    · exact Or.inr ⟨[c], mem_nameGroup.mpr ⟨c, hc, Or.inl rfl⟩, t, ht, rfl⟩
    · exact Or.inr ⟨[c, d], mem_nameGroup.mpr ⟨d, hd, Or.inr ⟨c, hs, rfl⟩⟩, t', ht', rfl⟩

/-- **A name that matches** is a lower-case letter followed by a tail. -/
theorem mem_namePattern {x : List Char} :
    x ∈ namePattern.matches' ↔
      ∃ c t, x = c :: t ∧ ('a' ≤ c ∧ c ≤ 'z') ∧ t ∈ nameGroup.star.matches' := by
  rw [namePattern, matches'_mul, Language.mem_mul]
  constructor
  · rintro ⟨a, ha, t, ht, rfl⟩
    obtain ⟨c, hc, rfl⟩ := mem_charClass.mp ha
    exact ⟨c, t, rfl, mem_lower_range.mp hc, ht⟩
  · rintro ⟨c, t, rfl, hc, ht⟩
    exact ⟨[c], mem_charClass.mpr ⟨c, mem_lower_range.mpr hc, rfl⟩, t, ht, rfl⟩

/-! ## The rune checks agree with the pattern -/

@[simp] theorem runesValid_nil (prev : Option Char) : runesValid prev [] = true := rfl

@[simp] theorem runesValid_cons (prev : Option Char) (r : Char) (rs : List Char) :
    runesValid prev (r :: rs) = (runeOk prev r && runesValid (some r) rs) := rfl

theorem runeOk_of_alnum {prev : Option Char} {r : Char} (h : IsAlnum r) : runeOk prev r = true := by
  unfold runeOk
  rcases h with h | h
  · rw [if_pos h]
  · by_cases h' : 'a' ≤ r ∧ r ≤ 'z'
    · rw [if_pos h']
    · rw [if_neg h', if_pos h]

/-- A separator is accepted unless it follows one. -/
theorem runeOk_of_separator {prev : Option Char} {r : Char} (h : isSeparator r = true) :
    runeOk prev r = !(prev.any isSeparator) := by
  have hr : ¬ IsAlnum r := fun ha => by
    rw [isSeparator_eq_false_of_alnum ha] at h
    cases h
  unfold runeOk
  rw [if_neg (fun h' => hr (Or.inl h')), if_neg (fun h' => hr (Or.inr h')), if_pos h]

/-- Any other rune is refused. -/
theorem runeOk_of_other {prev : Option Char} {r : Char} (h₁ : ¬ IsAlnum r)
    (h₂ : isSeparator r = false) : runeOk prev r = false := by
  unfold runeOk
  rw [if_neg (fun h' => h₁ (Or.inl h')), if_neg (fun h' => h₁ (Or.inr h')), h₂]
  rfl

/-- **The loop and the last-rune check are the tail of the pattern.** After a rune `p` that is
not a separator, the runes `rs` pass the loop, and the last of `p :: rs` is not a separator, iff
`rs` matches `([._-]?[a-z0-9])*`. Recursion on `rs`, two runes at a time after a separator. -/
theorem runesValid_iff_mem_star : ∀ (p : Char) (rs : List Char), isSeparator p = false →
    (runesValid (some p) rs = true ∧
      isSeparator ((p :: rs).getLast (List.cons_ne_nil p rs)) = false ↔
        rs ∈ nameGroup.star.matches')
  | p, [], hp => by
    simp [hp, Language.nil_mem_kstar]
  | p, [c], _ => by
    rw [cons_mem_star_nameGroup]
    by_cases hc : IsAlnum c
    · simp [runeOk_of_alnum hc, isSeparator_eq_false_of_alnum hc, hc, Language.nil_mem_kstar]
    · cases hs : isSeparator c
      · simp [runeOk_of_other hc hs, hc]
      · simp [hs, hc]
  | p, c :: d :: t, hp => by
    rw [cons_mem_star_nameGroup, runesValid_cons, List.getLast_cons_cons]
    by_cases hc : IsAlnum c
    · -- a letter or a digit: the rest is a tail after it
      rw [runeOk_of_alnum hc, Bool.true_and,
        runesValid_iff_mem_star c (d :: t) (isSeparator_eq_false_of_alnum hc)]
      simp [hc, isSeparator_eq_false_of_alnum hc]
    · cases hs : isSeparator c
      · simp [runeOk_of_other hc hs, hc]
      · -- a separator after `p`: the next rune must be a letter or a digit
        rw [runeOk_of_separator hs]
        simp only [Option.any_some, hp, Bool.not_false, Bool.true_and, runesValid_cons,
          List.getLast_cons_cons]
        by_cases hd : IsAlnum d
        · rw [runeOk_of_alnum hd, Bool.true_and,
            runesValid_iff_mem_star d t (isSeparator_eq_false_of_alnum hd)]
          simp [hc, hd]
        · have hd' : runeOk (some c) d = false := by
            cases hds : isSeparator d
            · exact runeOk_of_other hd hds
            · rw [runeOk_of_separator hds, Option.any_some, hs]
              rfl
          simp [hd', hc, hd]

theorem cons_mem_namePattern {r : Char} {rs : List Char} :
    r :: rs ∈ namePattern.matches' ↔ ('a' ≤ r ∧ r ≤ 'z') ∧ rs ∈ nameGroup.star.matches' := by
  rw [mem_namePattern]
  constructor
  · rintro ⟨c, t, h, hc, ht⟩
    obtain ⟨rfl, rfl⟩ := List.cons.inj h
    exact ⟨hc, ht⟩
  · rintro ⟨hr, hrs⟩
    exact ⟨r, rs, rfl, hr, hrs⟩

/-- **The rune checks accept exactly the pattern.** -/
theorem validateRunes_eq_ok (u : UnicodeTables) (rs : List Char) :
    validateRunes u rs = .ok () ↔ rs ∈ namePattern.matches' := by
  cases rs with
  | nil =>
    rw [mem_namePattern]
    simp [validateRunes]
  | cons r rs =>
    rw [cons_mem_namePattern, validateRunes]
    by_cases hr : 'a' ≤ r ∧ r ≤ 'z'
    · -- a first letter passes the Unicode checks and the first case of the loop
      obtain ⟨hlow, hlet⟩ := u.lower_letter r hr.1 hr.2
      have hsep := isSeparator_eq_false_of_alnum (Or.inl hr)
      rw [hlow, hlet, runesValid_cons, runeOk_of_alnum (Or.inl hr), Bool.true_and,
        ← runesValid_iff_mem_star r rs hsep]
      simp only [Bool.not_true, Bool.or_false, Bool.false_eq_true, if_false, hr, true_and]
      split_ifs <;> simp_all
    · -- any other first rune fails a check
      have hfail : (!u.isLower r || !u.isLetter r) = true ∨ runeOk none r = false := by
        by_cases hd : '0' ≤ r ∧ r ≤ '9'
        · simp [u.digit_not_lower r hd.1 hd.2]
        · cases hs : isSeparator r
          · exact Or.inr (runeOk_of_other (fun h => h.elim hr hd) hs)
          · left
            simp only [isSeparator, Bool.or_eq_true, beq_iff_eq] at hs
            obtain ⟨h₁, h₂, h₃⟩ := u.separator_not_lower
            rcases hs with (rfl | rfl) | rfl <;> simp [h₁, h₂, h₃]
      rcases hfail with hfail | hfail
      · simp [hfail, hr]
      · simp [hfail, hr]

/-- **The names `validateName` accepts**: 3 to 64 bytes, not reserved, and matching
`[a-z]([._-]?[a-z0-9])*`. -/
theorem validateName_eq_ok (u : UnicodeTables) (name : String) :
    validateName u name = .ok () ↔ tnsMinNameLen ≤ (Text.utf8 name).length ∧
      (Text.utf8 name).length ≤ tnsMaxNameLen ∧ name ∉ reservedNames ∧
        name.toList ∈ namePattern.matches' := by
  rw [validateName, ← validateRunes_eq_ok u]
  split_ifs with hlen hres
  · exact ⟨(fun h => nomatch h), fun ⟨h₁, h₂, _⟩ => by omega⟩
  · simp [hres]
  · have h₁ : tnsMinNameLen ≤ (Text.utf8 name).length := by omega
    have h₂ : (Text.utf8 name).length ≤ tnsMaxNameLen := by omega
    simp [h₁, h₂, hres]

theorem isLower_iff_toNat (c : Char) : c.isLower = true ↔ 97 ≤ c.toNat ∧ c.toNat ≤ 122 := by
  simp [Char.isLower, UInt32.le_iff_toNat_le, Char.toNat_val]

/-- The tables restricted to ASCII, a stand-in for Go's in the examples: the name check refuses
every other rune, whatever the tables say of it. -/
def asciiTables : UnicodeTables where
  toLower := Char.toLower
  isLower := Char.isLower
  isLetter := Char.isAlpha
  lower_letter c h₁ h₂ := by
    have hl : c.isLower = true := by
      rw [le_iff_toNat_le] at h₁ h₂
      exact (isLower_iff_toNat c).mpr ⟨h₁, h₂⟩
    exact ⟨hl, by simp [Char.isAlpha, hl]⟩
  digit_not_lower c _ h₂ := by
    rw [le_iff_toNat_le] at h₂
    have h₂' : c.toNat ≤ 57 := h₂
    cases h : c.isLower
    · rfl
    · rw [isLower_iff_toNat] at h
      omega
  separator_not_lower := by decide

example : validateName asciiTables "alice" = .ok () := by decide
example : validateName asciiTables "a..b" = .error errTNSInvalidName := by decide

end Gtos.Tns
