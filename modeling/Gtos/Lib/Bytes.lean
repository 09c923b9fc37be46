import Mathlib.Tactic.Ring
import Mathlib.Tactic.NormNum
import Mathlib.Data.List.Induction

/-! # Byte strings: big-endian integers and hexadecimal text

Two encodings programs use to move numbers and keys across a boundary, each with the reader that
undoes it.

* **`Bytes.toBytesBE n len`** — the `len` low bytes of `n`, most significant first
  (`binary.BigEndian.PutUint64`, a fixed-size array filled from a number); `Bytes.ofBytesBE`
  folds a byte string back into a number, and reading what was written gives `n % 256 ^ len`
  (`ofBytesBE_toBytesBE`). `Bytes.bigIntBytes` is `(*big.Int).Bytes()`, the bytes without leading
  zeros, which undoes `ofBytesBE` on a string that does not start with a zero byte
  (`bigIntBytes_ofBytesBE`).
* **`Hex.encodeToString`** — two lower-case digits per byte, high half first; `Hex.decodeString`
  reads digit pairs of either case and fails on an odd length or a character that is no digit.
  Text is a list of characters. Reading what was written gives the bytes back
  (`decodeString_encodeToString`). `Hex.decodePrefix` is the same reader for callers that ignore
  its error: the bytes before the first pair that is not two digits.
* **`Decimal.parseInt`** — an optional sign and one or more decimal digits, as
  `(*big.Int).SetString(s, 10)` reads them.
* **`Text.trimSpace`**, **`Text.toLower`** — `strings.TrimSpace` (Unicode white space) and
  `strings.ToLower`, which maps `unicode.ToLower` (`Text.UnicodeLower`, a parameter with its
  ASCII part) over the runes, on lists of characters; `Text.utf8` and `Text.ofUtf8` are the
  conversions between a text and its bytes.
-/

namespace Bytes

/-- The `len` low bytes of `n`, most significant first. -/
def toBytesBE (n : ℕ) : ℕ → List UInt8
  | 0 => []
  | len + 1 => toBytesBE (n / 256) len ++ [UInt8.ofNat n]

/-- A byte string read as a big-endian number. -/
def ofBytesBE (l : List UInt8) : ℕ :=
  l.foldl (fun acc b => acc * 256 + b.toNat) 0

@[simp] theorem length_toBytesBE (n len : ℕ) : (toBytesBE n len).length = len := by
  induction len generalizing n with
  | zero => rfl
  | succ len ih => simp [toBytesBE, ih]

theorem ofBytesBE_append_singleton (l : List UInt8) (b : UInt8) :
    ofBytesBE (l ++ [b]) = ofBytesBE l * 256 + b.toNat := by
  simp [ofBytesBE, List.foldl_append]

/-- A concatenation reads as its first part shifted past the second. -/
theorem ofBytesBE_append (l l' : List UInt8) :
    ofBytesBE (l ++ l') = ofBytesBE l * 256 ^ l'.length + ofBytesBE l' := by
  induction l' using List.reverseRecOn with
  | nil => simp [ofBytesBE]
  | append_singleton l' b ih =>
    rw [← List.append_assoc, ofBytesBE_append_singleton, ih, ofBytesBE_append_singleton,
      List.length_append, List.length_singleton, pow_succ]
    ring

/-- **Big-endian round trip**: the bytes written for `n` read back as `n` modulo the width. -/
theorem ofBytesBE_toBytesBE (n len : ℕ) : ofBytesBE (toBytesBE n len) = n % 256 ^ len := by
  induction len generalizing n with
  | zero => simp [toBytesBE, ofBytesBE, Nat.mod_one]
  | succ len ih =>
    -- the last byte is `n % 256`, the bytes before it are those of `n / 256`
    have hbyte : (UInt8.ofNat n).toNat = n % 256 := UInt8.toNat_ofNat'
    rw [toBytesBE, ofBytesBE_append_singleton, ih, hbyte, Nat.pow_succ', Nat.mod_mul]
    ring

/-- A byte string of `len` bytes reads as a number below `256 ^ len`. -/
theorem ofBytesBE_lt (l : List UInt8) : ofBytesBE l < 256 ^ l.length := by
  induction l using List.reverseRecOn with
  | nil => simp [ofBytesBE]
  | append_singleton l b ih =>
    have hb : b.toNat < 256 := b.toNat_lt
    rw [ofBytesBE_append_singleton, List.length_append, List.length_singleton, pow_succ]
    omega

/-- **Big-endian round trip, the other way**: a byte string is the bytes of the number it reads
as, at its own length. -/
theorem toBytesBE_ofBytesBE (l : List UInt8) : toBytesBE (ofBytesBE l) l.length = l := by
  induction l using List.reverseRecOn with
  | nil => rfl
  | append_singleton l b ih =>
    have hb : b.toNat < 256 := b.toNat_lt
    -- the number of `l ++ [b]` is that of `l` shifted by a byte, with `b` as its low byte
    have hdiv : (ofBytesBE l * 256 + b.toNat) / 256 = ofBytesBE l := by omega
    have hlow : UInt8.ofNat (ofBytesBE l * 256 + b.toNat) = b := by
      apply UInt8.toNat_inj.mp
      rw [UInt8.toNat_ofNat']
      omega
    rw [ofBytesBE_append_singleton, List.length_append, List.length_singleton, toBytesBE, hdiv,
      hlow, ih]

/-- `(*big.Int).Bytes()` of a number: its bytes, most significant first, without leading zeros;
none for zero. -/
def bigIntBytes (n : ℕ) : List UInt8 :=
  if n = 0 then [] else bigIntBytes (n / 256) ++ [UInt8.ofNat n]
termination_by n
decreasing_by omega

/-- A byte string whose first byte is not zero reads as a positive number. -/
theorem ofBytesBE_pos {a : UInt8} {l : List UInt8} (ha : a ≠ 0) : 0 < ofBytesBE (a :: l) := by
  have hpos : 0 < a.toNat := by
    rcases Nat.eq_zero_or_pos a.toNat with h | h
    · exact absurd (UInt8.toNat_inj.mp (h.trans UInt8.toNat_zero.symm)) ha
    · exact h
  rw [show a :: l = [a] ++ l from rfl, ofBytesBE_append]
  have hfirst : ofBytesBE [a] = a.toNat := by simp [ofBytesBE]
  rw [hfirst]
  exact Nat.add_pos_left (Nat.mul_pos hpos (Nat.pow_pos (by norm_num))) _

/-- **`SetBytes` then `Bytes` is the identity** on byte strings that do not start with a zero
byte: `big.Int` drops only leading zeros. -/
theorem bigIntBytes_ofBytesBE (l : List UInt8) (hl : ∀ a, l.head? = some a → a ≠ 0) :
    bigIntBytes (ofBytesBE l) = l := by
  induction l using List.reverseRecOn with
  | nil => simp [ofBytesBE, bigIntBytes]
  | append_singleton l b ih =>
    have hb : b.toNat < 256 := b.toNat_lt
    -- the number of `l ++ [b]` is that of `l` shifted by a byte, with `b` as its low byte
    have hdiv : (ofBytesBE l * 256 + b.toNat) / 256 = ofBytesBE l := by omega
    have hlow : UInt8.ofNat (ofBytesBE l * 256 + b.toNat) = b := by
      apply UInt8.toNat_inj.mp
      rw [UInt8.toNat_ofNat']
      omega
    -- the number is not zero: its first byte is not
    have hne : ofBytesBE l * 256 + b.toNat ≠ 0 := by
      cases l with
      | nil =>
        have hb0 : b ≠ 0 := hl b rfl
        have : b.toNat ≠ 0 := fun h => hb0 (UInt8.toNat_inj.mp (h.trans UInt8.toNat_zero.symm))
        omega
      | cons a l =>
        have := ofBytesBE_pos (l := l) (hl a rfl)
        omega
    have hl' : ∀ a, l.head? = some a → a ≠ 0 := by
      intro a ha
      cases l with
      | nil => cases ha
      | cons c l => exact hl a ha
    rw [ofBytesBE_append_singleton, bigIntBytes, if_neg hne, hdiv, hlow, ih hl']

end Bytes

namespace Hex

/-- The lower-case digit of a value below sixteen. -/
def digitChar (n : ℕ) : Char :=
  if n < 10 then Char.ofNat (n + 48) else Char.ofNat (n + 87)

/-- `fromHexChar`: the value of a digit of either case. -/
def digitValue (c : Char) : Option ℕ :=
  if '0' ≤ c ∧ c ≤ '9' then some (c.toNat - 48)
  else if 'a' ≤ c ∧ c ≤ 'f' then some (c.toNat - 87)
  else if 'A' ≤ c ∧ c ≤ 'F' then some (c.toNat - 55)
  else none

/-- `hex.EncodeToString`. -/
def encodeToString (bytes : List UInt8) : List Char :=
  bytes.flatMap fun b => [digitChar (b.toNat / 16), digitChar (b.toNat % 16)]

/-- `hex.DecodeString`: `none` where the source returns `ErrLength` or an `InvalidByteError`. -/
def decodeString : List Char → Option (List UInt8)
  | [] => some []
  | [_] => none
  | p :: q :: rest =>
    match digitValue p, digitValue q, decodeString rest with
    | some a, some b, some tail => some (UInt8.ofNat (a * 16 + b) :: tail)
    | _, _, _ => none

/-- Each of the sixteen digits reads back as its value. -/
theorem digitValue_digitChar : ∀ n < 16, digitValue (digitChar n) = some n := by
  decide

/-- **Hex round trip**: the digits written for a byte string read back as that string. -/
theorem decodeString_encodeToString (bytes : List UInt8) :
    decodeString (encodeToString bytes) = some bytes := by
  induction bytes with
  | nil => rfl
  | cons b bytes ih =>
    have hhi : b.toNat / 16 < 16 := by
      have := b.toNat_lt
      omega
    have hlo : b.toNat % 16 < 16 := Nat.mod_lt _ (by norm_num)
    have henc : encodeToString (b :: bytes) =
        digitChar (b.toNat / 16) :: digitChar (b.toNat % 16) :: encodeToString bytes := rfl
    rw [henc, decodeString, digitValue_digitChar _ hhi, digitValue_digitChar _ hlo, ih]
    simp only [Option.some.injEq, List.cons.injEq, and_true]
    -- the two halves make up the byte again
    rw [Nat.div_add_mod']
    exact UInt8.ofNat_toNat

/-- `hex.DecodeString` for a caller that drops the error: the bytes decoded before the first
pair that is not two digits, and nothing of an odd last digit. -/
def decodePrefix : List Char → List UInt8
  | p :: q :: rest =>
    match digitValue p, digitValue q with
    | some a, some b => UInt8.ofNat (a * 16 + b) :: decodePrefix rest
    | _, _ => []
  | _ => []

end Hex

namespace Decimal

/-- One or more decimal digits, read as a number. -/
def parseNat (cs : List Char) : Option ℕ :=
  if cs ≠ [] ∧ cs.all Char.isDigit then some (cs.foldl (fun n c => n * 10 + (c.toNat - 48)) 0)
  else none

/-- `(*big.Int).SetString(s, 10)`: an optional `+` or `-`, then one or more decimal digits; no
underscores, which only base zero admits. -/
def parseInt : List Char → Option ℤ
  | '+' :: cs => (parseNat cs).map Int.ofNat
  | '-' :: cs => (parseNat cs).map fun n => -(n : ℤ)
  | cs => (parseNat cs).map Int.ofNat

end Decimal

namespace Text

/-- `unicode.IsSpace`: the ASCII spaces, NEL, NBSP and the other Unicode white space. -/
def isSpace (c : Char) : Bool :=
  c = ' ' ∨ c = '\t' ∨ c = '\n' ∨ c.toNat = 11 ∨ c.toNat = 12 ∨ c = '\r' ∨ c.toNat = 0x85 ∨
    c.toNat = 0xA0 ∨ c.toNat = 0x1680 ∨ (0x2000 ≤ c.toNat ∧ c.toNat ≤ 0x200A) ∨
    c.toNat = 0x2028 ∨ c.toNat = 0x2029 ∨ c.toNat = 0x202F ∨ c.toNat = 0x205F ∨ c.toNat = 0x3000

/-- `strings.TrimSpace`: white space removed from both ends. -/
def trimSpace (cs : List Char) : List Char :=
  ((cs.dropWhile isSpace).reverse.dropWhile isSpace).reverse

/-- Go's `unicode.ToLower`, with what it does on ASCII: it lower-cases `A` to `Z` and keeps every
other ASCII rune, as `Char.toLower` does. Above ASCII it follows the Unicode case tables, which
map the Kelvin sign `U+212A` to `k`, for one. -/
structure UnicodeLower where
  /-- `unicode.ToLower`. -/
  toLower : Char → Char
  /-- On ASCII it is `Char.toLower`. -/
  toLower_ascii : ∀ c : Char, c.toNat < 128 → toLower c = c.toLower

/-- The ASCII part of the tables, `Char.toLower` on every rune. -/
def asciiLower : UnicodeLower := ⟨Char.toLower, fun _ _ => rfl⟩

/-- `strings.ToLower`: `unicode.ToLower` of every rune. -/
def toLower (u : UnicodeLower) (cs : List Char) : List Char :=
  cs.map u.toLower

/-- `strings.ToLower` keeps a text of ASCII runes none of which is an upper-case letter. The test
is a `List.all`, so that it evaluates on a literal. -/
theorem toLower_of_ascii (u : UnicodeLower) {cs : List Char}
    (h : cs.all (fun c => decide (c.toNat < 128) && !c.isUpper) = true) : toLower u cs = cs := by
  conv_rhs => rw [← List.map_id cs]
  refine List.map_congr_left fun c hc => ?_
  have hc' := List.all_eq_true.mp h c hc
  simp only [Bool.and_eq_true, decide_eq_true_eq, Bool.not_eq_true'] at hc'
  rw [u.toLower_ascii c hc'.1]
  -- `Char.toLower` keeps a rune outside `A` to `Z`, the range `Char.isUpper` tests
  exact dif_neg (of_decide_eq_false hc'.2)

/-- `[]byte(s)`: the UTF-8 bytes of a text. -/
def utf8 (s : String) : List UInt8 :=
  s.toUTF8.data.toList

/-- `string(b)`: the text whose UTF-8 bytes are `b`. Go keeps bytes that are not UTF-8 in the
text as they are; the model reads them as the empty text. -/
def ofUtf8 (b : List UInt8) : String :=
  (String.fromUTF8? ⟨b.toArray⟩).getD ""

/-- The text of the bytes of a text is the text. -/
@[simp] theorem ofUtf8_utf8 (s : String) : ofUtf8 (utf8 s) = s := by
  have hbytes : ByteArray.mk (utf8 s).toArray = s.toByteArray := by simp [utf8]
  rw [ofUtf8, hbytes, String.fromUTF8?, dif_pos s.isValidUTF8]
  rfl

/-- `ByteArray.toList`'s loop from index `i`, with the bytes before `i` gathered in reverse. -/
theorem toList_loop (bs : ByteArray) (i : ℕ) (r : List UInt8) :
    ByteArray.toList.loop bs i r = r.reverse ++ bs.data.toList.drop i := by
  -- each turn moves the byte at `i` from the array's suffix to the gathered prefix
  fun_induction ByteArray.toList.loop bs i r with
  | case1 i r h ih =>
    have hd : i < bs.data.size := h
    have hi : i < bs.data.toList.length := by simpa using h
    have hget : bs.get! i = bs.data.toList[i] := by
      simp only [ByteArray.get!, getElem!_pos bs.data i hd, Array.getElem_toList]
    rw [ih, List.reverse_cons, List.append_assoc, List.singleton_append, hget,
      ← List.drop_eq_getElem_cons hi]
  | case2 i r h =>
    rw [List.drop_eq_nil_of_le (by simpa using h), List.append_nil]

/-- The UTF-8 bytes of a text, rune by rune: on a literal this form evaluates by `decide`,
where `String.toUTF8` does not. -/
theorem toUTF8_toList (s : String) : s.toUTF8.toList = s.toList.flatMap String.utf8EncodeChar := by
  rw [ByteArray.toList, toList_loop, List.reverse_nil, List.nil_append, List.drop_zero,
    String.toUTF8_eq_toByteArray, ← String.utf8Encode_toList, List.utf8Encode]
  exact List.toList_data_toByteArray

end Text
