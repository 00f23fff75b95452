import Mathlib.Data.List.Induction
import Mathlib.Tactic.ByContra
import Mathlib.Tactic.SplitIfs
import AccessoryLink.Hex

/-!
# What texts of digits say

A text goes in as characters, and its length and the places in it are counted in bytes of its UTF-8
form. A character is a digit just when all its bytes are (`mem_digits_iff`), so it makes no
difference whether one asks the characters or the bytes if a text is an even number of digits
(`isText_iff`). Those texts are the spellings of byte lists: `Writes` compares a text with the
lower-case one, and each text of digits writes some bytes (`isText_iff_writes`), which are what it
is read as (`decode_of_writes`). Any other text is refused, for its length or for the first byte
that is no digit (`decode_odd`, `decode_invalid`).
-/

namespace AccessoryLink.Hex

/-- The digits of either case. -/
def digits : List Char :=
  ['0', '1', '2', '3', '4', '5', '6', '7', '8', '9',
    'a', 'b', 'c', 'd', 'e', 'f', 'A', 'B', 'C', 'D', 'E', 'F']

/-- Whether a byte stands for a digit. -/
def IsDigit (b : UInt8) : Prop := Char.ofNat b.toNat ∈ digits

instance : DecidablePred IsDigit := fun b =>
  inferInstanceAs (Decidable (Char.ofNat b.toNat ∈ digits))

/-- Whether a text is an even number of digits. -/
def IsText (text : String) : Prop := text.length % 2 = 0 ∧ ∀ c ∈ text.toList, c ∈ digits

/-- Whether a text spells some bytes, each of its digits in either case. -/
def Writes (text : String) (bytes : List UInt8) : Prop := text.toLower = encode bytes

/-! ## Characters and bytes -/

theorem utf8_toList (text : String) : utf8 text.toList = text.toUTF8.data.toList := by
  rw [String.toUTF8_eq_toByteArray, ← String.utf8Encode_toList, List.utf8Encode,
    List.data_toByteArray]
  rfl

theorem length_utf8 (text : String) : (utf8 text.toList).length = text.utf8ByteSize := by
  rw [utf8_toList]
  rfl

/-- The digits are the bytes that have a value. -/
theorem byteValue?_eq_none_iff {b : UInt8} : byteValue? b = none ↔ ¬ IsDigit b := by
  have all : ∀ n, n < 256 →
      (byteValue? (UInt8.ofNat n) = none ↔ ¬ IsDigit (UInt8.ofNat n)) := by decide +kernel
  simpa using all b.toNat b.toNat_lt

theorem isDigit_iff {b : UInt8} : IsDigit b ↔ ∃ n, byteValue? b = some n := by
  rw [← Option.ne_none_iff_exists', Ne, byteValue?_eq_none_iff, not_not]

theorem lt_of_mem_digits {c : Char} (digit : c ∈ digits) : c.toNat < 128 := by
  have all : digits.all (fun c => c.toNat < 128) = true := by decide
  exact of_decide_eq_true (List.all_eq_true.mp all c digit)

theorem lt_of_isDigit {b : UInt8} (digit : IsDigit b) : b.toNat < 128 := by
  have bound := b.toNat_lt
  have valid : b.toNat.isValidChar := .inl (by omega)
  have same : (Char.ofNat b.toNat).toNat = b.toNat := by
    rw [Char.ofNat, dif_pos valid]
    rfl
  exact same ▸ lt_of_mem_digits digit

theorem utf8EncodeChar_of_lt {c : Char} (small : c.toNat < 128) :
    String.utf8EncodeChar c = [UInt8.ofNat c.toNat] := by
  have low : c.val.toNat ≤ 127 := Nat.le_of_lt_succ small
  rw [String.utf8EncodeChar, if_pos low]
  rfl

/-- A character that takes several bytes has one that is no digit: the first. -/
theorem exists_not_isDigit {c : Char} (large : 128 ≤ c.toNat) :
    ∃ b ∈ String.utf8EncodeChar c, ¬ IsDigit b := by
  have high : ¬ c.val.toNat ≤ 127 := Nat.not_le.mpr large
  have bound : c.val.toNat < 1114112 := by
    have valid := c.valid
    simp only [UInt32.isValidChar, Nat.isValidChar] at valid
    omega
  have first : ∃ b rest, String.utf8EncodeChar c = b :: rest ∧ 128 ≤ b.toNat := by
    rw [String.utf8EncodeChar, if_neg high]
    split_ifs
    all_goals
      refine ⟨_, _, rfl, ?_⟩
      simp only [UInt8.toNat_ofNat']
      omega
  obtain ⟨b, rest, same, above⟩ := first
  refine ⟨b, by rw [same]; exact List.mem_cons_self, fun digit => ?_⟩
  exact absurd (lt_of_isDigit digit) (Nat.not_lt.mpr above)

/-- A character is a digit just when all its bytes are. -/
theorem mem_digits_iff {c : Char} : c ∈ digits ↔ ∀ b ∈ String.utf8EncodeChar c, IsDigit b := by
  by_cases small : c.toNat < 128
  · have back : Char.ofNat (UInt8.ofNat c.toNat).toNat = c := by
      rw [UInt8.toNat_ofNat', Nat.mod_eq_of_lt (Nat.lt_trans small (by decide)), Char.ofNat_toNat]
    rw [utf8EncodeChar_of_lt small, List.forall_mem_singleton, IsDigit, back]
  · constructor
    · intro digit
      exact absurd (lt_of_mem_digits digit) small
    · intro all
      obtain ⟨b, inside, bad⟩ := exists_not_isDigit (Nat.not_lt.mp small)
      exact absurd (all b inside) bad

theorem length_utf8_of_digits {chars : List Char} (all : ∀ c ∈ chars, c ∈ digits) :
    (utf8 chars).length = chars.length := by
  induction chars with
  | nil => rfl
  | cons c rest ih =>
      obtain ⟨first, others⟩ := List.forall_mem_cons.mp all
      have one := utf8EncodeChar_of_lt (lt_of_mem_digits first)
      have later := ih others
      rw [utf8] at later ⊢
      rw [List.flatMap_cons, one, List.singleton_append, List.length_cons, later, List.length_cons]

/-- Whether a text is an even number of digits can be seen from its bytes. -/
theorem isText_iff {text : String} :
    IsText text ↔ text.utf8ByteSize % 2 = 0 ∧ ∀ b ∈ text.toUTF8.data.toList, IsDigit b := by
  have same : (∀ b ∈ utf8 text.toList, IsDigit b) ↔ ∀ c ∈ text.toList, c ∈ digits := by
    simp only [utf8, List.mem_flatMap, mem_digits_iff]
    constructor
    · intro all c inside b byte
      exact all b ⟨c, inside, byte⟩
    · rintro all b ⟨c, inside, byte⟩
      exact all c inside b byte
  rw [IsText, ← utf8_toList, ← length_utf8, same]
  constructor
  · rintro ⟨even, all⟩
    rw [length_utf8_of_digits all, String.length_toList]
    exact ⟨even, all⟩
  · rintro ⟨even, all⟩
    rw [length_utf8_of_digits all, String.length_toList] at even
    exact ⟨even, all⟩

/-! ## Spellings -/

theorem encodeChars_cons (b : UInt8) (rest : List UInt8) :
    encodeChars (b :: rest) =
      digit (b.toNat / 16) :: digit (b.toNat % 16) :: encodeChars rest := rfl

theorem writes_iff {text : String} {bytes : List UInt8} :
    Writes text bytes ↔ text.toList.map Char.toLower = encodeChars bytes := by
  have lower : text.toLower.toList = text.toList.map Char.toLower := String.toList_map
  rw [Writes, ← String.toList_inj, lower, encode, String.toList_ofList]

/-- The text of some bytes is the lower-case one of their spellings. -/
theorem toLower_encode (bytes : List UInt8) : (encode bytes).toLower = encode bytes := by
  have lower : ∀ n, n < 16 → (digit n).toLower = digit n := by decide
  apply writes_iff.mpr
  rw [encode, String.toList_ofList]
  induction bytes with
  | nil => rfl
  | cons b rest ih =>
      have bound := b.toNat_lt
      rw [encodeChars_cons, List.map_cons, List.map_cons, ih, lower _ (by omega),
        lower _ (by omega)]

/-- A character whose lower case is a digit is one byte, and that has the value of the digit. -/
theorem byteValue?_of_toLower {c : Char} {n : Nat} (small : n < 16) (lower : c.toLower = digit n) :
    String.utf8EncodeChar c = [UInt8.ofNat c.toNat] ∧
      byteValue? (UInt8.ofNat c.toNat) = some n := by
  have ascii : c.toNat < 128 := by
    by_cases upper : c.val ≥ 'A'.val ∧ c.val ≤ 'Z'.val
    · have bound : c.toNat ≤ 90 := UInt32.le_iff_toNat_le.mp upper.2
      omega
    · have all : ∀ n, n < 16 → (digit n).toNat < 128 := by decide
      have same : c.toLower = c := dif_neg upper
      rw [← same, lower]
      exact all n small
  have all : ∀ k, k < 128 → ∀ n, n < 16 → (Char.ofNat k).toLower = digit n →
      byteValue? (UInt8.ofNat k) = some n := by decide +kernel
  exact ⟨utf8EncodeChar_of_lt ascii, all c.toNat ascii n small (by rwa [Char.ofNat_toNat])⟩

theorem mem_digits_of_toLower {c : Char} {n : Nat} (small : n < 16)
    (lower : c.toLower = digit n) : c ∈ digits := by
  obtain ⟨one, value⟩ := byteValue?_of_toLower small lower
  rw [mem_digits_iff, one, List.forall_mem_singleton]
  exact isDigit_iff.mpr ⟨n, value⟩

theorem exists_toLower {c : Char} (digit : c ∈ digits) : ∃ n < 16, c.toLower = Hex.digit n := by
  have all : digits.all (fun c => (List.range 16).any fun n => c.toLower = Hex.digit n) = true := by
    decide
  obtain ⟨n, small, lower⟩ := List.any_eq_true.mp (List.all_eq_true.mp all c digit)
  exact ⟨n, List.mem_range.mp small, of_decide_eq_true lower⟩

/-- Two digits are the spelling of a byte. -/
theorem map_toLower_eq_cons {chars : List Char} {b : UInt8} {bytes : List UInt8}
    (lower : chars.map Char.toLower = encodeChars (b :: bytes)) :
    ∃ first second rest, chars = first :: second :: rest ∧
      first.toLower = digit (b.toNat / 16) ∧ second.toLower = digit (b.toNat % 16) ∧
      rest.map Char.toLower = encodeChars bytes := by
  rw [encodeChars_cons] at lower
  obtain ⟨first, later, rfl, high, lower⟩ := List.map_eq_cons_iff.mp lower
  obtain ⟨second, rest, rfl, low, lower⟩ := List.map_eq_cons_iff.mp lower
  exact ⟨first, second, rest, rfl, high, low, lower⟩

/-- The spellings of byte lists are the texts of an even number of digits. -/
theorem isText_iff_writes {text : String} : IsText text ↔ ∃ bytes, Writes text bytes := by
  simp only [IsText, writes_iff, ← String.length_toList]
  generalize text.toList = chars
  constructor
  · rintro ⟨even, all⟩
    induction chars using List.twoStepInduction with
    | nil => exact ⟨[], rfl⟩
    | singleton c => simp at even
    | cons_cons c d rest ih =>
        obtain ⟨first, second, others⟩ := by simpa using all
        obtain ⟨high, small, high_eq⟩ := exists_toLower first
        obtain ⟨low, tiny, low_eq⟩ := exists_toLower second
        obtain ⟨bytes, lower⟩ := ih (by simpa [Nat.add_assoc] using even) others
        refine ⟨UInt8.ofNat (16 * high + low) :: bytes, ?_⟩
        have value : (UInt8.ofNat (16 * high + low)).toNat = 16 * high + low := by
          rw [UInt8.toNat_ofNat', Nat.mod_eq_of_lt (by omega)]
        rw [encodeChars_cons, value, List.map_cons, List.map_cons, lower, high_eq, low_eq,
          show (16 * high + low) / 16 = high by omega, show (16 * high + low) % 16 = low by omega]
  · rintro ⟨bytes, lower⟩
    induction bytes generalizing chars with
    | nil =>
        obtain rfl := List.map_eq_nil_iff.mp lower
        simp
    | cons b bytes ih =>
        have bound := b.toNat_lt
        obtain ⟨first, second, rest, rfl, high, low, lower⟩ := map_toLower_eq_cons lower
        obtain ⟨even, all⟩ := ih rest lower
        refine ⟨by simpa [Nat.add_assoc] using even, ?_⟩
        rw [List.forall_mem_cons, List.forall_mem_cons]
        exact ⟨mem_digits_of_toLower (by omega) high, mem_digits_of_toLower (by omega) low, all⟩

/-! ## Reading -/

/-- Two digits are read as the byte that they spell. -/
theorem decodeFrom_pair {a b : UInt8} {high low : Nat} (first : byteValue? a = some high)
    (second : byteValue? b = some low) (index : Nat) (rest : List UInt8) :
    decodeFrom index (a :: b :: rest) =
      (decodeFrom (index + 2) rest).map (UInt8.ofNat (16 * high + low) :: ·) := by
  simp only [decodeFrom, first, second]
  cases decodeFrom (index + 2) rest <;> rfl

/-- The first byte that is no digit is told, with the number of bytes before it. -/
theorem decodeFrom_invalid {byte : UInt8} (bad : ¬ IsDigit byte) {front : List UInt8}
    (good : ∀ b ∈ front, IsDigit b) {back : List UInt8}
    (even : (front ++ byte :: back).length % 2 = 0) (index : Nat) :
    decodeFrom index (front ++ byte :: back) =
      .error (.invalidDigit byte (index + front.length)) := by
  have none := byteValue?_eq_none_iff.mpr bad
  induction front using List.twoStepInduction generalizing index with
  | nil =>
      cases back with
      | nil => simp at even
      | cons next back => simp [decodeFrom, none]
  | singleton a =>
      obtain ⟨high, first⟩ := isDigit_iff.mp (good a List.mem_cons_self)
      simp [decodeFrom, none, first]
  | cons_cons a b rest ih =>
      rw [List.forall_mem_cons, List.forall_mem_cons] at good
      obtain ⟨isFirst, isSecond, others⟩ := good
      obtain ⟨high, first⟩ := isDigit_iff.mp isFirst
      obtain ⟨low, second⟩ := isDigit_iff.mp isSecond
      have fewer : (rest ++ byte :: back).length % 2 = 0 := by
        simp only [List.cons_append, List.length_cons] at even
        omega
      have later := ih others fewer (index + 2)
      rw [List.cons_append, List.cons_append, decodeFrom_pair first second, later]
      simp [Except.map, Nat.add_assoc, Nat.add_comm 2]

theorem decodeFrom_of_toLower {chars : List Char} {bytes : List UInt8}
    (lower : chars.map Char.toLower = encodeChars bytes) (index : Nat) :
    decodeFrom index (utf8 chars) = .ok bytes := by
  induction bytes generalizing chars index with
  | nil =>
      obtain rfl := List.map_eq_nil_iff.mp lower
      rfl
  | cons b bytes ih =>
      have bound := b.toNat_lt
      obtain ⟨first, second, rest, rfl, high, low, lower⟩ := map_toLower_eq_cons lower
      obtain ⟨one, firstValue⟩ := byteValue?_of_toLower (by omega) high
      obtain ⟨other, secondValue⟩ := byteValue?_of_toLower (by omega) low
      have pair : utf8 (first :: second :: rest) =
          UInt8.ofNat first.toNat :: UInt8.ofNat second.toNat :: utf8 rest := by
        simp [utf8, one, other]
      rw [pair, decodeFrom_pair firstValue secondValue, ih lower, Nat.div_add_mod,
        UInt8.ofNat_toNat]
      rfl

/-- Whatever the case of its digits is, a text is read as the bytes that it spells. -/
theorem decode_of_writes {text : String} {bytes : List UInt8} (writes : Writes text bytes) :
    decode text = .ok bytes := by
  have even : ¬ (utf8 text.toList).length % 2 = 1 := by
    have even := (isText_iff.mp (isText_iff_writes.mpr ⟨bytes, writes⟩)).1
    rw [length_utf8]
    omega
  rw [decode, if_neg even]
  exact decodeFrom_of_toLower (writes_iff.mp writes) 0

theorem decode_odd {text : String} (odd : text.utf8ByteSize % 2 = 1) :
    decode text = .error .oddLength := by
  rw [← length_utf8] at odd
  rw [decode, if_pos odd]

/-- A text of an even number of bytes that is not read has a first byte that is no digit, and that
is told. -/
theorem decode_invalid {text : String} (even : text.utf8ByteSize % 2 = 0) (other : ¬ IsText text) :
    ∃ front byte back, text.toUTF8.data.toList = front ++ byte :: back ∧
      (∀ b ∈ front, IsDigit b) ∧ ¬ IsDigit byte ∧
      decode text = .error (.invalidDigit byte front.length) := by
  have bad : ∃ b ∈ text.toUTF8.data.toList, ¬ IsDigit b := by
    by_contra none
    exact other (isText_iff.mpr ⟨even, by simpa using none⟩)
  obtain ⟨byte, found⟩ : ∃ byte,
      text.toUTF8.data.toList.find? (fun b => decide (¬ IsDigit b)) = some byte := by
    rw [← Option.isSome_iff_exists, List.find?_isSome]
    simpa using bad
  obtain ⟨bad, front, back, split, good⟩ := List.find?_eq_some_iff_append.mp found
  have bad : ¬ IsDigit byte := by simpa using bad
  have good : ∀ b ∈ front, IsDigit b := by simpa using good
  refine ⟨front, byte, back, split, good, bad, ?_⟩
  rw [← length_utf8] at even
  have notOdd : ¬ (utf8 text.toList).length % 2 = 1 := by omega
  rw [decode, if_neg notOdd]
  rw [utf8_toList, split] at even ⊢
  rw [decodeFrom_invalid bad good even, Nat.zero_add]

end AccessoryLink.Hex
