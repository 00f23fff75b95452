/-!
# Hexadecimal text

Bytes are shown as pairs of lower-case digits and read back from pairs of digits of either case. The
text is read byte by byte of its UTF-8 form, so positions in errors count bytes and not characters.
`decode_encode` says that reading undoes writing.
-/

namespace AccessoryLink.Hex

/-- The digit of a value below sixteen, with `base` in the place of the digit ten. -/
def digitFrom (base : Nat) (n : Nat) : Char :=
  if n < 10 then Char.ofNat (48 + n) else Char.ofNat (base + (n - 10))

/-- The lower-case digit of a value below sixteen. -/
def digit (n : Nat) : Char := digitFrom 97 n

/-- The upper-case digit of a value below sixteen. -/
def upperDigit (n : Nat) : Char := digitFrom 65 n

/-- The value of a digit of either case. -/
def value? (c : Char) : Option Nat :=
  if '0' ≤ c ∧ c ≤ '9' then some (c.toNat - 48)
  else if 'a' ≤ c ∧ c ≤ 'f' then some (c.toNat - 87)
  else if 'A' ≤ c ∧ c ≤ 'F' then some (c.toNat - 55)
  else none

/-- A byte as two digits. -/
def byteDigits (digit : Nat → Char) (b : UInt8) : List Char :=
  [digit (b.toNat / 16), digit (b.toNat % 16)]

/-- Bytes as lower-case digits. -/
def encodeChars (bytes : List UInt8) : List Char :=
  bytes.flatMap (byteDigits digit)

/-- The lower-case text of some bytes. -/
def encode (bytes : List UInt8) : String := String.ofList (encodeChars bytes)

/-- Why a text is no sequence of bytes. -/
inductive Error where
  /-- The text has an odd number of bytes. -/
  | oddLength
  /-- The byte at this index is no digit, and all bytes before it are. -/
  | invalidDigit (byte : UInt8) (index : Nat)
  deriving Repr, DecidableEq

/-- The value of a byte read as a digit. -/
def byteValue? (b : UInt8) : Option Nat := value? (Char.ofNat b.toNat)

/-- Reads pairs of digits, the first of them at `index`. -/
def decodeFrom (index : Nat) : List UInt8 → Except Error (List UInt8)
  | [] => .ok []
  | [_] => .error .oddLength
  | a :: b :: rest =>
    match byteValue? a, byteValue? b with
    | none, _ => .error (.invalidDigit a index)
    | some _, none => .error (.invalidDigit b (index + 1))
    | some high, some low =>
      match decodeFrom (index + 2) rest with
      | .ok bytes => .ok (UInt8.ofNat (16 * high + low) :: bytes)
      | .error e => .error e

/-- The bytes of the UTF-8 form of a text. -/
def utf8 (chars : List Char) : List UInt8 := chars.flatMap String.utf8EncodeChar

/-- Reads a text of hexadecimal digits. An odd length is reported before any bad digit. -/
def decode (text : String) : Except Error (List UInt8) :=
  let bytes := utf8 text.toList
  if bytes.length % 2 = 1 then .error .oddLength else decodeFrom 0 bytes

/-- A digit is one byte in UTF-8, and that byte reads back as the digit's value. -/
theorem utf8_digit : ∀ n, n < 16 →
    ∃ b, String.utf8EncodeChar (digit n) = [b] ∧ byteValue? b = some n := by
  have digits : ∀ n, n < 16 →
      String.utf8EncodeChar (digit n) = [UInt8.ofNat (digit n).toNat] ∧
        byteValue? (UInt8.ofNat (digit n).toNat) = some n := by decide
  exact fun n small => ⟨_, digits n small⟩

@[simp] theorem utf8_append (s t : List Char) : utf8 (s ++ t) = utf8 s ++ utf8 t :=
  List.flatMap_append

/-- The two digits of a byte read back as that byte. -/
theorem decodeFrom_byteDigits (index : Nat) (b : UInt8) (rest : List UInt8) :
    decodeFrom index (utf8 (byteDigits digit b) ++ rest) =
      (decodeFrom (index + 2) rest).map (b :: ·) := by
  have small := b.toNat_lt
  obtain ⟨x, high, highValue⟩ := utf8_digit (b.toNat / 16) (by omega)
  obtain ⟨y, low, lowValue⟩ := utf8_digit (b.toNat % 16) (by omega)
  have value : UInt8.ofNat (16 * (b.toNat / 16) + b.toNat % 16) = b := by
    rw [Nat.div_add_mod, UInt8.ofNat_toNat]
  simp only [utf8, byteDigits, List.flatMap_cons, List.flatMap_nil, high, low, List.append_nil,
    List.nil_append, List.cons_append, decodeFrom, highValue, lowValue, value]
  cases decodeFrom (index + 2) rest <;> rfl

theorem decodeFrom_encodeChars (index : Nat) (bytes : List UInt8) :
    decodeFrom index (utf8 (encodeChars bytes)) = .ok bytes := by
  induction bytes generalizing index with
  | nil => rfl
  | cons b bs ih =>
    rw [encodeChars, List.flatMap_cons, utf8_append, decodeFrom_byteDigits]
    exact (congrArg (Except.map (b :: ·)) (ih (index + 2))).trans rfl

theorem length_utf8_encodeChars (bytes : List UInt8) :
    (utf8 (encodeChars bytes)).length = 2 * bytes.length := by
  induction bytes with
  | nil => rfl
  | cons b bs ih =>
    have small := b.toNat_lt
    obtain ⟨x, high, -⟩ := utf8_digit (b.toNat / 16) (by omega)
    obtain ⟨y, low, -⟩ := utf8_digit (b.toNat % 16) (by omega)
    rw [encodeChars, List.flatMap_cons, utf8_append, List.length_append, ← encodeChars, ih]
    simp only [utf8, byteDigits, List.flatMap_cons, List.flatMap_nil, high, low, List.append_nil,
      List.nil_append, List.cons_append, List.length_cons, List.length_nil]
    omega

/-- Reading the text of some bytes gives those bytes. -/
theorem decode_encode (bytes : List UInt8) : decode (encode bytes) = .ok bytes := by
  have even : ¬ (utf8 (encodeChars bytes)).length % 2 = 1 := by
    rw [length_utf8_encodeChars]; omega
  simp only [decode, encode, String.toList_ofList, if_neg even]
  exact decodeFrom_encodeChars 0 bytes

end AccessoryLink.Hex
