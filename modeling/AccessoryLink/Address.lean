import AccessoryLink.Hex

/-!
# Device addresses

A peer is known by six bytes. Their text form joins upper-case byte pairs by colons; reading is more
liberal, since each field may be any spelling of a hexadecimal byte. `parse_text` says that the text
of an address reads back as that address.
-/

namespace AccessoryLink

/-- The six bytes that identify a peer. -/
structure Address where
  bytes : List UInt8
  length_bytes : bytes.length = 6
  deriving DecidableEq

namespace Address

/-- The address with these bytes, if there are six. -/
def ofBytes? (bytes : List UInt8) : Option Address :=
  if six : bytes.length = 6 then some ⟨bytes, six⟩ else none

theorem ofBytes?_eq_some_iff {bytes : List UInt8} {a : Address} :
    ofBytes? bytes = some a ↔ a.bytes = bytes := by
  unfold ofBytes?
  split
  · constructor
    · rintro ⟨⟩; rfl
    · rintro rfl; rfl
  · rename_i other
    constructor
    · nofun
    · rintro rfl; exact absurd a.length_bytes other

@[simp] theorem ofBytes?_bytes (a : Address) : ofBytes? a.bytes = some a :=
  ofBytes?_eq_some_iff.2 rfl

/-- The address that stands for any adapter. -/
def any : Address := ⟨List.replicate 6 0, rfl⟩

instance : Inhabited Address := ⟨any⟩

/-- The bytes read as one number, most significant first. Sorting by it is sorting by bytes. -/
def value (a : Address) : Nat := a.bytes.foldl (fun n b => 256 * n + b.toNat) 0

/-- Addresses in the order of their bytes. -/
def sort (addresses : List Address) : List Address :=
  addresses.mergeSort fun a b => a.value ≤ b.value

/-- A list of addresses with one more at its end, unless it has that one already. -/
def adjoin (addresses : List Address) (a : Address) : List Address :=
  if a ∈ addresses then addresses else addresses ++ [a]

@[simp] theorem mem_adjoin {addresses : List Address} {a b : Address} :
    b ∈ adjoin addresses a ↔ b ∈ addresses ∨ b = a := by
  rw [adjoin]
  split
  · next known =>
    constructor
    · exact .inl
    · rintro (there | rfl)
      · exact there
      · exact known
  · simp

theorem nodup_adjoin {addresses : List Address} (distinct : addresses.Nodup) (a : Address) :
    (adjoin addresses a).Nodup := by
  rw [adjoin]
  split
  · exact distinct
  · next fresh =>
    refine List.nodup_append.2 ⟨distinct, by simp, ?_⟩
    rintro b there c last rfl
    exact fresh (List.mem_singleton.1 last ▸ there)

/-! ## Text -/

/-- Joins fields by colons. -/
def joinFields : List (List Char) → List Char
  | [] => []
  | [field] => field
  | field :: rest => field ++ ':' :: joinFields rest

/-- Cuts a text at every colon. The result is never empty. -/
def splitFields : List Char → List (List Char)
  | [] => [[]]
  | c :: rest =>
    if c = ':' then [] :: splitFields rest
    else
      match splitFields rest with
      | [] => [[c]]
      | field :: fields => (c :: field) :: fields

/-- The text of an address: upper-case byte pairs joined by colons. -/
def chars (a : Address) : List Char :=
  joinFields (a.bytes.map (Hex.byteDigits Hex.upperDigit))

/-- The text of an address. -/
def text (a : Address) : String := String.ofList a.chars

instance : ToString Address := ⟨text⟩

instance : Repr Address := ⟨fun a _ => a.text⟩

/-- The number that a sequence of hexadecimal digits writes, after the digits that gave `acc`. -/
def digitsValue? (acc : Nat) : List Char → Option Nat
  | [] => some acc
  | c :: rest =>
    match Hex.value? c with
    | some d => digitsValue? (16 * acc + d) rest
    | none => none

/-- A text without the plus sign in front of it, if there is one. -/
def dropPlus : List Char → List Char
  | [] => []
  | c :: rest => if c = '+' then rest else c :: rest

/-- Reads one byte field: a plus sign or none, then digits of either case that write at most 255. -/
def byteField? (field : List Char) : Option UInt8 :=
  let digits := dropPlus field
  if digits = [] then none
  else
    match digitsValue? 0 digits with
    | some n => if n ≤ 255 then some (UInt8.ofNat n) else none
    | none => none

/-- A text that is no address, with the part of it that is wrong. -/
structure Malformed where
  fragment : String
  deriving Repr, DecidableEq

/-- How a malformed address is reported. -/
def Malformed.message (m : Malformed) : String := "invalid Bluetooth address: " ++ m.fragment

/-- The bytes of all fields, or the first field that is none. -/
def fieldBytes : List (List Char) → Except Malformed (List UInt8)
  | [] => .ok []
  | field :: rest =>
    match byteField? field with
    | none => .error ⟨String.ofList field⟩
    | some b =>
      match fieldBytes rest with
      | .ok bytes => .ok (b :: bytes)
      | .error m => .error m

/-- Reads an address. A bad field is reported before a wrong number of fields. -/
def parse (text : String) : Except Malformed Address :=
  match fieldBytes (splitFields text.toList) with
  | .error m => .error m
  | .ok bytes =>
    match ofBytes? bytes with
    | some a => .ok a
    | none => .error ⟨text⟩

/-- Reads an address without saying what is wrong with a text that is none. -/
def parse? (text : String) : Option Address := (parse text).toOption

/-! ## Reading what was written -/

theorem upperDigit_facts : ∀ n, n < 16 →
    Hex.value? (Hex.upperDigit n) = some n ∧ Hex.upperDigit n ≠ ':' ∧ Hex.upperDigit n ≠ '+' := by
  decide

theorem splitFields_append {field : List Char} (rest : List Char) (plain : ∀ c ∈ field, c ≠ ':') :
    splitFields (field ++ ':' :: rest) = field :: splitFields rest := by
  induction field with
  | nil => simp [splitFields]
  | cons c cs ih =>
    have other : c ≠ ':' := plain c (List.mem_cons_self ..)
    have := ih fun x among => plain x (List.mem_cons_of_mem _ among)
    simp [splitFields, other, this]

theorem splitFields_single {field : List Char} (plain : ∀ c ∈ field, c ≠ ':') :
    splitFields field = [field] := by
  induction field with
  | nil => rfl
  | cons c cs ih =>
    have other : c ≠ ':' := plain c (List.mem_cons_self ..)
    have := ih fun x among => plain x (List.mem_cons_of_mem _ among)
    simp [splitFields, other, this]

theorem splitFields_joinFields {fields : List (List Char)} (some : fields ≠ [])
    (plain : ∀ field ∈ fields, ∀ c ∈ field, c ≠ ':') :
    splitFields (joinFields fields) = fields := by
  induction fields with
  | nil => exact absurd rfl some
  | cons field rest ih =>
    have first := plain field (List.mem_cons_self ..)
    match rest with
    | [] => exact splitFields_single first
    | next :: more =>
      have := ih (by simp) fun f among => plain f (List.mem_cons_of_mem _ among)
      rw [joinFields, splitFields_append _ first, this]
      simp

theorem byteField?_byteDigits (b : UInt8) :
    byteField? (Hex.byteDigits Hex.upperDigit b) = some b := by
  have small := b.toNat_lt
  obtain ⟨high, -, unsigned⟩ := upperDigit_facts (b.toNat / 16) (by omega)
  obtain ⟨low, -, -⟩ := upperDigit_facts (b.toNat % 16) (by omega)
  have value : 16 * (b.toNat / 16) + b.toNat % 16 = b.toNat := by omega
  have fits : b.toNat ≤ 255 := by omega
  simp [byteField?, Hex.byteDigits, dropPlus, digitsValue?, unsigned, high, low, value, fits]

theorem fieldBytes_map_byteDigits (bytes : List UInt8) :
    fieldBytes (bytes.map (Hex.byteDigits Hex.upperDigit)) = .ok bytes := by
  induction bytes with
  | nil => rfl
  | cons b bs ih => simp [fieldBytes, byteField?_byteDigits, ih]

/-- The text of an address reads back as that address. -/
theorem parse_text (a : Address) : parse a.text = .ok a := by
  have split : splitFields a.chars = a.bytes.map (Hex.byteDigits Hex.upperDigit) := by
    refine splitFields_joinFields ?_ ?_
    · intro empty
      have lengths := congrArg List.length empty
      simp [a.length_bytes] at lengths
    · intro field among c there
      obtain ⟨b, -, rfl⟩ := List.mem_map.1 among
      have small := b.toNat_lt
      have high := (upperDigit_facts (b.toNat / 16) (by omega)).2.1
      have low := (upperDigit_facts (b.toNat % 16) (by omega)).2.1
      simp only [Hex.byteDigits, List.mem_cons, List.not_mem_nil, or_false] at there
      rcases there with rfl | rfl <;> assumption
  simp [parse, text, split, fieldBytes_map_byteDigits]

end Address

end AccessoryLink
