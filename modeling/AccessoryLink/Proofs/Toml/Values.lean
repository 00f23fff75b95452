import AccessoryLink.Proofs.Toml.Strings
import AccessoryLink.Toml.Reader

/-!
# Values and keys read back as written

`Writes` says that some characters are read as a value, whatever line they stand at the end of. It
holds of every string, every truth value, every number that the reader can hold and the array of
nothing. Keys are words here: they are written without quotes and have one part (`key?_word`).
-/

namespace AccessoryLink.Toml

/-! ## Between the words -/

theorem dropBlanks_cons {c : Char} (blank : isBlank c = false) (rest : List Char) :
    dropBlanks (c :: rest) = c :: rest := by
  simp [dropBlanks, blank]

@[simp] theorem dropBlanks_space (rest : List Char) :
    dropBlanks (' ' :: rest) = dropBlanks rest := rfl

@[simp] theorem dropBlanks_break (rest : List Char) : dropBlanks ('\n' :: rest) = '\n' :: rest :=
  rfl

@[simp] theorem endLine?_break (rest : List Char) : endLine? ('\n' :: rest) = some rest := rfl

/-! ## Numbers -/

theorem writeNat_eq (n : Nat) : writeNat n = Nat.toDigits 10 n := by
  rw [writeNat, Nat.toString_eq_ofList_toDigits, String.toList_ofList]

theorem isDigit_of_mem_writeNat {n : Nat} {c : Char} (among : c ∈ writeNat n) : c.isDigit := by
  rw [writeNat_eq] at among
  exact Nat.isDigit_of_mem_toDigits (by decide) (by decide) among

theorem writeNat_ne_nil (n : Nat) : writeNat n ≠ [] := by
  rw [writeNat_eq]
  exact Nat.toDigits_ne_nil

/-- No zero stands in front of a number. -/
theorem head?_writeNat {n : Nat} (positive : 0 < n) : (writeNat n).head? ≠ some '0' := by
  rw [writeNat_eq]
  induction n using Nat.strongRecOn with
  | _ n ih =>
      obtain small | large := Nat.lt_or_ge n 10
      · have digit : ∀ d, d < 10 → 0 < d → d.digitChar ≠ '0' := by decide
        rw [Nat.toDigits_of_lt_base small]
        simpa using digit n small positive
      · have front : 0 < n / 10 := Nat.div_pos large (by decide)
        have before := ih (n / 10) (Nat.div_lt_self positive (by decide)) front
        rw [Nat.toDigits_of_base_le (by decide) large,
          List.head?_append, Option.or_of_isSome (by simp [Nat.toDigits_ne_nil])]
        exact before

theorem value?_of_isDigit {c : Char} (digit : c.isDigit) :
    Hex.value? c = some (c.toNat - 48) ∧ c.toNat - 48 < 10 := by
  simp only [Char.isDigit, Bool.and_eq_true, decide_eq_true_eq] at digit
  refine ⟨if_pos digit, ?_⟩
  have most : c.toNat ≤ 57 := digit.2
  omega

theorem isDigitOf_of_isDigit {c : Char} (digit : c.isDigit) : isDigitOf 10 c := by
  obtain ⟨value, small⟩ := value?_of_isDigit digit
  simp [isDigitOf, value, small]

theorem isDigitRun_of_all {isDigit : Char → Bool} {word : List Char} {after : Bool}
    (digits : ∀ c ∈ word, isDigit c) (some : after = true ∨ word ≠ []) :
    isDigitRun isDigit after word := by
  induction word generalizing after with
  | nil => simpa [isDigitRun] using some
  | cons c rest ih =>
      obtain ⟨first, later⟩ := List.forall_mem_cons.mp digits
      simp [isDigitRun, first, ih later (.inl rfl)]

theorem digitsValue_concat (base : Nat) (word : List Char) {c : Char} {d : Nat}
    (value : Hex.value? c = some d) :
    digitsValue base (word ++ [c]) = base * digitsValue base word + d := by
  simp [digitsValue, value]

theorem digitsValue_writeNat (n : Nat) : digitsValue 10 (writeNat n) = n := by
  have digit : ∀ d, d < 10 → Hex.value? d.digitChar = some d := by decide
  rw [writeNat_eq]
  induction n using Nat.strongRecOn with
  | _ n ih =>
      obtain small | large := Nat.lt_or_ge n 10
      · rw [Nat.toDigits_of_lt_base small]
        exact (digitsValue_concat 10 [] (digit n small)).trans (Nat.zero_add n)
      · rw [Nat.toDigits_of_base_le (by decide) large,
          digitsValue_concat 10 _ (digit (n % 10) (Nat.mod_lt n (by decide))),
          ih (n / 10) (by omega), Nat.div_add_mod]

theorem decimal?_writeNat (n : Nat) : decimal? (writeNat n) = some n := by
  have digits : ∀ c ∈ writeNat n, c.isDigit := fun c => isDigit_of_mem_writeNat
  have run : isDigitRun (isDigitOf 10) false (writeNat n) :=
    isDigitRun_of_all (fun c among => isDigitOf_of_isDigit (digits c among))
      (.inr (writeNat_ne_nil n))
  have front : (writeNat n == ['0'] || (writeNat n).head? != some '0') = true := by
    obtain rfl | positive := Nat.eq_zero_or_pos n
    · decide
    · simp [head?_writeNat positive]
  rw [decimal?, run, front, Bool.and_self, if_pos rfl, digitsValue_writeNat]

/-- A word of digits names no base. -/
theorem based?_of_isDigit {word : List Char} (digits : ∀ c ∈ word, c.isDigit) :
    based? word = none := by
  match word with
  | [] => rfl
  | [_] => rfl
  | zero :: letter :: rest =>
      have digit := digits letter (by simp)
      have other : letter ≠ 'x' ∧ letter ≠ 'o' ∧ letter ≠ 'b' := by
        refine ⟨?_, ?_, ?_⟩ <;> rintro rfl <;> exact absurd digit (by decide)
      simp [based?, other]

theorem splitSign_of_isDigit {word : List Char} (digits : ∀ c ∈ word, c.isDigit) :
    splitSign word = (false, word) := by
  cases word with
  | nil => rfl
  | cons c rest =>
      have digit := digits c List.mem_cons_self
      have other : c ≠ '-' ∧ c ≠ '+' := by
        refine ⟨?_, ?_⟩ <;> rintro rfl <;> exact absurd digit (by decide)
      simp [splitSign, other]

/-- A number is read back by its digits alone, without a sign or a base. -/
theorem integer?_writeNat {n : Nat} (fits : n < 1 <<< 128) :
    integer? (writeNat n) = some (n : Int) := by
  have digits : ∀ c ∈ writeNat n, c.isDigit := fun c => isDigit_of_mem_writeNat
  have bounds : -((1 <<< 127 : Nat) : Int) ≤ (n : Int) ∧ (n : Int) < ((1 <<< 128 : Nat) : Int) :=
    ⟨Int.le_trans (by decide) (Int.natCast_nonneg n), Int.ofNat_lt.mpr fits⟩
  simp only [integer?, based?_of_isDigit digits, splitSign_of_isDigit digits, decimal?_writeNat]
  simpa [Option.filter] using bounds

theorem scalar?_writeNat {n : Nat} (fits : n < 1 <<< 128) :
    scalar? (writeNat n) = some (.integer n) := by
  have digits : ∀ c ∈ writeNat n, c.isDigit := fun c => isDigit_of_mem_writeNat
  have other : writeNat n ≠ ['t', 'r', 'u', 'e'] ∧ writeNat n ≠ ['f', 'a', 'l', 's', 'e'] := by
    refine ⟨fun same => ?_, fun same => ?_⟩
    · exact absurd (digits 't' (by simp [same])) (by decide)
    · exact absurd (digits 'f' (by simp [same])) (by decide)
  rw [scalar?, if_neg other.1, if_neg other.2, integer?_writeNat fits]

/-! ## Values at the end of a line -/

/-- These characters are read as a value at the end of a line, and no blank is in front of it. -/
structure Writes (written : List Char) (value : Value) : Prop where
  reads (fuel : Nat) (rest : List Char) : 1 < fuel →
    value? fuel 0 (written ++ '\n' :: rest) = some (value, '\n' :: rest)
  dropBlanks_append (rest : List Char) :
    dropBlanks (written ++ '\n' :: rest) = written ++ '\n' :: rest

/-- A text that begins with a quote is read as a string. -/
theorem writes_string (text : String) : Writes (writeString text) (.string text) := by
  have quoted : ∃ rest, writeString text = '"' :: rest ∨ writeString text = '\'' :: rest := by
    rw [writeString, writeChars]
    split <;> simp
  refine ⟨fun fuel rest enough => ?_, ?_⟩
  · have outer : NoQuote ('\n' :: rest) := ⟨by simp, by simp⟩
    have read := string?_writeChars text.toList outer
    obtain ⟨fuel, rfl⟩ := Nat.exists_eq_succ_of_ne_zero (Nat.ne_zero_of_lt enough)
    rw [String.ofList_toList, ← writeString] at read
    obtain ⟨body, same | same⟩ := quoted <;> rw [same] at read ⊢ <;>
      simpa [value?] using read
  · obtain ⟨body, same | same⟩ := quoted <;> rw [same] <;> exact fun rest => rfl

/-- A word that is no string, array or table is read as the scalar that it is. -/
theorem writes_scalar {c : Char} {others : List Char} {value : Value}
    (read : scalar? (c :: others) = some value) (inner : (c :: others).any endsWord = false)
    (opens : c ≠ '[' ∧ c ≠ '\x7b' ∧ c ≠ '"' ∧ c ≠ '\'') : Writes (c :: others) value := by
  have goes : ∀ d ∈ c :: others, (!endsWord d) = true := by
    intro d among
    simpa using List.any_eq_false.mp inner d among
  refine ⟨fun fuel rest enough => ?_, fun rest => dropBlanks_cons ?_ _⟩
  · have cut : cutAt endsWord (c :: others ++ '\n' :: rest) = (c :: others, '\n' :: rest) := by
      rw [cutAt, List.takeWhile_append_of_pos goes, List.dropWhile_append_of_pos goes]
      simp [endsWord]
    obtain ⟨fuel, rfl⟩ := Nat.exists_eq_succ_of_ne_zero (Nat.ne_zero_of_lt enough)
    obtain ⟨bracket, brace, double, single⟩ := opens
    have plain : value? (fuel + 1) 0 (c :: others ++ '\n' :: rest) =
        plainValue? (c :: others ++ '\n' :: rest) := by
      simp [value?, bracket, brace, double, single]
    rw [plain, plainValue?, word, cut]
    simp [read]
  · have first := goes c List.mem_cons_self
    simp only [endsWord, Bool.not_eq_true', Bool.or_eq_false_iff] at first
    exact first.1.1.1.1.1.1

theorem writes_nat {n : Nat} (fits : n < 1 <<< 128) : Writes (writeNat n) (.integer n) := by
  have digits : ∀ c ∈ writeNat n, c.isDigit := fun c => isDigit_of_mem_writeNat
  have read := scalar?_writeNat fits
  obtain ⟨first, others, same⟩ := List.exists_cons_of_ne_nil (writeNat_ne_nil n)
  rw [same] at digits read ⊢
  have other {c d : Char} (among : c ∈ first :: others) (fails : d.isDigit = false) : c ≠ d := by
    rintro rfl
    simp [digits c among] at fails
  refine writes_scalar read (List.any_eq_false.mpr fun c among => ?_) ?_
  · simp only [endsWord, isBlank, Bool.or_eq_true, beq_iff_eq, not_or, and_assoc]
    exact ⟨other among rfl, other among rfl, other among rfl, other among rfl, other among rfl,
      other among rfl, other among rfl, other among rfl⟩
  · have head : first ∈ first :: others := List.mem_cons_self
    exact ⟨other head rfl, other head rfl, other head rfl, other head rfl⟩

theorem writes_bool (value : Bool) : Writes (writeBool value) (.boolean value) := by
  cases value with
  | false => exact writes_scalar rfl rfl (by decide)
  | true => exact writes_scalar rfl rfl (by decide)

theorem writes_empty : Writes ['[', ']'] (.array false []) := by
  refine ⟨fun fuel rest enough => ?_, fun rest => rfl⟩
  obtain ⟨fuel, rfl⟩ := Nat.exists_eq_add_of_le enough
  have closed : items? (fuel + 1) 1 (']' :: '\n' :: rest) = some ([], '\n' :: rest) := by
    simp [items?, dropTrivia?, isBlank]
  have same : value? (fuel + 1 + 1) 0 ('[' :: ']' :: '\n' :: rest) =
      some (.array false [], '\n' :: rest) := by simp [value?, maxDepth, closed]
  rwa [Nat.add_comm]

/-! ## Keys -/

/-- A key that needs no quotes. -/
structure IsWord (word : List Char) : Prop where
  chars : word.all isKeyChar = true
  nonempty : word ≠ []

/-- What a word cannot begin with. -/
theorem IsWord.cons {word : List Char} (isWord : IsWord word) : ∃ c rest, word = c :: rest ∧
    isBlank c = false ∧ isVacant [c] = false ∧ c ≠ '"' ∧ c ≠ '\'' ∧ c ≠ '[' := by
  obtain ⟨c, rest, rfl⟩ := List.exists_cons_of_ne_nil isWord.nonempty
  have key := List.all_eq_true.mp isWord.chars c List.mem_cons_self
  have other {d : Char} (fails : isKeyChar d = false) : c ≠ d := by
    rintro rfl
    simp [key] at fails
  refine ⟨c, rest, rfl, ?_, ?_, other rfl, other rfl, other rfl⟩
  · simp only [isBlank, Bool.or_eq_false_iff, beq_eq_false_iff_ne]
    exact ⟨other rfl, other rfl⟩
  · simp only [isVacant, Bool.or_eq_false_iff, beq_eq_false_iff_ne]
    exact ⟨⟨other rfl, other rfl⟩, other rfl⟩

theorem keyPart?_word {word rest : List Char} {c : Char} (isWord : IsWord word)
    (ends : isKeyChar c = false) :
    keyPart? (word ++ c :: rest) = some (String.ofList word, c :: rest) := by
  have taken : (word ++ c :: rest).takeWhile isKeyChar = word := by
    rw [List.takeWhile_append_of_pos (List.all_eq_true.mp isWord.chars)]
    simp [ends]
  have left : (word ++ c :: rest).dropWhile isKeyChar = c :: rest := by
    rw [List.dropWhile_append_of_pos (List.all_eq_true.mp isWord.chars)]
    simp [ends]
  obtain ⟨d, others, rfl, -, -, double, single, -⟩ := isWord.cons
  rw [List.cons_append] at taken left ⊢
  simp [keyPart?, double, single, taken, left]

/-- A word is a key of one part, up to what can be no part of a key. -/
theorem key?_word {word rest : List Char} {c : Char} (isWord : IsWord word)
    (ends : isKeyChar c = false) (single : (dropBlanks (c :: rest)).head? ≠ some '.') :
    key? (word ++ c :: rest).length (word ++ c :: rest) =
      some (([], String.ofList word), dropBlanks (c :: rest)) := by
  have front : dropBlanks (word ++ c :: rest) = word ++ c :: rest := by
    obtain ⟨d, others, rfl, blank, -⟩ := isWord.cons
    exact dropBlanks_cons blank _
  have length : (word ++ c :: rest).length = (word.length + rest.length) + 1 := by
    rw [List.length_append, List.length_cons, Nat.add_assoc]
  simp only [length, key?, front, keyPart?_word isWord ends]
  split
  · rename_i more dot
    rw [dot] at single
    exact absurd rfl single
  · rfl

end AccessoryLink.Toml
