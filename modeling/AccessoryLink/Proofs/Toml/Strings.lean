import AccessoryLink.Toml.Strings
import AccessoryLink.Toml.Writer

/-!
# Strings read back as written

A written string is followed character by character: each piece that the writer makes of a
character only moves the scanner of its form and gives out that character (`Escapes.walk_piece`).
Quotes inside a text on several lines are not given out until the scanner knows that they do not
close it; `QuoteRuns` says how a run of them is kept back, for both forms on several lines. What
the choice of a form excludes (`StringForm.of`) is used only where a form has no escapes.
-/

namespace AccessoryLink.Toml

namespace Scanner

variable {S : Type} {scanner : Scanner S} {state middle last : S}

theorem walk_nil (scanner : Scanner S) (state : S) : scanner.walk state [] = some ([], state) :=
  rfl

/-- A walk over two texts one after the other. -/
theorem walk_append {first second front back : List Char}
    (before : scanner.walk state first = some (front, middle))
    (behind : scanner.walk middle second = some (back, last)) :
    scanner.walk state (first ++ second) = some (front ++ back, last) := by
  induction first generalizing state front with
  | nil =>
      simp only [walk, Option.some.injEq, Prod.mk.injEq] at before
      obtain ⟨rfl, rfl⟩ := before
      exact behind
  | cons c rest ih =>
      simp only [walk] at before
      simp only [List.cons_append, walk]
      split at before
      · obtain ⟨⟨tail, place⟩, walked, same⟩ := Option.map_eq_some_iff.mp before
        simp only [Prod.mk.injEq] at same
        obtain ⟨rfl, rfl⟩ := same
        simp [ih walked]
      · cases before

/-- A walk over one character that the scanner goes on behind. -/
theorem walk_cons {c : Char} {rest emit front : List Char}
    (moves : scanner.step state c = .next emit middle)
    (walked : scanner.walk middle rest = some (front, last)) :
    scanner.walk state (c :: rest) = some (emit ++ front, last) := by
  simp [walk, moves, walked]

end Scanner

/-! ## Escapes -/

/-- A scanner that knows escapes: what it does with a plain character, behind a backslash and
inside an escape. -/
structure Escapes {S : Type} (scanner : Scanner S) (text : S) (inside : Escape → S) : Prop where
  plain {c : Char} : isPlain c → c ≠ '"' → c ≠ '\\' → scanner.step text c = .next [c] text
  backslash : scanner.step text '\\' = .next [] (inside .letter)
  letter {c : Char} : ¬ isBlank c → c ≠ '\n' → c ≠ '\r' →
    scanner.step (inside .letter) c = Escape.step text inside .letter c
  code (left value : Nat) (c : Char) :
    scanner.step (inside (.code left value)) c = Escape.step text inside (.code left value) c

theorem basicString_escapes : Escapes basicString .text .escape where
  plain plain quote backslash := by simp [basicString, plain, quote, backslash]
  backslash := rfl
  letter _ _ _ := rfl
  code _ _ _ := rfl

theorem multiBasicString_escapes : Escapes multiBasicString .text .escape where
  plain {c} plain quote backslash := by
    have carriage : c ≠ '\r' := by
      rintro rfl
      exact absurd plain (by decide)
    simp [multiBasicString, multiBasicText, plain, quote, backslash, carriage]
  backslash := rfl
  letter blank line carriage := by simp [multiBasicString, blank, line, carriage]
  code _ _ _ := rfl

theorem value?_upperDigit : ∀ n, n < 16 → Hex.value? (Hex.upperDigit n) = some n := by decide

theorem charOfCode?_toNat (c : Char) : charOfCode? c.toNat = some c := by
  have valid : c.toNat.isValidChar := c.valid
  rw [charOfCode?, if_pos valid, Char.ofNat_toNat]

/-- What the writer makes of a character where it may not stand for itself. -/
def piece (lines : Bool) (c : Char) : List Char :=
  if c = '"' then ['\\', '"'] else escapeChar lines c

/-- The ways of writing a character in a basic form. -/
inductive Piece (lines : Bool) (c : Char) : List Char → Prop where
  | letter {letter : Char} (known : simpleEscape? letter = some c) : Piece lines c ['\\', letter]
  | line (several : lines = true) (same : c = '\n') : Piece lines c [c]
  | code (small : c.toNat < 256) : Piece lines c (codeEscape c)
  | plain (plain : isPlain c) (quote : c ≠ '"') (backslash : c ≠ '\\') : Piece lines c [c]

theorem piece_spec (lines : Bool) (c : Char) : Piece lines c (piece lines c) := by
  unfold piece
  split
  · rename_i quote
    exact .letter (by rw [quote]; rfl)
  · rename_i quote
    -- one case for each escape that is a letter, in the order of the writer
    unfold escapeChar
    split
    · rename_i same
      exact .letter (by rw [same]; rfl)
    split
    · rename_i same
      exact .letter (by rw [same]; rfl)
    split
    · rename_i same
      split
      · rename_i several
        exact same ▸ .line several same
      · exact .letter (by rw [same]; rfl)
    split
    · rename_i same
      exact .letter (by rw [same]; rfl)
    split
    · rename_i same
      exact .letter (by rw [same]; rfl)
    split
    · rename_i same
      exact .letter (by rw [same]; rfl)
    rename_i backslash
    split
    · exact .code (by omega)
    · rename_i control
      refine .plain ?_ quote backslash
      simp only [isPlain, Bool.or_eq_true, Bool.and_eq_true, decide_eq_true_eq, bne_iff_ne]
      omega

namespace Escapes

variable {S : Type} {scanner : Scanner S} {text : S} {inside : Escape → S}
variable (escapes : Escapes scanner text inside)
include escapes

/-- A letter that stands for a character. -/
theorem walk_letter {letter c : Char} (known : simpleEscape? letter = some c) :
    scanner.walk text ['\\', letter] = some ([c], text) := by
  have plain : ¬ isBlank letter ∧ letter ≠ '\n' ∧ letter ≠ '\r' := by
    refine ⟨?_, ?_, ?_⟩
    · intro blank
      simp only [isBlank, Bool.or_eq_true, beq_iff_eq] at blank
      obtain rfl | rfl := blank <;> cases known
    · rintro rfl
      cases known
    · rintro rfl
      cases known
  have moves : scanner.step (inside .letter) letter = .next [c] text := by
    rw [escapes.letter plain.1 plain.2.1 plain.2.2]
    simp [Escape.step, known]
  exact Scanner.walk_cons escapes.backslash (Scanner.walk_cons moves rfl)

/-- A control character that is written by its number. -/
theorem walk_code {c : Char} (small : c.toNat < 256) :
    scanner.walk text (codeEscape c) = some ([c], text) := by
  have high : c.toNat / 16 < 16 := by omega
  have low : c.toNat % 16 < 16 := Nat.mod_lt _ (by decide)
  have whole : 16 * (c.toNat / 16) + c.toNat % 16 = c.toNat := Nat.div_add_mod ..
  have letter : scanner.step (inside .letter) 'u' = .next [] (inside (.code 4 0)) :=
    escapes.letter (by decide) (by decide) (by decide)
  have digit {left value n : Nat} {digit : Char} (known : Hex.value? digit = some n)
      (more : 1 < left) : scanner.step (inside (.code left value)) digit =
        .next [] (inside (.code (left - 1) (16 * value + n))) := by
    rw [escapes.code]
    simp [Escape.step, known, Nat.not_le_of_lt more]
  have final : scanner.step (inside (.code 1 (c.toNat / 16))) (Hex.upperDigit (c.toNat % 16)) =
      .next [c] text := by
    rw [escapes.code]
    simp [Escape.step, value?_upperDigit _ low, whole, charOfCode?_toNat]
  refine Scanner.walk_cons escapes.backslash (Scanner.walk_cons letter ?_)
  refine Scanner.walk_cons (digit (n := 0) (by decide) (by decide)) ?_
  refine Scanner.walk_cons (digit (n := 0) (by decide) (by decide)) ?_
  refine Scanner.walk_cons (digit (value?_upperDigit _ high) (by decide)) ?_
  simpa using Scanner.walk_cons final rfl

/-- What the writer makes of a character reads back as that character. A line break may stand by
itself where the scanner takes it. -/
theorem walk_piece (lines : Bool)
    (line : lines = true → scanner.step text '\n' = .next ['\n'] text) (c : Char) :
    scanner.walk text (piece lines c) = some ([c], text) := by
  have spec := piece_spec lines c
  generalize piece lines c = written at spec ⊢
  cases spec with
  | letter known => exact escapes.walk_letter known
  | line several same =>
      subst same
      exact Scanner.walk_cons (line several) rfl
  | code small => exact escapes.walk_code small
  | plain plain quote backslash =>
      exact Scanner.walk_cons (escapes.plain plain quote backslash) rfl

end Escapes

/-- A piece never begins with a quote or a carriage return, and with a line break only where that
may stand for itself. -/
theorem piece_cons (lines : Bool) (c : Char) : ∃ d more, piece lines c = d :: more ∧ d ≠ '"' ∧
    d ≠ '\r' ∧ (d = '\n' → lines = true ∧ c = '\n') := by
  have spec := piece_spec lines c
  generalize piece lines c = written at spec ⊢
  cases spec with
  | letter known => exact ⟨_, _, rfl, by decide, by decide, fun same => by cases same⟩
  | code small => exact ⟨_, _, rfl, by decide, by decide, fun same => by cases same⟩
  | line several same =>
      subst same
      exact ⟨_, _, rfl, by decide, by decide, fun _ => ⟨several, rfl⟩⟩
  | plain plain quote backslash =>
      refine ⟨_, _, rfl, quote, ?_, ?_⟩
      · rintro rfl
        exact absurd plain (by decide)
      · rintro rfl
        exact absurd plain (by decide)

/-- A text is written piece by piece, but for quotes that may stand for themselves. -/
theorem escapeText_cons (lines : Bool) (limit n : Nat) (c : Char) (rest : List Char) :
    escapeText lines limit n (c :: rest) =
      if c = '"' ∧ n < limit then '"' :: escapeText lines limit (n + 1) rest
      else piece lines c ++ escapeText lines limit 0 rest := by
  by_cases quote : c = '"' <;> by_cases room : n < limit <;>
    simp [escapeText, piece, quote, room]

/-! ## Forms on one line -/

theorem walk_basicString (text : List Char) :
    basicString.walk .text (escapeText false 0 0 text) = some (text, .text) := by
  induction text with
  | nil => rfl
  | cons c rest ih =>
      rw [escapeText_cons, if_neg (by simp)]
      have first := basicString_escapes.walk_piece false nofun c
      exact Scanner.walk_append first ih

theorem walk_literalString {text : List Char}
    (plain : ∀ c ∈ text, isPlain c ∧ c ≠ '\'') :
    literalString.walk () text = some (text, ()) := by
  induction text with
  | nil => rfl
  | cons c rest ih =>
      obtain ⟨first, quote⟩ := plain c List.mem_cons_self
      have moves : literalString.step () c = .next [c] () := by
        simp [literalString, first, quote]
      exact Scanner.walk_cons moves (ih fun d among => plain d (List.mem_cons_of_mem _ among))

/-- Behind a string no quote follows, so that its closing quotes end there. -/
structure NoQuote (rest : List Char) : Prop where
  double : rest.head? ≠ some '"'
  single : rest.head? ≠ some '\''

/-- A form on one line does not open with three quotes, not even where it holds nothing. -/
theorem dropQuotes?_single {quote : Char} {body rest : List Char}
    (inner : body.head? ≠ some quote) (outer : rest.head? ≠ some quote) :
    dropQuotes? quote 3 (quote :: (body ++ quote :: rest)) = none := by
  cases body with
  | nil => cases rest <;> simp_all [dropQuotes?]
  | cons c cs => simp_all [dropQuotes?]

/-! ## Forms on several lines -/

/-- A scanner for a form on several lines: behind `n` quotes in a row they are kept back until it
shows whether they close the string. -/
structure QuoteRuns {S : Type} (scanner : Scanner S) (quote : Char) (behind : Nat → S) : Prop where
  first : scanner.step (behind 0) quote = .next [] (behind 1)
  again (n : Nat) (c : Char) : scanner.step (behind (n + 1)) c =
    closeRun quote (n + 1) behind (scanner.step (behind 0)) c
  atEnd (n : Nat) : scanner.atEnd (behind (n + 1)) = runAtEnd quote (n + 1)

/-- Where a scan stands behind so many quotes that are kept back. -/
def MultiBasicState.behind : Nat → MultiBasicState
  | 0 => .text
  | n + 1 => .quotes (n + 1)

/-- Where a scan stands behind so many quotes that are kept back. -/
def MultiLiteralState.behind : Nat → MultiLiteralState
  | 0 => .text
  | n + 1 => .quotes (n + 1)

theorem multiBasicString_runs : QuoteRuns multiBasicString '"' MultiBasicState.behind where
  first := rfl
  again _ _ := rfl
  atEnd _ := rfl

theorem multiLiteralString_runs :
    QuoteRuns multiLiteralString '\'' MultiLiteralState.behind where
  first := rfl
  again _ _ := rfl
  atEnd _ := rfl

namespace QuoteRuns

variable {S : Type} {scanner : Scanner S} {quote : Char} {behind : Nat → S}
variable (runs : QuoteRuns scanner quote behind)
include runs

theorem step_quote {n : Nat} (few : n < 4) :
    scanner.step (behind n) quote = .next [] (behind (n + 1)) := by
  cases n with
  | zero => exact runs.first
  | succ n => rw [runs.again, closeRun, if_pos rfl, if_neg (Nat.not_le_of_lt few)]

/-- Quotes that do not close the string are given out with what follows them. -/
theorem step_other {n : Nat} {c : Char} {emit : List Char} {state : S} (few : n ≤ 2)
    (other : c ≠ quote) (moves : scanner.step (behind 0) c = .next emit state) :
    scanner.step (behind n) c = .next (List.replicate n quote ++ emit) state := by
  cases n with
  | zero => exact moves
  | succ n =>
      rw [runs.again, closeRun, if_neg other, if_neg (Nat.not_le_of_lt (Nat.lt_succ_of_le few)),
        moves]

theorem walk_quote {n : Nat} {rest emit : List Char} {state : S} (few : n < 4)
    (walked : scanner.walk (behind (n + 1)) rest = some (emit, state)) :
    scanner.walk (behind n) (quote :: rest) = some (emit, state) :=
  Scanner.walk_cons (runs.step_quote few) walked

theorem walk_other {n : Nat} {c : Char} {rest emit : List Char} {state : S} (few : n ≤ 2)
    (other : c ≠ quote) (walked : scanner.walk (behind 0) (c :: rest) = some (emit, state)) :
    scanner.walk (behind n) (c :: rest) = some (List.replicate n quote ++ emit, state) := by
  simp only [Scanner.walk] at walked ⊢
  split at walked
  · rename_i front next moves
    obtain ⟨⟨tail, last⟩, later, same⟩ := Option.map_eq_some_iff.mp walked
    simp only [Prod.mk.injEq] at same
    obtain ⟨rfl, rfl⟩ := same
    simp [runs.step_other few other moves, later]
  · cases walked

/-- Three quotes close the string; up to two before them belong to it. -/
theorem run_close {n : Nat} {rest : List Char} (few : n ≤ 2) (outer : rest.head? ≠ some quote) :
    scanner.run (behind n) (quote :: quote :: quote :: rest) =
      some (List.replicate n quote, rest) := by
  have three : scanner.run (behind 3) rest = some ([], rest) := by
    cases rest with
    | nil => simp [Scanner.run, runs.atEnd 2, runAtEnd]
    | cons c rest =>
        have other : c ≠ quote := by simpa using outer
        simp [Scanner.run, runs.again 2, closeRun, other]
  have four : scanner.run (behind 4) rest = some ([quote], rest) := by
    cases rest with
    | nil => simp [Scanner.run, runs.atEnd 3, runAtEnd]
    | cons c rest =>
        have other : c ≠ quote := by simpa using outer
        simp [Scanner.run, runs.again 3, closeRun, other]
  obtain rfl | rfl | rfl : n = 0 ∨ n = 1 ∨ n = 2 := by omega
  · simp [Scanner.run, runs.step_quote, three]
  · simp [Scanner.run, runs.step_quote, four]
  · have five : scanner.step (behind 4) quote = .stop [quote, quote] := by
      rw [runs.again 3, closeRun, if_pos rfl, if_pos (Nat.le_refl 4)]
    simp [Scanner.run, runs.step_quote, five]

end QuoteRuns

/-- What is written is walked over from behind `n` quotes, and what is given out, with the quotes
kept back at its end, is those quotes and the text. -/
def Keeps {S : Type} (scanner : Scanner S) (quote : Char) (behind : Nat → S) (n : Nat)
    (written text : List Char) : Prop :=
  ∃ m emit, m ≤ 2 ∧ scanner.walk (behind n) written = some (emit, behind m) ∧
    emit ++ List.replicate m quote = List.replicate n quote ++ text

namespace Keeps

variable {S : Type} {scanner : Scanner S} {quote : Char} {behind : Nat → S}
variable {n : Nat} {written text : List Char}

theorem nil (few : n ≤ 2) : Keeps scanner quote behind n [] [] :=
  ⟨n, [], few, rfl, by simp⟩

variable (runs : QuoteRuns scanner quote behind)
include runs

/-- One more quote is kept back. -/
theorem quoted (few : n < 2) (rest : Keeps scanner quote behind (n + 1) written text) :
    Keeps scanner quote behind n (quote :: written) (quote :: text) := by
  obtain ⟨m, emit, bound, walked, told⟩ := rest
  refine ⟨m, emit, bound, runs.walk_quote (Nat.lt_of_lt_of_le few (by decide)) walked, ?_⟩
  rw [told, List.replicate_succ', List.append_assoc, List.singleton_append]

/-- A character other than a quote gives out the quotes before it. -/
theorem plain {c d : Char} {more : List Char} (few : n ≤ 2) (other : d ≠ quote)
    (first : scanner.walk (behind 0) (d :: more) = some ([c], behind 0))
    (rest : Keeps scanner quote behind 0 written text) :
    Keeps scanner quote behind n (d :: more ++ written) (c :: text) := by
  obtain ⟨m, emit, bound, walked, told⟩ := rest
  refine ⟨m, _, bound, Scanner.walk_append (runs.walk_other few other first) walked, ?_⟩
  rw [List.append_assoc, List.append_assoc, told]
  simp

/-- A text that is kept is read up to the quotes that close it. -/
theorem run (keeps : Keeps scanner quote behind 0 written text) {rest : List Char}
    (outer : rest.head? ≠ some quote) :
    scanner.run (behind 0) (written ++ quote :: quote :: quote :: rest) = some (text, rest) := by
  obtain ⟨m, emit, bound, walked, told⟩ := keeps
  rw [Scanner.run_append scanner _ walked, runs.run_close bound outer]
  simpa using told

end Keeps

theorem keeps_escapeText {n : Nat} (few : n ≤ 2) (text : List Char) :
    Keeps multiBasicString '"' MultiBasicState.behind n (escapeText true 2 n text) text := by
  induction text generalizing n with
  | nil => exact .nil few
  | cons c rest ih =>
      obtain ⟨d, more, written, quote, -⟩ := piece_cons true c
      have first : multiBasicString.walk (MultiBasicState.behind 0) (d :: more) =
          some ([c], MultiBasicState.behind 0) :=
        written ▸ multiBasicString_escapes.walk_piece true (fun _ => rfl) c
      have escaped : Keeps multiBasicString '"' MultiBasicState.behind n
          (piece true c ++ escapeText true 2 0 rest) (c :: rest) :=
        written ▸ .plain multiBasicString_runs few quote first (ih (Nat.zero_le 2))
      rw [escapeText_cons]
      split
      · rename_i alone
        rw [alone.1]
        exact .quoted multiBasicString_runs alone.2 (ih alone.2)
      · exact escaped

/-! ## The choice of a form -/

theorem le_longestRun (quote : Char) (n : Nat) (text : List Char) :
    n ≤ longestRun quote n text := by
  induction text generalizing n with
  | nil => exact Nat.le_refl n
  | cons c rest ih =>
      rw [longestRun]
      split
      · exact Nat.le_of_succ_le (ih (n + 1))
      · exact Nat.le_max_left ..

theorem ne_of_longestRun_eq_zero {quote : Char} {text : List Char}
    (none : longestRun quote 0 text = 0) : ∀ c ∈ text, c ≠ quote := by
  induction text with
  | nil => simp
  | cons d rest ih =>
      rw [longestRun] at none
      split at none
      · have more := le_longestRun quote (0 + 1) rest
        omega
      · rename_i other
        exact List.forall_mem_cons.mpr ⟨other, ih (by omega)⟩

theorem isPlain_of_not_isControl {c : Char} (control : isControl c = false) (line : c ≠ '\n') :
    isPlain c := by
  simp only [isControl, isPlain, Bool.or_eq_false_iff, Bool.and_eq_false_iff, Bool.or_eq_true,
    Bool.and_eq_true, decide_eq_false_iff_not, decide_eq_true_eq, bne_eq_false_iff_eq,
    beq_eq_false_iff_ne, bne_iff_ne, beq_iff_eq] at control ⊢
  obtain ⟨(least | tab) | same, delete⟩ := control
  · exact .inr ⟨by omega, delete⟩
  · exact .inl tab
  · exact absurd same line

/-- A literal form on one line is chosen only for a text that it can hold. -/
theorem plain_of_literal {text : List Char} (form : StringForm.of text = .literal) :
    ∀ c ∈ text, isPlain c ∧ c ≠ '\'' := by
  have holds : text.any isControl = false ∧ longestRun '\'' 0 text = 0 ∧
      text.any (· == '\n') = false := by
    simp only [StringForm.of] at form
    split at form
    · cases form
    split at form
    · cases form
    split at form
    · rename_i holds
      simp only [Bool.and_eq_true, Bool.not_eq_true', beq_iff_eq] at holds
      exact ⟨holds.1.1, holds.1.2, holds.2⟩
    split at form
    · cases form
    split at form
    · cases form
    split at form <;> cases form
  obtain ⟨control, quotes, lines⟩ := holds
  intro c among
  have line : c ≠ '\n' := by simpa using List.any_eq_false.mp lines c among
  exact ⟨isPlain_of_not_isControl (by simpa using List.any_eq_false.mp control c among) line,
    ne_of_longestRun_eq_zero quotes c among⟩

/-- So is a literal form on several lines. -/
theorem plain_of_multiLiteral {text : List Char} (form : StringForm.of text = .multiLiteral) :
    (∀ c ∈ text, isControl c = false) ∧ longestRun '\'' 0 text ≤ 2 := by
  have holds : text.any isControl = false ∧ longestRun '\'' 0 text ≤ 2 := by
    simp only [StringForm.of] at form
    split at form
    · cases form
    split at form
    · cases form
    split at form
    · cases form
    split at form
    · cases form
    split at form
    · rename_i holds
      simpa using holds
    split at form <;> cases form
  exact ⟨fun c among => by simpa using List.any_eq_false.mp holds.1 c among, holds.2⟩

theorem keeps_literal {n : Nat} {text : List Char} (control : ∀ c ∈ text, isControl c = false)
    (few : longestRun '\'' n text ≤ 2) :
    Keeps multiLiteralString '\'' MultiLiteralState.behind n text text := by
  induction text generalizing n with
  | nil => exact .nil few
  | cons c rest ih =>
      have later : ∀ d ∈ rest, isControl d = false :=
        fun d among => control d (List.mem_cons_of_mem _ among)
      by_cases same : c = '\''
      · subst same
        rw [longestRun, if_pos rfl] at few
        have room := Nat.le_trans (le_longestRun _ (n + 1) rest) few
        exact .quoted multiLiteralString_runs room (ih later few)
      · rw [longestRun, if_neg same] at few
        have first : multiLiteralString.step .text c = .next [c] .text := by
          by_cases line : c = '\n'
          · subst line
            rfl
          · have plain := isPlain_of_not_isControl (control c List.mem_cons_self) line
            have carriage : c ≠ '\r' := by
              rintro rfl
              exact absurd plain (by decide)
            simp [multiLiteralString, multiLiteralText, same, carriage, plain]
        exact .plain multiLiteralString_runs (by omega) same
          (Scanner.walk_cons first (Scanner.walk_nil _ _)) (ih later (by omega))

/-! ## All forms -/

/-- The reader drops the line break that the writer puts in front, and no other. -/
theorem dropLineBreak_opening {text written : List Char}
    (head : text.any (· == '\n') = false → ∀ c ∈ written.head?, c ≠ '\n' ∧ c ≠ '\r') :
    dropLineBreak (opening text ++ written) = written := by
  unfold opening
  split
  · rfl
  · rename_i none
    have first := head (Bool.eq_false_iff.mpr none)
    unfold dropLineBreak
    split
    · simp_all
    · simp_all
    · rfl

theorem string?_basic (text : List Char) {rest : List Char} (outer : NoQuote rest) :
    string? ('"' :: (escapeText false 0 0 text ++ '"' :: rest)) =
      some (String.ofList text, rest) := by
  have inner : (escapeText false 0 0 text).head? ≠ some '"' := by
    cases text with
    | nil => simp [escapeText]
    | cons c rest =>
        obtain ⟨d, more, written, quote, -⟩ := piece_cons false c
        rw [escapeText_cons, if_neg (by simp), written]
        simpa using quote
  have scanned : basicString.run .text (escapeText false 0 0 text ++ '"' :: rest) =
      some (text, rest) := by
    rw [Scanner.run_append _ _ (walk_basicString text)]
    simp [Scanner.run, basicString]
  rw [string?, dropQuotes?_single inner outer.double]
  simp [dropQuotes?, scanned]

theorem string?_literal {text rest : List Char} (plain : ∀ c ∈ text, isPlain c ∧ c ≠ '\'')
    (outer : NoQuote rest) :
    string? ('\'' :: (text ++ '\'' :: rest)) = some (String.ofList text, rest) := by
  have inner : text.head? ≠ some '\'' :=
    fun same => (plain _ (List.mem_of_head? same)).2 rfl
  have scanned : literalString.run () (text ++ '\'' :: rest) = some (text, rest) := by
    rw [Scanner.run_append _ _ (walk_literalString plain)]
    simp [Scanner.run, literalString]
  rw [string?, dropQuotes?_single inner outer.single]
  simp [dropQuotes?, scanned]

theorem string?_multiBasic (text : List Char) {rest : List Char} (outer : NoQuote rest) :
    string? ('"' :: '"' :: '"' :: (opening text ++ (escapeText true 2 0 text ++
      '"' :: '"' :: '"' :: rest))) = some (String.ofList text, rest) := by
  have head : text.any (· == '\n') = false → ∀ c ∈ (escapeText true 2 0 text ++
      '"' :: '"' :: '"' :: rest).head?, c ≠ '\n' ∧ c ≠ '\r' := by
    intro lines c first
    cases text with
    | nil =>
        obtain rfl : '"' = c := by simpa [escapeText] using first
        decide
    | cons d others =>
        rw [escapeText_cons] at first
        split at first
        · obtain rfl : '"' = c := by simpa using first
          decide
        · obtain ⟨e, more, written, -, carriage, line⟩ := piece_cons true d
          obtain rfl : e = c := by simpa [written] using first
          refine ⟨fun same => ?_, carriage⟩
          simp [(line same).2] at lines
  have scanned := (keeps_escapeText (Nat.zero_le 2) text).run multiBasicString_runs outer.double
  have broken := dropLineBreak_opening head
  simp only [string?, dropQuotes?, if_pos, broken]
  exact congrArg (Option.map _) scanned

theorem string?_multiLiteral {text rest : List Char}
    (control : ∀ c ∈ text, isControl c = false) (few : longestRun '\'' 0 text ≤ 2)
    (outer : NoQuote rest) :
    string? ('\'' :: '\'' :: '\'' :: (opening text ++ (text ++ '\'' :: '\'' :: '\'' :: rest))) =
      some (String.ofList text, rest) := by
  have head : text.any (· == '\n') = false → ∀ c ∈ (text ++
      '\'' :: '\'' :: '\'' :: rest).head?, c ≠ '\n' ∧ c ≠ '\r' := by
    intro lines c first
    cases text with
    | nil =>
        obtain rfl : '\'' = c := by simpa using first
        decide
    | cons d others =>
        obtain rfl : d = c := by simpa using first
        refine ⟨by simpa using List.any_eq_false.mp lines d List.mem_cons_self, ?_⟩
        rintro rfl
        exact absurd (control _ List.mem_cons_self) (by decide)
  have scanned := (keeps_literal control few).run multiLiteralString_runs outer.single
  have broken := dropLineBreak_opening head
  simp only [string?, dropQuotes?, if_pos, broken]
  exact congrArg (Option.map _) scanned

/-- Every text reads back from the form it is written in, and nothing behind it is touched. -/
theorem string?_writeChars (text : List Char) {rest : List Char} (outer : NoQuote rest) :
    string? (writeChars text ++ rest) = some (String.ofList text, rest) := by
  unfold writeChars
  split
  · simpa using string?_basic text outer
  · rename_i form
    simpa using string?_literal (plain_of_literal form) outer
  · simpa using string?_multiBasic text outer
  · rename_i form
    obtain ⟨control, few⟩ := plain_of_multiLiteral form
    simpa using string?_multiLiteral control few outer

end AccessoryLink.Toml
