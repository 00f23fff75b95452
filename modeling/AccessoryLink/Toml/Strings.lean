import AccessoryLink.Hex
import AccessoryLink.Toml.Scanner

/-!
# Reading strings

Strings are written in four forms: basic and literal, on one line or on several. Basic forms know
escapes; literal forms take every character as it stands. Each form is read by a scanner that starts
behind the opening quotes and stops behind the closing ones.
-/

namespace AccessoryLink.Toml

/-- Whether a character may stand by itself in a text on one line: a tab, or no control
character. -/
def isPlain (c : Char) : Bool := c == '\t' || (32 ≤ c.toNat && c.toNat != 127)

/-- Blanks are spaces and tabs. -/
def isBlank (c : Char) : Bool := c == ' ' || c == '\t'

/-- The character that a one-letter escape stands for. -/
def simpleEscape? (c : Char) : Option Char :=
  if c = 'b' then some '\x08'
  else if c = 't' then some '\t'
  else if c = 'n' then some '\n'
  else if c = 'f' then some '\x0c'
  else if c = 'r' then some '\r'
  else if c = 'e' then some '\x1b'
  else if c = '"' then some '"'
  else if c = '\\' then some '\\'
  else none

/-- How many digits follow the letter of a numeric escape. -/
def codeLength? (c : Char) : Option Nat :=
  if c = 'x' then some 2
  else if c = 'u' then some 4
  else if c = 'U' then some 8
  else none

/-- The character with this number, if there is one. -/
def charOfCode? (n : Nat) : Option Char := if n.isValidChar then some (Char.ofNat n) else none

/-- Where a scan of an escape stands. -/
inductive Escape where
  /-- Behind the backslash. -/
  | letter
  /-- So many digits are still to come; those read so far gave the value. -/
  | code (left : Nat) (value : Nat)
  deriving Repr, DecidableEq

/-- Reads on in an escape; `resume` is the state behind it and `inside` the state within it. -/
def Escape.step {S : Type} (resume : S) (inside : Escape → S) : Escape → Char → Move S
  | .letter, c =>
    match simpleEscape? c with
    | some d => .next [d] resume
    | none =>
      match codeLength? c with
      | some n => .next [] (inside (.code n 0))
      | none => .fail
  | .code left value, c =>
    match Hex.value? c with
    | none => .fail
    | some d =>
      let value := 16 * value + d
      if left ≤ 1 then
        match charOfCode? value with
        | some d => .next [d] resume
        | none => .fail
      else .next [] (inside (.code (left - 1) value))

/-! ## On one line -/

/-- Where a scan of a basic string stands. -/
inductive BasicState where
  | text
  | escape (state : Escape)
  deriving Repr, DecidableEq

/-- Reads a basic string behind its opening quote. -/
def basicString : Scanner BasicState where
  step
    | .text, c =>
      if c = '"' then .stop []
      else if c = '\\' then .next [] (.escape .letter)
      else if isPlain c then .next [c] .text
      else .fail
    | .escape state, c => state.step .text .escape c
  atEnd _ := none

/-- Reads a literal string behind its opening quote. -/
def literalString : Scanner Unit where
  step _ c := if c = '\'' then .stop [] else if isPlain c then .next [c] () else .fail
  atEnd _ := none

/-! ## On several lines -/

/-- A run of quotes inside a string on several lines: three close it, and up to two before those
belong to it. Behind the run comes `c`, with which `text` goes on if the run does not close. -/
def closeRun {S : Type} (quote : Char) (n : Nat) (again : Nat → S) (text : Char → Move S)
    (c : Char) : Move S :=
  if c = quote then
    if 4 ≤ n then .stop [quote, quote] else .next [] (again (n + 1))
  else if 3 ≤ n then .before (List.replicate (n - 3) quote)
  else
    match text c with
    | .next emit state => .next (List.replicate n quote ++ emit) state
    | .stop emit => .stop (List.replicate n quote ++ emit)
    | .before emit => .before (List.replicate n quote ++ emit)
    | .fail => .fail

/-- What a run of quotes at the end of the text gives out. -/
def runAtEnd (quote : Char) (n : Nat) : Option (List Char) :=
  if 3 ≤ n then some (List.replicate (n - 3) quote) else none

/-- Where a scan of a basic string on several lines stands. -/
inductive MultiBasicState where
  | text
  /-- Behind so many quotes in a row. -/
  | quotes (n : Nat)
  /-- Behind a carriage return, which a line feed must follow. -/
  | carriage
  | escape (state : Escape)
  /-- Behind a backslash that ends its line, before the line break. -/
  | lineEnd
  /-- Behind such a line break, where blanks and further line breaks are passed over. -/
  | trimmed
  /-- Behind a carriage return in such a place. -/
  | trimmedCarriage
  deriving Repr, DecidableEq

/-- The character `c` in the text of a basic string on several lines. -/
def multiBasicText (c : Char) : Move MultiBasicState :=
  if c = '"' then .next [] (.quotes 1)
  else if c = '\\' then .next [] (.escape .letter)
  else if c = '\r' then .next [c] .carriage
  else if c = '\n' || isPlain c then .next [c] .text
  else .fail

/-- Reads a basic string on several lines behind its opening quotes and their line break. -/
def multiBasicString : Scanner MultiBasicState where
  step
    | .text, c => multiBasicText c
    | .quotes n, c => closeRun '"' n .quotes multiBasicText c
    | .carriage, c => if c = '\n' then .next [c] .text else .fail
    | .escape .letter, c =>
      if isBlank c then .next [] .lineEnd
      else if c = '\n' then .next [] .trimmed
      else if c = '\r' then .next [] .trimmedCarriage
      else Escape.step .text .escape .letter c
    | .escape state, c => state.step .text .escape c
    | .lineEnd, c =>
      if isBlank c then .next [] .lineEnd
      else if c = '\n' then .next [] .trimmed
      else if c = '\r' then .next [] .trimmedCarriage
      else .fail
    | .trimmed, c =>
      if isBlank c || c = '\n' then .next [] .trimmed
      else if c = '\r' then .next [] .trimmedCarriage
      else multiBasicText c
    | .trimmedCarriage, c => if c = '\n' then .next [] .trimmed else .fail
  atEnd
    | .quotes n => runAtEnd '"' n
    | _ => none

/-- Where a scan of a literal string on several lines stands. -/
inductive MultiLiteralState where
  | text
  | quotes (n : Nat)
  | carriage
  deriving Repr, DecidableEq

/-- The character `c` in the text of a literal string on several lines. -/
def multiLiteralText (c : Char) : Move MultiLiteralState :=
  if c = '\'' then .next [] (.quotes 1)
  else if c = '\r' then .next [c] .carriage
  else if c = '\n' || isPlain c then .next [c] .text
  else .fail

/-- Reads a literal string on several lines behind its opening quotes and their line break. -/
def multiLiteralString : Scanner MultiLiteralState where
  step
    | .text, c => multiLiteralText c
    | .quotes n, c => closeRun '\'' n .quotes multiLiteralText c
    | .carriage, c => if c = '\n' then .next [c] .text else .fail
  atEnd
    | .quotes n => runAtEnd '\'' n
    | _ => none

/-- A text behind the line break at its beginning, if there is one. -/
def dropLineBreak : List Char → List Char
  | '\n' :: rest => rest
  | '\r' :: '\n' :: rest => rest
  | text => text

/-- A text behind this many of a character in a row, if it begins with them. -/
def dropQuotes? (quote : Char) : Nat → List Char → Option (List Char)
  | 0, text => some text
  | n + 1, c :: rest => if c = quote then dropQuotes? quote n rest else none
  | _ + 1, [] => none

/-- Reads a string in any form. -/
def string? (text : List Char) : Option (String × List Char) :=
  let result :=
    match dropQuotes? '"' 3 text with
    | some rest => multiBasicString.run .text (dropLineBreak rest)
    | none =>
      match dropQuotes? '\'' 3 text with
      | some rest => multiLiteralString.run .text (dropLineBreak rest)
      | none =>
        match text with
        | [] => none
        | c :: rest =>
          if c = '"' then basicString.run .text rest
          else if c = '\'' then literalString.run () rest
          else none
  result.map fun r => (String.ofList r.1, r.2)

end AccessoryLink.Toml
