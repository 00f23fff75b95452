import AccessoryLink.Toml.Scalar
import AccessoryLink.Toml.Strings
import AccessoryLink.Toml.Table

/-!
# Reading a document

A document is read statement by statement, one to a line, and the statements are then put together
to tables. A value may go over several lines between brackets or braces, where blanks, line breaks
and comments may stand around each element.
-/

namespace AccessoryLink.Toml

/-! ## Between the words -/

/-- A text behind the blanks at its beginning. -/
def dropBlanks (text : List Char) : List Char := text.dropWhile isBlank

/-- A text behind a line break, if it begins with one. -/
def afterBreak? : List Char → Option (List Char)
  | '\n' :: rest => some rest
  | '\r' :: '\n' :: rest => some rest
  | _ => none

/-- What is left of a text behind the rest of a line: blanks, perhaps a comment, and a line break or
the end of the text. -/
def endLine? (text : List Char) : Option (List Char) :=
  let afterComment :=
    match dropBlanks text with
    | '#' :: rest => rest.dropWhile isPlain
    | rest => rest
  match afterComment with
  | [] => some []
  | rest => afterBreak? rest

/-- What is left of a text behind blanks, line breaks and comments. The flag says whether the text
begins inside a comment. -/
def dropTrivia? : Bool → List Char → Option (List Char)
  | _, [] => some []
  | comment, c :: rest =>
    if c = '\n' then dropTrivia? false rest
    else if c = '\r' then
      match rest with
      | '\n' :: _ => dropTrivia? false rest
      | _ => none
    else if comment then
      if isPlain c then dropTrivia? true rest else none
    else if isBlank c then dropTrivia? false rest
    else if c = '#' then dropTrivia? true rest
    else some (c :: rest)

/-! ## Keys -/

/-- Whether a character may stand in a key without quotes. -/
def isKeyChar (c : Char) : Bool :=
  c.isAlphanum || c == '_' || c == '-'

/-- Reads one part of a key. -/
def keyPart? (text : List Char) : Option (String × List Char) :=
  match text with
  | '"' :: rest => (basicString.run .text rest).map fun r => (String.ofList r.1, r.2)
  | '\'' :: rest => (literalString.run () rest).map fun r => (String.ofList r.1, r.2)
  | _ =>
    let word := text.takeWhile isKeyChar
    if word.isEmpty then none else some (String.ofList word, text.dropWhile isKeyChar)

/-- A key: the parts before the last, and the last. -/
abbrev Key := List String × String

/-- Reads a key whose parts are joined by dots, with blanks around each part. -/
def key? : Nat → List Char → Option (Key × List Char)
  | 0, _ => none
  | fuel + 1, text =>
    match keyPart? (dropBlanks text) with
    | none => none
    | some (part, rest) =>
      match dropBlanks rest with
      | '.' :: more =>
        match key? fuel more with
        | none => none
        | some ((path, last), rest) => some ((part :: path, last), rest)
      | rest => some (([], part), rest)

/-! ## Values -/

/-- How deep arrays and tables between braces may be nested. -/
def maxDepth : Nat := 80

/-- Whether a character ends a word without quotes. -/
def endsWord (c : Char) : Bool :=
  isBlank c || c == '\n' || c == '\r' || c == ',' || c == ']' || c == '\x7d' || c == '#'

/-- The word at the beginning of a text. A date goes on behind one space, if a digit follows. -/
def word (text : List Char) : List Char × List Char :=
  let first := cutAt endsWord text
  match first.2 with
  | ' ' :: d :: rest =>
    if isDate first.1 && d.isDigit then
      let second := cutAt endsWord (d :: rest)
      (first.1 ++ ' ' :: second.1, second.2)
    else first
  | _ => first

/-- Reads an unquoted word and its value. -/
def plainValue? (text : List Char) : Option (Value × List Char) :=
  match word text with
  | (chars, rest) => (scalar? chars).map fun value => (value, rest)

mutual

/-- Reads a value, inside this many arrays and tables. -/
def value? : Nat → Nat → List Char → Option (Value × List Char)
  | 0, _, _ => none
  | fuel + 1, depth, text =>
    match text with
    | '[' :: rest =>
      if depth < maxDepth then
        (items? fuel (depth + 1) rest).map fun r => (.array false r.1, r.2)
      else none
    | '\x7b' :: rest =>
      if depth < maxDepth then
        (fields? fuel (depth + 1) [] rest).map fun r => (.table .inline r.1, r.2)
      else none
    | '"' :: _ => (string? text).map fun r => (.string r.1, r.2)
    | '\'' :: _ => (string? text).map fun r => (.string r.1, r.2)
    | _ => plainValue? text

/-- Reads the items of an array up to its closing bracket. -/
def items? : Nat → Nat → List Char → Option (List Value × List Char)
  | 0, _, _ => none
  | fuel + 1, depth, text =>
    match dropTrivia? false text with
    | none => none
    | some (']' :: rest) => some ([], rest)
    | some text =>
      match value? fuel depth text with
      | none => none
      | some (value, rest) =>
        match dropTrivia? false rest with
        | some (']' :: rest) => some ([value], rest)
        | some (',' :: rest) =>
          (items? fuel depth rest).map fun r => (value :: r.1, r.2)
        | _ => none

/-- Reads the entries of a table between braces up to the closing brace, and puts them to those that
are there. -/
def fields? : Nat → Nat → Entries → List Char → Option (Entries × List Char)
  | 0, _, _, _ => none
  | fuel + 1, depth, entries, text =>
    match dropTrivia? false text with
    | none => none
    | some ('\x7d' :: rest) => some (entries, rest)
    | some text =>
      match key? text.length text with
      | some ((path, last), '=' :: rest) =>
        match value? fuel depth (dropBlanks rest) with
        | none => none
        | some (value, rest) =>
          match putEntry path last value entries, dropTrivia? false rest with
          | some entries, some ('\x7d' :: rest) => some (entries, rest)
          | some entries, some (',' :: rest) => fields? fuel depth entries rest
          | _, _ => none
      | _ => none

end

/-! ## Statements -/

/-- Reads the statement at the beginning of a text. -/
def statement? (text : List Char) : Option (Statement × List Char) :=
  match text with
  | '[' :: '[' :: rest =>
    match key? rest.length rest with
    | some ((path, last), ']' :: ']' :: rest) => some (.item path last, rest)
    | _ => none
  | '[' :: rest =>
    match key? rest.length rest with
    | some ((path, last), ']' :: rest) => some (.table path last, rest)
    | _ => none
  | _ =>
    match key? text.length text with
    | some ((path, last), '=' :: rest) =>
      (value? (rest.length + 1) 0 (dropBlanks rest)).map fun r => (.entry path last r.1, r.2)
    | _ => none

/-- Whether a line that begins like this holds no statement. -/
def isVacant : List Char → Bool
  | [] => true
  | c :: _ => c == '#' || c == '\n' || c == '\r'

/-- Reads statements to the end of a text, at most so many lines of it. -/
def statements? : Nat → List Char → Option (List Statement)
  | 0, _ => none
  | fuel + 1, text =>
    match dropBlanks text with
    | [] => some []
    | text =>
      if isVacant text then
        match endLine? text with
        | some rest => statements? fuel rest
        | none => none
      else
        match statement? text with
        | none => none
        | some (statement, rest) =>
          match endLine? rest with
          | some rest => (statements? fuel rest).map (statement :: ·)
          | none => none

/-- A text without the byte order mark at its beginning. -/
def dropMark : List Char → List Char
  | c :: rest => if c = '\uFEFF' then rest else c :: rest
  | [] => []

/-- The entries of a document. -/
def read? (text : String) : Option Entries :=
  let chars := dropMark text.toList
  (statements? (chars.length + 1) chars).bind assemble

end AccessoryLink.Toml
