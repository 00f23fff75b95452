import AccessoryLink.Hex

/-!
# Writing strings

A string is written in the plainest form that can hold it: on one line between double quotes if
nothing has to be escaped, between single quotes if those are not in it, on several lines if it has
line breaks, and with escapes if nothing else is left.
-/

namespace AccessoryLink.Toml

/-- The four forms of a string. -/
inductive StringForm where
  | basic
  | literal
  | multiBasic
  | multiLiteral
  deriving Repr, DecidableEq

/-- Whether a character leaves no doubt that basic quotes will do. -/
def isUnambiguous (c : Char) : Bool :=
  c.isAlphanum || c == '_' || c == '-' || c == '.' || c == '/' || c == ' ' || c == ':'

/-- Whether a character is a control character that no form without escapes can hold. -/
def isControl (c : Char) : Bool :=
  (c.toNat < 32 && c != '\t' && c != '\n') || c.toNat == 127

/-- The length of the longest run of a character, where a run of `n` of them comes just before. -/
def longestRun (quote : Char) : Nat → List Char → Nat
  | n, [] => n
  | n, c :: rest =>
    if c = quote then longestRun quote (n + 1) rest else max n (longestRun quote 0 rest)

/-- The form in which a text is written. -/
def StringForm.of (text : List Char) : StringForm :=
  let control := text.any isControl
  let escape := text.any (· == '\\')
  let lines := text.any (· == '\n')
  let doubles := longestRun '"' 0 text
  let singles := longestRun '\'' 0 text
  if text.all isUnambiguous then .basic
  else if !control && !escape && doubles == 0 && !lines then .basic
  else if !control && singles == 0 && !lines then .literal
  else if !control && !escape && decide (doubles ≤ 2) then .multiBasic
  else if !control && decide (singles ≤ 2) then .multiLiteral
  else if lines then .multiBasic
  else .basic

/-- How a control character is written by its number. -/
def codeEscape (c : Char) : List Char :=
  ['\\', 'u', '0', '0', Hex.upperDigit (c.toNat / 16), Hex.upperDigit (c.toNat % 16)]

/-- A character in a basic form, other than a quote. -/
def escapeChar (lines : Bool) (c : Char) : List Char :=
  if c = '\x08' then ['\\', 'b']
  else if c = '\t' then ['\\', 't']
  else if c = '\n' then (if lines then ['\n'] else ['\\', 'n'])
  else if c = '\x0c' then ['\\', 'f']
  else if c = '\r' then ['\\', 'r']
  else if c = '\\' then ['\\', '\\']
  else if c.toNat < 32 ∨ c.toNat = 127 then codeEscape c
  else [c]

/-- A text in a basic form, where at most `limit` quotes may stand in a row and `n` of them come
just before. -/
def escapeText (lines : Bool) (limit : Nat) : Nat → List Char → List Char
  | _, [] => []
  | n, c :: rest =>
    if c = '"' then
      if n < limit then '"' :: escapeText lines limit (n + 1) rest
      else '\\' :: '"' :: escapeText lines limit 0 rest
    else escapeChar lines c ++ escapeText lines limit 0 rest

/-- The line break behind the opening quotes, which the reader drops. -/
def opening (text : List Char) : List Char := if text.any (· == '\n') then ['\n'] else []

/-- A text written as a string. -/
def writeChars (text : List Char) : List Char :=
  match StringForm.of text with
  | .basic => '"' :: escapeText false 0 0 text ++ ['"']
  | .literal => '\'' :: text ++ ['\'']
  | .multiBasic =>
    ['"', '"', '"'] ++ opening text ++ escapeText true 2 0 text ++ ['"', '"', '"']
  | .multiLiteral => ['\'', '\'', '\''] ++ opening text ++ text ++ ['\'', '\'', '\'']

/-- A string as it is written. -/
def writeString (text : String) : List Char := writeChars text.toList

/-- A number as it is written. -/
def writeNat (n : Nat) : List Char := (toString n).toList

/-- A truth value as it is written. -/
def writeBool (value : Bool) : List Char :=
  if value then ['t', 'r', 'u', 'e'] else ['f', 'a', 'l', 's', 'e']

end AccessoryLink.Toml
