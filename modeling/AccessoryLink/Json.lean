import AccessoryLink.Hex

/-!
# JSON text

Values of the interchange format and their compact text. The text is plain ASCII: every other
character is written by its number, in two halves if the number has more than sixteen bits.
-/

namespace AccessoryLink

/-- A value of the interchange format. Objects keep the order of their fields. -/
inductive Json where
  | null
  | bool (value : Bool)
  | num (value : Int)
  | str (text : String)
  | arr (items : List Json)
  | obj (fields : List (String × Json))

namespace Json

instance : Inhabited Json := ⟨null⟩

/-- A number below 65536 as four digits. -/
def fourDigits (n : Nat) : List Char :=
  [Hex.digit (n / 4096), Hex.digit (n / 256 % 16), Hex.digit (n / 16 % 16), Hex.digit (n % 16)]

/-- A character inside a string. -/
def escape (c : Char) : List Char :=
  let n := c.toNat
  if c = '"' then ['\\', '"']
  else if c = '\\' then ['\\', '\\']
  else if 32 ≤ n ∧ n < 127 then [c]
  else if n < 65536 then '\\' :: 'u' :: fourDigits n
  else
    let high := 55296 + (n - 65536) / 1024
    let low := 56320 + (n - 65536) % 1024
    '\\' :: 'u' :: fourDigits high ++ '\\' :: 'u' :: fourDigits low

/-- A string with its quotes. -/
def quote (text : String) : String :=
  String.ofList ('"' :: text.toList.flatMap escape ++ ['"'])

mutual

/-- The text of a value. -/
def text : Json → String
  | null => "null"
  | bool value => if value then "true" else "false"
  | num value => toString value
  | str s => quote s
  | arr items => "[" ++ itemsText items ++ "]"
  | obj fields => "\x7b" ++ fieldsText fields ++ "\x7d"

/-- The texts of some values, with commas between them. -/
def itemsText : List Json → String
  | [] => ""
  | [item] => item.text
  | item :: rest => item.text ++ "," ++ itemsText rest

/-- The texts of some fields, with commas between them. -/
def fieldsText : List (String × Json) → String
  | [] => ""
  | [(key, value)] => quote key ++ ":" ++ value.text
  | (key, value) :: rest => quote key ++ ":" ++ value.text ++ "," ++ fieldsText rest

end

end Json

end AccessoryLink
