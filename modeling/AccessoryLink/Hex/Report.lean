import AccessoryLink.Hex

/-!
# Reports about hexadecimal text

How a text that is no sequence of bytes is reported. The offending byte is shown between quotes as
the character with its number, escaped if it cannot be seen.
-/

namespace AccessoryLink.Hex

/-- The shortest lower-case digits of a number below 256. -/
def shortDigits (n : Nat) : List Char :=
  if n < 16 then [digit n] else [digit (n / 16), digit (n % 16)]

/-- Whether the character with this number below 256 can be seen. -/
def isVisible (n : Nat) : Bool :=
  (32 ≤ n && n < 127) || (161 ≤ n && n != 173)

/-- A byte as the inside of a quoted character. -/
def quotedByte (b : UInt8) : List Char :=
  let n := b.toNat
  if n = 0 then ['\\', '0']
  else if n = 9 then ['\\', 't']
  else if n = 10 then ['\\', 'n']
  else if n = 13 then ['\\', 'r']
  else if n = 39 then ['\\', '\'']
  else if n = 92 then ['\\', '\\']
  else if isVisible n then [Char.ofNat n]
  else ['\\', 'u', '\x7b'] ++ shortDigits n ++ ['\x7d']

/-- How a text that is no sequence of bytes is reported. -/
def Error.message : Error → String
  | oddLength => "Odd number of digits"
  | invalidDigit byte index =>
    "Invalid character '" ++ String.ofList (quotedByte byte) ++ "' at position " ++ toString index

end AccessoryLink.Hex
