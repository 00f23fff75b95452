import AccessoryLink.Hex
import AccessoryLink.Toml.Value

/-!
# Reading unquoted scalars

Booleans, numbers and moments stand without quotes. Each reader here takes the whole of such a word
and either knows it or does not.
-/

namespace AccessoryLink.Toml

/-! ## Numbers -/

/-- Whether a word consists of digits, where single underscores may stand between two digits. The
flag says whether a digit came just before. -/
def isDigitRun (isDigit : Char → Bool) : Bool → List Char → Bool
  | after, [] => after
  | after, c :: rest =>
    if isDigit c then isDigitRun isDigit true rest
    else c == '_' && after && isDigitRun isDigit false rest

/-- The number that digits of a base write; other characters are passed over. -/
def digitsValue (base : Nat) (word : List Char) : Nat :=
  word.foldl (fun n c => match Hex.value? c with | some d => base * n + d | none => n) 0

/-- Whether a character is a digit of a base up to sixteen. -/
def isDigitOf (base : Nat) (c : Char) : Bool :=
  match Hex.value? c with
  | some d => d < base
  | none => false

/-- A sign and the word behind it. A word without a sign is positive. -/
def splitSign : List Char → Bool × List Char
  | [] => (false, [])
  | c :: rest =>
    if c = '-' then (true, rest) else if c = '+' then (false, rest) else (false, c :: rest)

/-- The value of a decimal number without superfluous zeros in front. -/
def decimal? (word : List Char) : Option Nat :=
  if isDigitRun (isDigitOf 10) false word && (word == ['0'] || word.head? != some '0') then
    some (digitsValue 10 word)
  else none

/-- The value of a number with a base in front of it. -/
def based? : List Char → Option Nat
  | zero :: letter :: digits =>
    let base? :=
      if letter = 'x' then some 16 else if letter = 'o' then some 8
      else if letter = 'b' then some 2 else none
    match base? with
    | some base =>
      if zero = '0' && isDigitRun (isDigitOf base) false digits then some (digitsValue base digits)
      else none
    | none => none
  | _ => none

/-- The value of an integer. Only decimal numbers take a sign, and no more than 128 bits are
held. -/
def integer? (word : List Char) : Option Int :=
  let value? : Option Int :=
    match based? word with
    | some n => some n
    | none =>
      match splitSign word with
      | (negative, digits) => (decimal? digits).map fun n => if negative then -(n : Int) else n
  value?.filter fun n => -(1 <<< 127 : Nat) ≤ n ∧ n < (1 <<< 128 : Nat)

/-- Cuts a word before the first character of a kind. -/
def cutAt (p : Char → Bool) (word : List Char) : List Char × List Char :=
  (word.takeWhile fun c => !p c, word.dropWhile fun c => !p c)

/-- Whether a word is a number with a fraction, an exponent or both, or one of the special
values. -/
def isFloat (word : List Char) : Bool :=
  let unsigned := (splitSign word).2
  if unsigned == ['i', 'n', 'f'] || unsigned == ['n', 'a', 'n'] then true
  else
    match cutAt (fun c => c == 'e' || c == 'E') unsigned with
    | (mantissa, exponent) =>
      match cutAt (· == '.') mantissa with
      | (whole, fraction) =>
        (decimal? whole).isSome &&
          (fraction.isEmpty || isDigitRun (isDigitOf 10) false (fraction.drop 1)) &&
          (exponent.isEmpty ||
            isDigitRun Char.isDigit false (splitSign (exponent.drop 1)).2 ) &&
          !(fraction.isEmpty && exponent.isEmpty)

/-! ## Moments -/

/-- The value of two digits. -/
def twoDigits? (a b : Char) : Option Nat :=
  if a.isDigit && b.isDigit then some (digitsValue 10 [a, b]) else none

/-- How many days a month has. -/
def daysOf (year month : Nat) : Nat :=
  if month = 2 then
    if year % 4 = 0 ∧ (year % 100 ≠ 0 ∨ year % 400 = 0) then 29 else 28
  else if month = 4 ∨ month = 6 ∨ month = 9 ∨ month = 11 then 30
  else 31

/-- What follows a date at the beginning of a word. -/
def afterDate? : List Char → Option (List Char)
  | y1 :: y2 :: y3 :: y4 :: d1 :: m1 :: m2 :: d2 :: t1 :: t2 :: rest =>
    match twoDigits? y1 y2, twoDigits? y3 y4, twoDigits? m1 m2, twoDigits? t1 t2 with
    | some century, some year, some month, some day =>
      if d1 = '-' ∧ d2 = '-' ∧ 1 ≤ month ∧ month ≤ 12 ∧ 1 ≤ day ∧
          day ≤ daysOf (100 * century + year) month then some rest
      else none
    | _, _, _, _ => none
  | _ => none

/-- What follows the fraction of a second, if one stands at the beginning of a word. -/
def afterFraction? : List Char → Option (List Char)
  | [] => some []
  | c :: rest =>
    if c = '.' then
      if (rest.takeWhile Char.isDigit).isEmpty then none else some (rest.dropWhile Char.isDigit)
    else some (c :: rest)

/-- What follows the seconds, if they stand at the beginning of a word. -/
def afterSeconds? : List Char → Option (List Char)
  | [] => some []
  | c :: rest =>
    if c = ':' then
      match rest with
      | s1 :: s2 :: more =>
        match twoDigits? s1 s2 with
        | some second => if second ≤ 60 then afterFraction? more else none
        | none => none
      | _ => none
    else some (c :: rest)

/-- What follows a time at the beginning of a word. -/
def afterTime? : List Char → Option (List Char)
  | h1 :: h2 :: c :: m1 :: m2 :: rest =>
    match twoDigits? h1 h2, twoDigits? m1 m2 with
    | some hour, some minute =>
      if c = ':' ∧ hour ≤ 23 ∧ minute ≤ 59 then afterSeconds? rest else none
    | _, _ => none
  | _ => none

/-- Whether a word is empty or the distance from universal time. -/
def isOffset : List Char → Bool
  | [] => true
  | [c] => c == 'Z' || c == 'z'
  | [sign, h1, h2, c, m1, m2] =>
    match twoDigits? h1 h2, twoDigits? m1 m2 with
    | some hour, some minute =>
      (sign == '+' || sign == '-') && c == ':' && hour ≤ 24 && minute ≤ 59
    | _, _ => false
  | _ => false

/-- Whether a word is exactly a date. -/
def isDate (word : List Char) : Bool := afterDate? word == some []

/-- Whether a word is a date, a time or both. -/
def isMoment (word : List Char) : Bool :=
  match afterDate? word with
  | some [] => true
  | some (c :: rest) =>
    (c == 'T' || c == 't' || c == ' ') &&
      match afterTime? rest with
      | some offset => isOffset offset
      | none => false
  | none => afterTime? word == some []

/-! ## All scalars -/

/-- The value of an unquoted word. -/
def scalar? (word : List Char) : Option Value :=
  if word = ['t', 'r', 'u', 'e'] then some (.boolean true)
  else if word = ['f', 'a', 'l', 's', 'e'] then some (.boolean false)
  else
    match integer? word with
    | some n => some (.integer n)
    | none =>
      if isFloat word then some (.float (String.ofList word))
      else if isMoment word then some (.moment (String.ofList word))
      else none

end AccessoryLink.Toml
