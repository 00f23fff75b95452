/-!
# Values of the configuration format

The file format (TOML) knows strings, numbers, booleans, moments, arrays and tables. Whether a table
or an array may still grow depends on how it came about, so both remember that.
-/

namespace AccessoryLink.Toml

/-- How a table came about. -/
inductive TableKind where
  /-- By a header of its own. -/
  | header
  /-- As a step on the way of a header. -/
  | implied
  /-- As a step on the way of a dotted key. -/
  | dotted
  /-- Between braces. -/
  | inline
  deriving Repr, DecidableEq

/-- A value. -/
inductive Value where
  | string (text : String)
  | integer (number : Int)
  /-- A number with a fraction or an exponent, as written. -/
  | float (text : String)
  | boolean (value : Bool)
  /-- A date, a time or both, as written. -/
  | moment (text : String)
  /-- An array. One that headers made can be extended by further headers. -/
  | array (extensible : Bool) (items : List Value)
  | table (kind : TableKind) (entries : List (String × Value))

/-- The entries of a table, in the order in which they were made. -/
abbrev Entries := List (String × Value)

/-- The value under a key. -/
def Entries.get? (entries : Entries) (key : String) : Option Value :=
  (entries.find? fun entry => entry.1 == key).map Prod.snd

/-- The entries with another value under a key that is there. -/
def Entries.replace (entries : Entries) (key : String) (value : Value) : Entries :=
  entries.map fun entry => if entry.1 == key then (key, value) else entry

/-- The entries with a new key at the end. -/
def Entries.push (entries : Entries) (key : String) (value : Value) : Entries :=
  entries ++ [(key, value)]

end AccessoryLink.Toml
