import AccessoryLink.Toml.Reader
import AccessoryLink.Toml.Writer

/-!
# Documents

A codec turns the entries of a table into the text of a document, and such a text back into entries.
The one here reads every document, and writes tables of a plain form: entries that have a line each,
and behind them perhaps one list of tables that have such entries.
-/

namespace AccessoryLink.Toml

/-- What writes and reads documents. Either may refuse. -/
structure Codec where
  write : Entries → Option String
  read : String → Option Entries

/-! ## Writing -/

/-- A value on one line. An array there has nothing in it. -/
def writeValue : Value → List Char
  | .string text => writeString text
  | .boolean value => writeBool value
  | .integer number => writeNat number.toNat
  | _ => ['[', ']']

/-- A line with a key and a value. -/
def writeLine (entry : String × Value) : List Char :=
  entry.1.toList ++ [' ', '=', ' '] ++ writeValue entry.2 ++ ['\n']

/-- A table in a list: a header, and a line for each entry. -/
def writeItem (key : String) : Value → List Char
  | .table _ entries =>
    '\n' :: '[' :: '[' :: (key.toList ++ [']', ']', '\n']) ++ entries.flatMap writeLine
  | _ => []

/-- An entry of a document: a list of tables, or a line. -/
def writeEntry (entry : String × Value) : List Char :=
  match entry.2 with
  | .array true items => items.flatMap (writeItem entry.1)
  | _ => writeLine entry

/-- The text of a document. -/
def write (entries : Entries) : String := String.ofList (entries.flatMap writeEntry)

/-! ## What can be written -/

/-- Whether a key needs no quotes. -/
def isBare (key : String) : Bool := key.toList.all isKeyChar && !key.toList.isEmpty

/-- Whether each key needs no quotes and stands once. -/
def areKeys (keys : List String) : Bool := keys.all isBare && decide keys.Nodup

/-- Whether a value is written on one line. -/
def Value.isBrief : Value → Bool
  | .string _ | .boolean _ => true
  | .integer number => decide (0 ≤ number ∧ number < ((1 <<< 128 : Nat) : Int))
  | .array extensible items => !extensible && items.isEmpty
  | _ => false

/-- Whether a value is a table that has a line for each entry. -/
def Value.isItem : Value → Bool
  | .table .header entries => areKeys (entries.map Prod.fst) && entries.all (·.2.isBrief)
  | _ => false

/-- Whether a value is a list of tables. -/
def Value.isListing : Value → Bool
  | .array true items => !items.isEmpty && items.all isItem
  | _ => false

/-- Whether the entries of a document have a line each, but for the last, which may be a list of
tables. -/
def isPlainTable (entries : Entries) : Bool :=
  areKeys (entries.map Prod.fst) && entries.dropLast.all (·.2.isBrief) &&
    entries.getLast?.all fun entry => entry.2.isBrief || entry.2.isListing

/-- The reader of every document, with the writer of plain tables. -/
def codec : Codec where
  write entries := if isPlainTable entries then some (write entries) else none
  read := read?

end AccessoryLink.Toml
