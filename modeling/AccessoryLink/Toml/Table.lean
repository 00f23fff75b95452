import AccessoryLink.Toml.Value

/-!
# Building tables

A document is a sequence of headers and entries. Each is put into the tables made so far; it is
refused if its key is taken, or if it would reach into a table or array that is complete.
-/

namespace AccessoryLink.Toml

/-- Goes down a path of keys and changes the table at its end. Tables that are missing on the way
are made of the kind `dotted` or `implied`. An extensible array is entered at its last table. A
table between braces cannot be entered, and a dotted key cannot enter a table that has a header. -/
def descend (dotted : Bool) (change : TableKind → Entries → Option Entries) :
    List String → TableKind → Entries → Option Entries
  | [], kind, entries => change kind entries
  | key :: path, _, entries =>
    match entries.get? key with
    | none =>
      let kind := if dotted then TableKind.dotted else .implied
      (descend dotted change path kind []).map fun inner => entries.push key (.table kind inner)
    | some (.table kind inner) =>
      if kind = .inline ∨ (dotted ∧ kind = .header) then none
      else
        (descend dotted change path kind inner).map fun inner =>
          entries.replace key (.table kind inner)
    | some (.array true items) =>
      match items.getLast? with
      | some (.table kind inner) =>
        (descend dotted change path kind inner).map fun inner =>
          entries.replace key (.array true (items.dropLast ++ [.table kind inner]))
      | _ => none
    | some _ => none

/-- Puts an entry into a table, under a dotted key. The table that gets it must be the one at hand
or one that dotted keys made, and the last part of the key must be new there. -/
def putEntry (path : List String) (key : String) (value : Value) (entries : Entries) :
    Option Entries :=
  let change (kind : TableKind) (inner : Entries) : Option Entries :=
    if decide (kind = .dotted) == path.isEmpty then none
    else if (inner.get? key).isSome then none
    else some (inner.push key value)
  descend true change path .header entries

/-- Opens the table of a header. It may have been entered before, but not opened. -/
def openTable (path : List String) (key : String) (entries : Entries) : Option Entries :=
  let change (_ : TableKind) (inner : Entries) : Option Entries :=
    match inner.get? key with
    | none => some (inner.push key (.table .header []))
    | some (.table .implied content) => some (inner.replace key (.table .header content))
    | some _ => none
  descend false change path .header entries

/-- Opens the next table of an array of tables. -/
def openItem (path : List String) (key : String) (entries : Entries) : Option Entries :=
  let fresh := Value.table .header []
  let change (_ : TableKind) (inner : Entries) : Option Entries :=
    match inner.get? key with
    | none => some (inner.push key (.array true [fresh]))
    | some (.array true items) => some (inner.replace key (.array true (items ++ [fresh])))
    | some _ => none
  descend false change path .header entries

/-- A part of a document. -/
inductive Statement where
  /-- A value under a dotted key: the parts before the last, and the last. -/
  | entry (path : List String) (key : String) (value : Value)
  /-- The header of a table. -/
  | table (path : List String) (key : String)
  /-- The header of a table in an array. -/
  | item (path : List String) (key : String)

/-- A document as far as it was read: its tables, and the path of the table that gets the next
entry. -/
structure Document where
  root : Entries
  cursor : List String

/-- Takes up one statement. -/
def Document.add (d : Document) : Statement → Option Document
  | .entry path key value =>
    (descend false (fun _ => putEntry path key value) d.cursor .header d.root).map fun root =>
      { d with root := root }
  | .table path key => (openTable path key d.root).map fun root => ⟨root, path ++ [key]⟩
  | .item path key => (openItem path key d.root).map fun root => ⟨root, path ++ [key]⟩

/-- Takes up statements one after the other. -/
def Document.addAll (d : Document) : List Statement → Option Document
  | [] => some d
  | s :: rest =>
    match d.add s with
    | some d => d.addAll rest
    | none => none

/-- The entries that a sequence of statements makes. -/
def assemble (statements : List Statement) : Option Entries :=
  (Document.addAll ⟨[], []⟩ statements).map (·.root)

end AccessoryLink.Toml
