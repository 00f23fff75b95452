import AccessoryLink.Proofs.Toml.Documents
import AccessoryLink.Toml.Document

/-!
# Lawful codecs

What is relied on of a codec: the text that it gives to a table of strings, truth values, numbers
and further tables is read back as the same table (`Codec.Lawful`). Two tables are the same whatever
the order of their entries, and however they and their parts came about (`Value.Same`).

The codec of the library is lawful (`lawful_codec`): a table that it writes at all is read back
entry by entry (`read?_write`).
-/

namespace AccessoryLink.Toml

namespace Value

/-- Whether a value is a table. -/
def isTable : Value → Bool
  | .table _ _ => true
  | _ => false

/-- Whether a number is an integer that the format asks every codec for: of 64 bits, with a sign. -/
def FitsInteger (number : Int) : Prop :=
  -0x8000000000000000 ≤ number ∧ number < 0x8000000000000000

instance (number : Int) : Decidable (FitsInteger number) := inferInstanceAs (Decidable (_ ∧ _))

/-- The values that any codec can be relied on to keep: strings, truth values, integers, and tables
of such values, alone or in a list. -/
inductive Storable : Value → Prop
  | string (text : String) : Storable (.string text)
  | boolean (value : Bool) : Storable (.boolean value)
  | integer {number : Int} (fits : FitsInteger number) : Storable (.integer number)
  | list {extensible : Bool} {items : List Value} (tables : ∀ item ∈ items, item.isTable)
    (all : ∀ item ∈ items, Storable item) : Storable (.array extensible items)
  | table {kind : TableKind} {entries : Entries} (distinct : (entries.map Prod.fst).Nodup)
    (all : ∀ entry ∈ entries, Storable entry.2) : Storable (.table kind entries)

/-- Whether two values are the same. Arrays have the same items in the same order, tables the same
values under the same keys. -/
inductive Same : Value → Value → Prop
  | string (text : String) : Same (.string text) (.string text)
  | boolean (value : Bool) : Same (.boolean value) (.boolean value)
  | integer (number : Int) : Same (.integer number) (.integer number)
  | float (text : String) : Same (.float text) (.float text)
  | moment (text : String) : Same (.moment text) (.moment text)
  | array {extensible growing : Bool} {items others : List Value}
    (length : items.length = others.length)
    (all : ∀ (n : Nat) item other,
      items[n]? = some item → others[n]? = some other → Same item other) :
    Same (.array extensible items) (.array growing others)
  | table {kind sort : TableKind} {entries others : Entries}
    (keys : ∀ key, (entries.get? key).isSome = (others.get? key).isSome)
    (all : ∀ key value other, entries.get? key = some value → others.get? key = some other →
      Same value other) :
    Same (.table kind entries) (.table sort others)

/-- The value under a key is smaller than the entries. -/
theorem sizeOf_lt_of_get? {entries : Entries} {key : String} {value : Value}
    (found : entries.get? key = some value) : sizeOf value < sizeOf entries := by
  obtain ⟨⟨name, held⟩, first, rfl⟩ := Option.map_eq_some_iff.mp found
  have among := List.sizeOf_lt_of_mem (List.mem_of_find?_eq_some first)
  simp only [Prod.mk.sizeOf_spec] at among ⊢
  omega

theorem Same.refl : ∀ value : Value, value.Same value
  | .string text => .string text
  | .boolean value => .boolean value
  | .integer number => .integer number
  | .float text => .float text
  | .moment text => .moment text
  | .array _ items => .array rfl fun n item other found same => by
      obtain rfl := Option.some.inj (found.symm.trans same)
      have smaller := List.sizeOf_lt_of_mem (List.mem_of_getElem? found)
      exact Same.refl item
  | .table _ entries => .table (fun key => rfl) fun key value other found same => by
      obtain rfl := Option.some.inj (found.symm.trans same)
      have smaller := sizeOf_lt_of_get? found
      exact Same.refl value
termination_by value => sizeOf value

/-- What is the same as a table is a table, with the same values under the same keys. -/
theorem Same.table_get? {kind : TableKind} {entries : Entries} {other : Value}
    (same : (Value.table kind entries).Same other) :
    ∃ sort others, other = .table sort others ∧
      (∀ key, entries.get? key = none → Entries.get? others key = none) ∧
      ∀ key value, entries.get? key = some value →
        ∃ found, Entries.get? others key = some found ∧ value.Same found := by
  cases same with
  | @table _ sort _ others keys all =>
      refine ⟨sort, others, rfl, fun key missing => ?_, fun key value present => ?_⟩
      · simpa [missing] using keys key
      · have there : (Entries.get? others key).isSome := by simp [← keys key, present]
        obtain ⟨found, same⟩ := Option.isSome_iff_exists.mp there
        exact ⟨found, same, all key value found present same⟩

end Value

/-- A codec is lawful if it reads the text of a storable table, should it have written one, as the
same table. -/
def Codec.Lawful (codec : Codec) : Prop :=
  ∀ (entries : Entries) (text : String), (Value.table .header entries).Storable →
    codec.write entries = some text →
    ∃ back, codec.read text = some back ∧
      (Value.table .header entries).Same (.table .header back)

/-! ## Lines -/

theorem isWord_of_isBare {key : String} (bare : isBare key = true) : IsWord key.toList := by
  simp only [isBare, Bool.and_eq_true, Bool.not_eq_true', List.isEmpty_eq_false_iff] at bare
  exact ⟨bare.1, bare.2⟩

theorem bare_of_areKeys {keys : List String} (distinct : areKeys keys = true) :
    keys.all isBare = true := by
  rw [areKeys, Bool.and_eq_true] at distinct
  exact distinct.1

theorem nodup_of_areKeys {keys : List String} (distinct : areKeys keys = true) : keys.Nodup := by
  rw [areKeys, Bool.and_eq_true] at distinct
  exact of_decide_eq_true distinct.2

theorem writes_value {value : Value} (brief : value.isBrief = true) :
    Writes (writeValue value) value := by
  cases value with
  | string text => exact writes_string text
  | boolean value => exact writes_bool value
  | integer number =>
      simp only [Value.isBrief, decide_eq_true_eq] at brief
      obtain ⟨n, rfl⟩ := Int.eq_ofNat_of_zero_le brief.1
      exact writes_nat (Int.ofNat_lt.mp brief.2)
  | array extensible items =>
      simp only [Value.isBrief, Bool.and_eq_true, Bool.not_eq_true', List.isEmpty_iff] at brief
      obtain ⟨rfl, rfl⟩ := brief
      exact writes_empty
  | float text | moment text | table kind entries => simp [Value.isBrief] at brief

theorem lines_entry {entry : String × Value} (bare : isBare entry.1 = true)
    (brief : entry.2.isBrief = true) :
    Lines (writeLine entry) [.entry [] entry.1 entry.2] := by
  have line := Lines.entry (isWord_of_isBare bare) (writes_value brief)
  rwa [String.ofList_toList] at line

theorem lines_entries {entries : Entries} (keys : (entries.map Prod.fst).all isBare = true)
    (brief : entries.all (·.2.isBrief) = true) :
    Lines (entries.flatMap writeLine) (entryStatements entries) := by
  rw [entryStatements, List.map_eq_flatMap]
  refine Lines.flatMap fun entry among => lines_entry ?_ ?_
  · exact List.all_eq_true.mp keys entry.1 (List.mem_map_of_mem among)
  · exact List.all_eq_true.mp brief entry among

/-- A table that is an item has keys of its own, and a line for each entry. -/
theorem keys_of_isItem {entries : Entries}
    (item : (Value.table .header entries).isItem = true) :
    areKeys (entries.map Prod.fst) = true ∧ entries.all (·.2.isBrief) = true := by
  rwa [Value.isItem, Bool.and_eq_true] at item

theorem lines_item {key : String} {entries : Entries} (bare : isBare key = true)
    (item : (Value.table .header entries).isItem = true) :
    Lines (writeItem key (.table .header entries)) (.item [] key :: entryStatements entries) := by
  obtain ⟨keys, brief⟩ := keys_of_isItem item
  have header := Lines.empty.append (Lines.item (isWord_of_isBare bare))
  have lines := header.append (lines_entries (bare_of_areKeys keys) brief)
  simpa [writeItem] using lines

theorem exists_entries {value : Value} (item : value.isItem = true) :
    ∃ entries, value = .table .header entries := by
  cases value with
  | table kind entries =>
      cases kind with
      | header => exact ⟨entries, rfl⟩
      | _ => simp [Value.isItem] at item
  | _ => simp [Value.isItem] at item

/-- A list of tables is given by the entries of the tables. -/
theorem exists_tables {items : List Value} (all : items.all Value.isItem = true) :
    ∃ tables : List Entries, items = tables.map (.table .header) ∧
      ∀ table ∈ tables, (Value.table .header table).isItem = true := by
  induction items with
  | nil => exact ⟨[], rfl, by simp⟩
  | cons item rest ih =>
      rw [List.all_cons, Bool.and_eq_true] at all
      obtain ⟨tables, rfl, items⟩ := ih all.2
      obtain ⟨table, rfl⟩ := exists_entries all.1
      exact ⟨table :: tables, rfl, by simpa using ⟨all.1, items⟩⟩

theorem exists_listing {value : Value} (listing : value.isListing = true) :
    ∃ tables : List Entries, tables ≠ [] ∧ value = .array true (tables.map (.table .header)) ∧
      ∀ table ∈ tables, (Value.table .header table).isItem = true := by
  cases value with
  | array extensible items =>
      cases extensible with
      | false => simp [Value.isListing] at listing
      | true =>
          rw [Value.isListing, Bool.and_eq_true] at listing
          obtain ⟨tables, rfl, items⟩ := exists_tables listing.2
          exact ⟨tables, by simpa using listing.1, rfl, items⟩
  | _ => simp [Value.isListing] at listing

/-! ## Documents -/

theorem writeEntry_of_isBrief {entry : String × Value} (brief : entry.2.isBrief = true) :
    writeEntry entry = writeLine entry := by
  obtain ⟨key, value⟩ := entry
  cases value with
  | array extensible items => cases extensible <;> simp_all [Value.isBrief, writeEntry]
  | _ => rfl

theorem flatMap_writeEntry {entries : Entries} (brief : entries.all (·.2.isBrief) = true) :
    entries.flatMap writeEntry = entries.flatMap writeLine := by
  induction entries with
  | nil => rfl
  | cons entry rest ih =>
      rw [List.all_cons, Bool.and_eq_true] at brief
      rw [List.flatMap_cons, List.flatMap_cons, writeEntry_of_isBrief brief.1, ih brief.2]

/-- The text of entries that have a line each consists of statements that make them. -/
theorem reads_lines {entries : Entries} (keys : areKeys (entries.map Prod.fst) = true)
    (brief : entries.all (·.2.isBrief) = true) :
    ∃ statements, Lines (entries.flatMap writeEntry) statements ∧
      assemble statements = some entries := by
  have added := addAll_entries add_top [] [] (nodup_of_areKeys keys)
  refine ⟨entryStatements entries, ?_, ?_⟩
  · rw [flatMap_writeEntry brief]
    exact lines_entries (bare_of_areKeys keys) brief
  · rw [List.append_nil] at added
    rw [assemble, added]
    rfl

/-- The same with a list of tables behind them. -/
theorem reads_listing {front : Entries} {key : String} {tables : List Entries}
    (keys : areKeys (front.map Prod.fst ++ [key]) = true)
    (brief : front.all (·.2.isBrief) = true) (nonempty : tables ≠ [])
    (items : ∀ table ∈ tables, (Value.table .header table).isItem = true) :
    let entries := front ++ [(key, .array true (tables.map (.table .header)))]
    ∃ statements, Lines (entries.flatMap writeEntry) statements ∧
      assemble statements = some entries := by
  intro entries
  have distinct := List.nodup_append.mp (nodup_of_areKeys keys)
  have bare : ∀ name ∈ front.map Prod.fst ++ [key], isBare name = true :=
    List.all_eq_true.mp (bare_of_areKeys keys)
  have new : key ∉ front.map Prod.fst := fun among =>
    distinct.2.2 key among key List.mem_cons_self rfl
  refine ⟨entryStatements front ++
    tables.flatMap fun table => .item [] key :: entryStatements table, ?_, ?_⟩
  · have written : entries.flatMap writeEntry =
        front.flatMap writeLine ++
          tables.flatMap fun table => writeItem key (.table .header table) := by
      simp [entries, flatMap_writeEntry brief, writeEntry, List.flatMap_map]
    rw [written]
    refine (lines_entries ?_ brief).append (Lines.flatMap fun table among =>
      lines_item (bare key (by simp)) (items table among))
    exact List.all_eq_true.mpr fun name among => bare name (List.mem_append_left _ among)
  · have fresh : ∀ table ∈ tables, (table.map Prod.fst).Nodup := fun table among =>
      nodup_of_areKeys (keys_of_isItem (items table among)).1
    have list := addAll_items new fresh [] []
    rw [assemble, addAll_entries add_top [] _ distinct.1]
    simpa [listing, nonempty, entries, Entries.push] using list

/-- A plain table is written in statements that make it. -/
theorem reads_entries {entries : Entries} (plain : isPlainTable entries = true) :
    ∃ statements, Lines (entries.flatMap writeEntry) statements ∧
      assemble statements = some entries := by
  simp only [isPlainTable, Bool.and_eq_true] at plain
  obtain ⟨⟨keys, front⟩, last⟩ := plain
  obtain rfl | ⟨front', ⟨key, value⟩, rfl⟩ := List.eq_nil_or_concat entries
  · exact reads_lines keys rfl
  · rw [List.concat_eq_append] at *
    rw [List.dropLast_concat] at front
    simp only [List.getLast?_concat, Option.all_some, Bool.or_eq_true] at last
    obtain brief | listing := last
    · exact reads_lines keys (by simpa [brief] using front)
    · obtain ⟨tables, nonempty, rfl, items⟩ := exists_listing listing
      rw [List.map_append] at keys
      exact reads_listing keys front nonempty items

/-- A byte order mark begins no statement, so there is none in front of a text of lines. -/
theorem dropMark_of_lines {text : List Char} {statements : List Statement}
    (lines : Lines text statements) : dropMark text = text := by
  have read := lines.statements?_eq
  cases text with
  | nil => rfl
  | cons c rest =>
      have other : c ≠ '\uFEFF' := by
        rintro rfl
        have none : statements? (('\uFEFF' :: rest).length + 1) ('\uFEFF' :: rest) = none := rfl
        cases none.symm.trans read
      rw [dropMark, if_neg other]

/-- A plain table is read back entry by entry. -/
theorem read?_write {entries : Entries} (plain : isPlainTable entries = true) :
    read? (write entries) = some entries := by
  obtain ⟨statements, lines, made⟩ := reads_entries plain
  rw [read?, write, String.toList_ofList, dropMark_of_lines lines, lines.statements?_eq,
    Option.bind_some, made]

theorem read_codec (text : String) : codec.read text = read? text := rfl

theorem lawful_codec : codec.Lawful := by
  intro entries text _ written
  simp only [codec, Option.ite_none_right_eq_some, Option.some.injEq] at written
  obtain ⟨plain, rfl⟩ := written
  exact ⟨entries, read?_write plain, .refl _⟩

end AccessoryLink.Toml
