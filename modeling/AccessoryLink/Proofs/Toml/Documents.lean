import AccessoryLink.Proofs.Toml.Values

/-!
# Documents of entries and lists of tables

A text of whole lines is read statement by statement (`Lines`); such texts may be put one behind
the other. The statements of a document are taken up one by one: entries at its top are put there
in order (`addAll_entries`), and each header of a list opens a further table, which the entries
behind it fill (`addAll_items`).
-/

namespace AccessoryLink.Toml

/-! ## Lines -/

/-- A text of whole lines, read as these statements whatever comes behind it. -/
def Lines (text : List Char) (statements : List Statement) : Prop :=
  ∃ n ≤ text.length, ∀ fuel rest, statements? (fuel + n) (text ++ rest) =
    (statements? fuel rest).map (statements ++ ·)

theorem statement?_entry {word written : List Char} {value : Value} (isWord : IsWord word)
    (writes : Writes written value) (rest : List Char) :
    statement? (word ++ ' ' :: '=' :: ' ' :: (written ++ '\n' :: rest)) =
      some (.entry [] (String.ofList word) value, '\n' :: rest) := by
  have equals : dropBlanks (' ' :: '=' :: ' ' :: (written ++ '\n' :: rest)) =
      '=' :: ' ' :: (written ++ '\n' :: rest) := rfl
  have key := key?_word isWord (c := ' ') rfl (by rw [equals]; simp)
  have value := writes.reads ((' ' :: (written ++ '\n' :: rest)).length + 1) rest (by simp)
  obtain ⟨c, others, rfl, -, -, -, -, bracket⟩ := isWord.cons
  rw [equals, List.cons_append] at key
  rw [List.cons_append]
  unfold statement?
  split
  · rename_i same
    exact absurd (List.cons.inj same).1 bracket
  · rename_i same
    exact absurd (List.cons.inj same).1 bracket
  · rw [key]
    simp only [dropBlanks_space, writes.dropBlanks_append, value, Option.map_some]

theorem statement?_item {word : List Char} (isWord : IsWord word) (rest : List Char) :
    statement? ('[' :: '[' :: (word ++ ']' :: ']' :: '\n' :: rest)) =
      some (.item [] (String.ofList word), '\n' :: rest) := by
  have brackets : dropBlanks (']' :: ']' :: '\n' :: rest) = ']' :: ']' :: '\n' :: rest := rfl
  have key := key?_word isWord (c := ']') rfl (by rw [brackets]; simp)
  rw [statement?, key, brackets]
  rfl

namespace Lines

variable {text more : List Char} {statements others : List Statement}

theorem nil : Lines [] [] := ⟨0, Nat.le_refl 0, fun fuel rest => by simp⟩

theorem append (first : Lines text statements) (second : Lines more others) :
    Lines (text ++ more) (statements ++ others) := by
  obtain ⟨n, short, read⟩ := first
  obtain ⟨m, brief, readMore⟩ := second
  refine ⟨m + n, by rw [List.length_append]; omega, fun fuel rest => ?_⟩
  rw [← Nat.add_assoc, List.append_assoc, read, readMore, Option.map_map]
  congr 1
  funext all
  simp

theorem flatMap {α : Type} {write : α → List Char} {read : α → List Statement} {all : List α}
    (lines : ∀ a ∈ all, Lines (write a) (read a)) :
    Lines (all.flatMap write) (all.flatMap read) := by
  induction all with
  | nil => exact nil
  | cons a rest ih =>
      have later := ih fun b among => lines b (List.mem_cons_of_mem _ among)
      exact (lines a List.mem_cons_self).append later

/-- A document that is all lines has these statements. -/
theorem statements?_eq (lines : Lines text statements) :
    statements? (text.length + 1) text = some statements := by
  obtain ⟨n, short, read⟩ := lines
  have whole := read (text.length - n + 1) []
  rw [List.append_nil, Nat.add_right_comm, Nat.sub_add_cancel short] at whole
  rw [whole]
  simp [statements?, dropBlanks]

/-- One statement on a line of its own. -/
theorem of_statement {statement : Statement} {c : Char} {body : List Char}
    (read : ∀ rest, statement? (c :: (body ++ '\n' :: rest)) = some (statement, '\n' :: rest))
    (blank : isBlank c = false) (vacant : isVacant [c] = false) :
    Lines (c :: (body ++ ['\n'])) [statement] := by
  refine ⟨1, by simp, fun fuel rest => ?_⟩
  have holds : isVacant (c :: (body ++ '\n' :: rest)) = false := vacant
  simp [statements?, dropBlanks_cons blank, holds, read]

theorem empty : Lines ['\n'] [] := by
  refine ⟨1, by simp, fun fuel rest => ?_⟩
  simp [statements?, isVacant]

/-- A key and its value. -/
theorem entry {word written : List Char} {value : Value} (isWord : IsWord word)
    (writes : Writes written value) :
    Lines (word ++ [' ', '=', ' '] ++ written ++ ['\n'])
      [.entry [] (String.ofList word) value] := by
  have read := statement?_entry isWord writes
  obtain ⟨c, others, rfl, blank, vacant, -⟩ := isWord.cons
  refine of_statement (fun rest => ?_) blank vacant
  simpa using read rest

/-- The header of a further table of a list. -/
theorem item {word : List Char} (isWord : IsWord word) :
    Lines ('[' :: '[' :: (word ++ [']', ']', '\n'])) [.item [] (String.ofList word)] := by
  have read := statement?_item isWord
  have shape : '[' :: '[' :: (word ++ [']', ']', '\n']) =
      '[' :: ('[' :: (word ++ [']', ']']) ++ ['\n']) := by simp
  rw [shape]
  refine of_statement (fun rest => ?_) rfl rfl
  simpa using read rest

end Lines

/-! ## Tables -/

section Tables

variable {entries : Entries} {key : String} (new : key ∉ entries.map Prod.fst)
include new

theorem ne_of_new : ∀ entry ∈ entries, (entry.1 == key) = false := by
  intro entry among
  have other : entry.1 ≠ key := fun same => new (same ▸ List.mem_map_of_mem among)
  simpa using other

theorem get?_eq_none : entries.get? key = none := by
  have missing : entries.find? (fun entry => entry.1 == key) = none :=
    List.find?_eq_none.mpr fun entry among => by simp [ne_of_new new entry among]
  rw [Entries.get?, missing, Option.map_none]

theorem get?_push (value : Value) : (entries.push key value).get? key = some value := by
  have missing : entries.find? (fun entry => entry.1 == key) = none :=
    List.find?_eq_none.mpr fun entry among => by simp [ne_of_new new entry among]
  simp [Entries.get?, Entries.push, List.find?_append, missing]

theorem replace_push (value other : Value) :
    (entries.push key value).replace key other = entries.push key other := by
  have kept : entries.replace key other = entries := by
    refine (List.map_congr_left fun entry among => ?_).trans (List.map_id entries)
    simp [ne_of_new new entry among]
  simp only [Entries.replace, Entries.push, List.map_append] at kept ⊢
  rw [kept]
  simp

/-- An entry of a table that the key is new to. -/
theorem putEntry_new (value : Value) :
    putEntry [] key value entries = some (entries.push key value) := by
  simp [putEntry, descend, get?_eq_none new]

end Tables

/-- The statements of a table's entries. -/
def entryStatements (entries : Entries) : List Statement :=
  entries.map fun entry => .entry [] entry.1 entry.2

/-- A document that takes up entries for the table at its cursor, one behind the other. The table
is the part of the document that `place` puts it in. -/
theorem addAll_entries {place : Entries → Entries} {cursor : List String}
    (puts : ∀ inner key value, key ∉ inner.map Prod.fst →
      Document.add ⟨place inner, cursor⟩ (.entry [] key value) =
        some ⟨place (inner.push key value), cursor⟩)
    (inner : Entries) {entries : Entries} (rest : List Statement)
    (new : ((inner ++ entries).map Prod.fst).Nodup) :
    Document.addAll ⟨place inner, cursor⟩ (entryStatements entries ++ rest) =
      Document.addAll ⟨place (inner ++ entries), cursor⟩ rest := by
  induction entries generalizing inner with
  | nil => simp [entryStatements]
  | cons entry others ih =>
      obtain ⟨key, value⟩ := entry
      have first : key ∉ inner.map Prod.fst := by
        intro among
        rw [List.map_append, List.nodup_append] at new
        exact new.2.2 key among key (by simp) rfl
      have next : inner ++ (key, value) :: others = inner.push key value ++ others := by
        simp [Entries.push]
      have step := ih (inner.push key value) (next ▸ new)
      simp only [entryStatements, List.map_cons, List.cons_append, Document.addAll,
        puts inner key value first] at step ⊢
      rw [step, next]

/-- At the top of a document. -/
theorem add_top (inner : Entries) (key : String) (value : Value)
    (new : key ∉ inner.map Prod.fst) :
    Document.add ⟨inner, []⟩ (.entry [] key value) = some ⟨inner.push key value, []⟩ := by
  simp [Document.add, descend, putEntry_new new]

/-! ## Lists of tables -/

/-- A document with a list of tables behind its other entries, if there are any. -/
def listing (base : Entries) (key : String) (items : List Value) : Entries :=
  if items.isEmpty then base else base.push key (.array true items)

section Listing

variable {base : Entries} {key : String} (new : key ∉ base.map Prod.fst)
include new

/-- A header of the list opens a further table, and what follows goes there. -/
theorem add_item (items : List Value) (cursor : List String) :
    Document.add ⟨listing base key items, cursor⟩ (.item [] key) =
      some ⟨listing base key (items ++ [.table .header []]), [key]⟩ := by
  cases items with
  | nil => simp [Document.add, listing, openItem, descend, get?_eq_none new]
  | cons item others =>
      simp [Document.add, listing, openItem, descend, get?_push new, replace_push new]

/-- In the last table of the list. -/
theorem add_last (items : List Value) (inner : Entries) (name : String) (value : Value)
    (fresh : name ∉ inner.map Prod.fst) :
    Document.add ⟨listing base key (items ++ [.table .header inner]), [key]⟩
        (.entry [] name value) =
      some ⟨listing base key (items ++ [.table .header (inner.push name value)]), [key]⟩ := by
  simp [Document.add, listing, descend, get?_push new, replace_push new, putEntry_new fresh]

/-- The statements of a list of tables make that list. -/
theorem addAll_items {tables : List Entries} (fresh : ∀ table ∈ tables, (table.map Prod.fst).Nodup)
    (items : List Value) (cursor : List String) :
    (Document.addAll ⟨listing base key items, cursor⟩
      (tables.flatMap fun table => .item [] key :: entryStatements table)).map (·.root) =
      some (listing base key (items ++ tables.map (.table .header))) := by
  induction tables generalizing items cursor with
  | nil => simp [Document.addAll]
  | cons table rest ih =>
      have filled := addAll_entries (add_last new items) []
        (rest.flatMap fun table => .item [] key :: entryStatements table)
        (fresh table List.mem_cons_self)
      have later := ih (fun other among => fresh other (List.mem_cons_of_mem _ among))
        (items ++ [.table .header table]) [key]
      simp only [List.flatMap_cons, List.cons_append, Document.addAll, add_item new, filled]
      rw [List.nil_append, later]
      simp

end Listing

end AccessoryLink.Toml
