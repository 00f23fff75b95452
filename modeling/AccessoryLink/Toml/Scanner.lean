/-!
# Scanners

A scanner reads characters one by one from a state of its own, gives out the characters of what it
reads, and stops at or before the first character that ends it. `run_append` describes a scan that
starts with characters which only move the state.
-/

namespace AccessoryLink.Toml

/-- What a scanner does at a character. -/
inductive Move (S : Type) where
  /-- Goes on from another state. -/
  | next (emit : List Char) (state : S)
  /-- Stops behind this character. -/
  | stop (emit : List Char)
  /-- Stops before this character. -/
  | before (emit : List Char)
  /-- The character cannot stand here. -/
  | fail

/-- A scanner with states in `S`. -/
structure Scanner (S : Type) where
  step : S → Char → Move S
  /-- What is given out where the text ends, if it may end there. -/
  atEnd : S → Option (List Char)

namespace Scanner

variable {S : Type}

/-- Scans a text. The result is what was given out and what is left. -/
def run (scanner : Scanner S) : S → List Char → Option (List Char × List Char)
  | state, [] => (scanner.atEnd state).map fun emit => (emit, [])
  | state, c :: rest =>
    match scanner.step state c with
    | .next emit state => (scanner.run state rest).map fun r => (emit ++ r.1, r.2)
    | .stop emit => some (emit, rest)
    | .before emit => some (emit, c :: rest)
    | .fail => none

/-- Where a list of characters only moves the state, and what it gives out. -/
def walk (scanner : Scanner S) : S → List Char → Option (List Char × S)
  | state, [] => some ([], state)
  | state, c :: rest =>
    match scanner.step state c with
    | .next emit state => (scanner.walk state rest).map fun r => (emit ++ r.1, r.2)
    | _ => none

/-- A scan goes on behind a walk. -/
theorem run_append (scanner : Scanner S) {state last : S} {text emit : List Char}
    (rest : List Char) (walked : scanner.walk state text = some (emit, last)) :
    scanner.run state (text ++ rest) =
      (scanner.run last rest).map fun r => (emit ++ r.1, r.2) := by
  induction text generalizing state emit with
  | nil =>
    simp only [walk, Option.some.injEq, Prod.mk.injEq] at walked
    obtain ⟨rfl, rfl⟩ := walked
    simp
  | cons c cs ih =>
    simp only [walk] at walked
    simp only [List.cons_append, run]
    split at walked
    · rename_i e s next
      obtain ⟨⟨tail, last'⟩, later, same⟩ := Option.map_eq_some_iff.1 walked
      simp only [Prod.mk.injEq] at same
      obtain ⟨rfl, rfl⟩ := same
      simp only [next, ih later, Option.map_map]
      congr 1
      funext r
      simp
    · cases walked

end Scanner

end AccessoryLink.Toml
