import AccessoryLink.Directory.Basic

/-!
# Setting priorities at the same time

Any number of calls may set priorities at the same time. A call first records its priority in memory
and takes a copy of the configuration, with nobody in between; then it saves the copy, and nothing
keeps the saves of several calls apart or in the order of the copies. They have one staging file
between them. `run_alone` says that a call that nobody disturbs is `Directory.setPriority`.
-/

namespace AccessoryLink

/-- How far a call is that sets a priority. -/
inductive WriteStage where
  | called
  /-- The priority is recorded; this copy of the configuration is to be saved. -/
  | recorded (copy : Config)
  /-- The copy was written to the staging file, which is to take the place of the file. -/
  | staged (copy : Config)
  | returned (result : Outcome)
  deriving DecidableEq

/-- A call that sets a priority. -/
structure PriorityWrite where
  device : Address
  priority : Priority
  stage : WriteStage
  deriving DecidableEq

/-- A directory in which priorities are being set. -/
structure Overlap where
  directory : Directory
  calls : List PriorityWrite
  /-- The calls that have recorded their priorities, by their places, in the order in which they
  did. -/
  recorded : List Nat
  /-- The calls whose copies have become the file, in the order in which they did. -/
  saved : List Nat

namespace Overlap

/-- Calls that have just been made, for these devices and priorities. -/
def start (d : Directory) (writes : List (Address × Priority)) : Overlap where
  directory := d
  calls := writes.map fun w => ⟨w.1, w.2, .called⟩
  recorded := []
  saved := []

/-- Sets how far a call is. -/
def setStage (s : Overlap) (i : Nat) (call : PriorityWrite) (stage : WriteStage) : Overlap :=
  { s with calls := s.calls.set i { call with stage := stage } }

/-- Replaces the file. -/
def withFile (s : Overlap) (file : ConfigFile) : Overlap :=
  { s with directory := { s.directory with file := file } }

/-- A call records its priority, and takes its copy. -/
def record (s : Overlap) (i : Nat) (call : PriorityWrite) : Overlap :=
  let directory := s.directory.record call.device call.priority
  { s.setStage i call (.recorded directory.config) with
    directory := directory
    recorded := s.recorded ++ [i] }

/-- A call writes its copy to the staging file. -/
def stage (s : Overlap) (i : Nat) (call : PriorityWrite) (copy : Config) : Overlap :=
  match s.directory.file.makeDirectory with
  | .error e => s.setStage i call (.returned (.error e))
  | .ok _ =>
    match s.directory.file.stage copy.render with
    | (.error e, file) => (s.setStage i call (.returned (.error e))).withFile file
    | (.ok _, file) => (s.setStage i call (.staged copy)).withFile file

/-- A call puts the staging file in the place of the file. -/
def rename (s : Overlap) (i : Nat) (call : PriorityWrite) : Overlap :=
  match s.directory.file.rename with
  | (.error e, file) => (s.setStage i call (.returned (.error e))).withFile file
  | (.ok _, file) =>
    { (s.setStage i call (.returned .done)).withFile file with saved := s.saved ++ [i] }

/-- A call goes one step further. One that has returned, or is not there, does nothing. -/
def step (s : Overlap) (i : Nat) : Overlap :=
  match s.calls[i]? with
  | none => s
  | some call =>
    match call.stage with
    | .called => s.record i call
    | .recorded copy => s.stage i call copy
    | .staged _ => s.rename i call
    | .returned _ => s

/-- Calls go on in some order. -/
def run (s : Overlap) (schedule : List Nat) : Overlap := schedule.foldl step s

/-- Whether every call has returned and was done. -/
def AllDone (s : Overlap) : Prop := ∀ call ∈ s.calls, call.stage = .returned .done

/-- Three steps in a row are the whole of a call. -/
theorem run_alone (d : Directory) (device : Address) (priority : Priority) :
    let s := (start d [(device, priority)]).run [0, 0, 0]
    s.calls = [⟨device, priority, .returned (d.setPriority device priority).1⟩] ∧
      s.directory = (d.setPriority device priority).2 := by
  obtain ⟨config, ⟨contents, staged, fault⟩, bonds⟩ := d
  simp only [Directory.setPriority, Directory.save, ConfigFile.save_eq]
  rcases fault with _ | ⟨_ | _ | _⟩ <;> exact ⟨rfl, rfl⟩

end Overlap

end AccessoryLink
