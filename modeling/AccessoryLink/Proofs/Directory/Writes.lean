import AccessoryLink.Directory.Writes
import AccessoryLink.Proofs.Snapshot
import Mathlib.Data.List.Nodup

/-!
# Overlapping writes

Calls that set priorities at the same time agree about the memory: each priority is recorded once,
and the copy of a call has what was recorded up to its own priority. About the file they need not
agree. Saves that get in each other's way make one of the calls fail, so where every call was done
the saves came one after another; but they may have come in another order than the copies. The file
then has the copy of the call that saved last, and lacks what was recorded after it
(`last_save_stands`). It has everything just when the call that saved last had recorded last;
`later_write_lost` is a run in which it had not.
-/

namespace AccessoryLink

namespace ConfigFile

theorem stage_cases (file : ConfigFile) (text : String) :
    file.stage text = (.done, { file with staged := some text.toUTF8 }) ∨
      ∃ e after, file.stage text = (.error e, after) ∧ after.contents = file.contents := by
  unfold stage
  split
  · exact .inr ⟨_, _, rfl, rfl⟩
  · exact .inl rfl

theorem rename_cases (file : ConfigFile) :
    (∃ bytes, file.staged = some bytes ∧
        file.rename = (.done, { file with contents := some bytes, staged := none })) ∨
      ∃ e, file.rename = (.error e, file) := by
  unfold rename
  split
  · exact .inr ⟨_, rfl⟩
  · exact .inr ⟨_, rfl⟩
  · next bytes held _ => exact .inl ⟨bytes, held, rfl⟩

end ConfigFile

/-- The configuration after some of these writes, given by their places, in this order. -/
def Config.assigned (c : Config) (writes : List (Address × Priority)) (order : List Nat) : Config :=
  (order.filterMap (writes[·]?)).foldl (fun c w => c.setPriority w.1 w.2) c

theorem Config.assigned_append_singleton {c : Config} {writes : List (Address × Priority)}
    {i : Nat} {w : Address × Priority} (found : writes[i]? = some w) (order : List Nat) :
    c.assigned writes (order ++ [i]) = (c.assigned writes order).setPriority w.1 w.2 := by
  simp [assigned, List.filterMap_append, found]

/-- The copy that a call has still to save. -/
def WriteStage.copy? : WriteStage → Option Config
  | .recorded copy | .staged copy => some copy
  | _ => none

namespace Overlap

variable {s t : Overlap} {c copy : Config} {writes : List (Address × Priority)} {i j : Nat}

/-- How far a call is. -/
def stage? (s : Overlap) (i : Nat) : Option WriteStage := (s.calls[i]?).map (·.stage)

theorem stage?_setStage {call : PriorityWrite} (found : s.calls[i]? = some call)
    (stage : WriteStage) (j : Nat) :
    (s.setStage i call stage).stage? j = if i = j then some stage else s.stage? j := by
  obtain ⟨inside, -⟩ := List.getElem?_eq_some_iff.1 found
  by_cases same : i = j
  · simp [stage?, setStage, ← same, inside]
  · simp [stage?, setStage, same]

theorem stage?_self {call : PriorityWrite} (found : s.calls[i]? = some call)
    (stage : WriteStage) : (s.setStage i call stage).stage? i = some stage :=
  (stage?_setStage found stage i).trans (if_pos rfl)

theorem stage?_before {call : PriorityWrite} {stage later : WriteStage}
    (found : s.calls[i]? = some call) (reached : (s.setStage i call stage).stage? j = some later)
    (differs : stage ≠ later) : i ≠ j ∧ s.stage? j = some later := by
  rw [stage?_setStage found] at reached
  split at reached
  · exact absurd (Option.some.inj reached) differs
  · next apart => exact ⟨apart, reached⟩

theorem stage?_of_ne {call : PriorityWrite} {stage later : WriteStage}
    (found : s.calls[i]? = some call) (reached : s.stage? j = some stage)
    (differs : call.stage ≠ stage) :
    (s.setStage i call later).stage? j = some stage := by
  rw [stage?_setStage found, if_neg, reached]
  rintro rfl
  simp [stage?, found, differs] at reached

/-- What a step of a call does. -/
inductive Goes (s : Overlap) (i : Nat) : Overlap → Prop
  | recorded {call : PriorityWrite} (found : s.calls[i]? = some call)
    (stage : call.stage = .called) : Goes s i (s.record i call)
  | staged {call : PriorityWrite} {copy : Config} (found : s.calls[i]? = some call)
    (stage : call.stage = .recorded copy) :
    Goes s i ((s.setStage i call (.staged copy)).withFile
      { s.directory.file with staged := some copy.render.toUTF8 })
  | renamed {call : PriorityWrite} {copy : Config} {bytes : ByteArray}
    (found : s.calls[i]? = some call) (stage : call.stage = .staged copy)
    (held : s.directory.file.staged = some bytes) :
    Goes s i { (s.setStage i call (.returned .done)).withFile
      { s.directory.file with contents := some bytes, staged := none } with
        saved := s.saved ++ [i] }
  | failed {call : PriorityWrite} {e : LinkError} {file : ConfigFile}
    (found : s.calls[i]? = some call) (stage : call.stage ≠ .called)
    (kept : file.contents = s.directory.file.contents) :
    Goes s i ((s.setStage i call (.returned (.error e))).withFile file)
  | idled : Goes s i s

theorem goes_stage {call : PriorityWrite} (found : s.calls[i]? = some call)
    (stage : call.stage = .recorded copy) : s.Goes i (s.stage i call copy) := by
  have begun : call.stage ≠ .called := by simp [stage]
  unfold Overlap.stage
  split
  · exact .failed found begun rfl
  · obtain staged | ⟨e, file, staged, kept⟩ := s.directory.file.stage_cases copy.render
    · simpa only [staged] using .staged found stage
    · simpa only [staged] using .failed found begun kept

theorem goes_rename {call : PriorityWrite} (found : s.calls[i]? = some call)
    (stage : call.stage = .staged copy) : s.Goes i (s.rename i call) := by
  unfold Overlap.rename
  obtain ⟨bytes, held, renamed⟩ | ⟨e, renamed⟩ := s.directory.file.rename_cases
  · simpa only [renamed] using .renamed found stage held
  · simpa only [renamed] using .failed found (by simp [stage]) rfl

theorem goes_step (s : Overlap) (i : Nat) : s.Goes i (s.step i) := by
  unfold step
  split
  · exact .idled
  · next call found =>
    split
    · next stage => exact .recorded found stage
    · next copy stage => exact goes_stage found stage
    · next copy stage => exact goes_rename found stage
    · exact .idled

/-! ## The memory and the copies -/

/-- Whether a copy is what a call takes: everything recorded up to its own priority. -/
def Took (s : Overlap) (c : Config) (writes : List (Address × Priority)) (i : Nat) (copy : Config) :
    Prop :=
  ∃ before after, s.recorded = before ++ i :: after ∧ copy = c.assigned writes (before ++ [i])

theorem Took.record (took : s.Took c writes i copy) (later : t.recorded = s.recorded ++ [j]) :
    t.Took c writes i copy := by
  obtain ⟨before, after, recorded, taken⟩ := took
  exact ⟨before, after ++ [j], by simp [later, recorded], taken⟩

/-- What the calls agree about: each has recorded its priority once, or has not begun, and the
memory and every copy are what was recorded. -/
structure Kept (c : Config) (writes : List (Address × Priority)) (s : Overlap) : Prop where
  calls : s.calls.map (fun call => (call.device, call.priority)) = writes
  memory : s.directory.config = c.assigned writes s.recorded
  recorded : ∀ i, i ∈ s.recorded ↔ ∃ stage, s.stage? i = some stage ∧ stage ≠ .called
  nodup : s.recorded.Nodup
  copies : ∀ i stage copy, s.stage? i = some stage → stage.copy? = some copy →
    s.Took c writes i copy

theorem kept_start (d : Directory) (writes : List (Address × Priority)) :
    Kept d.config writes (start d writes) where
  calls := by simp [start, Function.comp_def]
  memory := rfl
  recorded i := by cases found : writes[i]? <;> simp [start, stage?, found]
  nodup := List.nodup_nil
  copies i stage copy reached carried := by
    cases found : writes[i]? <;> simp [start, stage?, found] at reached
    simp [← reached, WriteStage.copy?] at carried

theorem map_setStage {call : PriorityWrite} (found : s.calls[i]? = some call) (stage : WriteStage) :
    (s.setStage i call stage).calls.map (fun call => (call.device, call.priority)) =
      s.calls.map fun call => (call.device, call.priority) := by
  obtain ⟨inside, rfl⟩ := List.getElem?_eq_some_iff.1 found
  have same := List.set_getElem_self
    (show i < (s.calls.map fun call => (call.device, call.priority)).length by simpa using inside)
  simpa [setStage, List.map_set] using same

/-- A call that has begun goes on, with no other copy than it had. -/
theorem Kept.moveOn {call : PriorityWrite} {stage : WriteStage} (kept : Kept c writes s)
    (found : s.calls[i]? = some call) (begun : call.stage ≠ .called) (moved : stage ≠ .called)
    (carried : ∀ copy, stage.copy? = some copy → call.stage.copy? = some copy) (file : ConfigFile)
    (saved : List Nat) :
    Kept c writes { (s.setStage i call stage).withFile file with saved := saved } where
  calls := (map_setStage found stage).trans kept.calls
  memory := kept.memory
  recorded j := by
    refine (kept.recorded j).trans ?_
    have before : s.stage? i = some call.stage := by simp [stage?, found]
    change _ ↔ ∃ later, (s.setStage i call stage).stage? j = some later ∧ _
    rw [stage?_setStage found]
    split
    · next same => simp [← same, before, begun, moved]
    · rfl
  nodup := kept.nodup
  copies j later copy reached carries := by
    change (s.setStage i call stage).stage? j = some later at reached
    rw [stage?_setStage found] at reached
    split at reached
    · next same =>
      cases reached
      exact same ▸ kept.copies i call.stage copy (by simp [stage?, found]) (carried copy carries)
    · exact kept.copies j later copy reached carries

/-- A call records its priority, and takes the memory of that moment. -/
theorem Kept.record {call : PriorityWrite} (kept : Kept c writes s)
    (found : s.calls[i]? = some call) (stage : call.stage = .called) :
    Kept c writes (s.record i call) := by
  have reached : s.stage? i = some .called := by simp [stage?, found, stage]
  have write : writes[i]? = some (call.device, call.priority) := by simp [← kept.calls, found]
  have fresh : i ∉ s.recorded := fun old => by
    obtain ⟨_, same, begun⟩ := (kept.recorded i).1 old
    exact begun (Option.some.inj (same.symm.trans reached))
  have memory : (s.record i call).directory.config = c.assigned writes (s.recorded ++ [i]) := by
    rw [Config.assigned_append_singleton write, ← kept.memory]
    rfl
  have stages (j : Nat) : (s.record i call).stage? j =
      if i = j then some (.recorded (s.record i call).directory.config) else s.stage? j :=
    stage?_setStage found _ j
  refine ⟨(map_setStage found _).trans kept.calls, memory, fun j => ?_, ?_, ?_⟩
  · change j ∈ s.recorded ++ [i] ↔ _
    rw [List.mem_append, kept.recorded, stages]
    split
    · next same => simp [← same]
    · next other => simp [Ne.symm other]
  · refine List.nodup_append.2 ⟨kept.nodup, List.nodup_singleton i, ?_⟩
    rintro _ old _ new rfl
    simp_all
  · intro j later copy reached carries
    rw [stages] at reached
    split at reached
    · next same =>
      cases reached
      obtain rfl := Option.some.inj carries
      exact same ▸ ⟨s.recorded, [], rfl, memory⟩
    · exact (kept.copies j later copy reached carries).record rfl

theorem Kept.goes (kept : Kept c writes s) (goes : s.Goes i t) : Kept c writes t := by
  cases goes with
  | recorded found stage => exact kept.record found stage
  | staged found stage =>
    exact kept.moveOn found (by simp [stage]) (by simp) (by simp [WriteStage.copy?, stage]) _ _
  | renamed found stage held =>
    exact kept.moveOn found (by simp [stage]) (by simp) (by simp [WriteStage.copy?]) _ _
  | failed found begun contents =>
    exact kept.moveOn found begun (by simp) (by simp [WriteStage.copy?]) _ _
  | idled => exact kept

/-! ## The file -/

/-- What cannot end with every call done: one has failed, or more have written the staging file than
it can serve. -/
inductive Doomed (s : Overlap) : Prop
  | failed {i : Nat} {e : LinkError} (stage : s.stage? i = some (.returned (.error e)))
  | orphaned {i : Nat} {copy : Config} (stage : s.stage? i = some (.staged copy))
    (gone : s.directory.file.staged = none)
  | contested {i j : Nat} {copy other : Config} (stage : s.stage? i = some (.staged copy))
    (too : s.stage? j = some (.staged other)) (distinct : i ≠ j)

theorem Doomed.not_allDone (doomed : s.Doomed) : ¬ s.AllDone := by
  intro done
  have stages {i : Nat} {stage : WriteStage} (reached : s.stage? i = some stage) :
      stage = .returned .done := by
    obtain ⟨call, found, rfl⟩ := Option.map_eq_some_iff.1 reached
    exact done call (List.mem_of_getElem? found)
  cases doomed with
  | failed stage => cases stages stage
  | orphaned stage => cases stages stage
  | contested stage => cases stages stage

theorem Doomed.goes (doomed : s.Doomed) (goes : s.Goes i t) : t.Doomed := by
  cases goes with
  | recorded found stage =>
    cases doomed with
    | failed reached => exact .failed (stage?_of_ne found reached (by simp [stage]))
    | orphaned reached gone => exact .orphaned (stage?_of_ne found reached (by simp [stage])) gone
    | contested reached too distinct =>
      exact .contested (stage?_of_ne found reached (by simp [stage]))
        (stage?_of_ne found too (by simp [stage])) distinct
  | @staged call copy found stage =>
    cases doomed with
    | failed reached => exact .failed (stage?_of_ne found reached (by simp [stage]))
    | @orphaned k _ reached gone =>
      have other : i ≠ k := by rintro rfl; simp [stage?, found, stage] at reached
      exact .contested (stage?_self found _) (stage?_of_ne found reached (by simp [stage])) other
    | contested reached too distinct =>
      exact .contested (stage?_of_ne found reached (by simp [stage]))
        (stage?_of_ne found too (by simp [stage])) distinct
  | @renamed call copy bytes found stage held =>
    have still {k : Nat} {other : Config} (reached : s.stage? k = some (.staged other))
        (apart : i ≠ k) :
        (s.setStage i call (.returned .done)).stage? k = some (.staged other) := by
      rw [stage?_setStage found, if_neg apart, reached]
    cases doomed with
    | failed reached => exact .failed (stage?_of_ne found reached (by simp [stage]))
    | orphaned reached gone => simp [held] at gone
    | @contested k l _ _ reached too distinct =>
      by_cases same : i = k
      · exact .orphaned (still too (same ▸ distinct)) rfl
      · exact .orphaned (still reached same) rfl
  | failed found begun contents => exact .failed (stage?_self found _)
  | idled => exact doomed

/-- How the file stands while the saves come one after another. -/
structure Tidy (c : Config) (writes : List (Address × Priority)) (s : Overlap) : Prop where
  saved : ∀ i result, s.stage? i = some (.returned result) → i ∈ s.saved
  staged : ∀ i copy, s.stage? i = some (.staged copy) →
    s.directory.file.staged = some copy.render.toUTF8
  contents : ∀ i, s.saved.getLast? = some i →
    ∃ copy, s.Took c writes i copy ∧ s.directory.file.contents = some copy.render.toUTF8

theorem tidy_start (d : Directory) (writes : List (Address × Priority)) :
    Tidy d.config writes (start d writes) where
  saved i result reached := by cases found : writes[i]? <;> simp [start, stage?, found] at reached
  staged i copy reached := by cases found : writes[i]? <;> simp [start, stage?, found] at reached
  contents i last := by simp [start] at last

theorem Tidy.goes (tidy : Tidy c writes s) (kept : Kept c writes s) (goes : s.Goes i t) :
    Tidy c writes t ∨ t.Doomed := by
  cases goes with
  | recorded found stage =>
    refine .inl ⟨fun j result reached => ?_, fun j copy reached => ?_, fun j last => ?_⟩
    · exact tidy.saved j result (stage?_before found reached (by simp)).2
    · exact tidy.staged j copy (stage?_before found reached (by simp)).2
    · obtain ⟨copy, took, contents⟩ := tidy.contents j last
      exact ⟨copy, took.record rfl, contents⟩
  | @staged call copy found stage =>
    -- with a copy of another call in the staging file already, one of the two will find it gone
    by_cases others : ∃ j other, s.stage? j = some (.staged other)
    · obtain ⟨j, other, reached⟩ := others
      have apart : i ≠ j := by rintro rfl; simp [stage?, found, stage] at reached
      exact .inr (.contested (stage?_self found _)
        (stage?_of_ne found reached (by simp [stage])) apart)
    refine .inl ⟨fun j result reached => ?_, fun j other reached => ?_, tidy.contents⟩
    · exact tidy.saved j result (stage?_before found reached (by simp)).2
    · by_cases same : WriteStage.staged copy = .staged other
      · cases same
        rfl
      · exact absurd ⟨j, other, (stage?_before found reached same).2⟩ others
  | @renamed call copy bytes found stage held =>
    have reached : s.stage? i = some (.staged copy) := by simp [stage?, found, stage]
    -- what is renamed is the copy of this call, since nobody else may have staged one
    refine or_iff_not_imp_right.2 fun fine =>
      ⟨fun j result returned => ?_, fun j other staged => ?_, ?_⟩
    · by_cases same : i = j
      · simp [same]
      · have before := (stage?_setStage found (.returned .done) j).symm.trans returned
        rw [if_neg same] at before
        exact List.mem_append_left _ (tidy.saved j result before)
    · exact absurd (.orphaned staged rfl) fine
    · intro j last
      obtain rfl : i = j := by simpa using last
      have own : bytes = copy.render.toUTF8 :=
        Option.some.inj (held.symm.trans (tidy.staged i copy reached))
      exact ⟨copy, kept.copies i _ copy reached rfl, congrArg some own⟩
  | failed found begun contents => exact .inr (.failed (stage?_self found _))
  | idled => exact .inl tidy

/-! ## Runs -/

theorem Kept.run (kept : Kept c writes s) (schedule : List Nat) :
    Kept c writes (s.run schedule) := by
  induction schedule generalizing s with
  | nil => exact kept
  | cons i rest ih => exact ih (kept.goes (s.goes_step i))

theorem Doomed.run (doomed : s.Doomed) (schedule : List Nat) : (s.run schedule).Doomed := by
  induction schedule generalizing s with
  | nil => exact doomed
  | cons i rest ih => exact ih (doomed.goes (s.goes_step i))

/-- Where every call is done in the end, the saves came one after another. -/
theorem Tidy.run {schedule : List Nat} (tidy : Tidy c writes s) (kept : Kept c writes s)
    (done : (s.run schedule).AllDone) : Tidy c writes (s.run schedule) := by
  induction schedule generalizing s with
  | nil => exact tidy
  | cons i rest ih =>
    obtain next | doomed := tidy.goes kept (s.goes_step i)
    · exact ih next (kept.goes (s.goes_step i)) done
    · exact absurd done (doomed.run rest).not_allDone

theorem Kept.length (kept : Kept c writes s) : s.calls.length = writes.length := by
  simp [← kept.calls]

theorem AllDone.stage? (done : s.AllDone) (inside : i < s.calls.length) :
    s.stage? i = some (.returned .done) := by
  simp [Overlap.stage?, inside, done _ (List.getElem_mem inside)]

/-- Where every call is done, each has recorded its priority once. -/
theorem Kept.perm (kept : Kept c writes s) (done : s.AllDone) :
    s.recorded.Perm (List.range writes.length) := by
  refine (List.perm_ext_iff_of_nodup kept.nodup List.nodup_range).2 fun i => ?_
  rw [kept.recorded, List.mem_range, ← kept.length]
  constructor
  · rintro ⟨stage, reached, -⟩
    obtain ⟨call, found, -⟩ := Option.map_eq_some_iff.1 reached
    exact (List.getElem?_eq_some_iff.1 found).1
  · exact fun inside => ⟨_, done.stage? inside, by simp⟩

/-- If any number of calls overlap in any way and every one is done, the memory has every priority,
in the order in which they were recorded. The file has those that were recorded up to the call that
saved last, and so all of them if that call was also the last to record. -/
theorem last_save_stands (d : Directory) (writes : List (Address × Priority))
    (schedule : List Nat) :
    let s := (start d writes).run schedule
    writes ≠ [] → s.AllDone →
      ∃ before last after, s.recorded = before ++ last :: after ∧
        s.recorded.Perm (List.range writes.length) ∧ s.saved.getLast? = some last ∧
        s.directory.config = d.config.assigned writes s.recorded ∧
        s.directory.file.contents =
          some (d.config.assigned writes (before ++ [last])).render.toUTF8 ∧
        (s.recorded.getLast? = some last →
          s.directory.file.contents = some s.directory.config.render.toUTF8) := by
  intro s nonempty done
  have kept : Kept d.config writes s := (kept_start d writes).run schedule
  have tidy : Tidy d.config writes s := (tidy_start d writes).run (kept_start d writes) done
  have inside : 0 < s.calls.length := by
    rw [kept.length]
    exact List.length_pos_iff.2 nonempty
  obtain ⟨last, saved⟩ : ∃ last, s.saved.getLast? = some last :=
    Option.isSome_iff_exists.1 (List.getLast?_isSome.2 (List.ne_nil_of_mem
      (tidy.saved 0 _ (done.stage? inside))))
  obtain ⟨_, ⟨before, after, recorded, rfl⟩, contents⟩ := tidy.contents last saved
  refine ⟨before, last, after, recorded, kept.perm done, saved, kept.memory, contents, ?_⟩
  intro latest
  have own : last ∉ after :=
    (List.nodup_cons.1 (List.nodup_append.1 (recorded ▸ kept.nodup)).2.1).1
  have nothing : after = [] := by
    cases after with
    | nil => rfl
    | cons next rest =>
      have ends : (next :: rest).getLast? = some last := by
        simpa [recorded, List.getLast?_append, List.getLast?_cons_cons] using latest
      exact absurd (List.mem_of_getLast? ends) own
  rw [contents, kept.memory, recorded, nothing]

/-- Two calls that record and save in the same order, the one before the other is done. -/
theorem orderly_writes_saved :
    let s := (start (.ofConfig .default .missing) [(.numbered 1, .off), (.numbered 2, .on)]).run
      [0, 1, 0, 0, 1, 1]
    s.AllDone ∧ s.directory.file.contents = some s.directory.config.render.toUTF8 := by
  intro s
  have calls : s.calls =
      [⟨.numbered 1, .off, .returned .done⟩, ⟨.numbered 2, .on, .returned .done⟩] := rfl
  have done : s.AllDone := by simp [AllDone, calls]
  obtain ⟨_, last, _, _, _, saved, _, _, all⟩ := last_save_stands _ _ _ (by simp) done
  obtain rfl : 1 = last := Option.some.inj saved
  exact ⟨done, all rfl⟩

/-- Two calls that record in one order and save in the other are both done, and the file lacks what
the second of them recorded. -/
theorem crossing_saves (d : Directory) (writable : d.file.fault = none) (v w : Address × Priority) :
    let s := (start d [v, w]).run [0, 1, 1, 1, 0, 0]
    s.AllDone ∧
      s.directory.config = (d.config.setPriority v.1 v.2).setPriority w.1 w.2 ∧
      s.directory.file.contents = some (d.config.setPriority v.1 v.2).render.toUTF8 := by
  obtain ⟨config, ⟨contents, staged, fault⟩, bonds⟩ := d
  cases writable
  have ends : (start ⟨config, ⟨contents, staged, none⟩, bonds⟩ [v, w]).run [0, 1, 1, 1, 0, 0] =
      { directory :=
          ⟨(config.setPriority v.1 v.2).setPriority w.1 w.2,
            ⟨some (config.setPriority v.1 v.2).render.toUTF8, none, none⟩, bonds⟩
        calls := [⟨v.1, v.2, .returned .done⟩, ⟨w.1, w.2, .returned .done⟩]
        recorded := [0, 1]
        saved := [1, 0] } := by
    simp [run, start, step, record, stage, rename, setStage, withFile, Directory.record,
      ConfigFile.makeDirectory, ConfigFile.stage, ConfigFile.rename, Outcome.done]
  simp [AllDone, ends]

theorem later_write_lost :
    ¬ ∀ (d : Directory) (writes : List (Address × Priority)) (schedule : List Nat),
      let s := (start d writes).run schedule
      writes ≠ [] → s.AllDone →
        ∃ loaded, s.directory.file.load.1 = .ok loaded ∧
          ∀ device, loaded.priorityOf device = s.directory.priority device := by
  intro reach
  obtain ⟨done, memory, contents⟩ := crossing_saves (.ofConfig .default .missing) rfl
    (.numbered 1, .off) (.numbered 2, .on)
  obtain ⟨loaded, load, agree⟩ := reach _ _ _ (by simp) done
  have text : Config.read? (Config.default.setPriority (.numbered 1) .off).render =
      some (Config.default.setPriority (.numbered 1) .off) := by decide +kernel
  obtain rfl : Config.default.setPriority (.numbered 1) .off = loaded := by
    rw [ConfigFile.load, ConfigFile.loadWith_of_contents contents text] at load
    exact Except.ok.inj load
  have lost := agree (.numbered 2)
  rw [Directory.priority, memory] at lost
  exact absurd lost (by decide +kernel)

end Overlap

end AccessoryLink
