import AccessoryLink.Proofs.Machine.Admission
import AccessoryLink.Proofs.Station.Run

/-!
# Who gets the link of a station

The machine asks the admission policy about a device that turns up while nothing is
going on. It does not ask about one that turns up connected while a transition is
pending in which that device has no part: then the stack has a link that the machine
did not know of, and the machine follows the stack.

`current_devices_warranted` says that there is no further way to the link.
`unasked_device_current` is a run in which a device that is switched off takes the
link in the last way.
-/

namespace AccessoryLink

open StationWorld

/-- The verdict of the policy about an attempt, under what a directory knows. -/
def Directory.verdict (d : Directory) (device : Address) (outgoing : Bool) : Bool :=
  Admission.accepts d.isQuiet outgoing (d.priority device) (d.isBonded device)

/-- Nothing that the machine asks of the radio changes the directory. -/
theorem spares_directory (d : Directory) : surroundings.Spares (·.directory = d) :=
  ⟨fun _ => id, fun _ => id, fun _ _ => id⟩

/-- Every verdict that is reached while a message is handled is about the directory that
was there before. -/
theorem Machine.judged_handle {m : Machine} (legal : m.snapshot.Legal) {deadline : Nat}
    {w : StationWorld} {message : Message} {device : Address} {outgoing verdict : Bool}
    (judged : .judged device outgoing verdict ∈
      (handle surroundings deadline m w message).effects) :
    verdict = w.directory.verdict device outgoing := by
  let fixed (past : List Effect) (m : Machine) (after : StationWorld) : Prop :=
    m.snapshot.Legal ∧ after.directory = w.directory ∧
      ∀ device outgoing verdict, .judged device outgoing verdict ∈ past →
        verdict = w.directory.verdict device outgoing
  have kept : fixed ([] ++ (handle surroundings deadline m w message).effects)
      (handle surroundings deadline m w message).machine
      (handle surroundings deadline m w message).world := by
    refine handle_invariant (P := fixed) And.left ?_ ⟨legal, rfl, by simp⟩ message
    rintro past m w' message after rest ⟨legal, same, verdicts⟩ step
    refine ⟨step.legal legal, ?_, ?_⟩
    · exact step.world (spares_directory w.directory) same
    · intro device outgoing verdict inside
      obtain early | late := List.mem_append.mp inside
      · exact verdicts device outgoing verdict early
      · rw [step.judged late, ← same]
        rfl
  exact kept.2.2 device outgoing verdict judged

namespace Station

/-- Every run of a station keeps what every session keeps. -/
theorem warranted_run (control : Control) (directory : Directory) (timeout : Nat)
    (steps : List StationStep) :
    Machine.Warranted (run (initial control directory timeout) steps).2
        (run (initial control directory timeout) steps).1.machine ∧
      (run (initial control directory timeout) steps).1.machine.replay = [] := by
  obtain ⟨actions, manager, trace⟩ :=
    run_matched (Session.initial ⟨control, directory⟩ timeout) steps
  have kept := Session.machine_invariant surroundings (P := Machine.Warranted)
    (fun before => before.lawful.legal)
    (fun rest before step => (before.withReplay rest).step step)
    (fun before farewell => before.givenUp farewell.silent farewell.untold)
    Machine.warranted_initial ⟨control, directory⟩ timeout actions
  rw [manager, trace] at kept
  exact kept

/-- Every entry of the trace stems from one of the steps. -/
theorem mem_run {s : Station} {steps : List StationStep} {effect : Effect}
    (inside : effect ∈ (run s steps).2) :
    ∃ past step rest, steps = past ++ step :: rest ∧
      effect ∈ (Station.step (run s past).1 step).2.effects := by
  induction steps generalizing s with
  | nil => cases inside
  | cons step rest ih =>
      rw [run_cons] at inside
      obtain early | late := List.mem_append.mp inside
      · exact ⟨[], step, rest, rfl, early⟩
      · obtain ⟨past, next, later, rfl, there⟩ := ih late
        exact ⟨step :: past, next, later, rfl, there⟩

/-- Only the actor has effects. -/
theorem effects_step (s : Station) (step : StationStep) :
    step = .actor ∨ (Station.step s step).2.effects = [] := by
  cases step with
  | actor => exact .inl rfl
  | send device packet => exact .inr (step_send s device packet).2
  | _ => exact .inr rfl

/-- Every verdict that a step reaches is the one of the policy under the directory of
its moment. -/
theorem judged_step {s : Station} (legal : s.machine.snapshot.Legal)
    (done : s.machine.replay = []) {step : StationStep} {device : Address}
    {outgoing verdict : Bool}
    (judged : .judged device outgoing verdict ∈ (Station.step s step).2.effects) :
    verdict = s.world.directory.verdict device outgoing := by
  obtain rfl | none := effects_step s step
  · simp only [Station.step] at judged
    split at judged
    · rename_i after effects turned
      obtain ⟨message, rest, -, handled⟩ | ⟨rest, -, stopped⟩ := Manager.turn_cases turned
      · obtain ⟨-, rfl⟩ := Prod.mk.inj handled
        exact Machine.judged_handle legal judged
      · obtain ⟨-, farewell⟩ := Manager.stop_of_done surroundings
          (m := { s with inbox := rest }) done
        rw [stopped] at farewell
        exact absurd judged (farewell.absent (by simp) (by simp))
    · cases judged
  · rw [none] at judged
    cases judged

/-- On every run, a device that becomes current was asked for, or was judged and
admitted, in the attempt that brings it there; or it is reported connected during a
transition in which it has no part. Each verdict is the one of the policy under the
directory of its moment. So a device that is switched off throughout, and that nobody
asks for, becomes current in the last way only. -/
theorem current_devices_warranted (control : Control) (directory : Directory)
    (timeout : Nat) (steps : List StationStep) :
    let start := initial control directory timeout
    (∀ part device, BecomesCurrent (run start steps).2 part device →
        Asked device part ∨ Admitted device part ∨ Resynchronizing device part) ∧
      visible (run start steps).2 = (run start steps).1.snapshot ∧
      (∀ past step rest, steps = past ++ step :: rest → ∀ device outgoing verdict,
        .judged device outgoing verdict ∈ (Station.step (run start past).1 step).2.effects →
          verdict = (run start past).1.world.directory.verdict device outgoing) ∧
      ∀ device,
        (∀ past rest, steps = past ++ rest →
          (run start past).1.world.directory.priority device = .off) →
        (∀ ticket, .took (.command ⟨.connect, device, ticket⟩) ∉ (run start steps).2) →
        ∀ part, BecomesCurrent (run start steps).2 part device →
          Resynchronizing device part := by
  intro start
  have warranted := (warranted_run control directory timeout steps).1
  have verdicts : ∀ past step rest, steps = past ++ step :: rest →
      ∀ device outgoing verdict,
        .judged device outgoing verdict ∈ (Station.step (run start past).1 step).2.effects →
          verdict = (run start past).1.world.directory.verdict device outgoing := by
    intro past step rest _ device outgoing verdict judged
    obtain ⟨before, done⟩ := warranted_run control directory timeout past
    exact judged_step before.lawful.legal done judged
  refine ⟨warranted.current, warranted.lawful.shown, verdicts, ?_⟩
  intro device off unasked part becomes
  have inside : part ⊆ (run start steps).2 := by
    obtain ⟨s, rest, split, -⟩ := becomes
    rw [split]
    exact List.subset_append_left _ _
  obtain ⟨before, ticket, later, rfl, -⟩ | ⟨before, outgoing, later, rfl, -⟩ | unexpected :=
    warranted.current part device becomes
  · exact absurd (inside (by simp)) (unasked ticket)
  · have admitted : .judged device outgoing true ∈ (run start steps).2 := inside (by simp)
    obtain ⟨past, step, rest, split, judged⟩ := mem_run admitted
    have verdict := verdicts past step rest split device outgoing true judged
    rw [Directory.verdict, off past _ split, Admission.accepts_off] at verdict
    cases verdict
  · exact unexpected

/-- A directory in which the second device is switched off. -/
def secondOff :
    Directory := (Directory.ofConfig .default .missing).record (.numbered 2) .off

/-- The first device is being connected when the second one opens a channel. -/
def intrusion : List StationStep :=
  [.listen .done, .connect (.numbered 1), .actor, .task (.accepted 0 (.numbered 2)),
    .task (.start 1), .actor, .actor]

/-- A device that is switched off, and that nobody asked for, takes the link from the
one that was being connected, and the policy is not asked. -/
theorem unasked_device_current :
    ¬ ∀ (directory : Directory) (steps : List StationStep) (part : List Effect)
        (device : Address),
      directory.priority device = .off →
      BecomesCurrent (run (initial (.initial 4097 5000) directory 30000) steps).2 part
          device →
        (∃ ticket, .took (.command ⟨.connect, device, ticket⟩) ∈ part) ∨
          ∃ outgoing, .judged device outgoing true ∈ part := by
  intro warranted
  have off : secondOff.priority (.numbered 2) = .off := by decide +kernel
  have trace : (run (initial (.initial 4097 5000) secondOff 30000) intrusion).2 =
      [.took (.command ⟨.connect, .numbered 1, 0⟩),
        .told (.connection (.numbered 1) .connecting .disconnected),
        .called (.connect (.numbered 1)) .done,
        .wrote ⟨.pending, .outgoing (.numbered 1), none⟩,
        .took (.stack (.connection .connecting (.numbered 2))),
        .took (.stack (.connection .connected (.numbered 2))),
        .told (.connection (.numbered 1) .disconnected .connecting),
        .told (.connection (.numbered 2) .connected .disconnected)] ++
        [.wrote ⟨.connected, .current (.numbered 2), none⟩] := by decide +kernel
  have other : Address.numbered 1 ≠ .numbered 2 := by decide
  have becomes : BecomesCurrent _ _ (.numbered 2) :=
    ⟨_, [], trace, rfl, by simp [visible, Snapshot.seen, Roles.current?]⟩
  obtain ⟨ticket, asked⟩ | ⟨outgoing, admitted⟩ :=
    warranted secondOff intrusion _ (.numbered 2) off becomes
  · simp [other.symm] at asked
  · simp at admitted

end Station

end AccessoryLink
