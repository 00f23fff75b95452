import AccessoryLink.Proofs.Manager.Session
import AccessoryLink.Station.Basic

/-!
# Runs of a station

A station is a manager over a link control and a directory, and what its tasks do is a
change of the surroundings together with some reports. So each of its steps is matched
by a few actions of a session (`step_matched`), and what holds of every session holds
of every run of a station.
-/

namespace AccessoryLink

open StationWorld

namespace Station

/-- Takes steps in a row, and collects the trace of the machine. -/
def run (s : Station) : List StationStep → Station × List Effect
  | [] => (s, [])
  | step :: rest =>
    let (after, output) := s.step step
    let later := run after rest
    (later.1, output.effects ++ later.2)

@[simp] theorem run_nil (s : Station) : run s [] = (s, []) := rfl

theorem run_cons (s : Station) (step : StationStep) (rest : List StationStep) :
    run s (step :: rest) =
      ((run (Station.step s step).1 rest).1,
        (Station.step s step).2.effects ++ (run (Station.step s step).1 rest).2) := rfl

theorem run_append (s : Station) (front back : List StationStep) :
    run s (front ++ back) =
      ((run (run s front).1 back).1, (run s front).2 ++ (run (run s front).1 back).2) := by
  induction front generalizing s with
  | nil => rfl
  | cons step rest ih =>
      rw [List.cons_append, run_cons, ih, run_cons, List.append_assoc]

/-- A session in which the same has happened. -/
def Matches (s : Session StationWorld) (station : Station) (trace : List Effect) : Prop :=
  s.manager = station ∧ s.trace = trace

/-- Reports are queued one by one. -/
theorem hear_matched (s : Session StationWorld) (reports : List Report) :
    ∃ actions, Matches (s.run surroundings actions) (hear s.manager reports) s.trace := by
  induction reports generalizing s with
  | nil => exact ⟨[], rfl, rfl⟩
  | cons report rest ih =>
      obtain ⟨actions, matched⟩ := ih (s.step surroundings (.report report.event))
      exact ⟨.report report.event :: actions, matched⟩

/-- Sending is answered at once or later, and leaves no effect of its own. -/
theorem step_send (s : Station) (device : Address) (packet : Packet) :
    (Station.step s (.send device packet)).1 = (s.send device packet).2 ∧
      (Station.step s (.send device packet)).2.effects = [] := by
  rcases sent : s.send device packet with ⟨_ | _, after⟩ <;> simp [Station.step, sent]

/-- Every step of a station is some actions of a session. -/
theorem step_matched (s : Session StationWorld) (step : StationStep) :
    ∃ actions, Matches (s.run surroundings actions) (Station.step s.manager step).1
      (s.trace ++ (Station.step s.manager step).2.effects) := by
  have quiet : s.trace ++ [] = s.trace := List.append_nil _
  cases step with
  | connect device =>
      obtain same | queued := s.manager.connect_queues surroundings device
      · exact ⟨[], same.symm, quiet.symm⟩
      · exact ⟨[.command .connect device], queued.symm, quiet.symm⟩
  | disconnect device =>
      obtain same | queued := s.manager.disconnect_queues device
      · exact ⟨[], same.symm, quiet.symm⟩
      · exact ⟨[.command .disconnect device], queued.symm, quiet.symm⟩
  | send device packet =>
      obtain ⟨after, still⟩ := step_send s.manager device packet
      rw [after, still, quiet, Manager.send_eq]
      split
      · exact ⟨[], rfl, rfl⟩
      · rename_i linked
        have checked : s.step surroundings (.check device packet) =
            { s with checked := s.checked ++ [(device, packet)] } :=
          if_pos (not_not.mp linked)
        refine ⟨[.check device packet, .queue s.checked.length], ?_⟩
        simp only [Session.run, List.foldl_cons, List.foldl_nil, checked]
        simp only [Session.step, List.getElem?_concat_length]
        exact ⟨Session.manager_file _ _ _, Session.trace_file _ _ _⟩
  | shutdown => exact ⟨[.shutdown], rfl, quiet.symm⟩
  | drop => exact ⟨[.drop], rfl, quiet.symm⟩
  | setPriority device priority => exact ⟨[.change _], rfl, quiet.symm⟩
  | listen bound => exact ⟨[.change _], rfl, quiet.symm⟩
  | bonds bonds => exact ⟨[.change _], rfl, quiet.symm⟩
  | actor =>
      refine ⟨[.turn], ?_⟩
      rcases turned : s.manager.turn surroundings with _ | ⟨after, effects⟩
      · simp [Matches, Session.run, Session.step, Station.step, turned]
      · simp [Matches, Session.run, Session.step, Station.step, turned]
  | task step =>
      let turn := s.manager.world.control.step s.manager.now step
      obtain ⟨actions, heard, trace⟩ := hear_matched
        (s.step surroundings (.change { s.manager.world with control := turn.control }))
        turn.reports
      exact ⟨.change _ :: actions, heard, trace.trans quiet.symm⟩
  | pass ms => exact ⟨[.pass ms], rfl, quiet.symm⟩

/-- Every run of a station is a session. -/
theorem run_matched (s : Session StationWorld) (steps : List StationStep) :
    ∃ actions, Matches (s.run surroundings actions) (run s.manager steps).1
      (s.trace ++ (run s.manager steps).2) := by
  induction steps generalizing s with
  | nil => exact ⟨[], rfl, (List.append_nil _).symm⟩
  | cons step rest ih =>
      obtain ⟨first, manager, trace⟩ := step_matched s step
      obtain ⟨second, matched⟩ := ih (s.run surroundings first)
      refine ⟨first ++ second, ?_⟩
      rw [run_cons, Session.run, List.foldl_append, ← List.append_assoc, ← trace, ← manager]
      exact matched

end Station

end AccessoryLink
