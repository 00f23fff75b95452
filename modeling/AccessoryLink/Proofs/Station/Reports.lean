import AccessoryLink.Proofs.Control.Turns
import AccessoryLink.Proofs.Manager.Reports
import AccessoryLink.Proofs.Station.Steps

/-!
# From callbacks to the machine

The control makes its reports from typed values. They go through the codes and bytes of the
callbacks and are back in the queue as the same typed values; no report of a task is lost to a fault
of its own (`task_reports`). So no open service without a channel gets to the machine, neither from
a transport that may call back with anything, nor on any run of a station (`callbacks_translated`).
-/

namespace AccessoryLink

variable {W : Type}

namespace Control

/-- A typed report of a service is passed on as it is, unless an open service lacks its channel. -/
theorem reportService_eq {state : ServiceState} {channel : Option ChannelHandle}
    (carried : state = .connected → channel ≠ none) (turn : ControlTurn) (task : TaskId)
    (device : Address) :
    turn.reportService task device state channel =
      { turn with reports := turn.reports ++ [⟨some task, .service state device channel⟩] } := by
  simp [ControlTurn.reportService, RawReport.service_code carried]

/-- A task that opens the service of its device tells the channel. -/
theorem Moves.carried {c c' : Control} {reports : List Report} (moves : Moves c reports c')
    {report : Report} (inside : report ∈ reports) : report.event.Carried := by
  intro device bare
  cases moves with
  | still | dialing | unserved | served | hangupAsked | accepted => cases inside
  | dialed | dialFailed | opened | openRefused | received | hangupStarted | settled =>
      obtain rfl := List.mem_singleton.mp inside
      cases bare
  | inbound | inboundRefused =>
      simp only [List.mem_cons, List.not_mem_nil, or_false] at inside
      obtain rfl | rfl | rfl := inside <;> cases bare
  | channelEnded =>
      rw [eq_of_serviceEnd inside] at bare
      cases bare
  | lost =>
      obtain service | last := List.mem_append.mp inside
      · rw [eq_of_serviceEnd service] at bare
        cases bare
      · rw [List.mem_singleton.mp last] at bare
        cases bare
  | listened _ failures =>
      obtain ⟨code, text, failure⟩ := failures report inside
      rw [failure] at bare
      cases bare

end Control

namespace Station

open StationWorld

variable {s : Station} {trace : List Effect}

/-- A station that runs gets every report of a task in the order and as the task made it, and none
of them is about a fault of the task itself. -/
theorem task_reports (running : s.ended = false) (work : ControlStep) :
    let result := Station.step s (.task work)
    result.1.inbox = s.inbox ++ result.2.reports.map (fun report => .stack report.event) ∧
      ∀ task, work.task? = some task → ∀ report ∈ result.2.reports,
        report.task = some task ∧ ∀ code text, report.event ≠ .error code text := by
  intro result
  constructor
  · obtain ⟨ended, -⟩ | ⟨-, same⟩ := task_cases s work
    · rw [running] at ended
      cases ended
    · exact congrArg Manager.inbox same
  · intro task own
    exact (Control.isOf_step s.world.control s.now own).reports

theorem heeds_task (before : s.Heeds StackEvent.Carried trace) (work : ControlStep) :
    (advanceTask s work).1.Heeds StackEvent.Carried trace := by
  obtain ⟨-, same⟩ | ⟨-, same⟩ := task_cases s work
  · rw [same]
    exact before.outside rfl fun event waits => .inl waits
  · rw [same]
    refine before.outside rfl fun event waits => ?_
    obtain early | late := List.mem_append.mp waits
    · exact .inl early
    · obtain ⟨report, inside, made⟩ := List.mem_map.mp late
      obtain rfl : report.event = event := Message.stack.inj made
      exact .inr ((Control.moves_step s.world.control s.now work).carried inside)

theorem heeds_actor (before : s.Heeds StackEvent.Carried trace) :
    (Station.step s .actor).1.Heeds StackEvent.Carried
      (trace ++ (Station.step s .actor).2.effects) := by
  obtain ⟨same, still⟩ | ⟨-, ⟨message, rest, next, same, effects⟩ |
    ⟨rest, -, same, effects⟩⟩ := actor_cases s
  · rw [same, still, List.append_nil]
    exact before
  · rw [same, effects]
    exact before.handle surroundings (StackEvent.carried_connection .disconnected) next
  · rw [same, effects]
    exact before.stop surroundings rest

/-- What comes from outside reports nothing. -/
theorem heeds_elsewhere (before : s.Heeds StackEvent.Carried trace) {step : StationStep}
    (idle : ∀ work, step ≠ .task work) (passive : step ≠ .actor) :
    (Station.step s step).1.Heeds StackEvent.Carried
      (trace ++ (Station.step s step).2.effects) := by
  obtain ⟨outside, still⟩ := outside_step s idle passive
  rw [still, List.append_nil]
  refine before.outside outside.machine fun event waits => ?_
  obtain same | ⟨message, asks, queued⟩ := outside.inbox
  · exact .inl (same ▸ waits)
  · rw [queued] at waits
    obtain early | late := List.mem_append.mp waits
    · exact .inl early
    · exact absurd (List.mem_singleton.mp late).symm (asks event)

theorem heeds_step (before : s.Heeds StackEvent.Carried trace) (step : StationStep) :
    (Station.step s step).1.Heeds StackEvent.Carried
      (trace ++ (Station.step s step).2.effects) := by
  cases step with
  | task work =>
      have after := heeds_task before work
      rw [← List.append_nil trace] at after
      exact after
  | actor => exact heeds_actor before
  | _ => exact heeds_elsewhere before (by simp) (by simp)

theorem heeds_run (before : s.Heeds StackEvent.Carried trace) (steps : List StationStep) :
    (run s steps).1.Heeds StackEvent.Carried (trace ++ (run s steps).2) := by
  induction steps generalizing s trace with
  | nil => simpa using before
  | cons step rest ih =>
      rw [run_cons, ← List.append_assoc]
      exact ih (heeds_step before step)

end Station

/-- Translation is total and exact. Whatever code, bytes and channel a callback brings, while the
queue is open it puts one event there, and that is the only one which the callback means. So a typed
report of the control is back in the queue as it was made, and what a task makes is never about a
fault of its own. No open service without its channel is ever taken up by the machine: not where the
stack reports nothing but callbacks, and not on any run of a station. -/
theorem callbacks_translated (env : Surroundings W) (world : W) (timeout : Nat) :
    (∀ (m : Manager W) (call : RawReport.Callback), m.ended = false →
        ∃ event, m.deliver call = { m with inbox := m.inbox ++ [.stack event] } ∧
          ∀ other, call.Means other ↔ other = event) ∧
      (∀ (turn : ControlTurn) (task : TaskId) (device : Address),
        (∀ state, turn.reportConnection task device state =
          { turn with reports := turn.reports ++ [⟨some task, .connection state device⟩] }) ∧
        ∀ state channel, (state = .connected → channel ≠ none) →
          turn.reportService task device state channel =
            { turn with reports := turn.reports ++ [⟨some task, .service state device channel⟩] }) ∧
      (∀ (s : Station) (work : ControlStep), s.ended = false →
        let result := s.step (.task work)
        result.1.inbox = s.inbox ++ result.2.reports.map (fun report => .stack report.event) ∧
          ∀ task, work.task? = some task → ∀ report ∈ result.2.reports,
            report.task = some task ∧ ∀ code text, report.event ≠ .error code text) ∧
      (∀ actions : List (Action W),
        (∀ event, .report event ∈ actions → ∃ call : RawReport.Callback, call.event = event) →
        ∀ device, .took (.stack (.service .connected device none)) ∉
          ((Session.initial world timeout).run env actions).trace) ∧
      ∀ (control : Control) (directory : Directory) (steps : List StationStep) (device : Address),
        .took (.stack (.service .connected device none)) ∉
          (Station.run (Station.initial control directory timeout) steps).2 := by
  refine ⟨?_, ?_, ?_, ?_, ?_⟩
  · intro m call running
    exact ⟨call.event, m.deliver_eq running call, fun other => RawReport.Callback.means_iff⟩
  · intro turn task device
    refine ⟨fun state => Control.reportConnection_eq state, fun state channel carried => ?_⟩
    exact Control.reportService_eq carried turn task device
  · intro s work running
    exact Station.task_reports running work
  · intro actions calls device taken
    let start : Session W := .initial world timeout
    have begin : start.manager.Heeds StackEvent.Carried start.trace := Manager.heeds_initial _ _ _
    have ends := Session.heeds_run env (StackEvent.carried_connection .disconnected) begin actions
      fun event reported => by
        obtain ⟨call, rfl⟩ := calls event reported
        exact call.carried
    exact ends.taken _ taken device rfl
  · intro control directory steps device taken
    have begin := Manager.heeds_initial StackEvent.Carried
      (StationWorld.mk control directory) timeout
    exact (Station.heeds_run begin steps).taken _ taken device rfl

end AccessoryLink
