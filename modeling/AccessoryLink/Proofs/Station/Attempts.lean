import AccessoryLink.Proofs.Control.Authors
import AccessoryLink.Proofs.Machine.Admission
import AccessoryLink.Proofs.Machine.Observers
import AccessoryLink.Proofs.Station.Pending

/-!
# What ends an attempt to connect

An attempt ends with a report that its device is disconnected. The report should come from
the link that was started for the attempt. But a disconnection outlives the attempt that it
was to end, and reports nothing but an address, for which a new link may have been started in
the meantime. It ends that one's attempt (`stale_report_ends_attempt`). A report that is
queued when an attempt begins says no more. There is nothing else of the kind: any other
report that ends an attempt is one of its own link, and what is left over is told by the
number of the task that made it, which is less than that of the link (`attempt_ended_by`).

The queue holds messages and not reports, so the reports are followed beside it
(`waiting`).
-/

namespace AccessoryLink

open StationWorld

/-- The event that a message reports. -/
def Message.event? : Message → Option StackEvent
  | stack event => some event
  | _ => none

theorem Message.eq_of_event? {message : Message} {event : StackEvent}
    (reported : message.event? = some event) : message = .stack event := by
  cases message <;> cases reported
  rfl

namespace Station

/-! ## The reports in the queue -/

/-- Of some reports, those that a queue still holds. They are the last. -/
def remaining (inbox : List Message) (reports : List Report) : List Report :=
  reports.drop (reports.length - (inbox.filterMap Message.event?).length)

/-- The reports that wait in the queue after some steps, where some waited before: those
that the tasks make come last, and those that the machine takes up are gone. -/
def waiting (s : Station) (before : List Report) : List StationStep → List Report
  | [] => before
  | step :: rest =>
    let (after, output) := s.step step
    waiting after (remaining after.inbox (before ++ output.reports)) rest

theorem waiting_cons (s : Station) (before : List Report) (step : StationStep)
    (rest : List StationStep) :
    waiting s before (step :: rest) =
      waiting (Station.step s step).1
        (remaining (Station.step s step).1.inbox (before ++ (Station.step s step).2.reports))
        rest := rfl

theorem waiting_append (s : Station) (before : List Report) (front back : List StationStep) :
    waiting s before (front ++ back) = waiting (run s front).1 (waiting s before front) back := by
  induction front generalizing s before with
  | nil => rfl
  | cons step rest ih =>
      rw [List.cons_append, waiting_cons, waiting_cons, run_cons]
      exact ih _ _

theorem remaining_eq {inbox : List Message} {gone left : List Report}
    (events : inbox.filterMap Message.event? = left.map Report.event) :
    remaining inbox (gone ++ left) = left := by
  simp [remaining, events]

/-- The queue holds the events of the reports that wait. Each of these comes from a task
that has a number, or is a failure of the listener. None waits after the end. -/
structure Tracked (s : Station) (reports : List Report) : Prop where
  events : s.inbox.filterMap Message.event? = reports.map Report.event
  authors : ∀ report ∈ reports, (∃ id < s.world.control.nextTask, report.task = some id) ∨
    ∃ code text, report.event = .error code text
  closed : s.ended = true → reports = []

theorem tracked_initial (psm : UInt16) (pollInterval : Nat) (directory : Directory)
    (timeout : Nat) : Tracked (initial (.initial psm pollInterval) directory timeout) [] where
  events := rfl
  authors := by simp
  closed _ := rfl

section Step

variable {s after : Station} {reports gone left : List Report}

/-- What waits now is the end of what waited or has come. -/
theorem Tracked.remaining (tracked : Tracked after left) (gone : List Report) :
    Tracked after (remaining after.inbox (gone ++ left)) := by
  rw [remaining_eq tracked.events]
  exact tracked

theorem Tracked.remaining_self (tracked : Tracked s reports) :
    Station.remaining s.inbox reports = reports := by
  rw [← List.nil_append reports]
  exact remaining_eq tracked.events

/-- The queue has lost its first reports, and got none. -/
theorem Tracked.lose (before : Tracked s (gone ++ left))
    (events : after.inbox.filterMap Message.event? = left.map Report.event)
    (later : s.world.control.nextTask ≤ after.world.control.nextTask)
    (closed : after.ended = true → left = []) : Tracked after left where
  events := events
  authors := by
    intro report inside
    refine (before.authors report (List.mem_append_right _ inside)).imp_left ?_
    rintro ⟨id, known, own⟩
    exact ⟨id, Nat.lt_of_lt_of_le known later, own⟩
  closed := closed

/-- Reports that are queued wait behind the others. -/
theorem Tracked.heard (before : Tracked s reports) (new : List Report) :
    (s.inbox ++ new.map fun report => Message.stack report.event).filterMap Message.event? =
      (reports ++ new).map Report.event := by
  rw [List.filterMap_append, before.events, List.map_append, List.filterMap_map]
  congr 1
  exact congrFun List.filterMap_eq_map _

/-- Reports of a task are queued, unless the station has ended. -/
theorem Tracked.task (before : Tracked s reports) (attentive : s.ended = false → Attentive s)
    (work : ControlStep) :
    Tracked (advanceTask s work).1
      (Station.remaining (advanceTask s work).1.inbox
        (reports ++ (advanceTask s work).2.reports)) := by
  let t := s.world.control.step s.now work
  have moves : Control.Moves s.world.control t.reports t.control :=
    Control.moves_step s.world.control s.now work
  have made : (advanceTask s work).2.reports = t.reports := rfl
  rw [made]
  obtain ⟨ended, same⟩ | ⟨running, same⟩ := task_cases s work
  · obtain rfl := before.closed ended
    rw [same]
    have none : Tracked { s with world := { s.world with control := t.control } } [] :=
      ⟨before.events, by simp, fun _ => rfl⟩
    simpa using none.remaining t.reports
  · have books := (attentive running).awaited.books
    rw [same, ← List.nil_append (reports ++ t.reports)]
    refine Tracked.remaining ⟨before.heard t.reports, ?_, ?_⟩ []
    · intro report inside
      obtain early | late := List.mem_append.mp inside
      · refine (before.authors report early).imp_left ?_
        rintro ⟨id, known, own⟩
        exact ⟨id, Nat.lt_of_lt_of_le known moves.nextTask, own⟩
      · obtain ⟨t, runs, own⟩ | ⟨h, runs, own⟩ | failure := moves.authors report late
        · exact .inl ⟨t.id, Nat.lt_of_lt_of_le (books.known t runs) moves.nextTask, own⟩
        · exact .inl ⟨h.id, Nat.lt_of_lt_of_le (books.hangupsKnown h runs) moves.nextTask, own⟩
        · exact .inr failure
    · exact fun finished => absurd finished (Bool.eq_false_iff.mp running)

/-- Only tasks report anything. -/
theorem reports_step (s : Station) {step : StationStep} (idle : ∀ work, step ≠ .task work) :
    (Station.step s step).2.reports = [] := by
  cases step with
  | task work => exact absurd rfl (idle work)
  | send device packet =>
      rcases sent : s.send device packet with ⟨_ | _, _⟩ <;> simp [Station.step, sent]
  | actor => rcases turned : s.turn surroundings with _ | ⟨_, _⟩ <;> simp [Station.step, turned]
  | _ => rfl

/-- What comes from outside leaves the reports alone. -/
theorem Tracked.outside (before : Tracked s reports) (outside : Outside s after) :
    Tracked after reports := by
  obtain ⟨listener, control⟩ := outside.control
  have queue : after.inbox.filterMap Message.event? = s.inbox.filterMap Message.event? := by
    obtain same | ⟨message, asks, queued⟩ := outside.inbox
    · rw [same]
    · have none : message.event? = .none := by
        cases message with
        | stack event => exact absurd rfl (asks event)
        | _ => rfl
      simp [queued, none]
  rw [← List.nil_append reports] at before
  refine before.lose (queue.trans before.events) ?_ (outside.ended ▸ before.closed)
  exact Nat.le_of_eq (congrArg Control.nextTask control).symm

/-- Numbers only grow with the requests of the machine. -/
theorem spares_nextTask (own : TaskId) : surroundings.Spares (own ≤ ·.control.nextTask) where
  connect device later := Nat.le_trans later (Control.nextTask_connect _ device)
  disconnect device later := Nat.le_trans later (Control.nextTask_disconnect _ device)
  send device packet later := Nat.le_trans later (Control.nextTask_send _ device packet)

/-- Of a queue that is taken up, the first report is gone, if it is one. -/
theorem Tracked.handle (before : Tracked s reports) (legal : s.machine.snapshot.Legal)
    (running : s.ended = false) {message : Message} {rest : List Message}
    (next : s.inbox = message :: rest ∨ rest = s.inbox ∧ ∃ n, message = .timeout n) :
    ∃ gone left, reports = gone ++ left ∧ gone.map Report.event = message.event?.toList ∧
      Tracked ({ s with inbox := rest }.handle surroundings message).1 left := by
  have queue : s.inbox.filterMap Message.event? =
      message.event?.toList ++ rest.filterMap Message.event? := by
    obtain queue | ⟨rfl, n, rfl⟩ := next
    · rw [queue, List.filterMap_cons]
      cases message.event? <;> rfl
    · rfl
  have events := queue.symm.trans before.events
  obtain ⟨gone, left, rfl, first, last⟩ := List.append_eq_map_iff.mp events
  refine ⟨gone, left, rfl, first, before.lose last.symm ?_ ?_⟩
  · exact Machine.handle_world (spares_nextTask _) legal (Nat.le_refl _) message
  · exact fun finished => absurd finished (Bool.eq_false_iff.mp running)

/-- The reports that wait after a step. -/
theorem Tracked.step (before : Tracked s reports) (attentive : s.ended = false → Attentive s)
    (step : StationStep) :
    Tracked (Station.step s step).1 (Station.remaining (Station.step s step).1.inbox
      (reports ++ (Station.step s step).2.reports)) := by
  by_cases task : ∃ work, step = .task work
  · obtain ⟨work, rfl⟩ := task
    exact before.task attentive work
  · have idle : ∀ work, step ≠ .task work := fun work same => task ⟨work, same⟩
    rw [reports_step s idle, List.append_nil]
    by_cases acts : step = .actor
    · subst acts
      obtain ⟨same, -⟩ | ⟨running, ⟨message, rest, next, same, -⟩ | ⟨rest, -, same, -⟩⟩ :=
        actor_cases s
      · rw [same]
        exact before.remaining []
      · obtain ⟨gone, left, rfl, -, after⟩ :=
          before.handle (attentive running).timed.legal running next
        rw [same]
        exact after.remaining gone
      · have ended := (Manager.stop_of_done surroundings (m := { s with inbox := rest })
          (attentive running).done).1
        have none : Tracked (Station.step s .actor).1 [] := by
          rw [same, ended]
          exact ⟨rfl, by simp, fun _ => rfl⟩
        rw [← List.append_nil reports]
        exact none.remaining reports
    · exact (before.outside (outside_step s idle acts).1).remaining []

end Step

/-! ## An attempt -/

/-- Whether a report is left over from before an attempt: it was queued before, or is one of
a disconnection that had begun before. -/
def LeftOver (device : Address) (begun : Control) (early : List Report) (report : Report) :
    Prop :=
  report ∈ early ∨ ∃ h ∈ begun.hangups, h.device = device ∧ report.task = some h.id

/-- How things stand while an attempt is on its way. Disconnections of its device have all
begun before. A link of its device is its own, or was accepted since; in that case it has
still to take its first step, or has reported the device connected, which will end the
attempt. Every report that the device is disconnected is behind such a report, if it is
not one of the own link and is not left over. -/
structure Undecided (own : TaskId) (device : Address) (begun : Control) (early : List Report)
    (c : Control) (reports : List Report) : Prop where
  books : c.Consistent
  hangups : ∀ h ∈ c.hangups, h.device = device →
    ∃ g ∈ begun.hangups, g.device = device ∧ g.id = h.id
  links : ∀ t ∈ c.tasks, t.device = device → t.id = own ∨ t.Awaits ∨
    ∃ report ∈ reports, report.event = .connection .connected device
  accounted : ∀ front report back, reports = front ++ report :: back →
    report.event = .connection .disconnected device →
      report.task = some own ∨ LeftOver device begun early report ∨
        ∃ earlier ∈ front, earlier.event = .connection .connected device

section Undecided

variable {own : TaskId} {device : Address} {begun c c' : Control}
  {early reports new : List Report}

/-- Tasks and the listener go on. -/
theorem Undecided.moves (before : Undecided own device begun early c reports)
    (moves : Control.Moves c new c') :
    Undecided own device begun early c' (reports ++ new) where
  books := before.books.moves moves
  hangups := by
    intro h runs same
    obtain ⟨g, earlier, id, device⟩ := moves.hangups h runs
    obtain ⟨f, first, own, number⟩ := before.hangups g earlier (device.trans same)
    exact ⟨f, first, own, number.trans id⟩
  links := by
    rintro u runs rfl
    obtain fresh | ⟨t, earlier, id, device, told⟩ := moves.descends before.books runs
    · exact .inr (.inl fresh)
    · obtain mine | fresh | ⟨report, inside, event⟩ := before.links t earlier device
      · exact .inl (id.symm.trans mine)
      · obtain ⟨report, inside, event⟩ := told fresh
        exact .inr (.inr ⟨report, List.mem_append_right _ inside, event⟩)
      · exact .inr (.inr ⟨report, List.mem_append_left _ inside, event⟩)
  accounted := by
    intro front report back split event
    obtain ⟨rest, waited, -⟩ | ⟨late, rfl, made⟩ := entry_of_append split
    · exact before.accounted front report rest waited event
    · obtain ⟨t, runs, started, same, task⟩ | ⟨h, runs, same, task⟩ | ⟨earlier, inside, up⟩ :=
        moves.farewell made event
      · obtain mine | fresh | ⟨earlier, inside, up⟩ := before.links t runs same
        · exact .inl (task.trans (congrArg some mine))
        · exact absurd fresh started
        · exact .inr (.inr ⟨earlier, List.mem_append_left _ inside, up⟩)
      · obtain ⟨g, first, own, number⟩ := before.hangups h runs same
        exact .inr (.inl (.inr ⟨g, first, own, task.trans (congrArg some number.symm)⟩))
      · exact .inr (.inr ⟨earlier, List.mem_append_right _ inside, up⟩)

/-- The first report is taken up, and does not end the attempt. -/
theorem Undecided.tail {first : Report}
    (before : Undecided own device begun early c (first :: reports))
    (other : first.event ≠ .connection .connected device) :
    Undecided own device begun early c reports where
  books := before.books
  hangups := before.hangups
  links := by
    intro t runs same
    refine (before.links t runs same).imp_right fun others => others.imp_right ?_
    rintro ⟨report, inside, event⟩
    obtain rfl | behind := List.mem_cons.mp inside
    · exact absurd event other
    · exact ⟨report, behind, event⟩
  accounted := by
    intro front report back split event
    refine (before.accounted (first :: front) report back (by rw [split]; rfl) event).imp_right
      fun others => others.imp_right ?_
    rintro ⟨earlier, inside, up⟩
    obtain rfl | behind := List.mem_cons.mp inside
    · exact absurd up other
    · exact ⟨earlier, behind, up⟩

end Undecided

/-! ### The machine during an attempt -/

/-- An attempt has gone on while a message was handled: no report has ended it, nothing was
asked of the radio, and so nothing has changed but the machine. -/
def GoneOn (device : Address) (m : Machine) (message : Message) (w after : StationWorld)
    (trace : List Effect) : Prop :=
  m.snapshot.roles = .outgoing device ∧ message ≠ .stack (.connection .disconnected device) ∧
    (∀ other, message ≠ .stack (.connection .connected other)) ∧
    .called (.connect device) (.ok ()) ∉ trace ∧ after = w

/-- An attempt has begun while a message was handled, and was the last thing asked of the
radio. -/
def Begun (device : Address) (w after : StationWorld) (trace : List Effect) : Prop :=
  .called (.connect device) (.ok ()) ∈ trace ∧
    ∃ c : Control, c.Consistent ∧ w.control.nextTask ≤ c.nextTask ∧
      (c.connect device).1 = .ok () ∧ after.control = (c.connect device).2

section Machine

variable {m : Machine} {w : StationWorld} {deadline : Nat} {message : Message}
  {device : Address} {after : Turn StationWorld}

/-- A message is taken up before everything that it releases. -/
theorem handle_takes (legal : m.snapshot.Legal) (done : m.replay = []) :
    (Machine.handle surroundings deadline m w message).effects.head? =
      some (.took message) := by
  let kept (past : List Effect) (m : Machine) (_ : StationWorld) : Prop :=
    m.snapshot.Legal ∧ past.head? = some (.took message)
  let t := Machine.handle surroundings deadline m w message
  have ends : kept ([] ++ t.effects) t.machine t.world := by
    refine @Machine.handle_released _ surroundings m deadline w message kept And.left ?_ []
      legal done ?_
    · rintro past m w next after rest - ⟨legal, first⟩ step
      exact ⟨step.legal legal, by simp [first]⟩
    · intro after step
      obtain ⟨rest, effects, -⟩ := step.taken
      exact ⟨step.legal legal, by simp [effects]⟩
  exact ends.2

/-- A step after which an attempt is on its way. -/
theorem attempt_step (step : Machine.Step surroundings deadline m w message after)
    (legal : m.snapshot.Legal) (books : w.control.Consistent)
    (role : after.machine.snapshot.roles = .outgoing device) :
    GoneOn device m message w after.world after.effects ∨
      Begun device w after.world after.effects := by
  obtain ⟨was, failed, connected, quiet, same⟩ | ⟨accepted, called⟩ :=
    step.attempt_of legal role
  · refine .inl ⟨was, failed, connected, quiet, ?_⟩
    obtain same | ⟨error, refused⟩ := same
    · exact same
    · have done : (w.control.disconnect device).1 = .error error := congrArg Prod.fst refused
      rw [Control.disconnect_done] at done
      cases done
  · have own : (w.control.connect device).1 = .ok () := congrArg Prod.fst accepted
    have same : (w.control.connect device).2 = after.world.control :=
      congrArg (fun result => result.2.control) accepted
    exact .inr ⟨called, w.control, books, Nat.le_refl _, own, same.symm⟩

/-- After a message was handled and everything it released, an attempt is on its way only
if it has gone on or has begun. -/
theorem attempt_handle (legal : m.snapshot.Legal) (done : m.replay = [])
    (books : w.control.Consistent) (deadline : Nat)
    (role : (Machine.handle surroundings deadline m w message).machine.snapshot.roles =
      .outgoing device) :
    let t := Machine.handle surroundings deadline m w message
    GoneOn device m message w t.world t.effects ∨ Begun device w t.world t.effects := by
  intro t
  let kept (past : List Effect) (now : Machine) (after : StationWorld) : Prop :=
    now.snapshot.Legal ∧ after.control.Consistent ∧
      w.control.nextTask ≤ after.control.nextTask ∧
      (now.snapshot.roles = .outgoing device →
        GoneOn device m message w after past ∨ Begun device w after past)
  have ends : kept ([] ++ t.effects) t.machine t.world := by
    refine @Machine.handle_released _ surroundings m deadline w message kept And.left ?_ []
      legal done ?_
    · rintro past now v next after rest released ⟨legal, books, later, before⟩ step
      refine ⟨step.legal legal, step.world spares_books books,
        step.world (spares_nextTask _) later, fun role => ?_⟩
      obtain ⟨was, -, -, quiet, same⟩ | ⟨called, c, known, grown, begins⟩ :=
        attempt_step step legal books role
      · rw [same]
        obtain ⟨first, failed, connected, silent, still⟩ | ⟨called, begins⟩ := before was
        · exact .inl ⟨first, failed, connected, by simp [silent, quiet], still⟩
        · exact .inr ⟨List.mem_append_left _ called, begins⟩
      · exact .inr ⟨List.mem_append_right _ called, c, known, Nat.le_trans later grown, begins⟩
    · intro after first
      exact ⟨first.legal legal, first.world spares_books books,
        first.world (spares_nextTask _) (Nat.le_refl _), attempt_step first legal books⟩
  exact ends.2.2.2 role

end Machine

/-! ### The station during an attempt -/

section Run

variable {s : Station} {own : TaskId} {device : Address} {begun : Control}
  {early reports : List Report}

/-- What is known of an attempt that is on its way after some steps: it was before, and is
as undecided as it was. -/
structure Goes (device : Address) (s after : Station) (reports left : List Report) : Prop where
  running : s.ended = false
  role : s.machine.snapshot.roles = .outgoing device
  undecided : ∀ {own begun early}, Undecided own device begun early s.world.control reports →
    Undecided own device begun early after.world.control left

theorem goes_task (tracked : Tracked s reports) {work : ControlStep}
    (running : (advanceTask s work).1.ended = false)
    (role : (advanceTask s work).1.machine.snapshot.roles = .outgoing device) :
    Goes device s (advanceTask s work).1 reports
      (remaining (advanceTask s work).1.inbox (reports ++ (advanceTask s work).2.reports)) := by
  let t := s.world.control.step s.now work
  have made : (advanceTask s work).2.reports = t.reports := rfl
  obtain ⟨ended, same⟩ | ⟨active, same⟩ := task_cases s work
  · rw [same] at running
    exact absurd ended (Bool.eq_false_iff.mp running)
  · rw [same] at role ⊢
    refine ⟨active, role, fun before => ?_⟩
    rw [made, ← List.nil_append (reports ++ t.reports), remaining_eq (tracked.heard t.reports)]
    exact before.moves (Control.moves_step s.world.control s.now work)

theorem goes_outside {after : Station} (outside : Outside s after)
    (running : after.ended = false) (role : after.machine.snapshot.roles = .outgoing device) :
    Goes device s after reports reports := by
  refine ⟨outside.ended ▸ running, outside.machine ▸ role, fun before => ?_⟩
  obtain ⟨listener, control⟩ := outside.control
  have moves : Control.Moves s.world.control []
      { s.world.control with listener := listener } := .listened listener (by simp)
  rw [control, ← List.append_nil reports]
  exact before.moves moves

theorem goes_actor (tracked : Tracked s reports) (attentive : s.ended = false → Attentive s)
    (running : (Station.step s .actor).1.ended = false)
    (role : (Station.step s .actor).1.machine.snapshot.roles = .outgoing device)
    (quiet : .called (.connect device) (.ok ()) ∉ (Station.step s .actor).2.effects) :
    Goes device s (Station.step s .actor).1 reports
      (remaining (Station.step s .actor).1.inbox reports) := by
  obtain ⟨same, -⟩ | ⟨on, ⟨message, rest, next, same, effects⟩ | ⟨rest, -, same, -⟩⟩ :=
    actor_cases s
  · rw [same] at running role ⊢
    rw [tracked.remaining_self]
    exact ⟨running, role, id⟩
  · obtain ⟨gone, left, rfl, first, after⟩ :=
      tracked.handle (attentive on).timed.legal on next
    rw [same] at role ⊢
    rw [effects] at quiet
    obtain ⟨was, -, connected, -, still⟩ | ⟨called, -⟩ :=
      attempt_handle (attentive on).timed.legal (attentive on).done
        (attentive on).awaited.books s.deadline role
    · refine ⟨on, was, fun before => ?_⟩
      rw [remaining_eq after.events]
      have world : ({ s with inbox := rest }.handle surroundings message).1.world = s.world :=
        still
      rw [world]
      obtain _ | ⟨report, _ | ⟨other, gone⟩⟩ := gone
      · exact before
      · refine before.tail fun up => ?_
        have queued : message.event? = some report.event :=
          Option.toList_eq_singleton_iff.mp first.symm
        have taken : message = .stack report.event := Message.eq_of_event? queued
        exact connected device (taken.trans (congrArg Message.stack up))
      · cases event : message.event? <;> simp [event] at first
    · exact absurd called quiet
  · have ended := (Manager.stop_of_done surroundings (m := { s with inbox := rest })
      (attentive on).done).1
    rw [same, ended] at running
    cases running

/-- A step after which an attempt is on its way that did not begin with it. -/
theorem goes_step (tracked : Tracked s reports) (attentive : s.ended = false → Attentive s)
    {step : StationStep} (running : (Station.step s step).1.ended = false)
    (role : (Station.step s step).1.machine.snapshot.roles = .outgoing device)
    (quiet : .called (.connect device) (.ok ()) ∉ (Station.step s step).2.effects) :
    Goes device s (Station.step s step).1 reports
      (remaining (Station.step s step).1.inbox
        (reports ++ (Station.step s step).2.reports)) := by
  by_cases task : ∃ work, step = .task work
  · obtain ⟨work, rfl⟩ := task
    exact goes_task tracked running role
  · have idle : ∀ work, step ≠ .task work := fun work same => task ⟨work, same⟩
    rw [reports_step s idle, List.append_nil]
    by_cases acts : step = .actor
    · subst acts
      exact goes_actor tracked attentive running role quiet
    · have outside := (outside_step s idle acts).1
      rw [(tracked.outside outside).remaining_self]
      exact goes_outside outside running role

/-- A run after which an attempt is on its way that did not begin with it. -/
theorem goes_run (tracked : Tracked s reports) (attentive : s.ended = false → Attentive s)
    (steps : List StationStep) (running : (run s steps).1.ended = false)
    (role : (run s steps).1.machine.snapshot.roles = .outgoing device)
    (quiet : .called (.connect device) (.ok ()) ∉ (run s steps).2) :
    Goes device s (run s steps).1 reports (waiting s reports steps) := by
  induction steps generalizing s reports with
  | nil => exact ⟨running, role, id⟩
  | cons step rest ih =>
      rw [run_cons] at running role quiet ⊢
      rw [List.mem_append, not_or] at quiet
      rw [waiting_cons]
      obtain ⟨still, was, later⟩ := ih (tracked.step attentive step)
        (fun still => Attentive.step attentive step still) running role quiet.2
      obtain ⟨first, before, now⟩ := goes_step tracked attentive still was quiet.1
      exact ⟨first, before, fun undecided => later (now undecided)⟩

theorem Tracked.run (before : Tracked s reports) (attentive : s.ended = false → Attentive s)
    (steps : List StationStep) :
    Tracked (Station.run s steps).1 (waiting s reports steps) := by
  induction steps generalizing s reports with
  | nil => exact before
  | cons step rest ih =>
      rw [run_cons, waiting_cons]
      exact ih (before.step attentive step) fun still => Attentive.step attentive step still

/-- The actor begins an attempt by starting a link, which gets a number of its own. -/
theorem begins_actor (attentive : s.ended = false → Attentive s)
    (asked : .called (.connect device) (.ok ()) ∈ (Station.step s .actor).2.effects)
    (role : (Station.step s .actor).1.machine.snapshot.roles = .outgoing device) :
    Begun device s.world (Station.step s .actor).1.world
      (Station.step s .actor).2.effects := by
  obtain ⟨-, idle⟩ | ⟨on, ⟨message, rest, -, same, effects⟩ | ⟨rest, -, same, effects⟩⟩ :=
    actor_cases s
  · rw [idle] at asked
    cases asked
  · rw [same] at role ⊢
    rw [effects] at asked ⊢
    obtain ⟨-, -, -, quiet, -⟩ | begins :=
      attempt_handle (attentive on).timed.legal (attentive on).done
        (attentive on).awaited.books s.deadline role
    · exact absurd asked quiet
    · exact begins
  · have farewell := (Manager.stop_of_done surroundings (m := { s with inbox := rest })
      (attentive on).done).2
    rw [effects] at asked
    exact absurd asked (farewell.absent (by simp) (by simp))

/-- The link that an attempt begins with is the only one of its device, and every
disconnection that goes on then has a lower number. -/
theorem Begun.undecided {w after : StationWorld} {trace : List Effect}
    (begins : Begun device w after trace) (early : List Report) :
    ∃ own, ⟨own, device, .fresh none⟩ ∈ after.control.tasks ∧ w.control.nextTask ≤ own ∧
      (∀ h ∈ after.control.hangups, h.id < own) ∧
      Undecided own device after.control early after.control early := by
  obtain ⟨-, c, books, later, accepted, same⟩ := begins
  obtain ⟨idle, linked⟩ := Control.connect_accepted accepted
  have started : after.control = (c.reopen device).startLink device none :=
    same.trans linked
  refine ⟨c.nextTask, ?_, later, ?_, ?_⟩
  · rw [started]
    exact Control.mem_startLink.mpr (.inr rfl)
  · rw [started]
    exact books.hangupsKnown
  · refine ⟨same ▸ books.connect device, fun h runs of => ⟨h, runs, of, rfl⟩, ?_, ?_⟩
    · intro t runs of
      rw [started] at runs
      obtain earlier | rfl := Control.mem_startLink.mp runs
      · exact absurd of (books.device_ne idle earlier)
      · exact .inl rfl
    · intro front report back split event
      exact .inr (.inl (.inl (by simp [split])))

/-- What is left over from before an attempt was made by a task of an earlier time. -/
theorem LeftOver.older {report : Report} {state : ConnectionState}
    (leftOver : LeftOver device begun early report)
    (event : report.event = .connection state device) (tracked : Tracked s reports)
    (queued : early ⊆ reports) (later : s.world.control.nextTask ≤ own)
    (hangups : ∀ h ∈ begun.hangups, h.id < own) : ∃ id < own, report.task = some id := by
  obtain inside | ⟨h, runs, -, made⟩ := leftOver
  · obtain ⟨id, known, made⟩ | ⟨code, text, failure⟩ := tracked.authors report (queued inside)
    · exact ⟨id, Nat.lt_of_lt_of_le known later, made⟩
    · rw [failure] at event
      cases event
  · exact ⟨h.id, hangups h runs, made⟩

/-- The actor takes a report up because it is the first message in the queue. -/
theorem actor_takes (attentive : s.ended = false → Attentive s) {event : StackEvent}
    (taken : (Station.step s .actor).2.effects.head? = some (.took (.stack event))) :
    s.ended = false ∧ ∃ rest, s.inbox = .stack event :: rest := by
  obtain ⟨-, idle⟩ | ⟨on, ⟨message, rest, next, -, effects⟩ | ⟨rest, -, -, effects⟩⟩ :=
    actor_cases s
  · rw [idle] at taken
    cases taken
  · rw [effects] at taken
    have first : (Machine.handle surroundings s.deadline s.machine s.world message).effects.head?
        = some (.took message) :=
      handle_takes (attentive on).timed.legal (attentive on).done
    have own : message = .stack event := by simpa using first.symm.trans taken
    obtain queue | ⟨-, n, expired⟩ := next
    · exact ⟨on, rest, by rw [queue, own]⟩
    · rw [own] at expired
      cases expired
  · have farewell := (Manager.stop_of_done surroundings (m := { s with inbox := rest })
      (attentive on).done).2
    rw [effects] at taken
    exact absurd (List.mem_of_head? taken) (farewell.absent (by simp) (by simp))

end Run

/-- On every run, an attempt that was accepted and goes on, until the machine takes up a
report that the device is disconnected, has a link of its own. The report is one of this
link, unless it is left over; then it is one of a task that was started before. -/
theorem attempt_ended_by (psm : UInt16) (pollInterval : Nat) (directory : Directory)
    (timeout : Nat) (front middle : List StationStep) (device : Address) :
    let start := initial (.initial psm pollInterval) directory timeout
    let before := (run start front).1
    let begun := (Station.step before .actor).1
    let now := (run begun middle).1
    let early := waiting start [] (front ++ [.actor])
    .called (.connect device) (.ok ()) ∈ (Station.step before .actor).2.effects →
    .called (.connect device) (.ok ()) ∉ (run begun middle).2 →
    now.machine.snapshot.roles = .outgoing device →
    (Station.step now .actor).2.effects.head? =
      some (.took (.stack (.connection .disconnected device))) →
    ∃ own report later,
      ⟨own, device, .fresh none⟩ ∈ begun.world.control.tasks ∧
      before.world.control.nextTask ≤ own ∧
      waiting start [] (front ++ .actor :: middle) = report :: later ∧
      report.event = .connection .disconnected device ∧
      (¬ LeftOver device begun.world.control early report → report.task = some own) ∧
      (LeftOver device begun.world.control early report →
        ∃ id < own, report.task = some id) := by
  intro start before begun now early asked kept role taken
  have fresh : Tracked start [] := tracked_initial psm pollInterval directory timeout
  have ready : start.ended = false → Attentive start := fun _ =>
    attentive_initial psm pollInterval directory timeout
  have attentive : before.ended = false → Attentive before := Attentive.run ready front
  have attentive' : begun.ended = false → Attentive begun := Attentive.actor attentive
  have acted : (run start (front ++ [.actor])).1 = begun :=
    congrArg Prod.fst (run_append start front [.actor])
  have tracked : Tracked begun early := acted ▸ fresh.run ready (front ++ [.actor])
  have whole : waiting start [] (front ++ .actor :: middle) = waiting begun early middle := by
    rw [← acted, ← waiting_append, List.append_assoc]
    rfl
  have queued : early ⊆ waiting start [] front := by
    show waiting start [] (front ++ [.actor]) ⊆ _
    rw [waiting_append, waiting_cons, reports_step _ (by simp), List.append_nil]
    exact List.drop_subset _ _
  obtain ⟨running, rest, queue⟩ := actor_takes (Attentive.run attentive' middle) taken
  have goes : Goes device begun now early (waiting begun early middle) :=
    goes_run tracked attentive' middle running role kept
  obtain ⟨own, started, later, hangups, undecided⟩ :=
    (begins_actor attentive asked goes.role).undecided early
  -- the report taken up is the first of those that wait
  have events := (tracked.run attentive' middle).events
  rw [queue, List.filterMap_cons] at events
  obtain ⟨report, behind, first, event, -⟩ := List.map_eq_cons_iff.mp events.symm
  refine ⟨own, report, behind, started, later, whole.trans first, event, ?_, ?_⟩
  · intro new
    obtain mine | leftOver | ⟨earlier, ⟨⟩, -⟩ :=
      (goes.undecided undecided).accounted [] report behind first event
    · exact mine
    · exact absurd leftOver new
  · intro leftOver
    exact leftOver.older event (fresh.run ready front) queued later hangups

/-- A station that knows no device yet. -/
def unacquainted : Station :=
  initial (.initial 4097 5000) (.ofConfig .default .missing) 30000

/-- The radio does not connect a device. -/
def refusal : List StationStep := [.task (.start 0), .task (.dialed 0 false)]

/-- The link that was started for the device says so. -/
theorem refusal_ends_attempt :
    let begun := (run unacquainted [.connect (.numbered 1), .actor]).1
    ∃ own report later, ⟨own, .numbered 1, .fresh none⟩ ∈ begun.world.control.tasks ∧
      waiting unacquainted [] (.connect (.numbered 1) :: .actor :: refusal) =
        report :: later ∧
      report.event = .connection .disconnected (.numbered 1) ∧ report.task = some own := by
  intro begun
  have asked : (Station.step (run unacquainted [.connect (.numbered 1)]).1 .actor).2.effects =
      [.took (.command ⟨.connect, .numbered 1, 0⟩),
        .told (.connection (.numbered 1) .connecting .disconnected),
        .called (.connect (.numbered 1)) (.ok ()),
        .wrote ⟨.pending, .outgoing (.numbered 1), none⟩] := by decide +kernel
  have kept : (run begun refusal).2 = [] := by decide +kernel
  obtain ⟨own, report, later, started, -, first, event, mine, -⟩ :=
    attempt_ended_by 4097 5000 (.ofConfig .default .missing) 30000 [.connect (.numbered 1)]
      refusal (.numbered 1) (asked ▸ by simp) (kept ▸ by simp) (by decide +kernel)
      (by decide +kernel)
  have early : waiting unacquainted [] [.connect (.numbered 1), .actor] = [] := by decide +kernel
  have hangups : begun.world.control.hangups = [] := by decide +kernel
  have new : ¬ LeftOver (.numbered 1) begun.world.control
      (waiting unacquainted [] [.connect (.numbered 1), .actor]) report := by
    simp [LeftOver, early, hangups]
  exact ⟨own, report, later, started, first, event, mine new⟩

/-- A device is to be connected, to be connected once more, and not to be connected. -/
def wavering : List StationStep :=
  [.connect (.numbered 1), .connect (.numbered 1), .actor, .actor, .disconnect (.numbered 1)]

/-- The disconnection that the last request starts comes to its end. -/
def hangingUp : List StationStep :=
  [.task (.hangup 1), .task (.hungUp 1), .task (.settled 1 false), .actor]

/-- It ends the attempt that has begun in the meantime. -/
theorem stale_report_ends_attempt :
    ¬ ∀ (directory : Directory) (front middle : List StationStep) (device : Address)
        (own : TaskId) (report : Report) (later : List Report),
      let start := initial (.initial 4097 5000) directory 30000
      let before := (run start front).1
      let begun := (Station.step before .actor).1
      let now := (run begun middle).1
      .called (.connect device) (.ok ()) ∈ (Station.step before .actor).2.effects →
      .called (.connect device) (.ok ()) ∉ (run begun middle).2 →
      now.machine.snapshot.roles = .outgoing device →
      (Station.step now .actor).2.effects.head? =
        some (.took (.stack (.connection .disconnected device))) →
      ⟨own, device, .fresh none⟩ ∈ begun.world.control.tasks →
      waiting start [] (front ++ .actor :: middle) = report :: later →
        ∃ id, own ≤ id ∧ report.task = some id := by
  intro own
  have asked : (Station.step (run unacquainted wavering).1 .actor).2.effects =
      [.took (.command ⟨.disconnect, .numbered 1, 2⟩),
        .called (.disconnect (.numbered 1)) (.ok ()),
        .told (.connection (.numbered 1) .disconnected .connecting), .wrote .initial,
        .took (.command ⟨.connect, .numbered 1, 1⟩),
        .told (.connection (.numbered 1) .connecting .disconnected),
        .called (.connect (.numbered 1)) (.ok ()),
        .wrote ⟨.pending, .outgoing (.numbered 1), none⟩] := by decide +kernel
  have kept : (run (Station.step (run unacquainted wavering).1 .actor).1 hangingUp).2 =
      [.took (.stack (.connection .disconnecting (.numbered 1)))] := by decide +kernel
  have started : (Station.step (run unacquainted wavering).1 .actor).1.world.control.tasks =
      [⟨2, .numbered 1, .fresh none⟩] := by decide +kernel
  have queued : waiting unacquainted [] (wavering ++ .actor :: hangingUp) =
      [⟨some 1, .connection .disconnected (.numbered 1)⟩] := by decide +kernel
  obtain ⟨id, later, made⟩ := own (.ofConfig .default .missing) wavering hangingUp
    (.numbered 1) 2 _ _ (asked ▸ by simp) (kept ▸ by simp) (by decide +kernel) (by decide +kernel)
    (started ▸ List.mem_singleton_self _) queued
  obtain rfl : 1 = id := Option.some.inj made
  exact absurd later (by decide)

end Station

end AccessoryLink
