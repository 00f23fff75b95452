import AccessoryLink.Proofs.Control.Books
import AccessoryLink.Proofs.Machine.Admission
import AccessoryLink.Proofs.Station.Run

/-!
# Kinds of steps of a station

A step belongs to the actor, to a task of the control, or to neither. In the last case
(`Outside`) the machine and the control stay as they are, apart from the listener, and at
most one message that is no report is queued. What the tasks report is queued behind
everything else (`task_cases`). `actor_cases` says what the actor may do.
-/

namespace AccessoryLink.Station

open StationWorld

/-- What has happened when neither the actor nor a task took a step. -/
structure Outside (s after : Station) : Prop where
  machine : after.machine = s.machine
  control : ∃ listener, after.world.control = { s.world.control with listener := listener }
  ended : after.ended = s.ended
  inbox : after.inbox = s.inbox ∨
    ∃ message, (∀ event, message ≠ .stack event) ∧ after.inbox = s.inbox ++ [message]

theorem outside_refl (s : Station) : Outside s s := ⟨rfl, ⟨_, rfl⟩, rfl, .inl rfl⟩

/-- A message of a caller is queued, or nothing is after the end. -/
theorem Outside.enqueue {s base : Station} (outside : Outside s base) (idle : base.inbox = s.inbox)
    (message : Message) (asks : ∀ event, message ≠ .stack event) :
    Outside s (base.enqueue message).2 := by
  unfold Manager.enqueue
  split
  · exact outside
  · exact ⟨outside.machine, outside.control, outside.ended,
      .inr ⟨message, asks, congrArg (· ++ [message]) idle⟩⟩

/-- Tickets, and whether a shutdown was asked for, are no part of it. -/
theorem outside_filing (s : Station) (tickets : Ticket) (stopping : Bool) :
    Outside s { s with tickets := tickets, stopping := stopping } :=
  ⟨rfl, ⟨_, rfl⟩, rfl, .inl rfl⟩

theorem outside_command (s : Station) (verb : Verb) (device : Address) :
    Outside s (s.enqueueCommand verb device).2 :=
  (outside_filing s (s.tickets + 1) s.stopping).enqueue rfl _ (by simp)

theorem outside_send (s : Station) (device : Address) (packet : Packet) :
    Outside s (s.send device packet).2 := by
  have queued : Outside s (s.queueSend packet).2 := by
    have outside := (outside_filing s (s.tickets + 1) s.stopping).enqueue rfl
      (.send packet (some s.tickets)) (by simp)
    unfold Manager.queueSend
    split <;> rename_i filed <;> rw [filed] at outside <;> exact outside
  rw [Manager.send_eq]
  split
  · exact outside_refl s
  · exact queued

/-- A step that is neither one of a task nor one of the actor changes next to nothing. -/
theorem outside_step (s : Station) {step : StationStep} (idle : ∀ work, step ≠ .task work)
    (passive : step ≠ .actor) :
    Outside s (Station.step s step).1 ∧ (Station.step s step).2.effects = [] := by
  cases step with
  | task work => exact absurd rfl (idle work)
  | actor => exact absurd rfl passive
  | connect device =>
      refine ⟨?_, rfl⟩
      show Outside s (s.connect surroundings device).2
      obtain same | queued := s.connect_queues surroundings device
      · rw [same]
        exact outside_refl s
      · rw [queued]
        exact outside_command s .connect device
  | disconnect device =>
      refine ⟨?_, rfl⟩
      show Outside s (s.disconnect device).2
      obtain same | queued := s.disconnect_queues device
      · rw [same]
        exact outside_refl s
      · rw [queued]
        exact outside_command s .disconnect device
  | send device packet =>
      obtain ⟨after, still⟩ := step_send s device packet
      rw [after, still]
      exact ⟨outside_send s device packet, rfl⟩
  | shutdown =>
      refine ⟨?_, rfl⟩
      show Outside s s.requestShutdown.2
      unfold Manager.requestShutdown
      split
      · exact outside_refl s
      · exact (outside_filing s s.tickets true).enqueue rfl .shutdown (by simp)
  | drop => exact ⟨⟨rfl, ⟨_, rfl⟩, rfl, .inl rfl⟩, rfl⟩
  | setPriority device priority =>
      exact ⟨⟨rfl, ⟨s.world.control.listener, rfl⟩, rfl, .inl rfl⟩, rfl⟩
  | listen bound =>
      refine ⟨⟨rfl, ?_, rfl, .inl rfl⟩, rfl⟩
      cases bound with
      | ok _ => exact ⟨some .accepting, rfl⟩
      | error _ => exact ⟨s.world.control.listener, rfl⟩
  | bonds bonds => exact ⟨⟨rfl, ⟨_, rfl⟩, rfl, .inl rfl⟩, rfl⟩
  | pass ms => exact ⟨⟨rfl, ⟨_, rfl⟩, rfl, .inl rfl⟩, rfl⟩

/-! ## Tasks -/

/-- Reports are queued behind everything else, until the end. -/
theorem hear_eq (s : Station) (reports : List Report) :
    hear s reports =
      if s.ended then s
      else { s with inbox := s.inbox ++ reports.map fun report => .stack report.event } := by
  induction reports generalizing s with
  | nil => simp [hear]
  | cons report rest ih =>
      have first : hear s (report :: rest) = hear (s.report report.event) rest := rfl
      rw [first, ih]
      unfold Manager.report Manager.enqueue
      cases ended : s.ended <;> simp [ended]

/-- What a task reports is queued, until the end; then only the control changes. -/
theorem task_cases (s : Station) (work : ControlStep) :
    let t := s.world.control.step s.now work
    let world : StationWorld := { s.world with control := t.control }
    (s.ended = true ∧ (advanceTask s work).1 = { s with world := world }) ∨
      s.ended = false ∧ (advanceTask s work).1 =
        { s with
          world := world
          inbox := s.inbox ++ t.reports.map fun report => .stack report.event } := by
  intro t world
  have heard : (advanceTask s work).1 = hear { s with world := world } t.reports := rfl
  rw [heard, hear_eq]
  cases ended : s.ended with
  | true => exact .inl ⟨rfl, by simp⟩
  | false => exact .inr ⟨rfl, by simp⟩

/-! ## The actor -/

/-- The requests of the machine keep the books of the control. -/
theorem spares_books : surroundings.Spares fun w => w.control.Consistent where
  connect device books := books.connect device
  disconnect device books := books.disconnect device
  send device packet books := books.send device packet

/-- What the actor may do: nothing, handle one message, or stop. -/
theorem actor_cases (s : Station) :
    (Station.step s .actor).1 = s ∧ (Station.step s .actor).2.effects = [] ∨
      s.ended = false ∧
        ((∃ message rest,
            (s.inbox = message :: rest ∨ rest = s.inbox ∧ ∃ n, message = .timeout n) ∧
              let handled := { s with inbox := rest }.handle surroundings message
              (Station.step s .actor).1 = handled.1 ∧
                (Station.step s .actor).2.effects = handled.2) ∨
          ∃ rest, rest ⊆ s.inbox ∧
            let stopped := { s with inbox := rest }.stop surroundings
            (Station.step s .actor).1 = stopped.1 ∧
              (Station.step s .actor).2.effects = stopped.2) := by
  cases turned : s.turn surroundings with
  | none =>
      left
      simp [Station.step, turned]
  | some result =>
      right
      obtain ⟨after, effects⟩ := result
      have running : s.ended = false := by
        cases ended : s.ended with
        | false => rfl
        | true => simp [Manager.turn, ended] at turned
      refine ⟨running, ?_⟩
      simp only [Station.step, turned]
      obtain ⟨message, rest, next, handled⟩ | ⟨rest, left, stopped⟩ :=
        Manager.turn_cases turned
      · exact .inl ⟨message, rest, next, by rw [handled], by rw [handled]⟩
      · exact .inr ⟨rest, left, by rw [stopped], by rw [stopped]⟩

/-! ## What a station keeps to until it ends -/

/-- A property of the machine, the control and the queue that survives every change of them: a
step of a task with its reports, a message of a caller, an expiry that is about to be taken
up, and a message that is handled. -/
structure Keeps (P : Machine → Control → List Message → Prop) : Prop where
  worked : ∀ {m c c' inbox reports}, P m c inbox → Control.Moves c reports c' →
    P m c' (inbox ++ reports.map fun report => .stack report.event)
  asked : ∀ {m c inbox message}, P m c inbox → (∀ event, message ≠ .stack event) →
    P m c (inbox ++ [message])
  expired : ∀ {m c inbox} (n : Nat), P m c inbox → P m c (.timeout n :: inbox)
  handled : ∀ {m w message inbox} (deadline : Nat), P m w.control (message :: inbox) →
    let t := Machine.handle surroundings deadline m w message
    P t.machine t.world.control inbox

namespace Keeps

variable {P : Machine → Control → List Message → Prop} {s : Station}

theorem task (keeps : Keeps P) (before : s.ended = false → P s.machine s.world.control s.inbox)
    (work : ControlStep) (running : (advanceTask s work).1.ended = false) :
    P (advanceTask s work).1.machine (advanceTask s work).1.world.control
      (advanceTask s work).1.inbox := by
  obtain ⟨ended, same⟩ | ⟨active, same⟩ := task_cases s work
  · rw [same] at running
    exact absurd ended (Bool.eq_false_iff.mp running)
  · rw [same]
    exact keeps.worked (before active) (Control.moves_step s.world.control s.now work)

theorem actor (keeps : Keeps P) (before : s.ended = false → P s.machine s.world.control s.inbox)
    (running : (Station.step s .actor).1.ended = false) :
    P (Station.step s .actor).1.machine (Station.step s .actor).1.world.control
      (Station.step s .actor).1.inbox := by
  obtain ⟨same, -⟩ | ⟨active, ⟨message, rest, next, same, -⟩ | ⟨rest, -, same, -⟩⟩ :=
    actor_cases s
  · rw [same] at running ⊢
    exact before running
  · have now : P s.machine s.world.control (message :: rest) := by
      obtain queue | ⟨rfl, n, rfl⟩ := next
      · exact queue ▸ before active
      · exact keeps.expired n (before active)
    rw [same]
    exact keeps.handled s.deadline now
  · rw [same] at running
    cases running

theorem outside (keeps : Keeps P) {after : Station}
    (before : s.ended = false → P s.machine s.world.control s.inbox) (outside : Outside s after)
    (running : after.ended = false) : P after.machine after.world.control after.inbox := by
  rw [outside.ended] at running
  obtain ⟨listener, control⟩ := outside.control
  have moves : Control.Moves s.world.control []
      { s.world.control with listener := listener } := .listened listener (by simp)
  have listening := keeps.worked (before running) moves
  rw [List.map_nil, List.append_nil] at listening
  rw [outside.machine, control]
  obtain same | ⟨message, asks, queued⟩ := outside.inbox
  · rw [same]
    exact listening
  · rw [queued]
    exact keeps.asked listening asks

/-- A step that does not end the station. -/
theorem step (keeps : Keeps P) (before : s.ended = false → P s.machine s.world.control s.inbox)
    (step : StationStep) (running : (Station.step s step).1.ended = false) :
    P (Station.step s step).1.machine (Station.step s step).1.world.control
      (Station.step s step).1.inbox := by
  cases step with
  | task work => exact keeps.task before work running
  | actor => exact keeps.actor before running
  | _ => exact keeps.outside before (outside_step s (by simp) (by simp)).1 running

/-- A run that does not end the station. -/
theorem run (keeps : Keeps P) (before : s.ended = false → P s.machine s.world.control s.inbox)
    (steps : List StationStep) (running : (Station.run s steps).1.ended = false) :
    P (Station.run s steps).1.machine (Station.run s steps).1.world.control
      (Station.run s steps).1.inbox := by
  induction steps generalizing s with
  | nil => exact before running
  | cons step rest ih => exact ih (fun still => keeps.step before step still) running

end Keeps

end AccessoryLink.Station
