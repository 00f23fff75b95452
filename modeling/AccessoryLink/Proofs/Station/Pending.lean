import AccessoryLink.Proofs.Control.Hangups
import AccessoryLink.Proofs.Machine.Duties
import AccessoryLink.Proofs.Machine.Timer
import AccessoryLink.Proofs.Station.Steps

/-!
# A pending station comes to rest

The timer bounds an attempt to connect. Nothing bounds the other transitions: a device
that is connecting by itself, or is being disconnected, is waited for until it is
reported. `pending_outstanding` says that the report is always still to come.

What carries it is `Awaited`, which relates the machine, the control and the queue. The
delicate part is a device that is marked as being disconnected: a further request to
disconnect it does nothing. So if the machine follows such a device, or will by a report
that is queued, then the disconnection goes on, or its report is queued behind.
-/

namespace AccessoryLink

open StationWorld

/-- Whether a queue holds a report that a device is connected, or that it is not. -/
def Reported (device : Address) (inbox : List Message) : Prop :=
  .stack (.connection .connected device) ∈ inbox ∨
    .stack (.connection .disconnected device) ∈ inbox

/-- Whether a message brings no device up. -/
def Message.Quiet (message : Message) : Prop :=
  ∀ device, message ≠ .stack (.connection .connecting device) ∧
    message ≠ .stack (.connection .connected device)

/-- A message that is released brings none up. -/
theorem Message.Released.quiet {message : Message} (released : message.Released) :
    message.Quiet := by
  intro device
  cases released <;> simp

theorem Reported.mono {device : Address} {inbox more : List Message}
    (reported : Reported device inbox) (kept : inbox ⊆ more) : Reported device more :=
  reported.imp (fun inside => kept inside) fun inside => kept inside

/-- What is left of a queue reports a device, unless the message taken from it did. -/
theorem Reported.of_cons {device : Address} {message : Message} {inbox : List Message}
    (reported : Reported device (message :: inbox))
    (other : message ≠ .stack (.connection .disconnected device))
    (another : message ≠ .stack (.connection .connected device)) :
    Reported device inbox := by
  obtain up | down := reported
  · exact .inl (List.mem_of_ne_of_mem (Ne.symm another) up)
  · exact .inr (List.mem_of_ne_of_mem (Ne.symm other) down)

/-- What a pending machine waits for is outstanding. -/
structure Awaited (s : Snapshot) (c : Control) (inbox : List Message) : Prop where
  books : c.Consistent
  aborting : c.Aborting
  /-- A marked device that is current is being disconnected, or will be reported so. -/
  gone : ∀ device ∈ c.closing, s.roles.current? = some device →
    c.HangsUp device ∨ .stack (.connection .disconnected device) ∈ inbox
  /-- So will a marked device that is still to be reported connected. -/
  ending : ∀ device ∈ c.closing, c.HangsUp device ∨
    FollowedBy (.stack (.connection .connected device))
      (.stack (.connection .disconnected device)) inbox
  announced : ∀ device, FollowedBy (.stack (.connection .connecting device))
    (.stack (.connection .connected device)) inbox
  leaving : s.state = .pending → ∀ device, s.roles.current? = some device →
    c.HangsUp device ∨ Reported device inbox
  arriving : ∀ device, s.roles.incoming? = some device → Reported device inbox
  knownCurrent : ∀ device, s.roles.current? = some device → c.Knows device
  knownTarget : ∀ device, s.roles = .outgoing device → c.Knows device
  knownReports : ∀ device, .stack (.connection .connecting device) ∈ inbox ∨
    .stack (.connection .connected device) ∈ inbox → c.Knows device

namespace Awaited

variable {s : Snapshot} {c c' : Control} {inbox : List Message}

theorem initial (psm : UInt16) (pollInterval : Nat) :
    Awaited .initial (.initial psm pollInterval) [] where
  books := Control.consistent_initial psm pollInterval
  aborting := by simp [Control.Aborting, Control.initial]
  gone := by simp [Control.initial]
  ending := by simp [Control.initial]
  announced _ := trivial
  leaving pending := by cases pending
  arriving device role := by cases role
  knownCurrent device role := by cases role
  knownTarget device role := by cases role
  knownReports := by simp

/-- Reports that are queued in a step of a task keep everything in order. -/
theorem moves (before : Awaited s c inbox) {reports : List Report}
    (moves : Control.Moves c reports c') :
    Awaited s c' (inbox ++ reports.map fun report => .stack report.event) := by
  let queued := reports.map fun report => Message.stack report.event
  have front : inbox ⊆ inbox ++ queued := List.subset_append_left _ _
  have mem_queued : ∀ event, .stack event ∈ queued → ∃ report ∈ reports,
      report.event = event := by
    intro event inside
    obtain ⟨report, reported, same⟩ := List.mem_map.mp inside
    exact ⟨report, reported, Message.stack.inj same⟩
  -- A disconnection that ends with this step leaves its report in the queue.
  have hangs : ∀ device, c.HangsUp device → c'.HangsUp device ∨
      .stack (.connection .disconnected device) ∈ queued := by
    intro device hangs
    refine (moves.hangs before.books before.aborting hangs).imp_right ?_
    rintro ⟨report, reported, event⟩
    exact List.mem_map.mpr ⟨report, reported, congrArg Message.stack event⟩
  have announces : ∀ device state, state = .connecting ∨ state = .connected →
      .stack (.connection state device) ∈ queued → c'.Knows device ∧ device ∉ c'.closing := by
    intro device state up inside
    obtain ⟨report, reported, event⟩ := mem_queued _ inside
    exact moves.announces before.books before.aborting reported event up
  refine ⟨before.books.moves moves, moves.aborting before.aborting, ?_, ?_, ?_, ?_, ?_, ?_,
    ?_, ?_⟩
  · intro device marked role
    obtain goes | reported := before.gone device (moves.closing marked) role
    · exact (hangs device goes).imp_right fun inside => List.mem_append_right _ inside
    · exact .inr (front reported)
  · intro device marked
    have silent : .stack (.connection .connected device) ∉ queued := fun inside =>
      (announces device _ (.inr rfl) inside).2 marked
    obtain goes | followed := before.ending device (moves.closing marked)
    · exact (hangs device goes).imp_right fun inside =>
        FollowedBy.append_of_mem silent inside
    · exact .inr (followed.append (.of_not_mem silent))
  · intro device
    exact (before.announced device).append (moves.announced device)
  · intro pending device role
    obtain goes | reported := before.leaving pending device role
    · exact (hangs device goes).imp_right fun inside =>
        .inr (List.mem_append_right _ inside)
    · exact .inr (reported.mono front)
  · intro device role
    exact (before.arriving device role).mono front
  · intro device role
    exact moves.knows (before.knownCurrent device role)
  · intro device role
    exact moves.knows (before.knownTarget device role)
  · intro device inside
    obtain inside | inside := inside <;>
      obtain early | late := List.mem_append.mp inside
    · exact moves.knows (before.knownReports device (.inl early))
    · exact (announces device _ (.inl rfl) late).1
    · exact moves.knows (before.knownReports device (.inr early))
    · exact (announces device _ (.inr rfl) late).1

/-- A message that brings no device up makes nothing more to wait for. -/
theorem quiet_append (before : Awaited s c inbox) {message : Message} (quiet : message.Quiet) :
    Awaited s c (inbox ++ [message]) := by
  have front : inbox ⊆ inbox ++ [message] := List.subset_append_left _ _
  refine ⟨before.books, before.aborting, ?_, ?_, ?_, ?_, ?_, before.knownCurrent,
    before.knownTarget, ?_⟩
  · intro device marked role
    exact (before.gone device marked role).imp_right fun inside => front inside
  · intro device marked
    refine (before.ending device marked).imp_right fun followed => followed.append ?_
    exact .of_not_mem fun inside => (quiet device).2 (List.mem_singleton.mp inside).symm
  · intro device
    refine (before.announced device).append ?_
    exact .of_not_mem fun inside => (quiet device).1 (List.mem_singleton.mp inside).symm
  · intro pending device role
    exact (before.leaving pending device role).imp_right fun reported => reported.mono front
  · intro device role
    exact (before.arriving device role).mono front
  · intro device inside
    apply before.knownReports device
    refine inside.imp (fun up => ?_) fun up => ?_
    · obtain early | late := List.mem_append.mp up
      · exact early
      · exact absurd (List.mem_singleton.mp late).symm (quiet device).1
    · obtain early | late := List.mem_append.mp up
      · exact early
      · exact absurd (List.mem_singleton.mp late).symm (quiet device).2

/-- Nor does it when it is taken up before everything else. -/
theorem quiet_cons (before : Awaited s c inbox) {message : Message} (quiet : message.Quiet) :
    Awaited s c (message :: inbox) := by
  have behind : inbox ⊆ message :: inbox := List.subset_cons_self _ _
  refine ⟨before.books, before.aborting, ?_, ?_, ?_, ?_, ?_, before.knownCurrent,
    before.knownTarget, ?_⟩
  · intro device marked role
    exact (before.gone device marked role).imp_right fun inside => behind inside
  · intro device marked
    exact (before.ending device marked).imp_right fun followed =>
      ⟨fun same => absurd same (quiet device).2, followed⟩
  · intro device
    exact ⟨fun same => absurd same (quiet device).1, before.announced device⟩
  · intro pending device role
    exact (before.leaving pending device role).imp_right fun reported => reported.mono behind
  · intro device role
    exact (before.arriving device role).mono behind
  · intro device inside
    apply before.knownReports device
    exact inside.imp (List.mem_of_ne_of_mem (Ne.symm (quiet device).1))
      (List.mem_of_ne_of_mem (Ne.symm (quiet device).2))

section Machine

variable {m : Machine} {w : StationWorld} {deadline : Nat} {message : Message}
  {after : Turn StationWorld}

/-- Taking up a message may call the radio. The devices of all calls are known. -/
theorem follows (before : Awaited m.snapshot w.control (message :: inbox))
    (step : Machine.Step surroundings deadline m w message after) :
    Control.Follows w.control after.world.control ∧ after.world.control.Consistent := by
  obtain same | ⟨device, same⟩ | ⟨device, packet, same⟩ | ⟨device, same, source⟩ :=
    step.calls
  · rw [same]
    exact ⟨(Control.untouched_refl _).follows, before.books⟩
  · rw [← same]
    exact ⟨Control.follows_connect _ device, before.books.connect device⟩
  · rw [← same]
    exact ⟨Control.follows_send _ device packet, before.books.send device packet⟩
  · rw [← same]
    refine ⟨Control.follows_disconnect ?_, before.books.disconnect device⟩
    obtain current | target | connecting | connected := source
    · exact before.knownCurrent device current
    · exact before.knownTarget device target
    · exact before.knownReports device (.inl (by simp [connecting]))
    · exact before.knownReports device (.inr (by simp [connected]))

/-- A step of the machine that takes up the first message of the queue. -/
theorem step (before : Awaited m.snapshot w.control (message :: inbox))
    (legal : m.snapshot.Legal)
    (step : Machine.Step surroundings deadline m w message after) :
    Awaited after.machine.snapshot after.world.control inbox := by
  obtain ⟨follows, books⟩ := before.follows step
  -- What stood behind the message is still there.
  have left : ∀ {event}, .stack event ∈ message :: inbox → message ≠ .stack event →
      .stack event ∈ inbox := fun inside other => List.mem_of_ne_of_mem (Ne.symm other) inside
  refine ⟨books, follows.aborts before.aborting, ?_, ?_, ?_, ?_, ?_, ?_, ?_, ?_⟩
  · intro device marked role
    obtain marked | hangs := follows.marks device marked
    · obtain ⟨was, other⟩ | rfl := step.current_of legal role
      · exact (before.gone device marked was).imp (follows.hangs device) fun inside =>
          left inside other
      · exact (before.ending device marked).imp (follows.hangs device) fun followed =>
          followed.1 rfl
    · exact .inl hangs
  · intro device marked
    obtain marked | hangs := follows.marks device marked
    · exact (before.ending device marked).imp (follows.hangs device) fun followed =>
        followed.2
    · exact .inl hangs
  · intro device
    exact (before.announced device).2
  · intro pending device role
    obtain ⟨was, own, other, another⟩ | ⟨own, ⟨command, rfl⟩, called⟩ :=
      step.leaving_of legal pending role
    · exact (before.leaving was device own).imp (follows.hangs device) fun reported =>
        reported.of_cons other another
    · obtain marked | hangs := Control.hangsUp_disconnect w.control device
      · exact (before.gone device marked own).imp (follows.hangs device) fun inside =>
          .inr (left inside (by simp))
      · rw [← called]
        exact .inl hangs
  · intro device role
    obtain ⟨was, other, another⟩ | rfl := step.incoming_of legal role
    · exact (before.arriving device was).of_cons other another
    · exact .inl ((before.announced device).1 rfl)
  · intro device role
    obtain ⟨was, -⟩ | rfl := step.current_of legal role
    · exact follows.knows device (before.knownCurrent device was)
    · exact follows.knows device (before.knownReports device (.inr (by simp)))
  · intro device role
    obtain was | accepted := step.outgoing_of role
    · exact follows.knows device (before.knownTarget device was)
    · have own : (w.control.connect device).1 = .ok () := congrArg Prod.fst accepted
      have same : (w.control.connect device).2 = after.world.control :=
        congrArg (fun result => result.2.control) accepted
      rw [← same]
      exact Control.knows_connect own
  · intro device inside
    apply follows.knows device
    apply before.knownReports device
    exact inside.imp (List.mem_cons_of_mem _) (List.mem_cons_of_mem _)

/-- A message that is handled to the end, with everything that it releases. -/
theorem handle (before : Awaited m.snapshot w.control (message :: inbox))
    (legal : m.snapshot.Legal) (done : m.replay = []) (deadline : Nat) :
    Awaited (Machine.handle surroundings deadline m w message).machine.snapshot
      (Machine.handle surroundings deadline m w message).world.control inbox := by
  let kept (_ : List Effect) (m : Machine) (w : StationWorld) : Prop :=
    m.snapshot.Legal ∧ Awaited m.snapshot w.control inbox
  let t := Machine.handle surroundings deadline m w message
  have ends : kept ([] ++ t.effects) t.machine t.world := by
    refine @Machine.handle_released _ surroundings m deadline w message kept And.left ?_ []
      legal done ?_
    · rintro past m w message after rest released ⟨legal, awaited⟩ step
      let resumed : Machine := { m with replay := rest }
      have now : Awaited resumed.snapshot w.control (message :: inbox) :=
        awaited.quiet_cons released.quiet
      exact ⟨step.legal legal, now.step legal step⟩
    · intro after first
      exact ⟨first.legal legal, before.step legal first⟩
  exact ends.2

end Machine

end Awaited

namespace Station

/-- What a station keeps to until it ends. -/
structure Attentive (s : Station) : Prop where
  timed : Machine.Timed s.machine
  done : s.machine.replay = []
  awaited : Awaited s.machine.snapshot s.world.control s.inbox

theorem attentive_initial (psm : UInt16) (pollInterval : Nat) (directory : Directory)
    (timeout : Nat) : Attentive (initial (.initial psm pollInterval) directory timeout) where
  timed := Machine.timed_initial
  done := rfl
  awaited := Awaited.initial psm pollInterval

theorem keeps_attentive : Keeps fun m c inbox =>
    Machine.Timed m ∧ m.replay = [] ∧ Awaited m.snapshot c inbox where
  worked := fun ⟨timed, done, awaited⟩ moves => ⟨timed, done, awaited.moves moves⟩
  asked := fun ⟨timed, done, awaited⟩ asks =>
    ⟨timed, done, awaited.quiet_append fun _ => ⟨asks _, asks _⟩⟩
  expired := fun _ ⟨timed, done, awaited⟩ =>
    ⟨timed, done, awaited.quiet_cons fun _ => ⟨by simp, by simp⟩⟩
  handled := fun deadline ⟨timed, done, awaited⟩ =>
    ⟨timed.handle done _ _ _, Machine.replay_handle _ _ _ _ _,
      awaited.handle timed.legal done deadline⟩

/-- A step that does not end the station leaves it attentive. -/
theorem Attentive.step {s : Station} (before : s.ended = false → Attentive s)
    (step : StationStep) (running : (Station.step s step).1.ended = false) :
    Attentive (Station.step s step).1 := by
  obtain ⟨timed, done, awaited⟩ := keeps_attentive.step
    (fun on => ⟨(before on).timed, (before on).done, (before on).awaited⟩) step running
  exact ⟨timed, done, awaited⟩

theorem Attentive.actor {s : Station} (before : s.ended = false → Attentive s)
    (running : (Station.step s .actor).1.ended = false) :
    Attentive (Station.step s .actor).1 := Attentive.step before .actor running

theorem Attentive.run {s : Station} (before : s.ended = false → Attentive s)
    (steps : List StationStep) (running : (run s steps).1.ended = false) :
    Attentive (run s steps).1 := by
  obtain ⟨timed, done, awaited⟩ := keeps_attentive.run
    (fun on => ⟨(before on).timed, (before on).done, (before on).awaited⟩) steps running
  exact ⟨timed, done, awaited⟩

/-- What will end a pending transition: the timer of an attempt, a report that is queued,
or a disconnection that has still to make its report. -/
def Outstanding (s : Station) : Prop :=
  match s.machine.snapshot.roles with
  | .idle => False
  | .outgoing _ => s.machine.timer.isSome
  | .incoming device => Reported device s.inbox
  | .current device | .handover device _ =>
    s.world.control.HangsUp device ∨ Reported device s.inbox

/-- On every run, whenever a transition is pending between two messages, something that
will end it is outstanding. -/
theorem pending_outstanding (psm : UInt16) (pollInterval : Nat) (directory : Directory)
    (timeout : Nat) (steps : List StationStep) :
    let s := (run (initial (.initial psm pollInterval) directory timeout) steps).1
    s.ended = false → s.machine.snapshot.state = .pending → Outstanding s := by
  intro s running pending
  obtain ⟨timed, done, awaited⟩ : Attentive s :=
    Attentive.run (fun _ => attentive_initial psm pollInterval directory timeout) steps
      running
  unfold Outstanding
  obtain ⟨target, before⟩ | ⟨peer, before⟩ | ⟨current, before⟩ |
    ⟨current, target, -, before⟩ := timed.legal.eq_pending pending
  · rw [before]
    exact (timed.isSome_iff done).mpr ⟨target, before⟩
  · rw [before]
    exact awaited.arriving peer (by simp [before, Roles.incoming?])
  · rw [before]
    exact awaited.leaving pending current (by simp [before])
  · rw [before]
    exact awaited.leaving pending current (by simp [before])

/-- A device is connected and then disconnected again. The radio has not answered yet. -/
def parting : List StationStep :=
  [.connect (.numbered 1), .actor, .task (.start 0), .task (.dialed 0 true), .actor,
    .disconnect (.numbered 1), .actor]

/-- The queue is empty then, no timer runs, and the disconnection is still to report. -/
theorem parting_outstanding :
    let s := (run (initial (.initial 4097 5000) (.ofConfig .default .missing) 30000) parting).1
    s.ended = false ∧ s.machine.snapshot = ⟨.pending, .current (.numbered 1), none⟩ ∧
      s.machine.timer = none ∧ s.inbox = [] ∧ Outstanding s := by
  intro s
  have runs : s.ended = false := by decide +kernel
  have pending : s.machine.snapshot = ⟨.pending, .current (.numbered 1), none⟩ := by
    decide +kernel
  refine ⟨runs, pending, by decide +kernel, by decide +kernel, ?_⟩
  exact pending_outstanding 4097 5000 _ 30000 parting runs (by rw [pending])

end Station

end AccessoryLink
