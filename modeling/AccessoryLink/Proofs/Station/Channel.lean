import AccessoryLink.Proofs.Control.Handles
import AccessoryLink.Proofs.Station.Pending

/-!
# The service channel that is recorded

The machine knows of the service channel only what reports tell it. A report may be out of
date when it is taken up, and the control closes a channel without telling when it is asked
to disconnect a device. So the machine's record may be wrong for a while. But then something
will put an end to it (`Accounted`): a disconnection is under way, or a report is queued that
the device is disconnected, that its service is down, or that it has another channel.

The same is true of the handles that are still to be read from the queue, of which the
machine makes its record (`Accurate`). When nothing is queued and the device is not being
disconnected, the record is right (`recorded_channel_held`).
-/

namespace AccessoryLink

open StationWorld

namespace Snapshot

/-- A device has a channel just if it is connected and the channel is recorded. -/
theorem Legal.channelOf_eq_some {s : Snapshot} (legal : s.Legal) {device : Address}
    {handle : ChannelHandle} :
    s.channelOf device = some handle ↔ s = ⟨.connected, .current device, some handle⟩ := by
  obtain ⟨state, roles, service⟩ := s
  cases state <;> cases roles <;> simp_all [Legal, channelOf, Roles.current?]

end Snapshot

/-- A channel is recorded because it was, and nothing to the contrary was reported, or because
it has just been reported. -/
theorem Machine.Step.recorded {W : Type} {env : Surroundings W} {deadline : Nat}
    {m : Machine} {w : W} {message : Message} {after : Turn W} {device : Address}
    {handle : ChannelHandle} (step : Step env deadline m w message after)
    (record : after.machine.snapshot = ⟨.connected, .current device, some handle⟩) :
    (m.snapshot = ⟨.connected, .current device, some handle⟩ ∧
        ∀ event, message = .stack event → ¬ event.Revises device) ∨
      message = .stack (.service .connected device (some handle)) := by
  cases step
  case ignored idle =>
    have same : m.snapshot = ⟨.connected, .current device, some handle⟩ := record
    refine .inl ⟨same, ?_⟩
    rintro event rfl revises
    unfold StackEvent.Revises at revises
    split at revises <;> simp_all [Ignores]
  all_goals
    simp_all [StackEvent.Revises, armed, deferring, withService, Snapshot.initial]

/-- What is recorded of the channel of a device is right, or something will put an end to it. -/
def Accounted (c : Control) (inbox : List Message) (device : Address) (handle : ChannelHandle) :
    Prop :=
  c.Holds device handle ∨ c.HangsUp device ∨
    ∃ event, .stack event ∈ inbox ∧ event.Revises device

namespace Accounted

variable {c c' : Control} {inbox more : List Message} {device : Address}
  {handle : ChannelHandle} {message : Message}

theorem mono (accounted : Accounted c inbox device handle) (kept : inbox ⊆ more) :
    Accounted c more device handle := by
  obtain holds | hangs | ⟨event, inside, revises⟩ := accounted
  · exact .inl holds
  · exact .inr (.inl hangs)
  · exact .inr (.inr ⟨event, kept inside, revises⟩)

/-- A message that says nothing of the channel is not missed. -/
theorem of_cons (accounted : Accounted c (message :: inbox) device handle)
    (other : ∀ event, message = .stack event → ¬ event.Revises device) :
    Accounted c inbox device handle := by
  obtain holds | hangs | ⟨event, inside, revises⟩ := accounted
  · exact .inl holds
  · exact .inr (.inl hangs)
  · obtain same | left := List.mem_cons.mp inside
    · exact absurd revises (other event same.symm)
    · exact .inr (.inr ⟨event, left, revises⟩)

/-- A step of a task that takes the channel away, or ends a disconnection, reports something
that puts an end to the record. -/
theorem moves (accounted : Accounted c inbox device handle) (books : c.Consistent)
    (aborting : c.Aborting) {reports : List Report} (moves : Control.Moves c reports c') :
    Accounted c' (inbox ++ reports.map fun report => .stack report.event) device handle := by
  have queued {report : Report} (inside : report ∈ reports) :
      .stack report.event ∈ inbox ++ reports.map fun report => Message.stack report.event :=
    List.mem_append_right _ (List.mem_map_of_mem inside)
  obtain holds | hangs | ⟨event, inside, revises⟩ := accounted
  · obtain kept | ⟨report, inside, revises⟩ := moves.holds holds
    · exact .inl kept
    · exact .inr (.inr ⟨_, queued inside, revises⟩)
  · obtain kept | ⟨report, inside, event⟩ := moves.hangs books aborting hangs
    · exact .inr (.inl kept)
    · refine .inr (.inr ⟨_, queued inside, ?_⟩)
      rw [event]
      rfl
  · exact .inr (.inr ⟨event, List.mem_append_left _ inside, revises⟩)

/-- A request that takes the channel away starts a disconnection. -/
theorem request {m : Machine} {w : StationWorld} {deadline : Nat} {after : Turn StationWorld}
    (accounted : Accounted w.control inbox device handle)
    (step : Machine.Step surroundings deadline m w message after) :
    Accounted after.world.control inbox device handle := by
  obtain same | ⟨other, same⟩ | ⟨other, packet, same⟩ | ⟨other, same, -⟩ := step.calls
  · rw [same]
    exact accounted
  · rw [← same]
    obtain holds | hangs | queued := accounted
    · exact .inl (holds.connect other)
    · exact .inr (.inl ((Control.follows_connect _ other).hangs device hangs))
    · exact .inr (.inr queued)
  · rw [← same]
    obtain holds | hangs | queued := accounted
    · exact .inl (holds.send other packet)
    · exact .inr (.inl ((Control.follows_send _ other packet).hangs device hangs))
    · exact .inr (.inr queued)
  · rw [← same]
    obtain holds | hangs | queued := accounted
    · exact (holds.disconnect other).imp_right .inl
    · exact .inr (.inl (hangs.disconnect other))
    · exact .inr (.inr queued)

end Accounted

/-- What is recorded of the service channel, and what is still to be read from the queue, is
accounted for. -/
structure Accurate (s : Snapshot) (c : Control) (inbox : List Message) : Prop where
  recorded : ∀ device handle, s = ⟨.connected, .current device, some handle⟩ →
    Accounted c inbox device handle
  reported : ∀ device handle front back,
    inbox = front ++ .stack (.service .connected device (some handle)) :: back →
      Accounted c back device handle

namespace Accurate

variable {s : Snapshot} {c c' : Control} {inbox : List Message} {message : Message}

theorem initial (c : Control) : Accurate .initial c [] where
  recorded device handle record := by cases record
  reported device handle front back split := by simp at split

/-- Reports that are queued in a step of a task are accounted for. -/
theorem moves (before : Accurate s c inbox) (books : c.Consistent) (aborting : c.Aborting)
    {reports : List Report} (moves : Control.Moves c reports c') :
    Accurate s c' (inbox ++ reports.map fun report => .stack report.event) where
  recorded device handle record :=
    (before.recorded device handle record).moves books aborting moves
  reported := by
    intro device handle front back split
    obtain ⟨later, reached, rfl⟩ | ⟨early, rfl, inside⟩ := entry_of_append split
    · exact (before.reported device handle front later reached).moves books aborting moves
    · have queued : .stack (.service .connected device (some handle)) ∈
          reports.map fun report => Message.stack report.event := by simp [inside]
      obtain ⟨report, made, same⟩ := List.mem_map.mp queued
      exact .inl (moves.opens made (Message.stack.inj same))

/-- A message of a caller says nothing of the channel. -/
theorem append (before : Accurate s c inbox) (asks : ∀ event, message ≠ .stack event) :
    Accurate s c (inbox ++ [message]) where
  recorded device handle record :=
    (before.recorded device handle record).mono (List.subset_append_left _ _)
  reported := by
    intro device handle front back split
    obtain ⟨later, reached, rfl⟩ | ⟨early, rfl, inside⟩ := entry_of_append split
    · exact (before.reported device handle front later reached).mono
        (List.subset_append_left _ _)
    · have same : .stack (.service .connected device (some handle)) ∈ [message] := by
        simp [inside]
      exact absurd (List.mem_singleton.mp same).symm (asks _)

/-- Nor does a message that is taken up before everything else open it. -/
theorem cons (before : Accurate s c inbox)
    (other : ∀ device channel, message ≠ .stack (.service .connected device channel)) :
    Accurate s c (message :: inbox) where
  recorded device handle record :=
    (before.recorded device handle record).mono (List.subset_cons_self _ _)
  reported := by
    intro device handle front back split
    cases front with
    | nil => exact absurd (List.cons.inj split).1 (other device _)
    | cons first front =>
        exact before.reported device handle front back (List.cons.inj split).2

section Machine

variable {m : Machine} {w : StationWorld} {deadline : Nat} {after : Turn StationWorld}

/-- A step of the machine that takes up the first message of the queue. -/
theorem step (before : Accurate m.snapshot w.control (message :: inbox))
    (step : Machine.Step surroundings deadline m w message after) :
    Accurate after.machine.snapshot after.world.control inbox where
  recorded := by
    intro device handle record
    obtain ⟨was, other⟩ | rfl := step.recorded record
    · exact ((before.recorded device handle was).of_cons other).request step
    · exact (before.reported device handle [] inbox rfl).request step
  reported := by
    intro device handle front back split
    exact (before.reported device handle (message :: front) back (by rw [split]; rfl)).request
      step

/-- A message that is handled to the end, with everything that it releases. -/
theorem handle (before : Accurate m.snapshot w.control (message :: inbox))
    (legal : m.snapshot.Legal) (done : m.replay = []) (deadline : Nat) :
    Accurate (Machine.handle surroundings deadline m w message).machine.snapshot
      (Machine.handle surroundings deadline m w message).world.control inbox := by
  let kept (_ : List Effect) (m : Machine) (w : StationWorld) : Prop :=
    m.snapshot.Legal ∧ Accurate m.snapshot w.control inbox
  let t := Machine.handle surroundings deadline m w message
  have ends : kept ([] ++ t.effects) t.machine t.world := by
    refine @Machine.handle_released _ surroundings m deadline w message kept And.left ?_ []
      legal done ?_
    · rintro past m w message after rest released ⟨legal, accurate⟩ step
      let resumed : Machine := { m with replay := rest }
      have now : Accurate resumed.snapshot w.control (message :: inbox) :=
        accurate.cons (by cases released <;> simp)
      exact ⟨step.legal legal, now.step step⟩
    · intro after first
      exact ⟨first.legal legal, before.step first⟩
  exact ends.2

end Machine

end Accurate

namespace Station

/-- A station is attentive until it ends, and its record of the channel is accounted for. -/
theorem keeps_accurate : Keeps fun m c inbox =>
    (Machine.Timed m ∧ m.replay = [] ∧ Awaited m.snapshot c inbox) ∧
      Accurate m.snapshot c inbox where
  worked := fun ⟨attentive, accurate⟩ moves =>
    ⟨keeps_attentive.worked attentive moves,
      accurate.moves attentive.2.2.books attentive.2.2.aborting moves⟩
  asked := fun ⟨attentive, accurate⟩ asks =>
    ⟨keeps_attentive.asked attentive asks, accurate.append asks⟩
  expired := fun n ⟨attentive, accurate⟩ =>
    ⟨keeps_attentive.expired n attentive, accurate.cons (by simp)⟩
  handled := fun deadline ⟨attentive, accurate⟩ =>
    ⟨keeps_attentive.handled deadline attentive,
      accurate.handle attentive.1.legal attentive.2.1 deadline⟩

/-- On every run, when nothing is queued and a device is not being disconnected, a channel
that is recorded for the device is the one that it holds. -/
theorem recorded_channel_held (psm : UInt16) (pollInterval : Nat) (directory : Directory)
    (timeout : Nat) (steps : List StationStep) (device : Address) (handle : ChannelHandle) :
    let s := (run (initial (.initial psm pollInterval) directory timeout) steps).1
    s.ended = false → s.inbox = [] → ¬ s.world.control.HangsUp device →
      s.channelOf device = some handle →
        ∃ line, s.world.control.register.holder = some ⟨device, handle, line⟩ := by
  intro s running empty stays open'
  obtain ⟨⟨timed, -, -⟩, accurate⟩ := keeps_accurate.run (fun _ =>
    ⟨⟨Machine.timed_initial, rfl, Awaited.initial psm pollInterval⟩, Accurate.initial _⟩)
    steps running
  have record := timed.legal.channelOf_eq_some.mp open'
  obtain holds | hangs | ⟨event, inside, -⟩ := accurate.recorded device handle record
  · exact holds
  · exact absurd hangs stays
  · rw [empty] at inside
    cases inside

/-- A device is connected and opens its service channel. Then it opens the channel again by
itself, and the new link takes the place of the first. -/
def reopening : List StationStep :=
  [.listen .done, .connect (.numbered 1), .actor, .task (.start 0), .task (.dialed 0 true),
    .task (.opened 0 (some 3)), .actor, .actor, .task (.accepted 4 (.numbered 1)),
    .task (.start 1), .actor, .actor, .actor]

/-- The second channel is recorded then, and it is the one that the device holds. -/
theorem reopening_recorded :
    let s := (run (initial (.initial 4097 5000) (.ofConfig .default .missing) 30000) reopening).1
    s.ended = false ∧ s.inbox = [] ∧ ¬ s.world.control.HangsUp (.numbered 1) ∧
      s.channelOf (.numbered 1) = some ⟨2⟩ ∧
        ∃ line, s.world.control.register.holder = some ⟨.numbered 1, ⟨2⟩, line⟩ := by
  have running : (run (initial (.initial 4097 5000) (.ofConfig .default .missing) 30000)
      reopening).1.ended = false := by decide +kernel
  have empty : (run (initial (.initial 4097 5000) (.ofConfig .default .missing) 30000)
      reopening).1.inbox = [] := by decide +kernel
  have hangups : (run (initial (.initial 4097 5000) (.ofConfig .default .missing) 30000)
      reopening).1.world.control.hangups = [] := by decide +kernel
  have stays : ¬ (run (initial (.initial 4097 5000) (.ofConfig .default .missing) 30000)
      reopening).1.world.control.HangsUp (.numbered 1) := by
    simp [Control.HangsUp, hangups]
  have recorded : (run (initial (.initial 4097 5000) (.ofConfig .default .missing) 30000)
      reopening).1.channelOf (.numbered 1) = some ⟨2⟩ := by decide +kernel
  exact ⟨running, empty, stays, recorded,
    recorded_channel_held 4097 5000 _ 30000 reopening _ _ running empty stays recorded⟩

end Station

end AccessoryLink
