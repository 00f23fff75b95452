import AccessoryLink.Proofs.Machine.Exclusion
import AccessoryLink.Proofs.Machine.Moments

/-!
# Refused requests

A command is announced before the radio is asked, and a link that is given up loses its
service before that. When the radio refuses, everything has to be taken back, in three
places, and each of them does so by hand. What they have in common is `Retracted`:
transitions, and then the same ones backwards in the opposite order.

The radio refuses nothing else in silence. The one command that says nothing beforehand is
the one to cancel an attempt; it waits for the next change of state instead.
-/

namespace AccessoryLink

variable {W : Type}

/-- Whether an event tells a transition, which can be taken back. -/
def Event.IsTransition : Event → Prop
  | connection _ _ _ => True
  | service _ _ _ => True
  | _ => False

/-- The event that an entry of the trace tells. -/
def Effect.event? : Effect → Option Event
  | told event => some event
  | _ => none

/-- What observers are told by a trace, in order. -/
def announcements (trace : List Effect) : List Event := trace.filterMap Effect.event?

/-- Transitions that are told, and then taken back in the opposite order. -/
def Retracted (events : List Event) : Prop :=
  ∃ first : List Event, (∀ event ∈ first, event.IsTransition) ∧
    events = first ++ (first.map Event.inverse).reverse

namespace Retracted

theorem nil : Retracted [] := ⟨[], by simp, rfl⟩

/-- What is told before everything else is taken back after everything else. -/
theorem around (event : Event) {events : List Event} (transition : event.IsTransition)
    (inner : Retracted events) : Retracted (event :: events ++ [event.inverse]) := by
  obtain ⟨first, transitions, rfl⟩ := inner
  refine ⟨event :: first, ?_, by simp⟩
  intro other inside
  obtain rfl | later := List.mem_cons.mp inside
  · exact transition
  · exact transitions other later

end Retracted

namespace Machine

variable {env : Surroundings W} {deadline : Nat} {m : Machine} {w : W} {command : Command}
  {after : Turn W} {call : Call} {error : LinkError} {seen : List Message}
  {trace : List Effect}

/-- Whether a command is to disconnect the device that is being connected, and that alone is
tracked. -/
def Cancels (m : Machine) (command : Command) : Prop :=
  command.verb = .disconnect ∧ m.snapshot.roles = .outgoing command.device

instance (m : Machine) (command : Command) : Decidable (m.Cancels command) :=
  inferInstanceAs (Decidable (_ ∧ _))

/-- A link that stays drops its service and gets it back. -/
theorem retracted_disconnect (s : Snapshot) (device : Address) (answer : Outcome) :
    Retracted (announcements (s.serviceDrop device ++
      [.told (.connection device .disconnecting .connected),
        .called (.disconnect device) answer,
        .told (.connection device .connected .disconnecting)] ++ s.serviceReturn device)) := by
  have link : Retracted [.connection device .disconnecting .connected,
      .connection device .connected .disconnecting] :=
    .around (.connection device .disconnecting .connected) trivial .nil
  cases held : s.service with
  | none =>
      rw [Snapshot.serviceDrop, Snapshot.serviceReturn, held]
      exact link
  | some handle =>
      rw [Snapshot.serviceDrop, Snapshot.serviceReturn, held]
      exact link.around (.service device .disconnected .connected) trivial

/-- A command that the radio refuses leaves the machine as it was and takes back what it
told, unless it is one to cancel an attempt, which tells nothing and waits. -/
theorem Step.refused (step : Step env deadline m w (.command command) after)
    (refused : .called call (.error error) ∈ after.effects) :
    (¬ m.Cancels command ∧ after.machine = m ∧ Retracted (announcements after.effects)) ∨
      (m.Cancels command ∧ after.machine = m.deferring command ∧
        announcements after.effects = []) := by
  cases step
  case connectRefused device ticket error w' before answer =>
    refine .inl ⟨by simp [Cancels], rfl, ?_⟩
    exact .around (.connection device .connecting .disconnected) trivial .nil
  case handoverDenied current device service ticket error w' distinct before answer =>
    refine .inl ⟨by simp [Cancels], rfl, ?_⟩
    exact .around (.connection device .connecting .disconnected) trivial .nil
  case disconnectDenied device service ticket error w' before answer =>
    refine .inl ⟨by simp [Cancels, before], rfl, ?_⟩
    exact retracted_disconnect m.snapshot device (.error error)
  case cancelRefused device ticket error w' before answer =>
    exact .inr ⟨⟨rfl, by rw [before]⟩, rfl, rfl⟩
  all_goals simp at refused

/-- At every moment the snapshot is legal, and observers were told what it says. -/
theorem Passes.faithful (passed : Passes env .initial seen trace m) :
    m.snapshot.Legal ∧ Faithful trace m.snapshot := by
  have begin : Faithful [] Machine.initial.snapshot := ⟨fun _ => rfl, fun _ => rfl⟩
  refine passed.invariant
    (P := fun _ trace m => m.snapshot.Legal ∧ Faithful trace m.snapshot) And.left
    ⟨Snapshot.legal_initial, begin⟩ (fun _ _ before => before) ?_
  rintro seen trace m w deadline message rest after - ⟨legal, faithful⟩ step
  exact ⟨step.legal legal, step.faithful legal faithful⟩

/-- A refused request is undone. Whatever moment a machine has reached and whatever is left
to replay, a command that the radio refuses leaves the snapshot with its service channel, the
timer and the replay as they were. What it told is a row of transitions followed by the same
ones taken back in the opposite order, so that observers know what they knew before. It does
not wait, unless it is one to cancel the only attempt: that one tells nothing, and waits
behind the others. -/
theorem refused_command_undone (passed : Passes env .initial seen trace m) (deadline : Nat)
    (w : W) (rest : List Message) (command : Command) {call : Call} {error : LinkError}
    (refused : .called call (.error error) ∈
      (process env deadline { m with replay := rest } w (.command command)).effects) :
    let after := process env deadline { m with replay := rest } w (.command command)
    after.machine.snapshot = m.snapshot ∧ after.machine.timer = m.timer ∧
      after.machine.generation = m.generation ∧ after.machine.replay = rest ∧
      Retracted (announcements after.effects) ∧
      observed (trace ++ after.effects) = observed trace ∧
      if m.Cancels command then
        after.machine.deferred = m.deferred ++ [command] ∧ announcements after.effects = []
      else after.machine.deferred = m.deferred := by
  intro after
  obtain ⟨legal, faithful⟩ := passed.faithful
  have step : Step env deadline { m with replay := rest } w (.command command) after :=
    step_process (m := { m with replay := rest }) legal (.command command)
  have heard (shown : after.machine.snapshot = m.snapshot) :
      observed (trace ++ after.effects) = observed trace := by
    rw [(step.faithful legal faithful).observed_eq, shown, faithful.observed_eq]
  obtain ⟨other, same, retracted⟩ | ⟨cancels, same, silent⟩ := step.refused refused
  · have other : ¬ m.Cancels command := other
    have shown : after.machine.snapshot = m.snapshot := by rw [same]
    rw [if_neg other]
    refine ⟨shown, ?_, ?_, ?_, retracted, heard shown, ?_⟩ <;> rw [same]
  · have cancels : m.Cancels command := cancels
    have shown : after.machine.snapshot = m.snapshot := by rw [same]; rfl
    rw [if_pos cancels, silent, same]
    exact ⟨rfl, rfl, rfl, rfl, .nil, heard shown, rfl, rfl⟩

/-- A radio that connects devices and never lets go of them. -/
def clinging : Surroundings Unit where
  connect _ _ := (.ok (), ())
  disconnect _ _ := (.error (.controlRefused .disconnect), ())
  send _ _ _ := (.ok (), ())
  cleanup _ := ()
  priority _ _ := .on
  bonded _ _ := true
  accessories _ := []
  quiet _ := false

/-- A device is connected here and its service opens. -/
def served : List (Arrival Unit) :=
  [⟨(), 30000, .command ⟨.connect, .numbered 1, 0⟩⟩,
    ⟨(), 30000, .stack (.connection .connected (.numbered 1))⟩,
    ⟨(), 30000, .stack (.service .connected (.numbered 1) (some ⟨7⟩))⟩]

/-- Then it is to be disconnected, which the radio refuses. -/
def refusal : Turn Unit :=
  process clinging 60000 { (run clinging .initial served).1 with replay := [] } ()
    (.command ⟨.disconnect, .numbered 1, 1⟩)

/-- Its link and its service are back, under the same channel. -/
theorem refused_disconnect_undone :
    .called (.disconnect (.numbered 1)) (.error (.controlRefused .disconnect)) ∈
        refusal.effects ∧
      refusal.machine.snapshot = ⟨.connected, .current (.numbered 1), some ⟨7⟩⟩ ∧
      announcements refusal.effects =
        [.service (.numbered 1) .disconnected .connected,
          .connection (.numbered 1) .disconnecting .connected,
          .connection (.numbered 1) .connected .disconnecting,
          .service (.numbered 1) .connected .disconnected] ∧
      Retracted (announcements refusal.effects) := by
  have before : (run clinging .initial served).1.snapshot =
      ⟨.connected, .current (.numbered 1), some ⟨7⟩⟩ := by decide +kernel
  have told : announcements refusal.effects =
      [.service (.numbered 1) .disconnected .connected,
        .connection (.numbered 1) .disconnecting .connected,
        .connection (.numbered 1) .connected .disconnecting,
        .service (.numbered 1) .connected .disconnected] := by decide +kernel
  have place : refusal.effects[4]? = some (.called (.disconnect (.numbered 1))
      (.error (.controlRefused .disconnect))) := by decide +kernel
  have refused := List.mem_of_getElem? place
  obtain ⟨same, -, -, -, retracted, -⟩ :=
    refused_command_undone (passes_run clinging served) 60000 () [] _ refused
  exact ⟨refused, same.trans before, told, retracted⟩

end Machine

end AccessoryLink
