import AccessoryLink.Service.EventQueue

/-!
# Delivery of events

Any number of callers put events into the queue, and each wakes the dispatcher in a step of
its own. The dispatcher may look into the queue between the two, or be at work on an earlier
event, and several wake-ups may leave one permit. A run is any order of these steps; what
stands before the first step of the dispatcher was put in before it began.

Two things are kept. Nothing gets lost or changes place: what was sent, what is in hand and
what is left are together what was put in. And no wake-up gets lost: a dispatcher that saw an
empty queue finds a permit as soon as something is left for it, unless a wake-up is still to
come.
-/

namespace AccessoryLink.Service.EventQueue

/-- What happens to the queue. -/
inductive Action where
  /-- A caller puts an event in. -/
  | push (event : Event)
  /-- A caller who has put an event in wakes the dispatcher. -/
  | announce
  /-- The dispatcher takes a step. -/
  | dispatch

/-- The queue after something has happened. -/
def act (q : EventQueue) : Action → EventQueue
  | .push event => q.push event
  | .announce => q.announce
  | .dispatch => q.dispatch

/-- The queue after some things have happened in a row. -/
def run (q : EventQueue) (actions : List Action) : EventQueue := actions.foldl act q

/-- The event that something puts in. -/
def Action.event? : Action → Option Event
  | push event => some event
  | _ => none

/-- How many callers stand between putting an event in and waking the dispatcher, after one more
thing has happened. -/
def Action.callers (before : Nat) : Action → Nat
  | push _ => before + 1
  | announce => before - 1
  | dispatch => before

/-- The event that the dispatcher is at work on. -/
def inHand (q : EventQueue) : List Event :=
  match q.dispatcher with
  | .sending event => [event]
  | _ => []

/-- Whether the dispatcher saw an empty queue, and waits or is about to. -/
def IsIdle (q : EventQueue) : Prop := q.dispatcher = .empty ∨ q.dispatcher = .waiting

/-- What the queue keeps to, with the events that were put in. -/
structure Sound (pushed : List Event) (q : EventQueue) : Prop where
  account : q.dispatched ++ q.inHand ++ q.pending = pushed
  alert : q.IsIdle → q.pending ≠ [] → 0 < q.unannounced ∨ q.permit = true
  spent : q.dispatcher = .waiting → q.permit = false

variable {q : EventQueue} {pushed : List Event}

theorem sound_initial : Sound [] initial where
  account := rfl
  alert _ left := absurd rfl left
  spent waiting := by cases waiting

/-! ## One step -/

theorem Sound.push (before : Sound pushed q) (event : Event) :
    Sound (pushed ++ [event]) (q.push event) where
  account := by
    rw [← before.account]
    simp [EventQueue.push, inHand]
  alert _ _ := .inl (Nat.succ_pos _)
  spent := before.spent

/-- A wake-up leaves a permit, unless it is used up at once. -/
theorem Sound.announce (before : Sound pushed q) : Sound pushed q.announce := by
  unfold EventQueue.announce
  split
  · exact before
  · dsimp only
    split
    · rename_i waiting
      refine ⟨?_, by simp [IsIdle], by simp⟩
      simpa [inHand, waiting] using before.account
    · rename_i awake
      refine ⟨before.account, fun _ _ => .inr rfl, ?_⟩
      intro waiting
      exact absurd waiting awake

/-- The dispatcher begins to wait only where no permit is left, so it is woken for what was
put in since it looked. -/
theorem Sound.dispatch (before : Sound pushed q) : Sound pushed q.dispatch := by
  have account := before.account
  unfold EventQueue.dispatch
  split
  case h_1 event rest looking held =>
    refine ⟨?_, by simp [IsIdle], by simp⟩
    simpa [inHand, looking, held] using account
  case h_2 looking held =>
    refine ⟨?_, fun _ left => absurd held left, by simp⟩
    simpa [inHand, looking] using account
  case h_3 event pending sending =>
    refine ⟨?_, by simp [IsIdle], by simp⟩
    simpa [inHand, sending] using account
  case h_4 pending empty =>
    split
    · refine ⟨?_, by simp [IsIdle], by simp⟩
      simpa [inHand, empty] using account
    · rename_i none
      refine ⟨?_, ?_, fun _ => by simpa using none⟩
      · simpa [inHand, empty] using account
      · intro _ left
        exact before.alert (.inl empty) left
  case h_5 => exact before

theorem Sound.act (before : Sound pushed q) (action : Action) :
    Sound (pushed ++ action.event?.toList) (q.act action) := by
  cases action with
  | push event => exact before.push event
  | announce => simpa [Action.event?, EventQueue.act] using before.announce
  | dispatch => simpa [Action.event?, EventQueue.act] using before.dispatch

/-! ## Every run -/

theorem Sound.run (before : Sound pushed q) (actions : List Action) :
    Sound (pushed ++ actions.filterMap Action.event?) (q.run actions) := by
  induction actions generalizing q pushed with
  | nil => simpa [EventQueue.run] using before
  | cons action rest ih =>
      have after := ih (before.act action)
      cases action <;> simpa [Action.event?, EventQueue.run, List.filterMap_cons] using after

theorem Sound.dispatchFor (before : Sound pushed q) (n : Nat) :
    Sound pushed (q.dispatchFor n) := by
  induction n generalizing q with
  | zero => exact before
  | succ n ih => exact ih before.dispatch

/-- How many steps the dispatcher takes until it waits, if nobody else takes any. -/
def rounds (q : EventQueue) : Nat :=
  match q.dispatcher with
  | .sending _ => 2 * q.pending.length + if q.permit then 5 else 3
  | .looking => 2 * q.pending.length + if q.permit then 4 else 2
  | .empty => if q.permit then 2 * q.pending.length + 3 else 1
  | .waiting => 0

theorem rounds_dispatch (awake : q.dispatcher ≠ .waiting) : q.dispatch.rounds + 1 = q.rounds := by
  unfold EventQueue.dispatch
  split
  case h_1 event rest looking held =>
    cases permit : q.permit <;> simp [rounds, looking, held, permit] <;> omega
  case h_2 looking held => cases permit : q.permit <;> simp [rounds, looking, held, permit]
  case h_3 event pending sending => cases permit : q.permit <;> simp [rounds, sending, permit]
  case h_4 pending empty => cases permit : q.permit <;> simp [rounds, empty, permit]
  case h_5 pending waiting => exact absurd waiting awake

theorem dispatcher_dispatchFor {n : Nat} (enough : q.rounds ≤ n) :
    (q.dispatchFor n).dispatcher = .waiting := by
  induction n generalizing q with
  | zero =>
      refine Decidable.byContradiction fun awake => ?_
      have falls : q.dispatch.rounds + 1 = q.rounds := rounds_dispatch awake
      omega
  | succ n ih =>
      apply ih
      by_cases waiting : q.dispatcher = .waiting
      · have same : q.dispatch = q := by simp [EventQueue.dispatch, waiting]
        rw [same]
        simp [rounds, waiting]
      · have falls := rounds_dispatch waiting
        omega

theorem dispatcher_drain (q : EventQueue) : q.drain.dispatcher = .waiting := by
  apply dispatcher_dispatchFor
  unfold rounds
  split <;> try split
  all_goals omega

/-- The dispatcher wakes nobody and puts nothing in. -/
theorem unannounced_dispatch (q : EventQueue) : q.dispatch.unannounced = q.unannounced := by
  unfold EventQueue.dispatch
  split <;> try split
  all_goals rfl

theorem unannounced_dispatchFor (q : EventQueue) (n : Nat) :
    (q.dispatchFor n).unannounced = q.unannounced := by
  induction n generalizing q with
  | zero => rfl
  | succ n ih => rw [EventQueue.dispatchFor, ih, unannounced_dispatch]

theorem unannounced_announce (q : EventQueue) : q.announce.unannounced = q.unannounced - 1 := by
  unfold EventQueue.announce
  split
  · rename_i none
    rw [none]
  · dsimp only
    split <;> rfl

/-- The queue counts the callers who have put an event in and have not woken the dispatcher yet. -/
theorem unannounced_run (q : EventQueue) (actions : List Action) :
    (q.run actions).unannounced = actions.foldl Action.callers q.unannounced := by
  induction actions generalizing q with
  | nil => rfl
  | cons action rest ih =>
      have first : (q.act action).unannounced = action.callers q.unannounced := by
        cases action with
        | push event => rfl
        | announce => exact unannounced_announce q
        | dispatch => exact unannounced_dispatch q
      rw [List.foldl_cons, ← first]
      exact ih (q.act action)

/-- When every caller is done, a dispatcher that is left alone sends all there is. -/
theorem Sound.drain (sound : Sound pushed q) (announced : q.unannounced = 0) :
    q.drain.dispatched = pushed := by
  have after : Sound pushed q.drain := sound.dispatchFor _
  have waiting := dispatcher_drain q
  have none : q.drain.unannounced = 0 := (unannounced_dispatchFor q _).trans announced
  have nothing : q.drain.pending = [] := by
    refine Decidable.byContradiction fun left => ?_
    have woken := after.alert (.inr waiting) left
    simp [none, after.spent waiting] at woken
  simpa [inHand, waiting, nothing] using after.account

theorem sound_run (actions : List Action) :
    Sound (actions.filterMap Action.event?) (initial.run actions) := sound_initial.run actions

/-- A caller who has put an event in and woken the dispatcher is done. -/
theorem unannounced_emit (q : EventQueue) (event : Event) :
    (q.emit event).unannounced = q.unannounced := unannounced_announce (q.push event)

/-- The signals for some events are their signals one by one. -/
theorem signalsOf_eq (events : List Event) : signalsOf events = events.map Signal.ofEvent := by
  have emitted : ∀ (events pushed : List Event) (q : EventQueue), Sound pushed q →
      q.unannounced = 0 → Sound (pushed ++ events) (events.foldl emit q) ∧
        (events.foldl emit q).unannounced = 0 := by
    intro events
    induction events with
    | nil => simp +contextual
    | cons event rest ih =>
        intro pushed q sound announced
        have next := ih (pushed ++ [event]) (q.emit event) (sound.push event).announce
          ((unannounced_emit q event).trans announced)
        simpa using next
  obtain ⟨sound, announced⟩ := emitted events [] initial sound_initial rfl
  rw [signalsOf, sound.drain announced, List.nil_append]

/-- Whatever the order in which callers and the dispatcher take their steps, the signals that
were sent are those of the first events that were put in, in their order and once each: what
was sent, the event in hand and what is left are all that was put in. A dispatcher that waits
or is about to, and finds no permit, has nothing left to send, unless a caller is still to
wake it. So when every caller is done, it sends everything before it waits for good. A caller is
done when it has woken the dispatcher for what it put in. -/
theorem events_delivered (actions : List Action) :
    let pushed := actions.filterMap Action.event?
    let q := initial.run actions
    q.dispatched ++ q.inHand ++ q.pending = pushed ∧
      (q.IsIdle → q.permit = false → q.unannounced = 0 → q.pending = []) ∧
      (q.unannounced = 0 → q.drain.dispatched = pushed ∧ q.drain.dispatcher = .waiting) ∧
      q.unannounced = actions.foldl Action.callers 0 := by
  intro pushed q
  have sound : Sound pushed q := sound_run actions
  refine ⟨sound.account, ?_, ?_, unannounced_run initial actions⟩
  · intro idle none announced
    refine Decidable.byContradiction fun left => ?_
    have woken := sound.alert idle left
    simp [none, announced] at woken
  · intro announced
    exact ⟨sound.drain announced, dispatcher_drain q⟩

end AccessoryLink.Service.EventQueue
