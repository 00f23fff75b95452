import AccessoryLink.Proofs.Manager.Answers

/-!
# The end of a session

A shutdown ends the actor through its queue: the marker waits behind everything that was
queued before it. So what is queued in a session falls into two parts. The messages in
front were handled by the machine, one after the other, with expiries of its timer in
between; no marker is among them. The others wait, or were dropped when the actor ended
at the marker, which is then the first of them (`Session.Progress`).

The machine itself never lets go of the radio, so the call at the end is the only one
(`Machine.holds_radio`). An actor that has ended takes no turn and its queue is closed,
so nothing comes after it (`Session.ended_run`, `Manager.Closed`). That it ends at all is
again a matter of places in the queue (`Session.Ending`).
-/

namespace AccessoryLink

variable {W : Type}

/-- Whether a message says that the timer has expired. The actor makes these itself. -/
def Message.isExpiry : Message → Bool
  | timeout _ => true
  | _ => false

/-- The messages of a run that came out of the queue. -/
def fromQueue (arrivals : List (Arrival W)) : List Message :=
  (arrivals.map Arrival.message).filter fun message => !message.isExpiry

@[simp] theorem fromQueue_append (past next : List (Arrival W)) :
    fromQueue (past ++ next) = fromQueue past ++ fromQueue next := by
  simp [fromQueue]

namespace Machine

variable {env : Surroundings W} {deadline : Nat} {m : Machine} {w : W} {message : Message}
  {after : Turn W}

/-- No message makes the machine let go of the radio. -/
theorem Step.holds_radio (step : Step env deadline m w message after) (answer : Outcome) :
    .called .cleanup answer ∉ after.effects := by
  cases step
  all_goals simp

theorem holds_radio (env : Surroundings W) (arrivals : List (Arrival W)) (answer : Outcome) :
    .called .cleanup answer ∉ (run env .initial arrivals).2 := by
  let held (past : List Effect) (m : Machine) : Prop :=
    m.snapshot.Legal ∧ .called .cleanup answer ∉ past
  have begin : held [] .initial := ⟨Snapshot.legal_initial, List.not_mem_nil⟩
  have kept : held ([] ++ (run env .initial arrivals).2) (run env .initial arrivals).1 := by
    refine run_invariant (P := held) And.left ?_ begin arrivals
    rintro past m w deadline message after rest ⟨legal, held⟩ step
    refine ⟨step.legal legal, fun inside => ?_⟩
    obtain early | late := List.mem_append.mp inside
    · exact held early
    · exact step.holds_radio answer late
  exact kept.2

end Machine

namespace Manager

variable {env : Surroundings W} {m : Manager W}

/-- Nothing is queued, and every request that passes its own checks fails for the reason
that the manager has shut down. -/
structure Closed (env : Surroundings W) (m : Manager W) : Prop where
  enqueue : ∀ message, m.enqueue message = (.error .managerShutdown, m)
  connect : ∀ device, env.priority m.world device ≠ .off →
    m.connectionOf device ≠ .connected → m.connectionOf device ≠ .connecting →
    (m.connect env device).1 = .error .managerShutdown
  disconnect : ∀ device,
    m.connectionOf device = .connected ∨ m.connectionOf device = .connecting →
    (m.disconnect device).1 = .error .managerShutdown
  send : ∀ device packet, m.connectionOf device = .connected →
    (m.send device packet).1 = .error .managerShutdown

theorem closed_of_ended (env : Surroundings W) (ended : m.ended = true) : m.Closed env where
  enqueue message := by simp [Manager.enqueue, ended]
  connect device allowed apart idle := by
    have filed : (m.enqueueCommand .connect device).1 = .error .managerShutdown := by
      simp [enqueueCommand, Manager.enqueue, ended]
    simp only [Manager.connect, allowed, if_false]
    cases connection : m.connectionOf device with
    | connected => exact absurd connection apart
    | connecting => exact absurd connection idle
    | disconnected => exact filed
    | disconnecting => exact filed
  disconnect device linked := by
    have filed : (m.enqueueCommand .disconnect device).1 = .error .managerShutdown := by
      simp [enqueueCommand, Manager.enqueue, ended]
    obtain connection | connection := linked <;>
      simpa only [Manager.disconnect, connection] using filed
  send device packet connected := by
    simp [Manager.send, connected, Manager.enqueue, ended]

end Manager

namespace Session

variable {env : Surroundings W} {s : Session W}

/-! ## What is queued -/

/-- All that is queued while several things happen, in the order in which it is. -/
def queued (env : Surroundings W) (s : Session W) : List (Action W) → List Message
  | [] => []
  | action :: rest => s.queues action ++ (s.step env action).queued env rest

/-- What is queued comes last, and only a turn takes something out or ends the actor. -/
theorem queue_step (env : Surroundings W) (s : Session W) {action : Action W}
    (waits : action ≠ .turn) :
    (s.step env action).manager.inbox = s.manager.inbox ++ s.queues action ∧
      (s.step env action).manager.ended = s.manager.ended := by
  obtain ⟨⟨tickets, world, manager⟩, -⟩ := step_outside env s waits
  rw [manager]
  exact ⟨rfl, rfl⟩

/-- Nobody puts an expiry in the queue. -/
theorem isExpiry_queues {action : Action W} {message : Message}
    (queued : message ∈ s.queues action) : message.isExpiry = false := by
  obtain ⟨verb, device, rfl⟩ | ⟨packet, rfl⟩ | ⟨event, rfl⟩ | rfl := mem_queues queued <;> rfl

/-- Whether a shutdown was asked for says how many markers were queued. -/
theorem count_queues (env : Surroundings W) (on : s.manager.ended = false)
    {action : Action W} (waits : action ≠ .turn) :
    (s.queues action).count .shutdown + s.manager.stopping.toNat =
      (s.step env action).manager.stopping.toNat := by
  obtain ⟨⟨tickets, world, manager⟩, -⟩ := step_outside env s waits
  rw [manager]
  simp only [queues, on, posts]
  cases action with
  | shutdown => cases s.manager.stopping <;> rfl
  | queue n =>
      simp only [Action.isShutdown]
      cases s.checked[n]? <;> simp
  | _ => simp [Action.isShutdown]

/-- Handles that were given up are not taken back. -/
theorem orphaned_step (env : Surroundings W) (gone : s.manager.orphaned = true)
    (action : Action W) : (s.step env action).manager.orphaned = true := by
  by_cases acts : action = .turn
  · subst acts
    simp only [step]
    split
    · rename_i turned
      cases Manager.turned_of_turn turned <;> exact gone
    · exact gone
  · obtain ⟨⟨tickets, world, manager⟩, -⟩ := step_outside env s acts
    rw [manager, gone, Bool.true_or]

/-! ## How far a session has come -/

/-- What has become of the messages that were queued: the machine has handled some, and the
others wait or were dropped. -/
inductive Phase (env : Surroundings W) (arrivals : List (Arrival W)) (back : List Message)
    (s : Session W) : Prop where
  | running (on : s.manager.ended = false) (queue : s.manager.inbox = back)
      (marks : back.count .shutdown = s.manager.stopping.toNat)
      (machine : s.manager.machine = (Machine.run env .initial arrivals).1)
      (trace : s.trace = (Machine.run env .initial arrivals).2)
  | finished (ended : s.manager.ended = true) (empty : s.manager.inbox = [])
      (cause : back.head? = some .shutdown ∨ back = [] ∧ s.manager.orphaned = true)
      (once : back.count .shutdown ≤ 1)
      (machine : s.manager.machine =
        { (Machine.run env .initial arrivals).1 with timer := none, deferred := [] })
      (trace : s.trace = (Machine.run env .initial arrivals).2 ++
        (back.flatMap Manager.dropped ++ [.called .cleanup .done]))

/-- How far a session has come with all that was queued. No marker is handled. -/
structure Progress (env : Surroundings W) (all : List Message) (arrivals : List (Arrival W))
    (back : List Message) (s : Session W) : Prop where
  split : all = fromQueue arrivals ++ back
  unmarked : .shutdown ∉ fromQueue arrivals
  genuine : ∀ message ∈ back, message.isExpiry = false
  phase : s.Phase env arrivals back

namespace Progress

variable {all back : List Message} {arrivals : List (Arrival W)}

theorem initial (env : Surroundings W) (world : W) (timeout : Nat) :
    (Session.initial world timeout).Progress env [] [] [] where
  split := rfl
  unmarked := List.not_mem_nil
  genuine := nofun
  phase := .running rfl rfl rfl rfl rfl

/-- What others do comes behind everything that waits. -/
theorem step (before : s.Progress env all arrivals back) {action : Action W}
    (waits : action ≠ .turn) :
    (s.step env action).Progress env (all ++ s.queues action) arrivals
      (back ++ s.queues action) where
  split := by rw [before.split, List.append_assoc]
  unmarked := before.unmarked
  genuine := by
    intro message inside
    obtain early | late := List.mem_append.mp inside
    · exact before.genuine message early
    · exact isExpiry_queues late
  phase := by
    obtain ⟨inbox, ended'⟩ := queue_step env s waits
    obtain ⟨kept, trace'⟩ := step_keeps env s waits
    cases before.phase with
    | running on queue marks machine trace =>
        refine .running (ended'.trans on) ?_ ?_ (kept.trans machine) (trace'.trans trace)
        · rw [inbox, queue]
        · rw [List.count_append, marks, ← count_queues env on waits, Nat.add_comm]
    | finished ended empty cause once machine trace =>
        have closed : s.queues action = [] := by simp [queues, ended]
        rw [closed, List.append_nil] at inbox
        rw [closed, List.append_nil]
        refine .finished (ended'.trans ended) (inbox.trans empty) ?_ once
          (kept.trans machine) (trace'.trans trace)
        exact cause.imp_right fun alone => ⟨alone.1, orphaned_step env alone.2 action⟩

/-- A turn handles the first message of the queue, or an expiry, or ends the actor. -/
theorem turn (before : s.Progress env all arrivals back) :
    ∃ arrivals' back', (s.step env .turn).Progress env all arrivals' back' := by
  simp only [Session.step]
  cases turned : s.manager.turn env with
  | none => exact ⟨arrivals, back, before⟩
  | some result =>
  replace turned := Manager.turned_of_turn turned
  cases before.phase with
  | finished ended => cases turned <;> simp_all
  | running _ queue marks machine trace =>
      have done : s.manager.machine.replay = [] := by
        rw [machine]
        exact Machine.replay_run env rfl arrivals
      -- The arrival is the message as the turn finds the world and the clock.
      let arrival (message : Message) : Arrival W := ⟨s.manager.world, s.manager.deadline, message⟩
      have longer (message : Message) :
          Machine.run env .initial (arrivals ++ [arrival message]) =
            let t := Machine.handle env s.manager.deadline s.manager.machine s.manager.world message
            (t.machine, s.trace ++ t.effects) := by
        rw [Machine.run_append, machine, trace]
        simp [Machine.run_cons, arrival]
      cases turned with
      | @message message rest on first other =>
          obtain rfl : back = message :: rest := queue.symm.trans first
          have genuine : fromQueue [arrival message] = [message] := by
            simp [fromQueue, arrival, before.genuine message]
          refine ⟨arrivals ++ [arrival message], rest, ?_, ?_, ?_, ?_⟩
          · rw [before.split, fromQueue_append, genuine, List.append_assoc, List.singleton_append]
          · rw [fromQueue_append, genuine, List.mem_append, not_or]
            exact ⟨before.unmarked, by simpa using other.symm⟩
          · exact fun next later => before.genuine next (List.mem_cons_of_mem _ later)
          · refine .running on rfl ?_ ?_ ?_
            · rwa [List.count_cons_of_ne other] at marks
            · rw [longer]
              rfl
            · rw [longer]
              rfl
      | @expiry timer on empty =>
          obtain rfl : back = [] := queue.symm.trans empty
          have expiry : fromQueue [arrival (.timeout timer.generation)] = [] := rfl
          refine ⟨arrivals ++ [arrival (.timeout timer.generation)], [], ?_, ?_, by simp, ?_⟩
          · rw [before.split, fromQueue_append, expiry, List.append_nil, List.append_nil]
          · rw [fromQueue_append, expiry, List.append_nil]
            exact before.unmarked
          · refine .running on empty marks ?_ ?_
            · rw [longer]
              rfl
            · rw [longer]
              rfl
      | @marker rest on first =>
          obtain rfl : back = .shutdown :: rest := queue.symm.trans first
          rw [Manager.stop_eq env (m := { s.manager with inbox := rest }) done]
          refine ⟨arrivals, .shutdown :: rest, before.split, before.unmarked, before.genuine, ?_⟩
          refine .finished rfl rfl (.inl rfl) ?_ ?_ ?_
          · rw [marks]
            exact Bool.toNat_le _
          · rw [machine]
          · rw [trace]
            rfl
      | orphaned on empty gone =>
          obtain rfl : back = [] := queue.symm.trans empty
          rw [Manager.stop_eq env done]
          refine ⟨arrivals, [], before.split, before.unmarked, by simp, ?_⟩
          refine .finished rfl rfl (.inr ⟨rfl, gone⟩) (Nat.zero_le _) ?_ ?_
          · rw [machine]
          · rw [trace, empty]

/-- Every session has come some way with what was queued in it. -/
theorem run (before : s.Progress env all arrivals back) (actions : List (Action W)) :
    ∃ arrivals' back',
      (s.run env actions).Progress env (all ++ s.queued env actions) arrivals' back' := by
  induction actions generalizing s all arrivals back with
  | nil =>
      rw [queued, List.append_nil]
      exact ⟨arrivals, back, before⟩
  | cons action rest ih =>
      have runs : s.run env (action :: rest) = (s.step env action).run env rest := rfl
      rw [runs, queued, ← List.append_assoc]
      by_cases acts : action = .turn
      · subst acts
        obtain ⟨arrivals', back', after⟩ := before.turn
        have silent : s.queues .turn = [] := by simp [queues, posts]
        rw [silent, List.append_nil]
        exact ih after
      · exact ih (before.step acts)

end Progress

/-! ## After the end -/

/-- Nothing comes after the end. -/
theorem ended_run (env : Surroundings W) (ended : s.manager.ended = true)
    (more : List (Action W)) :
    (s.run env more).manager.ended = true ∧
      (s.run env more).manager.machine = s.manager.machine ∧
      (s.run env more).trace = s.trace := by
  refine run_invariant
    (P := fun next => next.manager.ended = true ∧ next.manager.machine = s.manager.machine ∧
      next.trace = s.trace) ?_ ⟨ended, rfl, rfl⟩ more
  rintro next action ⟨ended, machine, trace⟩
  by_cases acts : action = .turn
  · subst acts
    have still : next.manager.turn env = none := by simp [Manager.turn, ended]
    simp only [Session.step, still]
    exact ⟨ended, machine, trace⟩
  · obtain ⟨-, same⟩ := queue_step env next acts
    obtain ⟨kept, trace'⟩ := step_keeps env next acts
    exact ⟨same.trans ended, kept.trans machine, trace'.trans trace⟩

/-! ## What brings the end about -/

/-- Only a turn ends the actor, and the last thing that happens to the surroundings is that they
are cleaned up. -/
theorem step_ends (env : Surroundings W) (done : s.manager.machine.replay = [])
    (on : s.manager.ended = false) {action : Action W}
    (ended : (s.step env action).manager.ended = true) :
    action = .turn ∧ (s.step env action).manager.world = env.cleanup s.manager.world := by
  by_cases acts : action = .turn
  · subst acts
    refine ⟨rfl, ?_⟩
    cases turned : s.manager.turn env with
    | none => simp [Session.step, turned, on] at ended
    | some result =>
      simp only [Session.step, turned] at ended ⊢
      cases Manager.turned_of_turn turned with
      | message => exact absurd ended (by simp [Manager.handle, Manager.absorb, on])
      | expiry => exact absurd ended (by simp [Manager.handle, Manager.absorb, on])
      | @marker rest =>
          rw [Manager.stop_eq env (m := { s.manager with inbox := rest }) done]
      | orphaned => rw [Manager.stop_eq env done]
  · obtain ⟨-, same⟩ := queue_step env s acts
    rw [same, on] at ended
    cases ended

/-- The handles go with a drop, and a shutdown is asked for by its request. -/
theorem flags_step (env : Surroundings W) (s : Session W) (action : Action W) :
    (s.step env action).manager.orphaned = (s.manager.orphaned || action.isDrop) ∧
      (s.step env action).manager.stopping = (s.manager.stopping || action.isShutdown) := by
  by_cases acts : action = .turn
  · subst acts
    cases turned : s.manager.turn env with
    | none => simp [step, turned, Action.isDrop, Action.isShutdown]
    | some result =>
        simp only [step, turned]
        cases Manager.turned_of_turn turned <;>
          simp [Manager.handle, Manager.stop, Manager.absorb, Action.isDrop, Action.isShutdown]
  · obtain ⟨⟨tickets, world, manager⟩, -⟩ := step_outside env s acts
    simp [manager]

/-- Whether the handles are gone, or a shutdown was asked for, is what was done to the session. -/
theorem flags_run (env : Surroundings W) (s : Session W) (actions : List (Action W)) :
    (s.run env actions).manager.orphaned = (s.manager.orphaned || actions.any Action.isDrop) ∧
      (s.run env actions).manager.stopping =
        (s.manager.stopping || actions.any Action.isShutdown) := by
  induction actions generalizing s with
  | nil => simp [run]
  | cons action rest ih =>
      have runs : s.run env (action :: rest) = (s.step env action).run env rest := rfl
      obtain ⟨gone, asked⟩ := flags_step env s action
      obtain ⟨orphaned, stopping⟩ := ih (s.step env action)
      rw [gone, Bool.or_assoc] at orphaned
      rw [asked, Bool.or_assoc] at stopping
      rw [runs, List.any_cons, List.any_cons]
      exact ⟨orphaned, stopping⟩

/-! ## How long the end takes -/

/-- The actor has ended, or so many turns will end it: the marker is near enough, or there
is no marker needed because nothing more is queued. -/
inductive Ending (silent : Prop) (s : Session W) (n : Nat) : Prop where
  | finished (ended : s.manager.ended = true)
  | marked {early late : List Message} (queue : s.manager.inbox = early ++ .shutdown :: late)
      (near : early.length < n)
  | alone (quiet : silent) (gone : s.manager.orphaned = true)
      (near : s.manager.inbox.length < n)

namespace Ending

variable {silent : Prop} {n : Nat}

/-- What others do does not put the end off. -/
theorem step (before : s.Ending silent n) {action : Action W} (waits : action ≠ .turn)
    (nothing : silent → s.queues action = []) : (s.step env action).Ending silent n := by
  obtain ⟨inbox, ended'⟩ := queue_step env s waits
  cases before with
  | finished ended => exact .finished (ended'.trans ended)
  | @marked early late queue near =>
      have later : (s.step env action).manager.inbox =
          early ++ .shutdown :: (late ++ s.queues action) := by
        rw [inbox, queue, List.append_assoc, List.cons_append]
      exact .marked later near
  | alone quiet gone near =>
      refine .alone quiet (orphaned_step env gone action) ?_
      rwa [inbox, nothing quiet, List.append_nil]

/-- Every turn brings the end nearer. -/
theorem turn (env : Surroundings W) (before : s.Ending silent n) :
    (s.step env .turn).Ending silent (n - 1) := by
  cases turned : s.manager.turn env with
  | none =>
      have idle : s.manager.isReady = false := by
        rw [← Manager.isSome_turn env, turned]
        rfl
      simp only [Session.step, turned]
      cases before with
      | finished ended => exact .finished ended
      | marked queue near => exact .finished (by simp_all [Manager.isReady])
      | alone quiet gone near => exact .finished (by simp_all [Manager.isReady])
  | some result =>
      simp only [Session.step, turned]
      replace turned := Manager.turned_of_turn turned
      cases before with
      | finished ended => cases turned <;> simp_all
      | @marked early late queue near =>
          cases turned with
          | @message message rest on first other =>
              obtain _ | ⟨_, early⟩ := early
              · exact absurd (List.cons.inj (first.symm.trans queue)).1 other
              · obtain ⟨-, left⟩ := List.cons.inj (first.symm.trans queue)
                rw [List.length_cons] at near
                exact .marked left (Nat.lt_sub_of_add_lt near)
          | expiry on empty => simp [empty] at queue
          | marker on first => exact .finished rfl
          | orphaned on empty gone => exact .finished rfl
      | alone quiet gone near =>
          cases turned with
          | @message message rest on first other =>
              refine .alone quiet gone ?_
              rw [first, List.length_cons] at near
              show rest.length < n - 1
              omega
          | expiry on empty held => simp [gone] at held
          | marker on first => exact .finished rfl
          | orphaned on empty gone => exact .finished rfl

theorem run (before : s.Ending silent n) (more : List (Action W))
    (nothing : silent → s.queued env more = []) :
    (s.run env more).Ending silent (n - more.countP Action.isTurn) := by
  induction more generalizing s n with
  | nil => exact before
  | cons action rest ih =>
      have runs : s.run env (action :: rest) = (s.step env action).run env rest := rfl
      have now (quiet : silent) : s.queues action = [] :=
        (List.append_eq_nil_iff.mp (nothing quiet)).1
      have later (quiet : silent) : (s.step env action).queued env rest = [] :=
        (List.append_eq_nil_iff.mp (nothing quiet)).2
      rw [runs, List.countP_cons]
      by_cases acts : action = .turn
      · subst acts
        have counted : n - (rest.countP Action.isTurn + 1) =
            n - 1 - rest.countP Action.isTurn := by omega
        simpa [Action.isTurn, counted] using ih (before.turn env) later
      · have still : action.isTurn = false := by cases action <;> simp_all [Action.isTurn]
        simpa [still] using ih (before.step acts now) later

end Ending

namespace Phase

variable {arrivals : List (Arrival W)} {back : List Message}

theorem count_shutdown_le (phase : s.Phase env arrivals back) : back.count .shutdown ≤ 1 := by
  cases phase with
  | running _ _ marks => exact marks ▸ Bool.toNat_le _
  | finished _ _ _ once => exact once

/-- Once a shutdown was asked for, or nothing more comes, the end is as near as the queue is
short. -/
theorem ending (phase : s.Phase env arrivals back) {more : List (Action W)}
    (cause : s.manager.stopping = true ∨ s.manager.orphaned = true ∧ s.queued env more = []) :
    ∃ silent : Prop, (silent → s.queued env more = []) ∧
      s.Ending silent (s.manager.inbox.length + 1) := by
  obtain stopping | ⟨gone, nothing⟩ := cause
  · refine ⟨False, False.elim, ?_⟩
    cases phase with
    | finished ended => exact .finished ended
    | running _ queue marks =>
        have marked : .shutdown ∈ s.manager.inbox := by
          rw [queue, ← List.count_pos_iff, marks, stopping]
          exact Nat.one_pos
        obtain ⟨early, late, split⟩ := List.append_of_mem marked
        refine .marked split ?_
        rw [split, List.length_append, List.length_cons]
        omega
  · exact ⟨True, fun _ => nothing, .alone trivial gone (Nat.lt_succ_self _)⟩

end Phase

end Session

/-- In every session, what is queued falls into two parts. The messages in front are those
that were handled, each in its turn, with expiries of the timer in between; the marker of a
shutdown is never one of them, and there is at most one. While the actor runs, all others
wait. It ends at the marker, with everything in front of it handled, or when all handles
are gone and everything was handled. Nothing else is done then but to fail the callers of
the packets that are dropped, and to release the radio, for the first and last time.

It is a turn that ends the actor, and it leaves the surroundings as cleaning them up leaves them.
From then on nothing happens any more: no turn is taken, so no event is told, no snapshot
written and no timer fires, whatever comes; and requests fail. Once a shutdown was asked
for, or nothing more can come, the actor ends within as many turns as there are messages in
the queue, and one. All handles are gone once they were dropped, and not before. -/
theorem shutdown_orderly (env : Surroundings W) (world : W) (timeout : Nat)
    (actions : List (Action W)) :
    let start := Session.initial world timeout
    let s := start.run env actions
    (∃ (arrivals : List (Arrival W)) (back : List Message),
      let handled := Machine.run env .initial arrivals
      start.queued env actions = fromQueue arrivals ++ back ∧
        .shutdown ∉ fromQueue arrivals ∧ back.count .shutdown ≤ 1 ∧
        (∀ answer, .called .cleanup answer ∉ handled.2) ∧
        if s.manager.ended then
          (back.head? = some .shutdown ∨ back = [] ∧ s.manager.orphaned = true) ∧
            s.trace = handled.2 ++ (back.flatMap Manager.dropped ++ [.called .cleanup .done]) ∧
            s.manager.snapshot = handled.1.snapshot ∧ s.manager.machine.timer = none ∧
            s.manager.machine.deferred = [] ∧ s.manager.machine.replay = [] ∧
            s.manager.inbox = []
        else
          s.manager.inbox = back ∧ s.trace = handled.2 ∧ s.manager.machine = handled.1) ∧
      (s.manager.ended = false → ∀ action, (s.step env action).manager.ended = true →
        action = .turn ∧ (s.step env action).manager.world = env.cleanup s.manager.world) ∧
      (s.manager.orphaned = actions.any Action.isDrop ∧
        s.manager.stopping = actions.any Action.isShutdown) ∧
      (s.manager.ended = true → ∀ more,
        let later := s.run env more
        later.trace = s.trace ∧ later.manager.machine = s.manager.machine ∧
          later.manager.turn env = none ∧ later.manager.Closed env) ∧
      ∀ more, s.manager.stopping = true ∨
          s.manager.orphaned = true ∧ s.queued env more = [] →
        s.manager.inbox.length < more.countP Action.isTurn →
        (s.run env more).manager.ended = true := by
  intro start s
  obtain ⟨arrivals, back, progress⟩ :=
    (Session.Progress.initial env world timeout).run actions
  refine ⟨⟨arrivals, back, progress.split, progress.unmarked, ?_⟩, ?_,
    Session.flags_run env start actions, ?_, ?_⟩
  · refine ⟨progress.phase.count_shutdown_le, Machine.holds_radio env arrivals, ?_⟩
    cases progress.phase with
    | running on queue _ machine trace =>
        rw [if_neg (Bool.eq_false_iff.mp on)]
        exact ⟨queue, trace, machine⟩
    | finished ended empty cause _ machine trace =>
        rw [if_pos ended]
        have done := Machine.replay_run env (m := .initial) rfl arrivals
        refine ⟨cause, trace, ?_, ?_, ?_, ?_, empty⟩
        · rw [Manager.snapshot, machine]
        · rw [machine]
        · rw [machine]
        · rw [machine, done]
  · intro on action
    refine Session.step_ends env ?_ on
    cases progress.phase with
    | running _ _ _ machine => rw [machine, Machine.replay_run env rfl arrivals]
    | finished ended => exact absurd (on.symm.trans ended) (by decide)
  · intro ended more
    obtain ⟨closed, machine, trace⟩ := Session.ended_run env ended more
    exact ⟨trace, machine, by simp [Manager.turn, closed], Manager.closed_of_ended env closed⟩
  · intro more cause enough
    obtain ⟨silent, nothing, near⟩ := progress.phase.ending cause
    have last := near.run more nothing
    rw [Nat.sub_eq_zero_of_le enough] at last
    cases last with
    | finished ended => exact ended
    | marked _ near => exact absurd near (Nat.not_lt_zero _)
    | alone _ _ near => exact absurd near (Nat.not_lt_zero _)

end AccessoryLink
