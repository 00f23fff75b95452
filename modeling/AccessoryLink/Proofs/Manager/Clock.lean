import AccessoryLink.Proofs.Machine.Timer
import AccessoryLink.Proofs.Manager.Shutdown

/-!
# Sessions on a clock

A clock that is waited for moves on only while the actor has nothing to do, and never past
the deadline of an armed timer (`Session.punctual`). Then each attempt has until its own
deadline, which lies a timeout behind the moment when the timer was armed. Until then it
stands (`Session.Awaits`), unless a message that comes first or the end of the actor is in
the way; and what ends it at the deadline is the expiry of its own timer
(`Session.Concludes`).

An expiry releases the commands that waited, and one of them may open the next attempt. So
letting time pass may take several expiries, each at its own moment. That it comes to an end
is due to the potential of the machine, which every turn lowers (`Manager.remaining`): the
turns that `Manager.advance` allows itself are always enough (`Session.lapse_advance`).
-/

namespace AccessoryLink

variable {W : Type}

/-! ## What every turn lowers -/

namespace Machine

variable {m : Machine}

/-- A replay only uses up what there is to do. -/
theorem potential_replayAll (env : Surroundings W) (deadline : Nat) (t : Turn W) :
    (replayAll env deadline t).machine.potential ≤ t.machine.potential := by
  fun_induction replayAll env deadline t with
  | case1 t done => exact Nat.le_refl _
  | case2 t message rest held next ih =>
      have parts : potential { t.machine with replay := rest } + message.cost =
          t.machine.potential := by
        simp only [potential, held, backlog_cons]
        omega
      refine Nat.le_trans ih ?_
      obtain less | ⟨same, -⟩ := process_potential env deadline
        { t.machine with replay := rest } t.world message
      · exact Nat.le_of_lt (parts ▸ less)
      · exact Nat.le_of_eq (parts ▸ same)

/-- Handling a message costs no more than the message does. -/
theorem potential_handle (env : Surroundings W) (deadline : Nat) (w : W) (message : Message) :
    (handle env deadline m w message).machine.potential ≤ m.potential + message.cost := by
  refine Nat.le_trans (potential_replayAll env deadline _) ?_
  obtain less | ⟨same, -⟩ := process_potential env deadline m w message
  · exact Nat.le_of_lt less
  · exact Nat.le_of_eq same

/-- The expiry of the armed timer costs less than the timer did. -/
theorem Timed.potential_expired {timer : ConnectTimer} (timed : Timed m)
    (armed : m.timer = some timer) (env : Surroundings W) (deadline : Nat) (w : W) :
    (Machine.handle env deadline m w (.timeout timer.generation)).machine.potential <
      m.potential := by
  obtain ⟨target, awaited⟩ := timed.outgoing (by simp [armed])
  rw [Machine.handle, process_expired awaited armed]
  refine Nat.lt_of_le_of_lt (potential_replayAll env deadline _) ?_
  simp only [potential, backlog_cons, Message.cost, timerCost, armed]
  omega

/-- An attempt that fails is over before anything else is done. -/
theorem handle_failed {target : Address}
    (awaited : m.snapshot = ⟨.pending, .outgoing target, none⟩) (env : Surroundings W)
    (deadline : Nat) (w : W) :
    ∃ rest, (handle env deadline m w (.stack (.connection .disconnected target))).effects =
      .took (.stack (.connection .disconnected target)) ::
        .told (.connection target .disconnected .connecting) :: .wrote .initial :: rest := by
  have first := replayAll_append env deadline ⟨m.entered .disconnected .idle, w, []⟩
    [.took (.stack (.connection .disconnected target)),
      .told (.connection target .disconnected .connecting), .wrote .initial]
  rw [handle, process_failed awaited]
  exact ⟨_, congrArg Turn.effects first⟩

end Machine

namespace Manager

variable {env : Surroundings W} {m : Manager W} {result : Manager W × List Effect}

/-- The timer of an actor that runs is as it should be between two messages, and one that
has ended has none. Nobody else says that a timer has expired. -/
structure Timely (m : Manager W) : Prop where
  timed : m.ended = false → m.machine.Timed
  done : m.machine.replay = []
  closed : m.ended = true → m.machine.timer = none
  genuine : ∀ message ∈ m.inbox, message.isExpiry = false

theorem Timely.turned (timely : m.Timely) (turned : m.Turned env result) :
    result.1.Timely := by
  have stopped (rest : List Message) : ({ m with inbox := rest }.stop env).1.Timely := by
    rw [stop_eq env (m := { m with inbox := rest }) timely.done]
    exact ⟨nofun, timely.done, fun _ => rfl, nofun⟩
  have handled (on : m.ended = false) {rest : List Message} (left : rest ⊆ m.inbox)
      (message : Message) : ({ m with inbox := rest }.handle env message).1.Timely := by
    refine ⟨fun _ => ?_, ?_, fun ended => ?_, fun next inside => timely.genuine next (left inside)⟩
    · exact (timely.timed on).handle timely.done m.deadline m.world message
    · exact Machine.replay_handle env m.deadline m.machine m.world message
    · exact absurd (on.symm.trans ended) Bool.false_ne_true
  cases turned with
  | @message message rest on first =>
      exact handled on (first ▸ List.subset_cons_self message rest) message
  | @expiry timer on => exact handled on (List.Subset.refl _) (.timeout timer.generation)
  | @marker rest => exact stopped rest
  | orphaned => exact stopped m.inbox

/-- An upper bound of the turns that are still to come, if nothing more is queued. -/
def remaining (m : Manager W) : Nat :=
  if m.ended then 0
  else m.machine.potential + Machine.backlog m.inbox + m.inbox.length + 1

theorem remaining_lt_effort (m : Manager W) : m.remaining < m.effort := by
  simp only [remaining, effort]
  split <;> omega

theorem isReady_of_remaining (none : m.remaining = 0) : m.isReady = false := by
  cases ended : m.ended with
  | true => simp [isReady, ended]
  | false => simp [remaining, ended] at none

/-- With every turn there is less to come. -/
theorem Timely.remaining_turned (timely : m.Timely) (turned : m.Turned env result) :
    result.1.remaining < m.remaining := by
  cases turned with
  | @message message rest on first =>
      have cost := Machine.potential_handle env m.deadline m.world message (m := m.machine)
      simp only [remaining, handle, absorb, deadline, on, first, Machine.backlog_cons,
        List.length_cons, Bool.false_eq_true, if_false] at cost ⊢
      omega
  | @expiry timer on empty held armed =>
      have less := (timely.timed on).potential_expired armed env m.deadline m.world
      simp only [remaining, handle, absorb, deadline, on, Bool.false_eq_true, if_false] at less ⊢
      omega
  | @marker rest on =>
      rw [stop_eq env (m := { m with inbox := rest }) timely.done]
      simp [remaining, on]
  | orphaned on =>
      rw [stop_eq env timely.done]
      simp [remaining, on]

theorem Turned.now (turned : m.Turned env result) : result.1.now = m.now := by
  cases turned <;> rfl

theorem turns_of_waiting (waits : m.turn env = none) (n : Nat) : m.turns env n = (m, []) := by
  cases n with
  | zero => rfl
  | succ n => rw [turns, waits]

theorem turns_of_turn (taken : m.turn env = some result) (n : Nat) :
    m.turns env (n + 1) =
      ((result.1.turns env n).1, result.2 ++ (result.1.turns env n).2) := by
  rw [turns, taken]

/-- Turns take no time, and there is never more to come than before. -/
theorem Timely.turns (timely : m.Timely) (env : Surroundings W) (n : Nat) :
    (m.turns env n).1.now = m.now ∧ (m.turns env n).1.remaining ≤ m.remaining := by
  induction n generalizing m with
  | zero => exact ⟨rfl, Nat.le_refl _⟩
  | succ n ih =>
      cases taken : m.turn env with
      | none =>
          rw [turns_of_waiting taken]
          exact ⟨rfl, Nat.le_refl _⟩
      | some result =>
          rw [turns_of_turn taken]
          replace taken := turned_of_turn taken
          obtain ⟨now, less⟩ := ih (timely.turned taken)
          have lower := timely.remaining_turned taken
          exact ⟨now.trans taken.now, Nat.le_trans less (Nat.le_of_lt lower)⟩

/-- As many turns as may be to come are enough until the actor waits. -/
theorem Timely.isReady_turns (timely : m.Timely) (env : Surroundings W) {n : Nat}
    (enough : m.remaining ≤ n) : (m.turns env n).1.isReady = false := by
  induction n generalizing m with
  | zero => exact isReady_of_remaining (Nat.le_zero.mp enough)
  | succ n ih =>
      cases taken : m.turn env with
      | none =>
          rw [turns_of_waiting taken, ← isSome_turn env, taken]
          rfl
      | some result =>
          rw [turns_of_turn taken]
          replace taken := turned_of_turn taken
          have lower := timely.remaining_turned taken
          exact ih (timely.turned taken) (by omega)

theorem Timely.isReady_settle (timely : m.Timely) (env : Surroundings W) :
    (m.settle env).1.isReady = false :=
  timely.isReady_turns env (Nat.le_of_lt m.remaining_lt_effort)

/-- An actor that has something to do gets on. -/
theorem Timely.remaining_settle (timely : m.Timely) (env : Surroundings W)
    (ready : m.isReady = true) : (m.settle env).1.remaining < m.remaining := by
  rw [← isSome_turn env] at ready
  obtain ⟨result, taken⟩ := Option.isSome_iff_exists.mp ready
  have first : m.settle env = _ := turns_of_turn taken (m.effort - 1)
  replace taken := turned_of_turn taken
  obtain ⟨-, less⟩ := (timely.turned taken).turns env (m.effort - 1)
  rw [first]
  exact Nat.lt_of_le_of_lt less (timely.remaining_turned taken)

/-- An expiry that is due before the moment comes first. -/
theorem pass_of_due {moment deadline : Nat}
    (due : (m.settle env).1.nextDeadline? = some deadline) (near : deadline ≤ moment)
    (ahead : (m.settle env).1.now ≤ deadline) (n : Nat) :
    m.pass env moment (n + 1) =
      (({ (m.settle env).1 with now := deadline }.pass env moment n).1,
        (m.settle env).2 ++ ({ (m.settle env).1 with now := deadline }.pass env moment n).2) := by
  simp only [pass, due, near, if_true, Nat.max_eq_right ahead]

theorem pass_of_clear {moment : Nat}
    (clear : ∀ deadline, (m.settle env).1.nextDeadline? = some deadline → moment < deadline)
    (n : Nat) :
    m.pass env moment (n + 1) =
      ({ (m.settle env).1 with now := moment }, (m.settle env).2) := by
  simp only [pass]
  split
  · rename_i deadline due
    rw [if_neg (Nat.not_le_of_lt (clear deadline due)), List.append_nil]
  · rw [List.append_nil]

/-- A timer that is armed while the actor waits is armed for later. -/
theorem lt_deadline_of_waiting (waits : m.isReady = false) {deadline : Nat}
    (next : m.nextDeadline? = some deadline) : m.now < deadline := by
  simp only [nextDeadline?] at next
  split at next
  · cases next
  · obtain ⟨timer, armed, rfl⟩ := Option.map_eq_some_iff.mp next
    rw [← Nat.not_le]
    intro due
    simp_all [isReady, expired?, Option.filter]

/-- An actor that waits has nothing to do before the next expiry. -/
theorem isReady_of_clear (waits : m.isReady = false) {moment : Nat}
    (clear : ∀ deadline, m.nextDeadline? = some deadline → moment < deadline) :
    { m with now := moment }.isReady = false := by
  cases ended : m.ended with
  | true => simp [isReady]
  | false =>
      cases armed : m.machine.timer with
      | none => simpa [isReady, expired?, armed, ended] using waits
      | some timer =>
          have early : ¬ timer.deadline ≤ moment := by
            rw [Nat.not_le]
            exact clear timer.deadline (by simp [nextDeadline?, ended, armed])
          simp_all [isReady, expired?, Option.filter]

/-- At its deadline a timer gives the actor something to do. -/
theorem isReady_of_due {deadline : Nat} (due : m.nextDeadline? = some deadline) :
    { m with now := deadline }.isReady = true := by
  simp only [nextDeadline?] at due
  split at due
  · cases due
  · obtain ⟨timer, armed, rfl⟩ := Option.map_eq_some_iff.mp due
    simp_all [isReady, expired?, Option.filter]

/-- Whether the clock may move on by so much: the actor waits, and no timer is armed for an
earlier moment. -/
def mayWait (m : Manager W) (ms : Nat) : Bool :=
  !m.isReady && m.nextDeadline?.all fun deadline => m.now + ms ≤ deadline

end Manager

namespace Session

variable {env : Surroundings W} {s : Session W} {timer : ConnectTimer} {target : Address}

/-! ## The clock -/

/-- Whether the clock is right for an action. -/
def allows (s : Session W) : Action W → Bool
  | .pass ms => s.manager.mayWait ms
  | _ => true

/-- Whether the clock never runs ahead of the actor. -/
def punctual (env : Surroundings W) (s : Session W) : List (Action W) → Bool
  | [] => true
  | action :: rest => s.allows action && (s.step env action).punctual env rest

theorem run_append (env : Surroundings W) (s : Session W) (past next : List (Action W)) :
    s.run env (past ++ next) = (s.run env past).run env next := List.foldl_append

theorem punctual_append (env : Surroundings W) (s : Session W) (past next : List (Action W)) :
    s.punctual env (past ++ next) =
      (s.punctual env past && (s.run env past).punctual env next) := by
  induction past generalizing s with
  | nil => rfl
  | cons action rest ih =>
      have runs : s.run env (action :: rest) = (s.step env action).run env rest := rfl
      rw [List.cons_append, punctual, ih, punctual, runs, Bool.and_assoc]

/-- Nothing but time moves the clock, and the timeout is fixed. -/
theorem clock_step (env : Surroundings W) (s : Session W) (action : Action W) :
    (s.step env action).manager.now = s.manager.now + action.duration ∧
      (s.step env action).manager.timeout = s.manager.timeout := by
  by_cases acts : action = .turn
  · subst acts
    simp only [step]
    split
    · rename_i turned
      cases Manager.turned_of_turn turned <;> exact ⟨rfl, rfl⟩
    · exact ⟨rfl, rfl⟩
  · obtain ⟨⟨tickets, world, manager⟩, -⟩ := step_outside env s acts
    rw [manager]
    exact ⟨rfl, rfl⟩

theorem timely_step (env : Surroundings W) (timely : s.manager.Timely) (action : Action W) :
    (s.step env action).manager.Timely := by
  by_cases acts : action = .turn
  · subst acts
    simp only [step]
    split
    · rename_i turned
      exact timely.turned (Manager.turned_of_turn turned)
    · exact timely
  · obtain ⟨machine, -⟩ := step_keeps env s acts
    obtain ⟨inbox, ended⟩ := queue_step env s acts
    refine ⟨?_, ?_, ?_, ?_⟩
    · rw [machine, ended]
      exact timely.timed
    · rw [machine]
      exact timely.done
    · rw [machine, ended]
      exact timely.closed
    · rw [inbox]
      intro message inside
      obtain early | late := List.mem_append.mp inside
      · exact timely.genuine message early
      · exact isExpiry_queues late

theorem timely_run (env : Surroundings W) (timely : s.manager.Timely) (actions : List (Action W)) :
    (s.run env actions).manager.Timely :=
  run_invariant (P := fun s => s.manager.Timely)
    (fun action timely => timely_step env timely action) timely actions

theorem timely_initial (world : W) (timeout : Nat) :
    (initial world timeout).manager.Timely :=
  ⟨fun _ => Machine.timed_initial, rfl, nofun, nofun⟩

/-! ## One attempt -/

/-- An attempt is on its way, and its timer is armed for now or later. -/
structure Awaits (s : Session W) (timer : ConnectTimer) (target : Address) : Prop where
  armed : s.manager.machine.timer = some timer
  awaited : s.manager.snapshot = ⟨.pending, .outgoing target, none⟩
  early : s.manager.now ≤ timer.deadline

/-- How the next turn may conclude an attempt. -/
inductive Concludes (env : Surroundings W) (s : Session W) (timer : ConnectTimer)
    (target : Address) : Prop where
  /-- It takes a message that was queued by then, and after it the timer is gone. -/
  | message {message : Message} {rest : List Message}
      (queue : s.manager.inbox = message :: rest) (genuine : message.isExpiry = false)
      (gone : (s.step env .turn).manager.machine.timer ≠ some timer)
  /-- It ends the actor. -/
  | stopped (ended : (s.step env .turn).manager.ended = true)
  /-- Nothing is queued, and the timer expires at its deadline. -/
  | expired (empty : s.manager.inbox = []) (exact : s.manager.now = timer.deadline)
      (trace : ∃ rest, (s.step env .turn).trace = s.trace ++
        .took (.timeout timer.generation) ::
          .took (.stack (.connection .disconnected target)) ::
            .told (.connection target .disconnected .connecting) :: .wrote .initial :: rest)

/-- While others act, an attempt stands, and the clock does not pass its deadline. -/
theorem Awaits.step (before : s.Awaits timer target) (timely : s.manager.Timely)
    {action : Action W} (waits : action ≠ .turn) (allowed : s.allows action = true) :
    (s.step env action).Awaits timer target := by
  obtain ⟨machine, -⟩ := step_keeps env s waits
  obtain ⟨now, -⟩ := clock_step env s action
  have on : s.manager.ended = false := by
    cases ended : s.manager.ended with
    | false => rfl
    | true => simpa [before.armed] using timely.closed ended
  refine ⟨by rw [machine, before.armed], ?_, ?_⟩
  · rw [Manager.snapshot, machine]
    exact before.awaited
  · rw [now]
    cases action with
    | pass ms =>
        have due : s.manager.nextDeadline? = some timer.deadline := by
          simp [Manager.nextDeadline?, on, before.armed]
        simp only [allows, Manager.mayWait, due, Option.all_some, Bool.and_eq_true,
          decide_eq_true_eq] at allowed
        exact allowed.2
    | _ => exact before.early

/-- A turn leaves an attempt as it is, or concludes it. -/
theorem Awaits.turn (env : Surroundings W) (before : s.Awaits timer target)
    (timely : s.manager.Timely) :
    (s.step env .turn).Awaits timer target ∨ s.Concludes env timer target := by
  cases turned : s.manager.turn env with
  | none =>
      have still : s.step env .turn = s := by simp only [Session.step, turned]
      rw [still]
      exact .inl before
  | some result =>
      have after : s.step env .turn =
          { s with manager := result.1, trace := s.trace ++ result.2 } := by
        simp only [Session.step, turned]
      replace turned := Manager.turned_of_turn turned
      cases turned with
      | @message message rest on first other =>
          by_cases stands : (s.step env .turn).manager.machine.timer = some timer
          · have lasting :=
              (timely.timed on).lasting env s.manager.deadline s.manager.world message
            have kept := stands
            rw [after] at kept
            obtain ⟨-, same⟩ | ⟨newer, -⟩ := lasting.stood timer kept
            · refine .inl ⟨stands, ?_, ?_⟩
              · rw [after]
                exact same.trans before.awaited
              · rw [after]
                exact before.early
            · -- A timer armed meanwhile has a number that this one cannot have.
              have known := (timely.timed on).known timer before.armed
              exact absurd known (Nat.not_le_of_lt newer)
          · exact .inr (.message first (timely.genuine message (by simp [first])) stands)
      | @expiry own on empty held armed due =>
          obtain rfl : own = timer := Option.some.inj (armed.symm.trans before.armed)
          have handled : Machine.handle env s.manager.deadline s.manager.machine s.manager.world
              (.timeout own.generation) = _ :=
            Machine.handle_expired before.awaited timely.done armed _ _
          obtain ⟨rest, effects⟩ := Machine.handle_failed before.awaited env
            s.manager.deadline s.manager.world
          refine .inr (.expired empty (Nat.le_antisymm before.early due) ⟨rest, ?_⟩)
          rw [after]
          simp only [Manager.handle, Manager.absorb, handled, effects]
      | marker on first =>
          refine .inr (.stopped ?_)
          rw [after]
          rfl
      | orphaned on empty gone =>
          refine .inr (.stopped ?_)
          rw [after]
          rfl

/-- Whatever else happens on the clock, an attempt stands or has been concluded. -/
theorem Awaits.run (before : s.Awaits timer target) (timely : s.manager.Timely)
    {more : List (Action W)} (punctual : s.punctual env more = true) :
    (s.run env more).Awaits timer target ∨
      ∃ early late, more = early ++ .turn :: late ∧
        (s.run env early).Awaits timer target ∧
        (s.run env early).Concludes env timer target := by
  induction more generalizing s with
  | nil => exact .inl before
  | cons action rest ih =>
      have runs (part : List (Action W)) :
          s.run env (action :: part) = (s.step env action).run env part := rfl
      obtain ⟨allowed, later⟩ := Bool.and_eq_true_iff.mp punctual
      have next : (s.step env action).Awaits timer target ∨
          action = .turn ∧ s.Concludes env timer target := by
        by_cases acts : action = .turn
        · subst acts
          exact (before.turn env timely).imp_right fun ends => ⟨rfl, ends⟩
        · exact .inl (before.step timely acts allowed)
      obtain stands | ⟨rfl, ends⟩ := next
      · obtain last | ⟨early, late, rfl, reached⟩ := ih stands (timely_step env timely action) later
        · exact .inl last
        · exact .inr ⟨action :: early, late, rfl, reached⟩
      · exact .inr ⟨[], rest, rfl, before, ends⟩

/-! ## Letting time pass -/

/-- While nobody else acts, a session comes to some manager and trace, with a right clock and
no more turns than are to come. -/
structure Lapse (env : Surroundings W) (s : Session W) (passing : List (Action W))
    (result : Manager W × List Effect) : Prop where
  alone : ∀ action ∈ passing, action = .turn ∨ ∃ ms, action = .pass ms
  punctual : s.punctual env passing = true
  manager : (s.run env passing).manager = result.1
  trace : (s.run env passing).trace = s.trace ++ result.2
  turns : result.1.remaining + passing.countP Action.isTurn ≤ s.manager.remaining

namespace Lapse

theorem refl (env : Surroundings W) (s : Session W) : s.Lapse env [] (s.manager, []) where
  alone := nofun
  punctual := rfl
  manager := rfl
  trace := (List.append_nil _).symm
  turns := Nat.le_refl _

theorem append {past next : List (Action W)} {first last : Manager W × List Effect}
    (before : s.Lapse env past first) (after : (s.run env past).Lapse env next last) :
    s.Lapse env (past ++ next) (last.1, first.2 ++ last.2) where
  alone := by
    intro action inside
    obtain early | late := List.mem_append.mp inside
    · exact before.alone action early
    · exact after.alone action late
  punctual := by rw [punctual_append, before.punctual, after.punctual, Bool.and_self]
  manager := by rw [run_append, after.manager]
  trace := by rw [run_append, after.trace, before.trace, List.append_assoc]
  turns := by
    have less := after.turns
    have more := before.turns
    rw [before.manager] at less
    rw [List.countP_append]
    show last.1.remaining + _ ≤ _
    omega

theorem turn (timely : s.manager.Timely) {result : Manager W × List Effect}
    (taken : s.manager.turn env = some result) : s.Lapse env [.turn] result where
  alone := by simp
  punctual := rfl
  manager := by simp only [run, List.foldl_cons, List.foldl_nil, step, taken]
  trace := by simp only [run, List.foldl_cons, List.foldl_nil, step, taken]
  turns := timely.remaining_turned (Manager.turned_of_turn taken)

theorem pass (env : Surroundings W) {ms : Nat} (allowed : s.manager.mayWait ms = true) :
    s.Lapse env [.pass ms] ({ s.manager with now := s.manager.now + ms }, []) where
  alone := by simp
  punctual := by simp [Session.punctual, allows, allowed]
  manager := rfl
  trace := (List.append_nil _).symm
  turns := Nat.le_refl _

end Lapse

/-- The turns that the actor takes in a row are turns of the session. -/
theorem lapse_turns (env : Surroundings W) (timely : s.manager.Timely) (n : Nat) :
    ∃ passing, s.Lapse env passing (s.manager.turns env n) := by
  induction n generalizing s with
  | zero => exact ⟨[], .refl env s⟩
  | succ n ih =>
      cases taken : s.manager.turn env with
      | none =>
          rw [Manager.turns_of_waiting taken]
          exact ⟨[], .refl env s⟩
      | some result =>
          rw [Manager.turns_of_turn taken]
          have first := Lapse.turn timely taken
          obtain ⟨later, rest⟩ := ih (timely_step env timely .turn)
          have reached : (s.step env .turn).manager = result.1 := first.manager
          rw [reached] at rest
          exact ⟨.turn :: later, first.append rest⟩

/-- A clock that moves on by itself, from one expiry to the next, gets to every moment: it is
never stopped by an actor that has to do again and again. -/
theorem lapse_pass (env : Surroundings W) (timely : s.manager.Timely) (moment : Nat) {n : Nat}
    (enough : s.manager.remaining < n ∨
      s.manager.isReady = true ∧ s.manager.remaining ≤ n)
    (ahead : s.manager.now ≤ moment) :
    ∃ passing, s.Lapse env passing (s.manager.pass env moment n) ∧
      (s.manager.pass env moment n).1.now = moment ∧
      (s.manager.pass env moment n).1.isReady = false := by
  induction n generalizing s with
  | zero =>
      obtain none | ⟨ready, none⟩ := enough
      · exact absurd none (Nat.not_lt_zero _)
      · rw [Manager.isReady_of_remaining (Nat.le_zero.mp none)] at ready
        cases ready
  -- Every round but the first begins at an expiry, so it takes a turn and lowers what remains.
  | succ n ih =>
      obtain ⟨early, first⟩ := lapse_turns env timely s.manager.effort
      have idle := timely.isReady_settle env
      have now : (s.manager.settle env).1.now = s.manager.now := (timely.turns env _).1
      have reached : (s.run env early).manager = (s.manager.settle env).1 := first.manager
      -- The clock moves on to some moment at which nothing is overdue.
      have wait {instant : Nat} (later : s.manager.now ≤ instant)
          (clear : ∀ deadline, (s.manager.settle env).1.nextDeadline? = some deadline →
            instant ≤ deadline) :
          s.Lapse env (early ++ [.pass (instant - s.manager.now)])
            ({ (s.manager.settle env).1 with now := instant }, (s.manager.settle env).2) := by
        have allowed : (s.run env early).manager.mayWait (instant - s.manager.now) = true := by
          rw [reached, Manager.mayWait, idle, now, Nat.add_sub_cancel' later]
          simpa [Option.all_eq_true] using clear
        have waited := Lapse.pass env allowed
        rw [reached, now, Nat.add_sub_cancel' later] at waited
        have both := first.append waited
        rwa [List.append_nil] at both
      by_cases clear : ∀ deadline, (s.manager.settle env).1.nextDeadline? = some deadline →
          moment < deadline
      · rw [Manager.pass_of_clear clear]
        have last := wait ahead fun deadline next => Nat.le_of_lt (clear deadline next)
        exact ⟨_, last, rfl, Manager.isReady_of_clear idle clear⟩
      · simp only [Classical.not_forall, Nat.not_lt] at clear
        obtain ⟨deadline, due, near⟩ := clear
        have later := Nat.le_of_lt (Manager.lt_deadline_of_waiting idle due)
        have last := wait (now ▸ later) fun other next =>
          Nat.le_of_eq (Option.some.inj (due.symm.trans next))
        have set : (s.run env (early ++ [.pass (deadline - s.manager.now)])).manager =
            { (s.manager.settle env).1 with now := deadline } := last.manager
        have fewer : (s.manager.settle env).1.remaining ≤ n := by
          obtain less | ⟨busy, less⟩ := enough
          · exact Nat.le_of_lt_succ (Nat.lt_of_le_of_lt (timely.turns env _).2 less)
          · exact Nat.le_of_lt_succ (Nat.lt_of_lt_of_le (timely.remaining_settle env busy) less)
        have again := ih (timely_run env timely (early ++ [.pass (deadline - s.manager.now)]))
        rw [set] at again
        obtain ⟨rest, follows, reached, quiet⟩ :=
          again (.inr ⟨Manager.isReady_of_due due, fewer⟩) near
        rw [Manager.pass_of_due due near later]
        exact ⟨_, last.append follows, reached, quiet⟩

theorem lapse_advance (env : Surroundings W) (timely : s.manager.Timely) (ms : Nat) :
    ∃ passing, s.Lapse env passing (s.manager.advance env ms) ∧
      (s.manager.advance env ms).1.now = s.manager.now + ms ∧
      (s.manager.advance env ms).1.isReady = false :=
  lapse_pass env timely (s.manager.now + ms) (.inl s.manager.remaining_lt_effort)
    (Nat.le_add_right _ _)

theorem timeout_run (env : Surroundings W) (s : Session W) (actions : List (Action W)) :
    (s.run env actions).manager.timeout = s.manager.timeout :=
  run_invariant (P := fun next => next.manager.timeout = s.manager.timeout)
    (fun action same => ((clock_step env _ action).2).trans same) rfl actions

/-- A timer that a turn has armed is armed for a timeout later, for an attempt that has
begun. -/
theorem awaits_of_armed (timely : s.manager.Timely)
    (armed : (s.step env .turn).manager.machine.timer = some timer)
    (new : s.manager.machine.timer ≠ some timer) :
    timer.deadline = s.manager.now + s.manager.timeout ∧
      ∃ target, (s.step env .turn).Awaits timer target := by
  have kept := (timely_step env timely .turn).timed
  obtain ⟨now, -⟩ := clock_step env s .turn
  have began (message : Message)
      (handled : (s.step env .turn).manager.machine =
        (Machine.handle env s.manager.deadline s.manager.machine s.manager.world message).machine)
      (on : s.manager.ended = false) (on' : (s.step env .turn).manager.ended = false) :
      timer.deadline = s.manager.now + s.manager.timeout ∧
        ∃ target, (s.step env .turn).Awaits timer target := by
    have lasting := (timely.timed on).lasting env s.manager.deadline s.manager.world message
    have stood := lasting.stood timer (handled ▸ armed)
    obtain ⟨was, -⟩ | ⟨-, deadline⟩ := stood
    · exact absurd was new
    · obtain ⟨target, awaited⟩ := (kept on').outgoing (by simp [armed])
      refine ⟨deadline, target, armed, awaited, ?_⟩
      rw [now, deadline]
      exact Nat.le_add_right _ _
  cases turned : s.manager.turn env with
  | none => exact absurd (by simpa only [step, turned] using armed) new
  | some result =>
      have after : s.step env .turn =
          { s with manager := result.1, trace := s.trace ++ result.2 } := by
        simp only [step, turned]
      replace turned := Manager.turned_of_turn turned
      rw [after] at armed began ⊢
      cases turned with
      | @message message rest on => exact began message rfl on on
      | @expiry own on => exact began (.timeout own.generation) rfl on on
      | @marker rest on =>
          rw [Manager.stop_eq env (m := { s.manager with inbox := rest }) timely.done] at armed
          cases armed
      | orphaned on =>
          rw [Manager.stop_eq env timely.done] at armed
          cases armed

end Session

/-- A clock that is waited for: it moves on only while the actor waits, and not past the
deadline of an armed timer. On such a clock, an actor that waits has no timer armed for now
or earlier. A timer that a turn arms is armed for a timeout later, for an attempt that has
just begun; and that attempt stands until its deadline and no longer, unless it is concluded
by a message that was queued by then, or by the end of the actor. What concludes it at the
deadline is the expiry of its own timer, with nothing left in the queue.

Time may pass by any amount: the clock gets there, and the actor waits again, after no more
turns than its machine and its queue give reason for, however many expiries release
commands that open the next attempt. -/
theorem expiry_exact (env : Surroundings W) (world : W) (timeout : Nat)
    (actions : List (Action W))
    (onTime : (Session.initial world timeout).punctual env actions = true) :
    let start := Session.initial world timeout
    let s := start.run env actions
    (s.manager.isReady = false → ∀ timer, s.manager.machine.timer = some timer →
        s.manager.now < timer.deadline) ∧
      (∀ past more, actions = past ++ .turn :: more →
        let before := start.run env past
        let begun := before.step env .turn
        ∀ timer, begun.manager.machine.timer = some timer →
          before.manager.machine.timer ≠ some timer →
          timer.deadline = before.manager.now + timeout ∧
            ∃ target, begun.Awaits timer target ∧
              (s.Awaits timer target ∨
                ∃ early late, more = early ++ .turn :: late ∧
                  (begun.run env early).Awaits timer target ∧
                  (begun.run env early).Concludes env timer target)) ∧
      ∀ ms, ∃ passing : List (Action W),
        (∀ action ∈ passing, action = .turn ∨ ∃ n, action = .pass n) ∧
          start.punctual env (actions ++ passing) = true ∧
          let later := start.run env (actions ++ passing)
          later.manager = (s.manager.advance env ms).1 ∧
            later.trace = s.trace ++ (s.manager.advance env ms).2 ∧
            later.manager.now = s.manager.now + ms ∧ later.manager.isReady = false ∧
            passing.countP Action.isTurn < s.manager.effort := by
  intro start s
  have timely : s.manager.Timely :=
    Session.timely_run env (Session.timely_initial world timeout) actions
  refine ⟨?_, ?_, ?_⟩
  · intro waits timer armed
    have on : s.manager.ended = false := by
      cases ended : s.manager.ended with
      | false => rfl
      | true => simpa [armed] using timely.closed ended
    apply Manager.lt_deadline_of_waiting waits
    simp [Manager.nextDeadline?, on, armed]
  · rintro past more rfl before begun timer armed new
    have timely₀ : before.manager.Timely :=
      Session.timely_run env (Session.timely_initial world timeout) past
    obtain ⟨deadline, target, awaits⟩ := Session.awaits_of_armed timely₀ armed new
    have fixed : before.manager.timeout = timeout := Session.timeout_run env start past
    have parts : s = begun.run env more := Session.run_append env start past (.turn :: more)
    rw [Session.punctual_append] at onTime
    have later : begun.punctual env more = true := (Bool.and_eq_true_iff.mp onTime).2
    rw [fixed] at deadline
    rw [parts]
    exact ⟨deadline, target, awaits, awaits.run (Session.timely_step env timely₀ .turn) later⟩
  · intro ms
    obtain ⟨passing, lapse, now, quiet⟩ := Session.lapse_advance env timely ms
    have reached : start.run env (actions ++ passing) = s.run env passing :=
      Session.run_append env start actions passing
    refine ⟨passing, lapse.alone, ?_, ?_⟩
    · rw [Session.punctual_append, onTime, Bool.true_and]
      exact lapse.punctual
    · have few := Nat.le_trans (Nat.le_add_left _ _) lapse.turns
      rw [reached]
      refine ⟨lapse.manager, lapse.trace, ?_, ?_, ?_⟩
      · rw [lapse.manager, now]
      · rw [lapse.manager, quiet]
      · exact Nat.lt_of_le_of_lt few s.manager.remaining_lt_effort

/-- The stack never answers two callers, and nobody else does anything but wait. -/
def unanswered : List (Action Unit) :=
  [.command .connect (.numbered 1), .turn, .command .connect (.numbered 2), .turn,
    .pass 30000, .turn, .pass 30000, .turn]

/-- The session after the turn at which the first attempt expires. -/
def retried : Session Unit :=
  ((Session.initial () 30000).run obliging (unanswered.take 5)).step obliging .turn

/-- The second attempt begins when the first one expires, and has a timeout of its own. -/
theorem released_attempt_expires :
    (Session.initial () 30000).punctual obliging unanswered = true ∧
      retried.manager.now = 30000 ∧ retried.manager.machine.timer = some ⟨2, 60000⟩ ∧
      ∃ target early late, [.pass 30000, .turn] = early ++ .turn :: late ∧
        (retried.run obliging early).Awaits ⟨2, 60000⟩ target ∧
        (retried.run obliging early).Concludes obliging ⟨2, 60000⟩ target := by
  have onTime : (Session.initial () 30000).punctual obliging unanswered = true := by decide +kernel
  have now : retried.manager.now = 30000 := by decide +kernel
  have armed : retried.manager.machine.timer = some ⟨2, 60000⟩ := by decide +kernel
  have before : ((Session.initial () 30000).run obliging
      (unanswered.take 5)).manager.machine.timer = some ⟨1, 30000⟩ := by decide +kernel
  have after : ((Session.initial () 30000).run obliging
      unanswered).manager.machine.timer = none := by decide +kernel
  have attempts := (expiry_exact obliging () 30000 unanswered onTime).2.1
  obtain ⟨-, target, -, stands | ⟨early, late, split, ends⟩⟩ :=
    attempts (unanswered.take 5) [.pass 30000, .turn] rfl ⟨2, 60000⟩ armed (by simp [before])
  · exact absurd (after.symm.trans stands.armed) (Option.some_ne_none _).symm
  · exact ⟨onTime, now, armed, target, early, late, split, ends⟩

end AccessoryLink
