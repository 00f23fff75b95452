import AccessoryLink.Proofs.Machine.Moments

/-!
# The connect timer

A timer is armed for each attempt that the radio accepts, and only for those. It is armed
exactly while an attempt is on its way, except for one moment: when it has expired and
the report that stands for this has not been processed yet. That report is the next
message, so nobody sees the exception between two messages.

Because each attempt has a generation of its own, an expiry that comes late is told from
one that is due: the first does nothing at all, and the second does what a report that
the target is disconnected would do.
-/

namespace AccessoryLink

variable {W : Type}

/-- Whether an entry of the trace opens an attempt. -/
def Effect.opensAttempt : Effect → Bool
  | called (.connect _) (.ok _) => true
  | _ => false

/-- How many attempts the radio has accepted. -/
def attempts (trace : List Effect) : Nat := trace.countP Effect.opensAttempt

@[simp] theorem attempts_nil : attempts [] = 0 := rfl

@[simp] theorem attempts_cons (effect : Effect) (rest : List Effect) :
    attempts (effect :: rest) = attempts rest + if effect.opensAttempt then 1 else 0 :=
  List.countP_cons

@[simp] theorem attempts_append (past next : List Effect) :
    attempts (past ++ next) = attempts past + attempts next := List.countP_append

/-- Nothing is attempted where the radio is not asked to connect. -/
theorem attempts_of_quiet {trace : List Effect}
    (quiet : ∀ device answer, .called (.connect device) answer ∉ trace) :
    attempts trace = 0 := by
  apply List.countP_eq_zero.mpr
  intro effect inside
  cases effect with
  | called call answer =>
      cases call with
      | connect device => exact absurd inside (quiet device answer)
      | _ => simp [Effect.opensAttempt]
  | _ => simp [Effect.opensAttempt]

@[simp] theorem attempts_reply (ticket : Option Ticket) (result : Outcome) :
    attempts (Effect.reply ticket result) = 0 :=
  attempts_of_quiet (by simp)

@[simp] theorem attempts_serviceDrop (s : Snapshot) (device : Address) :
    attempts (s.serviceDrop device) = 0 :=
  attempts_of_quiet (by simp)

@[simp] theorem attempts_serviceReturn (s : Snapshot) (device : Address) :
    attempts (s.serviceReturn device) = 0 :=
  attempts_of_quiet (by simp)

@[simp] theorem attempts_displacement (s : Snapshot) : attempts s.displacement = 0 :=
  attempts_of_quiet (by simp)

namespace Machine

variable {env : Surroundings W} {deadline : Nat} {m : Machine} {w : W} {message : Message}
  {after : Turn W} {seen : List Message} {trace : List Effect} {rest : List Message}

/-! ## One step -/

/-- A step that opens no attempt arms no timer; one that opens an attempt arms a timer of
the next generation. -/
theorem Step.arms (step : Step env deadline m w message after) :
    (attempts after.effects = 0 ∧ after.machine.generation = m.generation ∧
        ∀ timer, after.machine.timer = some timer → m.timer = some timer) ∨
      (attempts after.effects = 1 ∧ after.machine.generation = m.generation + 1 ∧
        after.machine.timer = some ⟨m.generation + 1, deadline⟩) := by
  cases step
  case connectStarted | handoverConnecting =>
    exact .inr (by simp [Effect.opensAttempt, entered, armed])
  all_goals left
  all_goals simp_all [Effect.opensAttempt, entered, deferring, withService]

/-- A timer that stands after a step was armed by it, or it stood before and the attempt is
the same. -/
theorem Step.lasts (step : Step env deadline m w message after)
    (before : m.timer.isSome → ∃ target, m.snapshot = ⟨.pending, .outgoing target, none⟩)
    {timer : ConnectTimer} (stands : after.machine.timer = some timer) :
    (m.timer = some timer ∧ after.machine.snapshot = m.snapshot) ∨
      timer = ⟨m.generation + 1, deadline⟩ := by
  cases step
  all_goals
    simp_all [entered, Machine.armed, deferring, withService, Snapshot.initial]

/-- A step after which a timer is armed, although none was before unless for an attempt,
leaves an attempt on its way. -/
theorem Step.outgoing (step : Step env deadline m w message after)
    (before : m.timer.isSome → ∃ target, m.snapshot = ⟨.pending, .outgoing target, none⟩)
    (armed : after.machine.timer.isSome) :
    ∃ target, after.machine.snapshot = ⟨.pending, .outgoing target, none⟩ := by
  cases step
  all_goals
    simp_all [entered, Machine.armed, deferring, withService, Snapshot.initial]

/-- An attempt is on its way because it has just begun, or it was before. Then its timer
stands, unless it has just expired; and the message was no report that ends the
attempt. -/
theorem Step.awaits (step : Step env deadline m w message after) {target : Address}
    (awaited : after.machine.snapshot = ⟨.pending, .outgoing target, none⟩) :
    after.machine.timer.isSome ∨
      (m.snapshot = ⟨.pending, .outgoing target, none⟩ ∧
        message ≠ .stack (.connection .disconnected target) ∧
        (after.machine.timer = m.timer ∨
          after.machine.replay = .stack (.connection .disconnected target) :: m.replay)) := by
  cases step
  case ignored idle =>
    have same : m.snapshot = ⟨.pending, .outgoing target, none⟩ := awaited
    refine .inr ⟨same, ?_, .inl rfl⟩
    rintro rfl
    simp [Ignores, same] at idle
  all_goals
    simp_all [entered, armed, deferring, withService, Snapshot.initial, Roles.target?]

/-! ## Every moment -/

/-- A timer is armed just for an attempt that is on its way, and its generation is not
beyond the last one. -/
structure Timed (m : Machine) : Prop where
  legal : m.snapshot.Legal
  outgoing : m.timer.isSome → ∃ target, m.snapshot = ⟨.pending, .outgoing target, none⟩
  awaited : ∀ target, m.snapshot = ⟨.pending, .outgoing target, none⟩ →
    m.timer.isSome ∨
      ∃ rest, m.replay = .stack (.connection .disconnected target) :: rest
  known : ∀ timer, m.timer = some timer → timer.generation ≤ m.generation

theorem timed_initial : Timed .initial where
  legal := rfl
  outgoing := by simp [initial]
  awaited := by simp [initial, Snapshot.initial]
  known := by simp [initial]

theorem Timed.step (before : Timed m) (held : m.replay = message :: rest)
    (step : Step env deadline { m with replay := rest } w message after) :
    Timed after.machine where
  legal := step.legal before.legal
  outgoing := step.outgoing before.outgoing
  awaited := by
    intro target awaited
    obtain armed | ⟨was, other, same | expired⟩ := step.awaits awaited
    · exact .inl armed
    · obtain armed | ⟨later, next⟩ := before.awaited target was
      · rw [same]
        exact .inl armed
      · rw [held] at next
        exact absurd (List.cons.inj next).1 other
    · exact .inr ⟨rest, expired⟩
  known := by
    intro timer armed
    obtain ⟨-, same, kept⟩ | ⟨-, next, new⟩ := step.arms
    · rw [same]
      exact before.known timer (kept timer armed)
    · rw [new] at armed
      obtain rfl := Option.some.inj armed
      exact Nat.le_of_eq next.symm

theorem Passes.timed {start : Machine} (begin : Timed start)
    (passed : Passes env start seen trace m) : Timed m := by
  refine passed.invariant (P := fun _ _ => Timed) Timed.legal begin ?_ ?_
  · intro seen trace m message done before
    refine ⟨before.legal, before.outgoing, ?_, before.known⟩
    intro target awaited
    obtain armed | ⟨rest, held⟩ := before.awaited target awaited
    · exact .inl armed
    · rw [done] at held
      cases held
  · intro seen trace m w deadline message rest after held before step
    exact before.step held step

theorem Timed.handle (before : Timed m) (done : m.replay = []) (deadline : Nat) (w : W)
    (message : Message) : Timed (handle env deadline m w message).machine :=
  (Passes.start.handle done deadline w message).timed before

/-- Between two messages a timer is armed exactly while an attempt is on its way. -/
theorem Timed.isSome_iff (timed : Timed m) (done : m.replay = []) :
    m.timer.isSome ↔ ∃ target, m.snapshot = ⟨.pending, .outgoing target, none⟩ := by
  constructor
  · exact timed.outgoing
  · rintro ⟨target, awaited⟩
    obtain armed | ⟨rest, held⟩ := timed.awaited target awaited
    · exact armed
    · rw [done] at held
      cases held

/-- What has become of the timer since a machine started. -/
structure Rearmed (start : Machine) (trace : List Effect) (m : Machine) : Prop where
  legal : m.snapshot.Legal
  counted : m.generation = start.generation + attempts trace
  kept : attempts trace = 0 → ∀ timer, m.timer = some timer → start.timer = some timer
  later : 0 < attempts trace → ∀ timer, m.timer = some timer →
    start.generation < timer.generation

theorem Passes.rearmed {start : Machine} (legal : start.snapshot.Legal)
    (passed : Passes env start seen trace m) : Rearmed start trace m := by
  refine passed.invariant (P := fun _ => Rearmed start) Rearmed.legal ?_ ?_ ?_
  · exact ⟨legal, rfl, fun _ _ => id, by simp⟩
  · intro seen trace m message done before
    exact ⟨before.legal, before.counted, before.kept, before.later⟩
  · intro seen trace m w deadline message rest after held before step
    obtain ⟨none, same, kept⟩ | ⟨one, next, new⟩ := step.arms
    · refine ⟨step.legal before.legal, ?_, ?_, ?_⟩
      · rw [attempts_append, none, same]
        exact before.counted
      · intro quiet timer armed
        rw [attempts_append, none] at quiet
        exact before.kept quiet timer (kept timer armed)
      · intro some timer armed
        rw [attempts_append, none] at some
        exact before.later some timer (kept timer armed)
    · have counted := before.counted
      refine ⟨step.legal before.legal, ?_, ?_, ?_⟩
      · rw [attempts_append, one, next, ← Nat.add_assoc, ← counted]
      · rw [attempts_append, one]
        intro quiet
        omega
      · intro _ timer armed
        rw [new] at armed
        rw [← Option.some.inj armed]
        show start.generation < m.generation + 1
        omega

/-- What has become of the timer of a machine since a message came in: it stands and the
attempt is the same, or another one was armed meanwhile. -/
structure Lasting (start : Machine) (deadline : Nat) (m : Machine) : Prop where
  legal : m.snapshot.Legal
  outgoing : m.timer.isSome → ∃ target, m.snapshot = ⟨.pending, .outgoing target, none⟩
  grown : start.generation ≤ m.generation
  stood : ∀ timer, m.timer = some timer →
    (start.timer = some timer ∧ m.snapshot = start.snapshot) ∨
      (start.generation < timer.generation ∧ timer.deadline = deadline)

theorem Lasting.step {start : Machine} (before : start.Lasting deadline m)
    (step : Step env deadline { m with replay := rest } w message after) :
    start.Lasting deadline after.machine where
  legal := step.legal before.legal
  outgoing := step.outgoing before.outgoing
  grown := by
    obtain ⟨-, same, -⟩ | ⟨-, later, -⟩ := step.arms
    · rw [same]
      exact before.grown
    · rw [later]
      exact Nat.le_succ_of_le before.grown
  stood := by
    intro timer stands
    obtain ⟨was, still⟩ | rfl := step.lasts before.outgoing stands
    · exact (before.stood timer was).imp_left fun ⟨first, same⟩ => ⟨first, still.trans same⟩
    · exact .inr ⟨Nat.lt_succ_of_le before.grown, rfl⟩

theorem Timed.lasting (timed : Timed m) (env : Surroundings W) (deadline : Nat) (w : W)
    (message : Message) :
    m.Lasting deadline (Machine.handle env deadline m w message).machine := by
  have begin : m.Lasting deadline m :=
    ⟨timed.legal, timed.outgoing, Nat.le_refl _, fun _ was => .inl ⟨was, rfl⟩⟩
  exact @handle_invariant W env deadline (fun _ now _ => m.Lasting deadline now)
    Lasting.legal (fun _ before step => before.step step) [] m w begin message

/-! ## Expiry -/

/-- The expiry of another timer than the one armed makes no difference. -/
theorem handle_stale (legal : m.snapshot.Legal) (done : m.replay = []) {generation : Nat}
    (stale : ∀ timer, m.timer = some timer → timer.generation ≠ generation)
    (deadline : Nat) (w : W) :
    handle env deadline m w (.timeout generation) = ⟨m, w, [.took (.timeout generation)]⟩ := by
  have alone : process env deadline m w (.timeout generation) =
      ⟨m, w, [.took (.timeout generation)]⟩ := by
    have step : Step env deadline m w (.timeout generation) _ := step_process legal _
    generalize process env deadline m w (.timeout generation) = after at step
    cases step with
    | ignored => rfl
    | attemptExpired armed => exact absurd rfl (stale _ armed)
    | timerDropped armed => exact absurd rfl (stale _ armed)
  rw [handle_of_replay_nil, alone]
  rw [alone]
  exact done

/-- The expiry of the armed timer puts a report in front of the replay. -/
theorem process_expired {target : Address} {timer : ConnectTimer}
    (awaited : m.snapshot = ⟨.pending, .outgoing target, none⟩)
    (armed : m.timer = some timer) (deadline : Nat) (w : W) :
    process env deadline m w (.timeout timer.generation) =
      ⟨{ m with timer := none, replay := .stack (.connection .disconnected target) :: m.replay },
        w, [.took (.timeout timer.generation)]⟩ := by
  simp only [process, whilePending, pendingTimeout, armed, snapshot_mk, awaited,
    Roles.target?, ne_eq, not_true_eq_false, if_false]

/-- An attempt that fails comes to rest, whether or not its timer still stands. -/
theorem process_failed {target : Address}
    (awaited : m.snapshot = ⟨.pending, .outgoing target, none⟩) (deadline : Nat) (w : W) :
    process env deadline m w (.stack (.connection .disconnected target)) =
      ⟨m.entered .disconnected .idle, w,
        [.took (.stack (.connection .disconnected target)),
          .told (.connection target .disconnected .connecting), .wrote .initial]⟩ := by
  have legal : m.snapshot.Legal := by simp [awaited]
  have step : Step env deadline m w (.stack (.connection .disconnected target)) _ :=
    step_process legal _
  generalize process env deadline m w (.stack (.connection .disconnected target)) = after
    at step
  cases step
  case attemptFailed => rfl
  all_goals simp_all [Ignores]

/-- The expiry of the armed timer does what a report that the target is disconnected
does, down to everything that is released. -/
theorem handle_expired {target : Address} {timer : ConnectTimer}
    (awaited : m.snapshot = ⟨.pending, .outgoing target, none⟩) (done : m.replay = [])
    (armed : m.timer = some timer) (deadline : Nat) (w : W) :
    let report := handle env deadline m w (.stack (.connection .disconnected target))
    handle env deadline m w (.timeout timer.generation) =
      ⟨report.machine, report.world, .took (.timeout timer.generation) :: report.effects⟩ := by
  intro report
  have same : report = handle env deadline { m with timer := none } w
      (.stack (.connection .disconnected target)) := by
    have before : ({ m with timer := none } : Machine).snapshot =
        ⟨.pending, .outgoing target, none⟩ := awaited
    rw [handle, process_failed before]
    simp only [report]
    rw [handle, process_failed awaited]
    rfl
  have passed := replayAll_append env deadline
    ⟨{ m with timer := none, replay := [.stack (.connection .disconnected target)] }, w, []⟩
    [.took (.timeout timer.generation)]
  rw [← handle_eq_replayAll env deadline w (m := { m with timer := none }) done, ← same]
    at passed
  rw [handle, process_expired awaited armed, done]
  exact passed

/-- On every run, between two messages a timer is armed just for an attempt that is on
its way. Of two timers that are ever armed, the later has the greater generation. The
expiry of a timer that is not the armed one changes nothing, and the expiry of the armed
one does exactly what a report that the target is disconnected does. -/
theorem timer_discipline (env : Surroundings W) (arrivals : List (Arrival W)) :
    let m := (run env .initial arrivals).1
    (m.timer.isSome ↔
        ∃ target, m.snapshot.state = .pending ∧ m.snapshot.roles = .outgoing target) ∧
      (∀ seen trace earlier, Passes env .initial seen trace earlier →
        ∀ more next later, Passes env earlier more next later →
        ∀ old new, earlier.timer = some old → later.timer = some new →
          if attempts next = 0 then new = old else old.generation < new.generation) ∧
      (∀ generation, (∀ timer, m.timer = some timer → timer.generation ≠ generation) →
        ∀ deadline w, handle env deadline m w (.timeout generation) =
          ⟨m, w, [.took (.timeout generation)]⟩) ∧
      ∀ timer, m.timer = some timer → ∃ target, m.snapshot.roles = .outgoing target ∧
        ∀ deadline w,
          let report := handle env deadline m w (.stack (.connection .disconnected target))
          handle env deadline m w (.timeout timer.generation) =
            ⟨report.machine, report.world,
              .took (.timeout timer.generation) :: report.effects⟩ := by
  intro m
  have timed : Timed m := (passes_run env arrivals).timed timed_initial
  have done : m.replay = [] := replay_run env rfl arrivals
  refine ⟨?_, ?_, ?_, ?_⟩
  · rw [timed.isSome_iff done]
    constructor
    · rintro ⟨target, awaited⟩
      exact ⟨target, by simp [awaited]⟩
    · rintro ⟨target, pending, outgoing⟩
      have closed := timed.legal.service_of_pending pending
      exact ⟨target, by rw [← pending, ← outgoing, ← closed]⟩
  · intro seen trace earlier passed more next later on old new was is
    have rearmed := on.rearmed (passed.timed timed_initial).legal
    split
    · rename_i quiet
      exact Option.some.inj ((rearmed.kept quiet new is).symm.trans was)
    · rename_i accepted
      exact Nat.lt_of_le_of_lt ((passed.timed timed_initial).known old was)
        (rearmed.later (Nat.pos_of_ne_zero accepted) new is)
  · intro generation stale deadline w
    exact handle_stale timed.legal done stale deadline w
  · intro timer armed
    obtain ⟨target, awaited⟩ := timed.outgoing (by simp [armed])
    refine ⟨target, by rw [awaited], ?_⟩
    intro deadline w
    exact handle_expired awaited done armed deadline w

end Machine

end AccessoryLink
