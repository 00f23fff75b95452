import AccessoryLink.Proofs.Machine.Run
import Mathlib.Data.List.Induction

/-!
# Legality of everything that is shown

The shared snapshot is written several times within one message: a handover that is
refused by the radio commits twice, and a link that is lost drops its service first.
Each of these writes is legal, not only the last one, because every write leads from a
legal snapshot to a legal one.

Commands wait only while a transition is pending. Every change of state releases all
of them, so none is left behind in a machine that came to rest.

A legal snapshot never stands in the way of a message, so the checks that withstand
illegal ones never strike (`messages_never_rejected`).
-/

namespace AccessoryLink

variable {W : Type}

/-! ## What parts of a trace show -/

@[simp] theorem seen_reply (s : Snapshot) (ticket : Option Ticket) (result : Outcome) :
    (Effect.reply ticket result).foldl Snapshot.seen s = s :=
  seen_of_silent (by simp) s

@[simp] theorem seen_serviceDrop (s : Snapshot) (device : Address) :
    (s.serviceDrop device).foldl Snapshot.seen s = { s with service := none } := by
  obtain ⟨state, roles, service⟩ := s
  cases service <;> rfl

@[simp] theorem seen_serviceReturn (s shown : Snapshot) (device : Address)
    (kept : s.service = none → shown = s) :
    (s.serviceReturn device).foldl Snapshot.seen shown = s := by
  cases service : s.service with
  | none => simp [Snapshot.serviceReturn, service, kept service]
  | some handle => simp [Snapshot.serviceReturn, service, Snapshot.seen]

@[simp] theorem seen_displacement (s shown : Snapshot) :
    s.displacement.foldl Snapshot.seen shown = shown :=
  seen_of_silent (by simp) shown

namespace Machine

variable {env : Surroundings W} {deadline : Nat} {m : Machine} {w : W} {message : Message}
  {after : Turn W}

/-! ## One step -/

/-- After a step, readers see the snapshot of the machine. -/
theorem Step.shows (step : Step env deadline m w message after) :
    after.effects.foldl Snapshot.seen m.snapshot = after.machine.snapshot := by
  cases step
  all_goals simp_all [Snapshot.seen, armed, deferring, withService, Snapshot.initial]

/-- Everything that is written on the way is legal, not only what is written last. -/
theorem Step.wrote_legal (step : Step env deadline m w message after) :
    ∀ s, .wrote s ∈ after.effects → s.Legal := by
  cases step
  all_goals simp_all [or_imp]

theorem Step.legal (step : Step env deadline m w message after)
    (before : m.snapshot.Legal) :
    after.machine.snapshot.Legal := by
  cases step
  all_goals simp_all [armed, deferring, withService]

/-- A step that is not pending afterwards leaves no command behind. -/
theorem Step.settled (step : Step env deadline m w message after)
    (before : m.snapshot.state ≠ .pending → m.deferred = []) :
    after.machine.snapshot.state ≠ .pending → after.machine.deferred = [] := by
  cases step
  all_goals simp_all [entered, armed, deferring, withService, Snapshot.initial, Waits]

/-- Every update of the roles that a step makes succeeds, and nobody is left over when the
machine comes to rest. So the message is not rejected. -/
theorem Step.unrejected (step : Step env deadline m w message after) (state : MachineState)
    (conflict : RoleConflict) : .rejected state conflict ∉ after.effects := by
  cases step
  all_goals simp

/-- A command waits only after it was taken up. -/
theorem Step.deferred (step : Step env deadline m w message after) {command : Command}
    (waits : command ∈ after.machine.deferred) :
    command ∈ m.deferred ∨ .took (.command command) ∈ after.effects := by
  cases step
  all_goals simp_all [entered, armed, deferring, withService]

/-! ## Every run -/

/-- What the machine keeps to, with the trace that led to it. -/
structure Lawful (past : List Effect) (m : Machine) : Prop where
  shown : visible past = m.snapshot
  legal : m.snapshot.Legal
  written : ∀ s, .wrote s ∈ past → s.Legal
  taken : ∀ command ∈ m.deferred, .took (.command command) ∈ past
  settled : m.snapshot.state ≠ .pending → m.deferred = []

theorem lawful_initial : Lawful [] .initial where
  shown := rfl
  legal := rfl
  written := by simp
  taken := by simp [initial]
  settled _ := rfl

theorem Lawful.step {past : List Effect} (before : Lawful past m)
    (step : Step env deadline m w message after) :
    Lawful (past ++ after.effects) after.machine where
  shown := by rw [visible_append, before.shown, step.shows]
  legal := step.legal before.legal
  written := by
    intro s written
    obtain early | late := List.mem_append.mp written
    · exact before.written s early
    · exact step.wrote_legal s late
  taken := by
    intro command waits
    obtain early | late := step.deferred waits
    · exact List.mem_append_left _ (before.taken command early)
    · exact List.mem_append_right _ late
  settled := step.settled before.settled

/-- Nothing in `Lawful` depends on what is left to replay. -/
theorem Lawful.withReplay {past : List Effect} (before : Lawful past m)
    (rest : List Message) :
    Lawful past { m with replay := rest } :=
  ⟨before.shown, before.legal, before.written, before.taken, before.settled⟩

theorem Lawful.handle {past : List Effect} (before : Lawful past m) (message : Message) :
    Lawful (past ++ (handle env deadline m w message).effects)
      (handle env deadline m w message).machine :=
  handle_invariant (P := fun past m _ => Lawful past m) Lawful.legal
    (fun rest before step => (before.withReplay rest).step step) before message

/-- Giving everything up shows nothing and leaves no command waiting. -/
theorem Lawful.givenUp {past next : List Effect} (before : Lawful past m)
    (silent : ∀ s, .wrote s ∉ next) :
    Lawful (past ++ next) { m with timer := none, deferred := [] } where
  shown := by rw [visible_append, seen_of_silent silent, before.shown]
  legal := before.legal
  written := by
    intro s written
    obtain early | late := List.mem_append.mp written
    · exact before.written s early
    · exact absurd late (silent s)
  taken := by simp
  settled _ := rfl

theorem lawful_run (env : Surroundings W) (arrivals : List (Arrival W)) :
    Lawful (run env .initial arrivals).2 (run env .initial arrivals).1 :=
  run_invariant (P := Lawful) Lawful.legal
    (fun rest before step => (before.withReplay rest).step step) lawful_initial arrivals

/-- Whatever part of a run readers have seen, what they see is legal. -/
theorem Lawful.visible_legal {past part : List Effect} (lawful : Lawful past m)
    (reached : part <+: past) : (visible part).Legal := by
  induction part using List.reverseRecOn with
  | nil => exact Snapshot.legal_initial
  | append_singleton part effect ih =>
      have earlier := ih ((List.prefix_append part [effect]).trans reached)
      rw [visible_append]
      cases effect with
      | wrote s => exact lawful.written s (reached.subset (by simp))
      | _ => exact earlier

theorem replay_run (env : Surroundings W) (done : m.replay = [])
    (arrivals : List (Arrival W)) :
    (run env m arrivals).1.replay = [] := by
  induction arrivals generalizing m with
  | nil => exact done
  | cons arrival rest ih =>
      rw [run_cons]
      exact ih (replay_handle env arrival.deadline m arrival.world arrival.message)

/-- Readers see only legal snapshots, in the middle of a message as well as after it.
Between messages nothing is left to replay, and commands that were taken up wait only
while a transition is pending. -/
theorem snapshots_legal (env : Surroundings W) (arrivals : List (Arrival W)) :
    (∀ part, part <+: (run env .initial arrivals).2 → (visible part).Legal) ∧
      visible (run env .initial arrivals).2 = (run env .initial arrivals).1.snapshot ∧
      (run env .initial arrivals).1.replay = [] ∧
      (∀ command ∈ (run env .initial arrivals).1.deferred,
        .took (.command command) ∈ (run env .initial arrivals).2) ∧
      ((run env .initial arrivals).1.snapshot.state ≠ .pending →
        (run env .initial arrivals).1.deferred = []) := by
  have lawful := lawful_run env arrivals
  refine ⟨?_, lawful.shown, replay_run env rfl arrivals, lawful.taken, lawful.settled⟩
  intro part reached
  exact lawful.visible_legal reached

/-! ## Nothing is rejected -/

/-- No message of a run is rejected, released ones included: no update of the roles fails,
and no commit is refused. Whatever part of the run readers have seen, nobody is tracked
while nothing is connected, and while a device is connected it is the current one; so the
checks at the beginning of a message never fail either. -/
theorem messages_never_rejected (env : Surroundings W) (arrivals : List (Arrival W)) :
    (∀ state conflict, .rejected state conflict ∉ (run env .initial arrivals).2) ∧
      ∀ part, part <+: (run env .initial arrivals).2 →
        ((visible part).state = .disconnected → (visible part).roles = .idle) ∧
          ((visible part).state = .connected → (visible part).roles.current?.isSome) := by
  let kept (past : List Effect) (m : Machine) : Prop :=
    Lawful past m ∧ ∀ state conflict, .rejected state conflict ∉ past
  have ends : kept ([] ++ (run env .initial arrivals).2) (run env .initial arrivals).1 := by
    refine run_invariant (P := kept) (fun kept => kept.1.legal) ?_
      ⟨lawful_initial, by simp⟩ arrivals
    rintro past m w deadline message after rest ⟨lawful, quiet⟩ step
    refine ⟨(lawful.withReplay rest).step step, ?_⟩
    intro state conflict inside
    obtain early | late := List.mem_append.mp inside
    · exact quiet state conflict early
    · exact step.unrejected state conflict late
  refine ⟨ends.2, ?_⟩
  intro part reached
  have legal : (visible part).Legal := ends.1.visible_legal reached
  constructor
  · intro down
    rw [legal.eq_initial down]
    rfl
  · intro up
    obtain ⟨current, service, same⟩ := legal.eq_connected up
    rw [same]
    rfl

end Machine

end AccessoryLink
