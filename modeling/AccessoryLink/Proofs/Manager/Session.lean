import AccessoryLink.Manager.Actor
import AccessoryLink.Proofs.Machine.Legality

/-!
# Sessions of a manager

A session is a manager together with everything that has happened to it, in any order:
callers ask, the stack reports, time passes, the surroundings change, and the actor
takes its turns. Handling a message and queueing one are each done in one go, but a
caller may be overtaken between its check of the snapshot and the moment its message
is queued. So sending a packet is two actions, `check` and `queue`, and a command is
queued without regard to what its check said: whatever the check of a caller may have
seen, the sessions here include what comes of it (`connect_queues`,
`disconnect_queues`, `send_eq`).

A session also remembers for which device each packet was filed. The queue itself does
not.
-/

namespace AccessoryLink

variable {W : Type}

namespace Manager

/-! ## Requests in two parts -/

/-- Queues a packet under a new ticket. -/
def queueSend (m : Manager W) (packet : Packet) : Except LinkError Ticket × Manager W :=
  match { m with tickets := m.tickets + 1 }.enqueue (.send packet (some m.tickets)) with
  | (.ok _, after) => (.ok m.tickets, after)
  | (.error e, after) => (.error e, after)

/-- Sending is a check of the snapshot, and then queueing. -/
theorem send_eq (m : Manager W) (device : Address) (packet : Packet) :
    m.send device packet =
      if m.connectionOf device ≠ .connected then (.error .deviceNotConnected, m)
      else m.queueSend packet := rfl

theorem connect_queues (env : Surroundings W) (m : Manager W) (device : Address) :
    (m.connect env device).2 = m ∨
      (m.connect env device).2 = (m.enqueueCommand .connect device).2 := by
  simp only [connect]
  split
  · exact .inl rfl
  · cases m.connectionOf device
    · exact .inr rfl
    · exact .inl rfl
    · exact .inl rfl
    · exact .inr rfl

theorem disconnect_queues (m : Manager W) (device : Address) :
    (m.disconnect device).2 = m ∨
      (m.disconnect device).2 = (m.enqueueCommand .disconnect device).2 := by
  simp only [disconnect]
  cases m.connectionOf device
  · exact .inl rfl
  · exact .inr rfl
  · exact .inr rfl
  · exact .inl rfl

/-- Queueing a message is the business of the queue alone. It comes last there, and after
the end it does not come at all. -/
theorem enqueue_eq (m : Manager W) (message : Message) :
    (m.enqueue message).2 =
      { m with inbox := m.inbox ++ if m.ended then [] else [message] } := by
  unfold enqueue
  split
  · rw [List.append_nil]
  · rfl

theorem machine_enqueue (m : Manager W) (message : Message) :
    (m.enqueue message).2.machine = m.machine := by
  rw [enqueue_eq]

theorem tickets_enqueue (m : Manager W) (message : Message) :
    (m.enqueue message).2.tickets = m.tickets := by
  rw [enqueue_eq]

theorem inbox_enqueue {m : Manager W} {message queued : Message}
    (waits : queued ∈ (m.enqueue message).2.inbox) :
    queued ∈ m.inbox ∨ queued = message := by
  rw [enqueue_eq] at waits
  obtain early | late := List.mem_append.mp waits
  · exact .inl early
  · split at late
    · cases late
    · exact .inr (List.mem_singleton.mp late)

/-! ## Turns of the actor -/

/-- Everything that a turn can come to. -/
inductive Turned (env : Surroundings W) (m : Manager W) : Manager W × List Effect → Prop where
  | message {message : Message} {rest : List Message} (on : m.ended = false)
      (queue : m.inbox = message :: rest) (other : message ≠ .shutdown) :
      Turned env m ({ m with inbox := rest }.handle env message)
  | expiry {timer : ConnectTimer} (on : m.ended = false) (empty : m.inbox = [])
      (held : m.orphaned = false) (armed : m.machine.timer = some timer)
      (due : timer.deadline ≤ m.now) : Turned env m (m.handle env (.timeout timer.generation))
  | marker {rest : List Message} (on : m.ended = false) (queue : m.inbox = .shutdown :: rest) :
      Turned env m ({ m with inbox := rest }.stop env)
  | orphaned (on : m.ended = false) (empty : m.inbox = []) (gone : m.orphaned = true) :
      Turned env m (m.stop env)

/-- `Turned` lists every outcome. -/
theorem turned_of_turn {env : Surroundings W} {m : Manager W} {result : Manager W × List Effect}
    (turned : m.turn env = some result) : m.Turned env result := by
  unfold turn at turned
  split at turned
  · cases turned
  · rename_i running
    have on : m.ended = false := Bool.eq_false_iff.mpr running
    split at turned
    · rename_i rest queue
      obtain rfl := Option.some.inj turned
      exact .marker on queue
    · rename_i message rest other queue
      obtain rfl := Option.some.inj turned
      exact .message on queue (by rintro rfl; exact other rfl)
    · rename_i empty
      split at turned
      · rename_i gone
        obtain rfl := Option.some.inj turned
        exact .orphaned on empty gone
      · rename_i held
        split at turned
        · rename_i timer expired
          obtain rfl := Option.some.inj turned
          obtain ⟨armed, due⟩ := Option.filter_eq_some_iff.mp expired
          exact .expiry on empty (Bool.eq_false_iff.mpr held) armed (of_decide_eq_true due)
        · cases turned

/-- A turn handles the first message of the queue, or the expiry of the timer if the queue
is empty. It ends the actor at the marker, or if the queue is empty and nothing can come
any more. -/
theorem turn_outcomes {env : Surroundings W} {m after : Manager W} {effects : List Effect}
    (turned : m.turn env = some (after, effects)) :
    m.ended = false ∧
      ((∃ message rest, message ≠ .shutdown ∧
          (m.inbox = message :: rest ∨ m.inbox = [] ∧ rest = [] ∧ ∃ n, message = .timeout n) ∧
            { m with inbox := rest }.handle env message = (after, effects)) ∨
        ∃ rest, (m.inbox = .shutdown :: rest ∨ m.inbox = [] ∧ rest = []) ∧
          { m with inbox := rest }.stop env = (after, effects)) := by
  have same (empty : m.inbox = []) : { m with inbox := [] } = m := by rw [← empty]
  have outcome := turned_of_turn turned
  generalize (after, effects) = result at outcome
  cases outcome with
  | message on queue other => exact ⟨on, .inl ⟨_, _, other, .inl queue, rfl⟩⟩
  | @expiry timer on empty =>
      refine ⟨on, .inl ⟨.timeout timer.generation, [], by simp, .inr ⟨empty, rfl, _, rfl⟩, ?_⟩⟩
      rw [same empty]
  | marker on queue => exact ⟨on, .inr ⟨_, .inl queue, rfl⟩⟩
  | orphaned on empty =>
      refine ⟨on, .inr ⟨[], .inr ⟨empty, rfl⟩, ?_⟩⟩
      rw [same empty]

/-- A turn handles the first message of the queue, or the expiry of the timer, or it
ends the actor. -/
theorem turn_cases {env : Surroundings W} {m after : Manager W} {effects : List Effect}
    (turned : m.turn env = some (after, effects)) :
    (∃ message rest,
        (m.inbox = message :: rest ∨ rest = m.inbox ∧ ∃ n, message = .timeout n) ∧
          { m with inbox := rest }.handle env message = (after, effects)) ∨
      ∃ rest, rest ⊆ m.inbox ∧ { m with inbox := rest }.stop env = (after, effects) := by
  obtain ⟨-, ⟨message, rest, -, taken, handled⟩ | ⟨rest, left, stopped⟩⟩ := turn_outcomes turned
  · refine .inl ⟨message, rest, ?_, handled⟩
    obtain queue | ⟨queue, rfl, timeout⟩ := taken
    · exact .inl queue
    · exact .inr ⟨queue.symm, timeout⟩
  · refine .inr ⟨rest, ?_, stopped⟩
    obtain queue | ⟨queue, rfl⟩ := left <;> simp [queue]

/-- What the end of the actor leaves in the trace: answers to callers who still wait,
and the release of the radio. -/
def Farewell (trace : List Effect) : Prop :=
  ∀ effect ∈ trace, (∃ ticket result, effect = .answered ticket result) ∨
    effect = .called .cleanup .done

theorem Farewell.absent {trace : List Effect} (farewell : Farewell trace) {effect : Effect}
    (unanswered : ∀ ticket result, effect ≠ .answered ticket result)
    (kept : effect ≠ .called .cleanup .done) : effect ∉ trace := by
  intro inside
  obtain ⟨ticket, result, same⟩ | same := farewell effect inside
  · exact unanswered ticket result same
  · exact kept same

theorem Farewell.silent {trace : List Effect} (farewell : Farewell trace) (s : Snapshot) :
    .wrote s ∉ trace :=
  farewell.absent (by simp) (by simp)

theorem Farewell.untold {trace : List Effect} (farewell : Farewell trace) (event : Event) :
    .told event ∉ trace :=
  farewell.absent (by simp) (by simp)

/-- All that the actor does when it ends with nothing to replay. -/
theorem stop_eq (env : Surroundings W) {m : Manager W} (done : m.machine.replay = []) :
    m.stop env =
      ({ m with
          machine := { m.machine with timer := none, deferred := [] }
          world := env.cleanup m.world
          inbox := []
          ended := true },
        m.inbox.flatMap dropped ++ [.called .cleanup .done]) := by
  simp only [stop, absorb, Machine.shutdown, done, List.foldl_nil, Turn.cleanup, Turn.note,
    List.nil_append]

/-- What is left when the actor ends with nothing to replay. -/
theorem stop_of_done (env : Surroundings W) {m : Manager W} (done : m.machine.replay = []) :
    (m.stop env).1 =
        { m with
          machine := { m.machine with timer := none, deferred := [] }
          world := env.cleanup m.world
          inbox := []
          ended := true } ∧
      Farewell (m.stop env).2 := by
  rw [stop_eq env done]
  refine ⟨rfl, ?_⟩
  intro effect inside
  obtain early | late := List.mem_append.mp inside
  · obtain ⟨message, -, answer⟩ := List.mem_flatMap.mp early
    simp only [dropped] at answer
    split at answer
    · exact .inl ⟨_, _, List.mem_singleton.mp answer⟩
    · cases answer
  · exact .inr (List.mem_singleton.mp late)

end Manager

/-! ## Sessions -/

/-- A packet that a caller has filed, with the device it named. -/
structure Request where
  ticket : Ticket
  device : Address
  packet : Packet
  deriving Repr, DecidableEq

/-- What stands in the queue for a request. The device is not part of it. -/
def Request.message (request : Request) :
    Message := .send request.packet (some request.ticket)

/-- A manager and what has happened to it. -/
structure Session (W : Type) where
  manager : Manager W
  /-- The devices and packets of callers whose check has passed, and whose packet is
  not queued yet. -/
  checked : List (Address × Packet)
  filed : List Request
  trace : List Effect

/-- What may happen to a manager. -/
inductive Action (W : Type) where
  /-- A command of a caller is queued. -/
  | command (verb : Verb) (device : Address)
  /-- A caller who wants to send a packet checks that the device is connected. -/
  | check (device : Address) (packet : Packet)
  /-- The packet of a caller whose check has passed is queued. -/
  | queue (n : Nat)
  | report (event : StackEvent)
  | shutdown
  | drop
  /-- The actor takes a turn, if it has something to do. -/
  | turn
  | pass (ms : Nat)
  /-- The radio or what is known of peers changes. -/
  | change (world : W)

namespace Action

/-- Whether an action is a request to shut down. -/
def isShutdown : Action W → Bool
  | .shutdown => true
  | _ => false

/-- Whether an action gives up all handles. -/
def isDrop : Action W → Bool
  | .drop => true
  | _ => false

/-- How far the clock moves on. -/
def duration : Action W → Nat
  | .pass ms => ms
  | _ => 0

end Action

namespace Session

/-- A session before anything happened. -/
def initial (world : W) (timeout : Nat) : Session W := ⟨.initial world timeout, [], [], []⟩

/-- Queues the packet of a caller. After the end it is refused. -/
def file (s : Session W) (device : Address) (packet : Packet) : Session W :=
  match s.manager.queueSend packet with
  | (.ok ticket, m) =>
    { s with manager := m, filed := s.filed ++ [⟨ticket, device, packet⟩] }
  | (.error _, m) => { s with manager := m }

theorem manager_file (s : Session W) (device : Address) (packet : Packet) :
    (s.file device packet).manager = (s.manager.queueSend packet).2 := by
  unfold file
  split <;> rename_i queued <;> rw [queued]

theorem trace_file (s : Session W) (device : Address) (packet : Packet) :
    (s.file device packet).trace = s.trace := by
  unfold file
  split <;> rfl

theorem file_of_ended {s : Session W} (ended : s.manager.ended = true) (device : Address)
    (packet : Packet) :
    s.file device packet =
      { s with manager := { s.manager with tickets := s.manager.tickets + 1 } } := by
  simp [file, Manager.queueSend, Manager.enqueue, ended]

theorem file_of_running {s : Session W} (running : s.manager.ended = false)
    (device : Address) (packet : Packet) :
    s.file device packet =
      { s with
        manager := { s.manager with
          inbox := s.manager.inbox ++ [.send packet (some s.manager.tickets)]
          tickets := s.manager.tickets + 1 }
        filed := s.filed ++ [⟨s.manager.tickets, device, packet⟩] } := by
  simp [file, Manager.queueSend, Manager.enqueue, running, Outcome.done]

/-- Lets something happen. -/
def step (env : Surroundings W) (s : Session W) : Action W → Session W
  | .command verb device => { s with manager := (s.manager.enqueueCommand verb device).2 }
  | .check device packet =>
    if s.manager.connectionOf device = .connected then
      { s with checked := s.checked ++ [(device, packet)] }
    else s
  | .queue n =>
    match s.checked[n]? with
    | some (device, packet) => { s with checked := s.checked.eraseIdx n }.file device packet
    | none => s
  | .report event => { s with manager := s.manager.report event }
  | .shutdown => { s with manager := s.manager.requestShutdown.2 }
  | .drop => { s with manager := s.manager.drop }
  | .turn =>
    match s.manager.turn env with
    | some (m, effects) => { s with manager := m, trace := s.trace ++ effects }
    | none => s
  | .pass ms => { s with manager := { s.manager with now := s.manager.now + ms } }
  | .change world => { s with manager := { s.manager with world := world } }

/-- Lets several things happen in a row. -/
def run (env : Surroundings W) (s : Session W) (actions : List (Action W)) : Session W :=
  actions.foldl (step env) s

/-- What every action preserves, every session preserves. -/
theorem run_invariant {env : Surroundings W} {P : Session W → Prop}
    (step : ∀ {s} (action : Action W), P s → P (s.step env action)) {s : Session W}
    (before : P s) (actions : List (Action W)) : P (s.run env actions) := by
  induction actions generalizing s with
  | nil => exact before
  | cons action rest ih => exact ih (step action before)

/-- What an action puts in the queue, as long as that is open. Of several requests to shut
down, only the first one counts. -/
def posts (s : Session W) : Action W → List Message
  | .command verb device => [.command ⟨verb, device, s.manager.tickets⟩]
  | .queue n =>
    match s.checked[n]? with
    | some (_, packet) => [.send packet (some s.manager.tickets)]
    | none => []
  | .report event => [.stack event]
  | .shutdown => if s.manager.stopping then [] else [.shutdown]
  | _ => []

/-- What an action puts in the queue. -/
def queues (s : Session W) (action : Action W) : List Message :=
  if s.manager.ended then [] else s.posts action

/-- What may be queued: a message of a caller, under the next ticket, a report, or the marker
of a shutdown. -/
theorem mem_queues {s : Session W} {action : Action W} {message : Message}
    (queued : message ∈ s.queues action) :
    (∃ verb device, message = .command ⟨verb, device, s.manager.tickets⟩) ∨
      (∃ packet, message = .send packet (some s.manager.tickets)) ∨
      (∃ event, message = .stack event) ∨ message = .shutdown := by
  unfold queues at queued
  split at queued
  · cases queued
  · cases action with
    | command verb device => exact .inl ⟨verb, device, List.mem_singleton.mp queued⟩
    | queue n =>
        simp only [posts] at queued
        split at queued
        · rename_i device packet _
          exact .inr (.inl ⟨packet, List.mem_singleton.mp queued⟩)
        · cases queued
    | report event => exact .inr (.inr (.inl ⟨event, List.mem_singleton.mp queued⟩))
    | shutdown =>
        simp only [posts] at queued
        split at queued
        · cases queued
        · exact .inr (.inr (.inr (List.mem_singleton.mp queued)))
    | _ => cases queued

/-- All that others than the actor do to a manager: they queue something behind everything
else, for which tickets are used up, ask to shut down, give up the handles, let time pass, or
change what the machine acts on. -/
theorem step_outside (env : Surroundings W) (s : Session W) {action : Action W}
    (waits : action ≠ .turn) :
    (∃ tickets world, (s.step env action).manager =
      { s.manager with
        inbox := s.manager.inbox ++ s.queues action
        tickets := tickets
        world := world
        stopping := s.manager.stopping || action.isShutdown
        orphaned := s.manager.orphaned || action.isDrop
        now := s.manager.now + action.duration }) ∧
      (s.step env action).trace = s.trace := by
  cases action with
  | turn => exact absurd rfl waits
  | command verb device =>
      refine ⟨⟨s.manager.tickets + 1, s.manager.world, ?_⟩, rfl⟩
      simp [step, Manager.enqueueCommand, Manager.enqueue_eq, queues, posts, Action.isShutdown,
        Action.isDrop, Action.duration]
  | report event =>
      refine ⟨⟨s.manager.tickets, s.manager.world, ?_⟩, rfl⟩
      simp [step, Manager.report, Manager.enqueue_eq, queues, posts, Action.isShutdown,
        Action.isDrop, Action.duration]
  | check device packet =>
      refine ⟨⟨s.manager.tickets, s.manager.world, ?_⟩, ?_⟩ <;> simp only [step]
      · split <;> simp [queues, posts, Action.isShutdown, Action.isDrop, Action.duration]
      · split <;> rfl
  | queue n =>
      simp only [step, queues, posts]
      cases s.checked[n]? with
      | none =>
          exact ⟨⟨s.manager.tickets, s.manager.world, by
            simp [Action.isShutdown, Action.isDrop, Action.duration]⟩, rfl⟩
      | some entry =>
          refine ⟨⟨s.manager.tickets + 1, s.manager.world, ?_⟩, ?_⟩ <;>
            cases ended : s.manager.ended <;>
            simp [file_of_ended, file_of_running, ended, Action.isShutdown, Action.isDrop,
              Action.duration]
  | shutdown =>
      refine ⟨⟨s.manager.tickets, s.manager.world, ?_⟩, rfl⟩
      simp only [step, Manager.requestShutdown, queues, posts, Manager.enqueue_eq]
      cases stopping : s.manager.stopping with
      | false => simp [Action.isShutdown, Action.isDrop, Action.duration]
      | true =>
          simp only [if_true, ite_self, List.append_nil, Bool.true_or, Action.isDrop,
            Bool.or_false, Action.duration, Nat.add_zero]
          rw [← stopping]
  | drop =>
      refine ⟨⟨s.manager.tickets, s.manager.world, ?_⟩, rfl⟩
      simp [step, Manager.drop, queues, posts, Action.isShutdown, Action.isDrop, Action.duration]
  | pass ms =>
      refine ⟨⟨s.manager.tickets, s.manager.world, ?_⟩, rfl⟩
      simp [step, queues, posts, Action.isShutdown, Action.isDrop, Action.duration]
  | change world =>
      refine ⟨⟨s.manager.tickets, world, ?_⟩, rfl⟩
      simp [step, queues, posts, Action.isShutdown, Action.isDrop, Action.duration]

/-- Only a turn of the actor changes the machine or adds to the trace. -/
theorem step_keeps (env : Surroundings W) (s : Session W) {action : Action W}
    (waits : action ≠ .turn) :
    (s.step env action).manager.machine = s.manager.machine ∧
      (s.step env action).trace = s.trace := by
  obtain ⟨⟨tickets, world, manager⟩, trace⟩ := step_outside env s waits
  exact ⟨by rw [manager], trace⟩

/-- What every step of the machine preserves, and its end, every session preserves. -/
theorem machine_invariant (env : Surroundings W) {P : List Effect → Machine → Prop}
    (legal : ∀ {past m}, P past m → m.snapshot.Legal)
    (step : ∀ {past m w deadline message after} (rest : List Message), P past m →
      Machine.Step env deadline { m with replay := rest } w message after →
      P (past ++ after.effects) after.machine)
    (givenUp : ∀ {past m next}, P past m → Manager.Farewell next →
      P (past ++ next) { m with timer := none, deferred := [] })
    (start : P [] .initial) (world : W) (timeout : Nat) (actions : List (Action W)) :
    P ((initial world timeout).run env actions).trace
        ((initial world timeout).run env actions).manager.machine ∧
      ((initial world timeout).run env actions).manager.machine.replay = [] := by
  refine run_invariant
    (P := fun s => P s.trace s.manager.machine ∧ s.manager.machine.replay = [])
    ?_ ⟨start, rfl⟩ actions
  rintro s action ⟨before, done⟩
  by_cases acts : action = .turn
  · subst acts
    simp only [Session.step]
    split
    · rename_i m effects turned
      obtain ⟨message, rest, -, handled⟩ | ⟨rest, -, stopped⟩ := Manager.turn_cases turned
      · obtain ⟨rfl, rfl⟩ := Prod.mk.inj handled
        constructor
        · exact Machine.handle_invariant (P := fun past m _ => P past m) legal step before
            message
        · exact Machine.replay_handle _ _ _ _ _
      · obtain ⟨left, quiet⟩ := Manager.stop_of_done env
          (m := { s.manager with inbox := rest }) done
        rw [stopped] at left quiet
        obtain rfl : m = _ := left
        exact ⟨givenUp before quiet, done⟩
    · exact ⟨before, done⟩
  · obtain ⟨machine, trace⟩ := step_keeps env s acts
    rw [machine, trace]
    exact ⟨before, done⟩

end Session

end AccessoryLink
