import AccessoryLink.Proofs.Machine.Moments
import AccessoryLink.Proofs.Manager.Sending

/-!
# Every packet is answered once

A caller who has filed a packet waits for its result, so no packet may get lost: not in
the queue, not in the machine, and not when the actor ends. What is done for a packet is
one of three runs of entries (`Fate.entries`), each of which ends with the answer. The
entries of a trace that are about packets are these runs, one for each request that is
settled, in the order in which the requests were filed; the other requests still stand
in the queue. A shutdown puts its marker into the same queue, and exactly the requests
behind it are dropped (`Ledger`).

How long a caller waits is counted in turns of the actor: whatever else happens, a packet
is answered by as many turns as there are messages in the queue (`Ledger.ahead_run`).
-/

namespace AccessoryLink

variable {W : Type}

/-! ## What is done for a packet -/

/-- Whether a message is a packet. -/
def Message.isPacket : Message → Bool
  | send _ _ => true
  | _ => false

/-- Whether the order of a message and a packet decides what comes of the packet. -/
def Message.concernsPackets (message : Message) : Bool :=
  message.isPacket || message == .shutdown

theorem Message.filter_isPacket (inbox : List Message) :
    inbox.filter isPacket = (inbox.filter concernsPackets).filter isPacket := by
  rw [List.filter_filter]
  congr 1
  funext message
  cases packet : message.isPacket <;> simp [concernsPackets, packet]

@[simp] theorem Message.filter_requests (requests : List Request) :
    (requests.map Request.message).filter isPacket = requests.map Request.message := by
  rw [List.filter_eq_self]
  rintro message inside
  obtain ⟨request, -, rfl⟩ := List.mem_map.mp inside
  rfl

/-- Whether an entry of the trace is about a packet. -/
def Effect.concernsPackets : Effect → Bool
  | took message => message.isPacket
  | called (.send _ _) _ => true
  | answered _ _ => true
  | _ => false

/-- The entries of a trace that are about packets. -/
def deliveries (trace : List Effect) : List Effect := trace.filter Effect.concernsPackets

@[simp] theorem deliveries_append (past next : List Effect) :
    deliveries (past ++ next) = deliveries past ++ deliveries next := List.filter_append ..

theorem deliveries_eq_nil {trace : List Effect} :
    deliveries trace = [] ↔ ∀ effect ∈ trace, effect.concernsPackets = false := by
  simp [deliveries, List.filter_eq_nil_iff]

/-- What can come of a packet. -/
inductive Fate where
  /-- The radio was given it for the connected device, and answered. -/
  | sent (device : Address) (answer : Outcome)
  /-- No device was connected. -/
  | refused
  /-- The actor ended. -/
  | dropped

/-- All that is done for a request. -/
def Fate.entries (request : Request) : Fate → List Effect
  | sent device answer =>
    [.took request.message, .called (.send device request.packet) answer,
      .answered request.ticket answer]
  | refused => [.took request.message, .answered request.ticket (.error .deviceNotConnected)]
  | dropped => [.answered request.ticket (.error .managerShutdown)]

/-- All that handling the packet of a request does under some snapshot. -/
def Request.handling (request : Request) (env : Surroundings W) (w : W) (s : Snapshot) :
    List Effect :=
  .took request.message ::
    match s.connectedDevice? with
    | some device =>
      let answer := (env.send w device request.packet).1
      [.called (.send device request.packet) answer, .answered request.ticket answer]
    | none => [.answered request.ticket (.error .deviceNotConnected)]

theorem Request.handling_eq (request : Request) (env : Surroundings W) (w : W)
    (s : Snapshot) : ∃ fate : Fate, fate ≠ .dropped ∧
      request.handling env w s = fate.entries request := by
  unfold handling
  split
  · exact ⟨.sent _ _, nofun, rfl⟩
  · exact ⟨.refused, nofun, rfl⟩

/-- All that is done for some requests, one after the other. -/
def settling (settled : List (Request × Fate)) : List Effect :=
  settled.flatMap fun entry => entry.2.entries entry.1

@[simp] theorem settling_append (past next : List (Request × Fate)) :
    settling (past ++ next) = settling past ++ settling next := List.flatMap_append

/-- Requests that are dropped. -/
def dropping (requests : List Request) : List (Request × Fate) :=
  requests.map fun request => (request, .dropped)

@[simp] theorem map_fst_dropping (requests : List Request) :
    (dropping requests).map Prod.fst = requests := by
  simp [dropping, Function.comp_def]

theorem Fate.concernsPackets (request : Request) (fate : Fate) :
    ∀ effect ∈ fate.entries request, effect.concernsPackets = true := by
  cases fate <;> simp [entries, Effect.concernsPackets, Message.isPacket, Request.message]

@[simp] theorem deliveries_entries (request : Request) (fate : Fate) :
    deliveries (fate.entries request) = fate.entries request :=
  List.filter_eq_self.mpr (fate.concernsPackets request)

namespace Machine

variable {env : Surroundings W} {deadline : Nat} {m : Machine} {w : W} {message : Message}
  {after : Turn W}

/-- Only packets are answered. -/
theorem Step.packetless (step : Step env deadline m w message after)
    (other : message.isPacket = false) : deliveries after.effects = [] := by
  rw [deliveries_eq_nil]
  cases step
  case ignored => simp [Effect.concernsPackets, other]
  all_goals simp_all [Effect.concernsPackets, Message.isPacket, or_imp]

/-- Nothing is done for a packet while another message is handled. -/
theorem deliveries_handle (legal : m.snapshot.Legal) (done : m.replay = [])
    (other : message.isPacket = false) :
    deliveries (handle env deadline m w message).effects = [] := by
  let free (past : List Effect) (m : Machine) (_ : W) : Prop :=
    m.snapshot.Legal ∧ deliveries past = []
  have kept : free ([] ++ (handle env deadline m w message).effects)
      (handle env deadline m w message).machine
      (handle env deadline m w message).world := by
    refine handle_released (P := free) And.left ?_ legal done ?_
    · rintro past m w next after rest released ⟨legal, quiet⟩ step
      have other : next.isPacket = false := by cases released <;> rfl
      refine ⟨step.legal legal, ?_⟩
      rw [deliveries_append, quiet, step.packetless other, List.append_nil]
    · intro after first
      exact ⟨first.legal legal, first.packetless other⟩
  exact kept.2

/-- Handling the packet of a request answers it, and leaves the machine as it is. -/
theorem handle_request (env : Surroundings W) (deadline : Nat) (w : W)
    (legal : m.snapshot.Legal) (done : m.replay = []) (request : Request) :
    (handle env deadline m w request.message).machine = m ∧
      (handle env deadline m w request.message).effects =
        request.handling env w m.snapshot := by
  obtain ⟨down, handled⟩ | ⟨current, service, answer, w', before, call, handled⟩ :=
    handle_packet env deadline w legal done request.packet (some request.ticket)
  · rw [Request.message, handled]
    simp [Request.handling, Snapshot.connectedDevice?, down, Request.message, Effect.reply]
  · rw [Request.message, handled]
    simp [Request.handling, Snapshot.connectedDevice?, before, Roles.current?, call,
      Request.message, Effect.reply]

end Machine

/-- What is dropped at the end is answered, and nothing else. -/
theorem deliveries_dropped {rest : List Message} {requests : List Request}
    (left : rest.filter Message.concernsPackets = requests.map Request.message) :
    deliveries (rest.flatMap Manager.dropped) = settling (dropping requests) := by
  induction rest generalizing requests with
  | nil =>
      obtain rfl : requests = [] := List.map_eq_nil_iff.mp left.symm
      rfl
  | cons message rest ih =>
      by_cases concerned : message.concernsPackets = true
      · rw [List.filter_cons_of_pos concerned] at left
        obtain _ | ⟨request, others⟩ := requests
        · cases left
        · obtain ⟨rfl, later⟩ := List.cons.inj left
          have first : Manager.dropped request.message = Fate.dropped.entries request := rfl
          rw [List.flatMap_cons, deliveries_append, first, deliveries_entries, ih later]
          rfl
      · rw [List.filter_cons_of_neg concerned] at left
        have none : Manager.dropped message = [] := by
          cases message <;> simp_all [Manager.dropped, Message.concernsPackets,
            Message.isPacket]
        rw [List.flatMap_cons, none]
        exact ih left

/-! ## The books of a session -/

/-- Whether an action is a turn of the actor. -/
def Action.isTurn : Action W → Bool
  | .turn => true
  | _ => false

namespace Session

/-- Where the requests of a session stand, those `front` of the marker of a shutdown and
those at its `back`. While the actor runs, the first of the requests in front have been
taken up, and all others wait in the queue. When it has ended, all those in front have
been taken up, and all those at the back were dropped. -/
inductive Standing (s : Session W) (front back : List Request) : Prop where
  | running (taken : List (Request × Fate)) (waiting : List Request)
      (on : s.manager.ended = false) (split : front = taken.map Prod.fst ++ waiting)
      (handled : ∀ entry ∈ taken, entry.2 ≠ .dropped)
      (done : deliveries s.trace = settling taken)
      (queue : s.manager.inbox.filter Message.concernsPackets =
        waiting.map Request.message ++
          if s.manager.stopping then .shutdown :: back.map Request.message else [])
  | finished (taken : List (Request × Fate)) (ended : s.manager.ended = true)
      (split : front = taken.map Prod.fst) (handled : ∀ entry ∈ taken, entry.2 ≠ .dropped)
      (done : deliveries s.trace = settling (taken ++ dropping back))
      (queue : s.manager.inbox.filter Message.concernsPackets = [])

/-- The books of a session. Nothing stands behind a marker before there is one. -/
structure Ledger (s : Session W) (front back : List Request) : Prop where
  filed : s.filed = front ++ back
  unmarked : s.manager.stopping = false → back = []
  standing : s.Standing front back

/-- No request changes sides, and once there is a marker, none is filed in front of it. -/
structure Grown (marked : Bool) (past now : List Request × List Request) : Prop where
  front : past.1 <+: now.1
  back : past.2 <+: now.2
  fixed : marked = true → now.1 = past.1

theorem Grown.refl {marked : Bool} {books : List Request × List Request} :
    Grown marked books books := ⟨List.prefix_refl _, List.prefix_refl _, fun _ => rfl⟩

namespace Ledger

variable {env : Surroundings W} {s next : Session W} {front back : List Request}

theorem initial (world : W) (timeout : Nat) :
    (Session.initial world timeout).Ledger [] [] where
  filed := rfl
  unmarked _ := rfl
  standing := .running [] [] rfl rfl nofun rfl rfl

/-- The books depend on nothing but the requests, what was done for them, and the part of
the queue that decides what will be. -/
theorem congr (before : s.Ledger front back) (filed : next.filed = s.filed)
    (trace : deliveries next.trace = deliveries s.trace)
    (inbox : next.manager.inbox.filter Message.concernsPackets =
      s.manager.inbox.filter Message.concernsPackets)
    (ended : next.manager.ended = s.manager.ended)
    (stopping : next.manager.stopping = s.manager.stopping) : next.Ledger front back where
  filed := filed.trans before.filed
  unmarked := stopping ▸ before.unmarked
  standing := by
    cases before.standing with
    | running taken waiting on split handled done queue =>
        refine .running taken waiting (ended.trans on) split handled (trace.trans done) ?_
        rw [inbox, queue, stopping]
    | finished taken ended' split handled done queue =>
        exact .finished taken (ended.trans ended') split handled (trace.trans done)
          (inbox.trans queue)

/-- A message that does not concern packets makes no difference in the queue. -/
theorem enqueue (before : s.Ledger front back) {message : Message}
    (other : message.concernsPackets = false) {m : Manager W}
    (inbox : m.inbox = s.manager.inbox) (ended : m.ended = s.manager.ended)
    (stopping : m.stopping = s.manager.stopping) :
    ({ s with manager := (m.enqueue message).2 } : Session W).Ledger front back := by
  unfold Manager.enqueue
  split
  · exact before.congr rfl rfl (congrArg _ inbox) ended stopping
  · refine before.congr rfl rfl ?_ ended stopping
    simp [inbox, List.filter_append, other]

/-- A new request stands behind the marker, if there is one. -/
theorem file (before : s.Ledger front back) (device : Address) (packet : Packet) :
    ∃ front' back', (s.file device packet).Ledger front' back' ∧
      Grown s.manager.stopping (front, back) (front', back') := by
  cases before.standing with
  | finished taken ended =>
      rw [file_of_ended ended]
      exact ⟨front, back, before.congr rfl rfl rfl rfl rfl, .refl⟩
  | running taken waiting on split handled done queue =>
      rw [file_of_running on]
      let request : Request := ⟨s.manager.tickets, device, packet⟩
      have last : [Message.send packet (some s.manager.tickets)].filter
          Message.concernsPackets = [request.message] := rfl
      cases stopping : s.manager.stopping with
      | true =>
          refine ⟨front, back ++ [request], ⟨?_, ?_, ?_⟩,
            ⟨List.prefix_refl _, List.prefix_append _ _, fun _ => rfl⟩⟩
          · simp [before.filed, request]
          · simp [stopping]
          · refine .running taken waiting on split handled done ?_
            simp [queue, last, stopping]
      | false =>
          obtain rfl := before.unmarked stopping
          refine ⟨front ++ [request], [], ⟨?_, fun _ => rfl, ?_⟩,
            ⟨List.prefix_append _ _, List.prefix_refl _, nofun⟩⟩
          · simp [before.filed, request]
          · refine .running taken (waiting ++ [request]) on ?_ handled done ?_
            · rw [split, List.append_assoc]
            · simp [queue, last, stopping]

/-- The marker is put behind everything that was filed. -/
theorem shutdown (before : s.Ledger front back) :
    ({ s with manager := s.manager.requestShutdown.2 } : Session W).Ledger front back := by
  unfold Manager.requestShutdown
  cases stopping : s.manager.stopping with
  | true => exact before
  | false =>
      obtain rfl := before.unmarked stopping
      refine ⟨?_, fun _ => rfl, ?_⟩
      · exact before.filed
      · cases before.standing with
        | running taken waiting on split handled done queue =>
            refine .running taken waiting ?_ split handled done ?_
            · simp [Manager.enqueue, on]
            · simp [Manager.enqueue, on, queue, stopping, Message.concernsPackets]
        | finished taken ended split handled done queue =>
            refine .finished taken ?_ split handled done ?_
            · simp [Manager.enqueue, ended]
            · simp [Manager.enqueue, ended, queue]

/-- The first message of the queue is handled, or the expiry of the timer. A packet is the
first that waits, since the marker is no packet. -/
theorem handle (before : s.Ledger front back) (sound : s.Sound)
    (on : s.manager.ended = false) {message : Message} {rest : List Message}
    (unmarked : message ≠ .shutdown)
    (next : s.manager.inbox = message :: rest ∨
      s.manager.inbox = [] ∧ rest = [] ∧ ∃ n, message = .timeout n) :
    let result := { s.manager with inbox := rest }.handle env message
    ({ s with manager := result.1, trace := s.trace ++ result.2 } : Session W).Ledger
      front back := by
  intro result
  by_cases packet : message.isPacket = true
  · have concerned : message.concernsPackets = true := by
      simp [Message.concernsPackets, packet]
    have inbox : s.manager.inbox = message :: rest := by
      obtain inbox | ⟨-, -, n, rfl⟩ := next
      · exact inbox
      · cases packet
    cases before.standing with
    | finished _ ended => simp [on] at ended
    | running taken waiting _ split handled done queue =>
        rw [inbox, List.filter_cons_of_pos concerned] at queue
        obtain _ | ⟨request, waiting⟩ := waiting
        · split at queue
          · exact absurd (List.cons.inj queue).1 unmarked
          · cases queue
        · obtain ⟨rfl, later⟩ := List.cons.inj queue
          obtain ⟨fate, kept, settled⟩ :=
            request.handling_eq env s.manager.world s.manager.machine.snapshot
          have effects : result.2 = fate.entries request := settled ▸
            (Machine.handle_request env s.manager.deadline s.manager.world
              sound.lawful.legal sound.done request).2
          refine ⟨before.filed, before.unmarked, ?_⟩
          refine .running (taken ++ [(request, fate)]) waiting on ?_ ?_ ?_ later
          · simp [split]
          · intro entry inside
            obtain early | late := List.mem_append.mp inside
            · exact handled entry early
            · rwa [List.mem_singleton.mp late]
          · rw [deliveries_append, settling_append, done, effects, deliveries_entries]
            simp [settling]
  · have packet : message.isPacket = false := Bool.eq_false_iff.mpr packet
    have quiet : deliveries result.2 = [] :=
      Machine.deliveries_handle sound.lawful.legal sound.done packet
    refine before.congr rfl (by simp [quiet]) ?_ rfl rfl
    obtain inbox | ⟨inbox, rfl, -⟩ := next
    · have other : message.concernsPackets = false := by
        simp [Message.concernsPackets, packet, unmarked]
      rw [inbox, List.filter_cons_of_neg (by simp [other])]
      rfl
    · rw [inbox]
      rfl

/-- The actor ends at the marker, or when nothing waits. -/
theorem stop (before : s.Ledger front back) (sound : s.Sound)
    (on : s.manager.ended = false) {rest : List Message}
    (left : s.manager.inbox = .shutdown :: rest ∨ s.manager.inbox = [] ∧ rest = []) :
    let result := { s.manager with inbox := rest }.stop env
    ({ s with manager := result.1, trace := s.trace ++ result.2 } : Session W).Ledger
      front back := by
  intro result
  have all : result = _ :=
    Manager.stop_eq env (m := { s.manager with inbox := rest }) sound.done
  cases before.standing with
  | finished _ ended => simp [on] at ended
  | running taken waiting _ split handled done queue =>
      obtain ⟨rfl, behind⟩ : waiting = [] ∧
          rest.filter Message.concernsPackets = back.map Request.message := by
        obtain inbox | ⟨inbox, rfl⟩ := left
        · have marker : (Message.shutdown :: rest).filter Message.concernsPackets =
              .shutdown :: rest.filter Message.concernsPackets := rfl
          rw [inbox, marker] at queue
          obtain _ | ⟨request, waiting⟩ := waiting
          · split at queue
            · exact ⟨rfl, (List.cons.inj queue).2⟩
            · cases queue
          · cases (List.cons.inj queue).1
        · rw [inbox] at queue
          obtain ⟨none, unmarked⟩ := List.append_eq_nil_iff.mp queue.symm
          refine ⟨List.map_eq_nil_iff.mp none, ?_⟩
          split at unmarked
          · cases unmarked
          · rename_i open'
            rw [before.unmarked (Bool.eq_false_iff.mpr open')]
            rfl
      have last : deliveries [.called .cleanup .done] = [] := rfl
      rw [all]
      refine ⟨before.filed, before.unmarked, .finished taken rfl ?_ handled ?_ rfl⟩
      · rw [split, List.append_nil]
      · rw [deliveries_append, deliveries_append, done, last, deliveries_dropped behind,
          settling_append, List.append_nil]

theorem step (env : Surroundings W) (before : s.Ledger front back) (sound : s.Sound)
    (action : Action W) :
    ∃ front' back', (s.step env action).Ledger front' back' ∧
      Grown s.manager.stopping (front, back) (front', back') := by
  have stay {next : Session W} (after : next.Ledger front back) :
      ∃ front' back', next.Ledger front' back' ∧
        Grown s.manager.stopping (front, back) (front', back') :=
    ⟨front, back, after, .refl⟩
  have same {next : Session W} (filed : next.filed = s.filed) (trace : next.trace = s.trace)
      (inbox : next.manager.inbox = s.manager.inbox)
      (ended : next.manager.ended = s.manager.ended)
      (stopping : next.manager.stopping = s.manager.stopping) : next.Ledger front back :=
    before.congr filed (congrArg _ trace) (congrArg _ inbox) ended stopping
  cases action with
  | command verb device => exact stay (before.enqueue rfl rfl rfl rfl)
  | check device packet =>
      simp only [Session.step]
      split
      · exact stay (same rfl rfl rfl rfl rfl)
      · exact stay before
  | queue n =>
      simp only [Session.step]
      split
      · have taken : ({ s with checked := s.checked.eraseIdx n } : Session W).Ledger front
            back := same rfl rfl rfl rfl rfl
        exact taken.file _ _
      · exact stay before
  | report event => exact stay (before.enqueue rfl rfl rfl rfl)
  | shutdown => exact stay before.shutdown
  | drop => exact stay (same rfl rfl rfl rfl rfl)
  | turn =>
      simp only [Session.step]
      split
      · rename_i m effects turned
        obtain ⟨on, ⟨message, rest, unmarked, next, handled⟩ | ⟨rest, left, stopped⟩⟩ :=
          Manager.turn_outcomes turned
        · obtain ⟨rfl, rfl⟩ := Prod.mk.inj handled
          exact stay (before.handle sound on unmarked next)
        · obtain ⟨rfl, rfl⟩ := Prod.mk.inj stopped
          exact stay (before.stop sound on left)
      · exact stay before
  | pass ms => exact stay (same rfl rfl rfl rfl rfl)
  | change world => exact stay (same rfl rfl rfl rfl rfl)

end Ledger

section Run

variable {env : Surroundings W} {s : Session W} {front back : List Request}

theorem stopping_turn {m after : Manager W} {effects : List Effect}
    (turned : m.turn env = some (after, effects)) : after.stopping = m.stopping := by
  obtain ⟨-, ⟨message, rest, -, -, handled⟩ | ⟨rest, -, stopped⟩⟩ := Manager.turn_outcomes turned
  · rw [← (Prod.mk.inj handled).1]
  · rw [← (Prod.mk.inj stopped).1]

/-- A shutdown that was asked for is not taken back. -/
theorem stopping_step (stopping : s.manager.stopping = true) (action : Action W) :
    (s.step env action).manager.stopping = true := by
  by_cases acts : action = .turn
  · subst acts
    simp only [Session.step]
    split
    · rename_i turned
      exact (stopping_turn turned).trans stopping
    · exact stopping
  · obtain ⟨⟨tickets, world, manager⟩, -⟩ := step_outside env s acts
    rw [manager, stopping, Bool.true_or]

/-- The books of a session that goes on. -/
theorem Ledger.run (before : s.Ledger front back) (sound : s.Sound)
    (actions : List (Action W)) :
    ∃ front' back', (s.run env actions).Ledger front' back' ∧
      Grown s.manager.stopping (front, back) (front', back') := by
  induction actions generalizing s front back with
  | nil => exact ⟨front, back, before, .refl⟩
  | cons action rest ih =>
      obtain ⟨front', back', first, grown⟩ := before.step env sound action
      obtain ⟨front'', back'', last, later⟩ := ih first (sound.step action)
      refine ⟨front'', back'', last, grown.front.trans later.front,
        grown.back.trans later.back, ?_⟩
      intro stopping
      rw [later.fixed (stopping_step stopping action), grown.fixed stopping]

end Run

/-! ## How long a caller waits -/

section Waiting

variable {env : Surroundings W} {s : Session W} {n : Nat} {early : List Request}

/-- Some requests stand among the first messages of the queue, if they wait at all. -/
def Ahead (s : Session W) (early : List Request) (n : Nat) : Prop :=
  ∀ request ∈ early, request.message ∉ s.manager.inbox.drop n

theorem Ahead.of_drop (before : s.Ahead early n) {next : Session W} {k : Nat}
    (queue : next.manager.inbox.drop k ⊆ s.manager.inbox.drop n) : next.Ahead early k :=
  fun request inside waits => before request inside (queue waits)

/-- Only a turn of the actor moves the queue, and nobody pushes in: what is queued later comes
last, and no packet under a ticket that was used before. -/
theorem Ahead.step (env : Surroundings W) (before : s.Ahead early n) (sound : s.Sound)
    (known : early ⊆ s.filed) {action : Action W} (waits : action ≠ .turn) :
    (s.step env action).Ahead early n := by
  obtain ⟨⟨tickets, world, manager⟩, -⟩ := step_outside env s waits
  intro request inside waiting
  rw [manager, List.drop_append] at waiting
  obtain old | new := List.mem_append.mp waiting
  · exact before request inside old
  · obtain ⟨verb, device, same⟩ | ⟨packet, same⟩ | ⟨event, same⟩ | same :=
      mem_queues (List.mem_of_mem_drop new)
    · cases same
    · obtain ⟨-, ticket⟩ := Message.send.inj same
      exact absurd (Option.some.inj ticket) (Nat.ne_of_lt (sound.known request (known inside)))
    · cases same
    · cases same

/-- A turn of the actor takes the first message, if there is one. -/
theorem Ahead.turn (env : Surroundings W) (before : s.Ahead early n) (sound : s.Sound)
    (nobody : s.manager.ended = true → s.Ahead early 0) :
    (s.step env .turn).Ahead early (n - 1) := by
  simp only [Session.step]
  cases turned : s.manager.turn env with
  | none =>
      have idle : s.manager.isReady = false := by
        rw [← Manager.isSome_turn env, turned]
        rfl
      cases on : s.manager.ended with
      | true => exact (nobody on).of_drop (List.drop_subset _ _)
      | false =>
          have empty : s.manager.inbox = [] := by simp_all [Manager.isReady]
          exact before.of_drop (by simp [empty])
  | some result =>
      obtain ⟨m, effects⟩ := result
      obtain ⟨-, ⟨message, rest, -, next, handled⟩ | ⟨rest, -, stopped⟩⟩ :=
        Manager.turn_outcomes turned
      · have inbox : m.inbox = rest := by
          rw [← (Prod.mk.inj handled).1]
        refine before.of_drop ?_
        obtain queue | ⟨queue, rfl, -⟩ := next
        · cases n <;> simp [inbox, queue]
        · simp [inbox]
      · rw [Manager.stop_eq env (m := { s.manager with inbox := rest }) sound.done] at stopped
        rw [← (Prod.mk.inj stopped).1]
        exact before.of_drop (by simp)

end Waiting

/-! ## Every packet -/

namespace Ledger

variable {env : Surroundings W} {s next : Session W} {front back front' back' : List Request}

/-- Nobody waits after the end. -/
theorem nobody (before : s.Ledger front back) (ended : s.manager.ended = true)
    (early : List Request) : s.Ahead early 0 := by
  intro request inside waits
  cases before.standing with
  | running _ _ on => simp [on] at ended
  | finished _ _ split handled done queue =>
      have concerned : request.message ∈ s.manager.inbox.filter Message.concernsPackets :=
        List.mem_filter.mpr ⟨waits, rfl⟩
      simp [queue] at concerned

theorem filed_subset (before : s.Ledger front back) (after : next.Ledger front' back')
    (grown : Grown s.manager.stopping (front, back) (front', back')) :
    s.filed ⊆ next.filed := by
  rw [before.filed, after.filed]
  exact List.append_subset.mpr ⟨List.subset_append_of_subset_left _ grown.front.subset,
    List.subset_append_of_subset_right _ grown.back.subset⟩

/-- Each turn of the actor brings a caller one place forward, whatever happens between. -/
theorem ahead_run (env : Surroundings W) (before : s.Ledger front back) (sound : s.Sound)
    {early : List Request} (known : early ⊆ s.filed) {n : Nat} (ahead : s.Ahead early n)
    (actions : List (Action W)) :
    (s.run env actions).Ahead early (n - actions.countP Action.isTurn) := by
  induction actions generalizing s front back n with
  | nil => exact ahead
  | cons action rest ih =>
      obtain ⟨front', back', after, grown⟩ := before.step env sound action
      have later : early ⊆ (s.step env action).filed :=
        List.Subset.trans known (before.filed_subset after grown)
      have runs : s.run env (action :: rest) = (s.step env action).run env rest := rfl
      rw [runs, List.countP_cons]
      by_cases acts : action = .turn
      · subst acts
        have moved := ahead.turn env sound fun ended => before.nobody ended early
        have counted : n - (rest.countP Action.isTurn + 1) =
            n - 1 - rest.countP Action.isTurn := by omega
        simpa [Action.isTurn, counted] using ih after (sound.step .turn) later moved
      · have still : action.isTurn = false := by cases action <;> simp_all [Action.isTurn]
        have kept := ahead.step env sound known acts
        simpa [still] using ih after (sound.step action) later kept

/-- Requests on different sides are different. -/
theorem apart (before : s.Ledger front back) (distinct : (s.filed.map Request.ticket).Nodup)
    {request : Request} (ahead : request ∈ front) : request ∉ back := by
  intro behind
  rw [before.filed, List.map_append, List.nodup_append] at distinct
  exact distinct.2.2 _ (List.mem_map_of_mem ahead) _ (List.mem_map_of_mem behind) rfl

/-- The requests of a session are settled in order, and the others wait. Exactly those at
the back are dropped. -/
theorem account (before : s.Ledger front back) (distinct : (s.filed.map Request.ticket).Nodup) :
    ∃ settled waiting, s.filed = settled.map Prod.fst ++ waiting ∧
      deliveries s.trace = settling settled ∧
      s.manager.inbox.filter Message.isPacket = waiting.map Request.message ∧
      (s.manager.ended = true → waiting = []) ∧
      ∀ entry ∈ settled, entry.2 = .dropped ↔ entry.1 ∈ back := by
  have kept {taken : List (Request × Fate)} (handled : ∀ entry ∈ taken, entry.2 ≠ .dropped)
      (ahead : taken.map Prod.fst ⊆ front) (entry : Request × Fate) (inside : entry ∈ taken) :
      entry.2 = .dropped ↔ entry.1 ∈ back := by
    have front := ahead (List.mem_map_of_mem inside)
    simp [handled entry inside, before.apart distinct front]
  cases before.standing with
  | running taken waiting on split handled done queue =>
      refine ⟨taken, waiting ++ back, ?_, done, ?_, ?_, kept handled ?_⟩
      · rw [before.filed, split, List.append_assoc]
      · rw [Message.filter_isPacket, queue]
        cases stopping : s.manager.stopping with
        | true => simp [List.filter_cons_of_neg, Message.isPacket]
        | false => simp [before.unmarked stopping]
      · simp [on]
      · rw [split]
        exact List.subset_append_left _ _
  | finished taken ended split handled done queue =>
      refine ⟨taken ++ dropping back, [], ?_, done, ?_, fun _ => rfl, ?_⟩
      · rw [before.filed, split]
        simp
      · rw [Message.filter_isPacket, queue]
        rfl
      · intro entry inside
        obtain early | late := List.mem_append.mp inside
        · exact kept handled (by rw [split]; exact List.Subset.refl _) entry early
        · obtain ⟨request, behind, rfl⟩ := List.mem_map.mp late
          simp [behind]

/-- Seen from an earlier moment, what was filed before there was a marker stands in front
of it, and what is filed once there is one stands behind. -/
theorem sides (before : s.Ledger front back) (after : next.Ledger front' back')
    (grown : Grown s.manager.stopping (front, back) (front', back'))
    (distinct : (next.filed.map Request.ticket).Nodup) {request : Request} :
    (s.manager.stopping = false → request ∈ s.filed → request ∉ back') ∧
      (s.manager.stopping = true → request ∈ next.filed → request ∉ s.filed →
        request ∈ back') := by
  rw [before.filed, after.filed]
  constructor
  · intro unmarked known
    rw [before.unmarked unmarked, List.append_nil] at known
    exact after.apart distinct (grown.front.subset known)
  · intro marked known new
    obtain ahead | behind := List.mem_append.mp known
    · have same : front' = front := grown.fixed marked
      rw [same] at ahead
      exact absurd (List.mem_append_left _ ahead) new
    · exact behind

end Ledger

/-- Who was filed and does not wait is settled. -/
theorem Ahead.settled {s : Session W} {early waiting : List Request}
    {settled : List (Request × Fate)} (ahead : s.Ahead early 0) (known : early ⊆ s.filed)
    (filed : s.filed = settled.map Prod.fst ++ waiting)
    (queue : s.manager.inbox.filter Message.isPacket = waiting.map Request.message) :
    ∀ request ∈ early, ∃ fate, (request, fate) ∈ settled := by
  intro request inside
  have mine := known inside
  rw [filed] at mine
  obtain done | waits := List.mem_append.mp mine
  · obtain ⟨⟨_, fate⟩, entry, rfl⟩ := List.mem_map.mp done
    exact ⟨fate, entry⟩
  · have queued : request.message ∈ s.manager.inbox.filter Message.isPacket := by
      rw [queue]
      exact List.mem_map_of_mem waits
    exact absurd (List.mem_filter.mp queued).1 (ahead request inside)

/-- A turn that takes up the packet of a request answers it, and leaves the machine as it
is. -/
theorem Ledger.turn_request {env : Surroundings W} {s : Session W} {front back : List Request}
    (before : s.Ledger front back) (sound : s.Sound) {request : Request}
    {rest : List Message} (queue : s.manager.inbox = request.message :: rest) :
    (s.step env .turn).manager.machine = s.manager.machine ∧
      (s.step env .turn).trace =
        s.trace ++ request.handling env s.manager.world s.manager.snapshot := by
  have on : s.manager.ended = false := by
    rw [← Bool.not_eq_true]
    intro ended
    exact before.nobody ended [request] request (by simp) (by simp [queue])
  have turned : s.manager.turn env =
      some ({ s.manager with inbox := rest }.handle env request.message) := by
    simp [Manager.turn, on, queue, Request.message]
  obtain ⟨machine, effects⟩ := Machine.handle_request env s.manager.deadline s.manager.world
    sound.lawful.legal sound.done request
  simp only [Session.step, turned]
  exact ⟨machine, congrArg (s.trace ++ ·) effects⟩

/-- The packet of a caller whose check has passed is filed while the actor runs, whatever has
become of the device meanwhile. -/
theorem step_queue_of_running (env : Surroundings W) {s : Session W}
    (running : s.manager.ended = false) {n : Nat} {device : Address} {packet : Packet}
    (checked : s.checked[n]? = some (device, packet)) :
    let request : Request := ⟨s.manager.tickets, device, packet⟩
    (s.step env (.queue n)).filed = s.filed ++ [request] ∧
      (s.step env (.queue n)).manager.inbox = s.manager.inbox ++ [request.message] := by
  simp [step, checked, file_of_running, running, Request.message]

/-- Sending to a connected device that nothing overtakes is a check and then the packet filed. -/
theorem send_of_running (env : Surroundings W) {s : Session W} (running : s.manager.ended = false)
    {device : Address} (connected : s.manager.connectionOf device = .connected)
    (packet : Packet) :
    let checked := s.step env (.check device packet)
    checked.checked = s.checked ++ [(device, packet)] ∧
      s.manager.send device packet =
        (.ok s.manager.tickets, (checked.step env (.queue s.checked.length)).manager) := by
  simp [step, connected, file_of_running, running, Manager.send, Manager.enqueue, Outcome.done]

end Session

/-- In every session, and seen from every earlier moment of it, each request that was
filed is settled once or waits, in the order of filing: what was done for packets is, one
after the other, all that is done for the settled requests, and the packets in the queue
are those of the others. So each packet is given to the radio at most once, as it is.

A call for the connected device is filed while the actor runs, also if the link changes between its
check and its filing. Nobody waits after the end, or when the actor has had as many turns as there
were messages in the queue. A packet that is taken up goes to the connected device, whose answer is
the result, or is refused if there is none. What was filed behind a shutdown is dropped, and what
was filed ahead of it is not; after the end nothing can be filed. Neither filing a packet nor
handling it touches the machine, and nothing else is done meanwhile. -/
theorem sends_answered_once (env : Surroundings W) (world : W) (timeout : Nat)
    (past actions : List (Action W)) :
    let early := (Session.initial world timeout).run env past
    let s := early.run env actions
    (s.filed.map Request.ticket).Nodup ∧
      (∃ settled waiting, s.filed = settled.map Prod.fst ++ waiting ∧
        deliveries s.trace = settling settled ∧
        s.manager.inbox.filter Message.isPacket = waiting.map Request.message ∧
        (s.manager.ended = true → waiting = []) ∧
        (early.manager.inbox.length ≤ actions.countP Action.isTurn →
          ∀ request ∈ early.filed, ∃ fate, (request, fate) ∈ settled) ∧
        (early.manager.stopping = false →
          ∀ entry ∈ settled, entry.1 ∈ early.filed → entry.2 ≠ .dropped) ∧
        (early.manager.stopping = true →
          ∀ entry ∈ settled, entry.1 ∉ early.filed → entry.2 = .dropped)) ∧
      (∀ request ∈ s.filed, ∀ part rest, s.trace = part ++ .took request.message :: rest →
        Settles (visible part) request.packet request.ticket rest) ∧
      (s.manager.ended = true →
        ∀ packet, (s.manager.queueSend packet).1 = .error .managerShutdown) ∧
      (s.manager.ended = false →
        (∀ device, s.manager.connectionOf device = .connected → ∀ packet,
          let checked := s.step env (.check device packet)
          checked.checked = s.checked ++ [(device, packet)] ∧
            s.manager.send device packet =
              (.ok s.manager.tickets, (checked.step env (.queue s.checked.length)).manager)) ∧
          ∀ n device packet, s.checked[n]? = some (device, packet) →
            let request : Request := ⟨s.manager.tickets, device, packet⟩
            (s.step env (.queue n)).filed = s.filed ++ [request] ∧
              (s.step env (.queue n)).manager.inbox = s.manager.inbox ++ [request.message]) ∧
      (∀ device packet, (s.step env (.check device packet)).manager = s.manager) ∧
      (∀ n, (s.step env (.queue n)).manager.machine = s.manager.machine ∧
        (s.step env (.queue n)).trace = s.trace) ∧
      ∀ (request : Request) (rest : List Message), s.manager.inbox = request.message :: rest →
        (s.step env .turn).manager.machine = s.manager.machine ∧
          (s.step env .turn).trace =
            s.trace ++ request.handling env s.manager.world s.manager.snapshot := by
  intro early s
  have sound₀ : early.Sound := (Session.Sound.initial world timeout).run past
  have sound : s.Sound := sound₀.run actions
  obtain ⟨front, back, before, -⟩ := (Session.Ledger.initial world timeout).run
    (Session.Sound.initial world timeout) past
  obtain ⟨front', back', after, grown⟩ := before.run sound₀ actions
  refine ⟨sound.distinct, ?_, fun request _ part rest => sound.settles, ?_, ?_, ?_, ?_, ?_⟩
  · obtain ⟨settled, waiting, filed, done, queue, nobody, dropped⟩ :=
      after.account sound.distinct
    refine ⟨settled, waiting, filed, done, queue, nobody, ?_, ?_, ?_⟩
    · intro turns
      have first : early.Ahead early.filed early.manager.inbox.length := by
        intro request _ waits
        simp at waits
      have ahead := before.ahead_run env sound₀ (List.Subset.refl _) first actions
      rw [Nat.sub_eq_zero_of_le turns] at ahead
      exact ahead.settled (before.filed_subset after grown) filed queue
    · intro unmarked entry inside known
      rw [Ne, dropped entry inside]
      exact (before.sides after grown sound.distinct).1 unmarked known
    · intro marked entry inside new
      rw [dropped entry inside]
      refine (before.sides after grown sound.distinct).2 marked ?_ new
      rw [filed]
      exact List.mem_append_left _ (List.mem_map_of_mem inside)
  · intro ended packet
    simp [Manager.queueSend, Manager.enqueue, ended]
  · intro running
    exact ⟨fun device connected => Session.send_of_running env running connected,
      fun n device packet => Session.step_queue_of_running env running⟩
  · intro device packet
    simp only [Session.step]
    split <;> rfl
  · intro n
    exact s.step_keeps env (by simp)
  · intro request rest queue
    exact after.turn_request sound queue

end AccessoryLink
