import AccessoryLink.Channel.Relay

/-!
# Packets on their way out

A packet that is offered to a relay is accepted into a queue, and the writer hands it to the
socket some time later. Both are read off a run: what was accepted, call by call, and what the
writer turned to the socket with. One step keeps the balance between them (`flow_act`): what
waits, with what is accepted, is what is handed out, with what waits then. So as long as the
writer runs, no accepted packet is lost, and the queue holds exactly those that were not
handed out yet (`flow_run`).
-/

namespace AccessoryLink

/-- What may happen to a relay: somebody offers a packet for sending, the user asks for what
was received, one of the tasks takes a step, or one side is given up. Clones of a sender are
not told apart. -/
inductive RelayAction where
  | send (packet : Packet)
  | receive
  | step (step : RelayStep)
  | dropReceiver
  | dropSender
  | abort
  deriving Repr, DecidableEq

namespace Relay

variable {r : Relay} {packet : Packet}

/-- Lets something happen. -/
def act (r : Relay) : RelayAction → Relay
  | .send packet => (r.send packet).2
  | .receive => r.receive.2
  | .step step => r.step step
  | .dropReceiver => r.dropReceiver
  | .dropSender => r.dropSender
  | .abort => r.abort

/-- Lets several things happen in a row. -/
def run (r : Relay) (actions : List RelayAction) : Relay := actions.foldl act r

/-- The packet that is accepted when something happens. -/
def accepts (r : Relay) : RelayAction → List Packet
  | .send packet => if (r.send packet).1 = .done then [packet] else []
  | _ => []

/-- The packet that the writer turns to the socket with when something happens. -/
def hands (r : Relay) (action : RelayAction) : List Packet :=
  match r.writer, (r.act action).writer with
  | .waiting, .sending packet => [packet]
  | _, _ => []

/-- The packets that are accepted in a run, in order of acceptance. -/
def accepted (r : Relay) : List RelayAction → List Packet
  | [] => []
  | action :: rest => r.accepts action ++ (r.act action).accepted rest

/-- The packets that are handed to the socket in a run, in order. -/
def handed (r : Relay) : List RelayAction → List Packet
  | [] => []
  | action :: rest => r.hands action ++ (r.act action).handed rest

/-- The queue of a relay is open while its writer runs, and never overfull. -/
structure Orderly (r : Relay) : Prop where
  depth : r.outgoing.depth = relayDepth
  room : r.outgoing.packets.length ≤ relayDepth
  isOpen : r.outgoing.isOpen = true ↔ r.writer ≠ .stopped

theorem orderly_initial : initial.Orderly :=
  ⟨rfl, Nat.zero_le _, by simp [initial, PacketQueue.ofDepth]⟩

/-! ## One thing that happens -/

/-- Everything but the writer and its queue may change freely. -/
theorem Orderly.congr {next : Relay} (orderly : r.Orderly) (outgoing : next.outgoing = r.outgoing)
    (writer : next.writer = r.writer) : next.Orderly := by
  refine ⟨?_, ?_, ?_⟩
  · rw [outgoing]
    exact orderly.depth
  · rw [outgoing]
    exact orderly.room
  · rw [outgoing, writer]
    exact orderly.isOpen

/-- A writer that stops gives its queue up. -/
theorem Orderly.stop {next : Relay} (orderly : r.Orderly)
    (outgoing : next.outgoing = r.outgoing.close) (writer : next.writer = .stopped) :
    next.Orderly := by
  refine ⟨?_, ?_, ?_⟩
  · rw [outgoing]
    exact orderly.depth
  · rw [outgoing]
    exact Nat.zero_le _
  · rw [outgoing, writer]
    simp [PacketQueue.close]

/-- What is offered is refused where the writer has stopped, and where the queue is full; it is
put at the end of the queue otherwise. A refusal changes nothing. -/
theorem Orderly.send_cases (orderly : r.Orderly) (packet : Packet) :
    (r.writer = .stopped ∧ r.send packet = (.error .channelClosed, r)) ∨
      (r.writer ≠ .stopped ∧ r.outgoing.packets.length = relayDepth ∧
        r.send packet = (.error (.system .wouldBlock), r)) ∨
      r.writer ≠ .stopped ∧ r.outgoing.packets.length < relayDepth ∧
        r.send packet = (.done,
          { r with
            outgoing := { r.outgoing with packets := r.outgoing.packets ++ [packet] } }) := by
  by_cases stopped : r.writer = .stopped
  · have closed : r.outgoing.isOpen = false := by simpa [stopped] using orderly.isOpen
    exact .inl ⟨stopped, by simp [send, PacketQueue.offer, closed]⟩
  · have isOpen := orderly.isOpen.mpr stopped
    obtain full | room := Nat.eq_or_lt_of_le orderly.room
    · refine .inr (.inl ⟨stopped, full, ?_⟩)
      simp [send, PacketQueue.offer, isOpen, full, orderly.depth]
    · refine .inr (.inr ⟨stopped, room, ?_⟩)
      simp [send, PacketQueue.offer, isOpen, room, orderly.depth]

/-- What becomes of the packets on their way out when something happens. -/
inductive Flows (r : Relay) (action : RelayAction) : Prop where
  /-- The writer has stopped, and nothing goes in or out. -/
  | stopped (stopped : (r.act action).writer = .stopped) (refused : r.accepts action = [])
      (silent : r.hands action = [])
  /-- What waited goes out or waits on, ahead of what is accepted. -/
  | running (before : r.writer ≠ .stopped) (after : (r.act action).writer ≠ .stopped)
      (balance : r.outgoing.packets ++ r.accepts action =
        r.hands action ++ (r.act action).outgoing.packets)

/-- Something happens that leaves the queue in order and loses no packet unseen. -/
structure Balanced (r : Relay) (action : RelayAction) : Prop where
  orderly : (r.act action).Orderly
  flows : r.Flows action

/-- A writer that stays where it is hands nothing out. -/
theorem hands_kept {action : RelayAction} (writer : (r.act action).writer = r.writer) :
    r.hands action = [] := by
  unfold hands
  rw [writer]
  split
  · simp_all
  · rfl

namespace Orderly

variable (orderly : r.Orderly)
include orderly

/-- Nothing goes in or out where the writer and its queue are left alone. -/
theorem alone {action : RelayAction} (outgoing : (r.act action).outgoing = r.outgoing)
    (writer : (r.act action).writer = r.writer) (refused : r.accepts action = []) :
    r.Balanced action where
  orderly := orderly.congr outgoing writer
  flows := by
    have silent := hands_kept writer
    by_cases stopped : r.writer = .stopped
    · exact .stopped (writer.trans stopped) refused silent
    · refine .running stopped (writer ▸ stopped) ?_
      rw [refused, silent, outgoing, List.append_nil, List.nil_append]

theorem unchanged {action : RelayAction} (same : r.act action = r)
    (refused : r.accepts action = []) : r.Balanced action :=
  orderly.alone (by rw [same]) (by rw [same]) refused

/-- Nothing is handed out where the writer stops. -/
theorem stops {action : RelayAction} (outgoing : (r.act action).outgoing = r.outgoing.close)
    (writer : (r.act action).writer = .stopped) (refused : r.accepts action = []) :
    r.Balanced action where
  orderly := orderly.stop outgoing writer
  flows := by
    refine .stopped writer refused ?_
    unfold hands
    rw [writer]
    split <;> trivial

/-- What is accepted waits behind all others. -/
theorem balanced_send (packet : Packet) : r.Balanced (.send packet) := by
  obtain ⟨-, answer⟩ | ⟨-, -, answer⟩ | ⟨runs, room, answer⟩ := orderly.send_cases packet
  · exact orderly.unchanged (by rw [act, answer]) (by simp [accepts, answer, Outcome.done])
  · exact orderly.unchanged (by rw [act, answer]) (by simp [accepts, answer, Outcome.done])
  · have kept : (r.act (.send packet)).writer = r.writer := by rw [act, answer]
    refine ⟨⟨?_, ?_, ?_⟩, .running runs (kept ▸ runs) ?_⟩
    · simp [act, answer, orderly.depth]
    · simpa [act, answer] using Nat.succ_le_of_lt room
    · simpa [act, answer] using orderly.isOpen
    · rw [hands_kept kept, act, answer]
      simp [accepts, answer]

/-- The writer hands out what has waited longest. -/
theorem balanced_take : r.Balanced (.step .take) := by
  cases writer : r.writer with
  | waiting =>
      cases waiting : r.outgoing.packets with
      | nil =>
          cases sender : r.hasSender with
          | true =>
              refine orderly.unchanged ?_ rfl
              simp [act, step, take, writer, waiting, sender]
          | false =>
              have same : r.act (.step .take) = r.stopWriter := by
                simp [act, step, take, writer, waiting, sender]
              exact orderly.stops (by rw [same]; rfl) (by rw [same]; rfl) rfl
      | cons packet rest =>
          have same : r.act (.step .take) =
              { r with
                writer := .sending packet
                outgoing := { r.outgoing with packets := rest } } := by
            simp [act, step, take, writer, waiting]
          have isOpen := orderly.isOpen.mpr (by simp [writer])
          have room := orderly.room
          rw [waiting, List.length_cons] at room
          refine ⟨?_, .running (by simp [writer]) (by simp [same]) ?_⟩
          · rw [same]
            exact ⟨orderly.depth, Nat.le_of_succ_le room, by simp [isOpen]⟩
          · simp [hands, accepts, same, writer, waiting]
  | sending packet => exact orderly.unchanged (by simp [act, step, take, writer]) rfl
  | stopped => exact orderly.unchanged (by simp [act, step, take, writer]) rfl

/-- The writer goes on to the next packet, or stops with what waits for it. -/
theorem balanced_wrote (accepted : Bool) : r.Balanced (.step (.wrote accepted)) := by
  cases writer : r.writer with
  | sending packet =>
      cases accepted with
      | true =>
          have same : r.act (.step (.wrote true)) = { r with writer := .waiting } := by
            simp [act, step, writer]
          have isOpen := orderly.isOpen.mpr (by simp [writer])
          refine ⟨?_, .running (by simp [writer]) (by simp [same]) ?_⟩
          · rw [same]
            exact ⟨orderly.depth, orderly.room, by simp [isOpen]⟩
          · simp [hands, accepts, same, writer]
      | false =>
          have same : r.act (.step (.wrote false)) = r.stopWriter := by
            simp [act, step, writer]
          exact orderly.stops (by rw [same]; rfl) (by rw [same]; rfl) rfl
  | waiting | stopped => exact orderly.unchanged (by simp [act, step, writer]) rfl

/-- Whatever happens, the queue stays in order and the balance is kept. -/
theorem balanced (action : RelayAction) : r.Balanced action := by
  cases action with
  | send packet => exact orderly.balanced_send packet
  | receive =>
      have kept : r.receive.2.outgoing = r.outgoing ∧ r.receive.2.writer = r.writer := by
        unfold receive
        split <;> exact ⟨rfl, rfl⟩
      exact orderly.alone kept.1 kept.2 rfl
  | step step =>
      cases step with
      | read reading =>
          have kept : (r.step (.read reading)).outgoing = r.outgoing ∧
              (r.step (.read reading)).writer = r.writer := by
            simp only [Relay.step]
            split <;> exact ⟨rfl, rfl⟩
          exact orderly.alone kept.1 kept.2 rfl
      | deliver =>
          have kept : r.deliver.outgoing = r.outgoing ∧ r.deliver.writer = r.writer := by
            unfold deliver
            split
            · split
              · exact ⟨rfl, rfl⟩
              · split <;> exact ⟨rfl, rfl⟩
            · exact ⟨rfl, rfl⟩
          exact orderly.alone kept.1 kept.2 rfl
      | take => exact orderly.balanced_take
      | wrote accepted => exact orderly.balanced_wrote accepted
  | dropReceiver => exact orderly.alone rfl rfl rfl
  | dropSender => exact orderly.alone rfl rfl rfl
  | abort => exact orderly.stops rfl rfl rfl

/-! ## A whole run -/

theorem run (actions : List RelayAction) : (r.run actions).Orderly := by
  induction actions generalizing r with
  | nil => exact orderly
  | cons action rest ih => exact ih (orderly.balanced action).orderly

/-- A writer that has stopped never runs again. -/
theorem stopped_run (stopped : r.writer = .stopped) (actions : List RelayAction) :
    (r.run actions).writer = .stopped := by
  induction actions generalizing r with
  | nil => exact stopped
  | cons action rest ih =>
      obtain ⟨next, flows⟩ := orderly.balanced action
      cases flows with
      | stopped stays => exact ih next stays
      | running before => exact absurd stopped before

/-- Behind a writer that has stopped nothing is accepted or handed out. -/
theorem silent_run (stopped : r.writer = .stopped) (actions : List RelayAction) :
    r.accepted actions = [] ∧ r.handed actions = [] := by
  induction actions generalizing r with
  | nil => exact ⟨rfl, rfl⟩
  | cons action rest ih =>
      obtain ⟨next, flows⟩ := orderly.balanced action
      cases flows with
      | stopped stays refused silent =>
          obtain ⟨accepted, handed⟩ := ih next stays
          simp [Relay.accepted, Relay.handed, refused, silent, accepted, handed]
      | running before => exact absurd stopped before

/-- What waited, with all that is accepted in a run, is all that is handed out, with what is
left at the end. That waits in the queue as long as the writer runs. -/
theorem balance_run (actions : List RelayAction) :
    ∃ left, r.outgoing.packets ++ r.accepted actions = r.handed actions ++ left ∧
      ((r.run actions).writer ≠ .stopped → (r.run actions).outgoing.packets = left) := by
  induction actions generalizing r with
  | nil => exact ⟨r.outgoing.packets, by simp [Relay.accepted, Relay.handed], fun _ => rfl⟩
  | cons action rest ih =>
      obtain ⟨next, flows⟩ := orderly.balanced action
      cases flows with
      | stopped stays refused silent =>
          obtain ⟨accepted, handed⟩ := next.silent_run stays rest
          refine ⟨r.outgoing.packets, ?_, fun runs => absurd (next.stopped_run stays rest) runs⟩
          simp [Relay.accepted, Relay.handed, refused, silent, accepted, handed]
      | running before after balance =>
          obtain ⟨left, kept, waits⟩ := ih next
          refine ⟨left, ?_, waits⟩
          calc
            r.outgoing.packets ++ r.accepted (action :: rest)
                = (r.outgoing.packets ++ r.accepts action) ++ (r.act action).accepted rest := by
              simp [Relay.accepted]
            _ = r.hands action ++ ((r.act action).outgoing.packets ++
                  (r.act action).accepted rest) := by rw [balance, List.append_assoc]
            _ = r.handed (action :: rest) ++ left := by rw [kept]; simp [Relay.handed]

end Orderly

/-- At every moment of every run of a relay, whoever offers packets and whatever becomes of the
socket: what was handed to the socket is the beginning of what was accepted, packet by packet
and in order of acceptance; as long as the writer runs, the rest of it waits in the queue. An
offer is accepted if the writer runs and less than 128 packets wait. It would block if the
writer runs and 128 accepted packets wait, and the channel is closed once the writer has
stopped, then and ever after. An offer that is refused changes nothing, so that no later step
can hand it out. -/
theorem packets_leave_in_order (actions : List RelayAction) :
    let r := initial.run actions
    (initial.handed actions <+: initial.accepted actions ∧
        (r.writer ≠ .stopped →
          initial.accepted actions = initial.handed actions ++ r.outgoing.packets)) ∧
      ∀ packet,
        ((r.send packet).1 = .done ∧ r.writer ≠ .stopped ∧ r.outgoing.packets.length < 128 ∨
          (r.send packet).1 = .error (.system .wouldBlock) ∧ r.writer ≠ .stopped ∧
            r.outgoing.packets.length = 128 ∧ r.act (.send packet) = r ∨
          (r.send packet).1 = .error .channelClosed ∧ r.act (.send packet) = r ∧
            r.writer = .stopped) ∧
          (r.writer = .stopped → ∀ later,
            ((r.run later).send packet).1 = .error .channelClosed) := by
  intro r
  have orderly : r.Orderly := orderly_initial.run actions
  obtain ⟨left, balance, waits⟩ := orderly_initial.balance_run actions
  have whole : initial.accepted actions = initial.handed actions ++ left := by
    simpa [initial, PacketQueue.ofDepth] using balance
  refine ⟨⟨⟨left, whole.symm⟩, fun runs => by rw [waits runs, whole]⟩, fun packet => ⟨?_, ?_⟩⟩
  · obtain ⟨stopped, answer⟩ | ⟨runs, full, answer⟩ | ⟨runs, room, answer⟩ :=
      orderly.send_cases packet
    · exact .inr (.inr ⟨by rw [answer], by rw [act, answer], stopped⟩)
    · exact .inr (.inl ⟨by rw [answer], runs, full, by rw [act, answer]⟩)
    · exact .inl ⟨by rw [answer], runs, room⟩
  · intro stopped later
    have stays := orderly.stopped_run stopped later
    obtain ⟨-, answer⟩ | ⟨runs, -⟩ | ⟨runs, -⟩ := (orderly.run later).send_cases packet
    · rw [answer]
    · exact absurd stays runs
    · exact absurd stays runs

end Relay

end AccessoryLink
