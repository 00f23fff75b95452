import AccessoryLink.Proofs.Manager.Session

/-!
# Where packets go

A caller names the device that a packet is for, and sending checks that this device is
connected. What is queued is the packet alone: when its turn comes, it goes to
whatever device is connected then.

`packets_reach_connected` says exactly what comes of each packet in every session,
whatever happens between the check, the queueing and the turn. A packet is for the
named device just when that device, or no device, is connected at its turn.
`packet_misdirected` is a session where another one is.
-/

namespace AccessoryLink

variable {W : Type}

/-! ## Handling a message -/

/-- No packet is taken up in a trace, and none is sent. -/
structure SendFree (trace : List Effect) : Prop where
  took : ∀ packet ticket, .took (.send packet ticket) ∉ trace
  called : ∀ device packet answer, .called (.send device packet) answer ∉ trace

theorem SendFree.append {past next : List Effect} (before : SendFree past)
    (after : SendFree next) :
    SendFree (past ++ next) := by
  constructor
  · intro packet ticket inside
    obtain early | late := List.mem_append.mp inside
    · exact before.took packet ticket early
    · exact after.took packet ticket late
  · intro device packet answer inside
    obtain early | late := List.mem_append.mp inside
    · exact before.called device packet answer early
    · exact after.called device packet answer late

/-- What the trace shows after a packet was taken up under some snapshot: it goes to
the connected device, or is refused if there is none. -/
def Settles (s : Snapshot) (packet : Packet) (ticket : Ticket) (rest : List Effect) :
    Prop :=
  match s.connectedDevice? with
  | some device => ∃ answer later,
      rest = .called (.send device packet) answer :: .answered ticket answer :: later
  | none => ∃ later, rest = .answered ticket (.error .deviceNotConnected) :: later

theorem Settles.append {s : Snapshot} {packet : Packet} {ticket : Ticket}
    {rest : List Effect} (settled : Settles s packet ticket rest) (next : List Effect) :
    Settles s packet ticket (rest ++ next) := by
  unfold Settles at *
  split at settled
  · obtain ⟨answer, later, rfl⟩ := settled
    exact ⟨answer, later ++ next, rfl⟩
  · obtain ⟨later, rfl⟩ := settled
    exact ⟨later ++ next, rfl⟩

/-- If anything is sent for a packet, it is that packet, to the connected device. -/
theorem Settles.sent {s : Snapshot} {packet other : Packet} {ticket : Ticket}
    {device : Address} {answer : Outcome} {later : List Effect}
    (settled : Settles s packet ticket (.called (.send device other) answer :: later)) :
    s.connectedDevice? = some device ∧ other = packet := by
  unfold Settles at settled
  split at settled
  · rename_i current connected
    obtain ⟨_, _, same⟩ := settled
    obtain ⟨rfl, rfl⟩ := Call.send.inj (Effect.called.inj (List.cons.inj same).1).1
    exact ⟨connected, rfl⟩
  · obtain ⟨_, refused⟩ := settled
    cases refused

theorem Manager.Farewell.sendFree {trace : List Effect} (farewell : Farewell trace) :
    SendFree trace := by
  constructor
  · intro packet ticket
    exact farewell.absent (by simp) (by simp)
  · intro device packet answer
    exact farewell.absent (by simp) (by simp)

namespace Machine

variable {env : Surroundings W} {deadline : Nat} {m : Machine} {w : W} {message : Message}
  {after : Turn W}

/-- A step that takes up no packet sends none. -/
theorem Step.sendFree (step : Step env deadline m w message after)
    (other : ∀ packet ticket, .send packet ticket ≠ message) : SendFree after.effects := by
  constructor
  all_goals
    cases step
    all_goals simp_all

/-- Packets are never released: only commands and the expiry of an attempt are. -/
theorem Step.no_send_released (step : Step env deadline m w message after) {packet : Packet}
    {ticket : Option Ticket} (held : .send packet ticket ∈ after.machine.replay) :
    .send packet ticket ∈ m.replay := by
  cases step
  all_goals simp_all [entered, armed, deferring, withService]

/-- Handling anything but a packet sends none, whatever it releases. -/
theorem sendFree_handle (legal : m.snapshot.Legal) (done : m.replay = [])
    (other : ∀ packet ticket, .send packet ticket ≠ message) :
    SendFree (handle env deadline m w message).effects := by
  have first : Step env deadline m w message _ := step_process legal message
  let free (past : List Effect) (m : Machine) (_ : W) : Prop :=
    m.snapshot.Legal ∧ (∀ packet ticket, .send packet ticket ∉ m.replay) ∧ SendFree past
  have kept : free ([] ++ (handle env deadline m w message).effects)
      (handle env deadline m w message).machine
      (handle env deadline m w message).world := by
    refine replayAll_invariant (P := free) And.left ?_ _
      ⟨first.legal legal, ?_, first.sendFree other⟩
    · rintro past m w released rest after held ⟨legal, none, quiet⟩ step
      rw [held] at none
      have other : ∀ packet ticket, .send packet ticket ≠ released := by
        rintro packet ticket rfl
        exact none packet ticket List.mem_cons_self
      refine ⟨step.legal legal, ?_, quiet.append (step.sendFree other)⟩
      intro packet ticket inside
      exact none packet ticket (List.mem_cons_of_mem _ (step.no_send_released inside))
    · intro packet ticket inside
      simpa [done] using first.no_send_released inside
  exact kept.2.2

/-- Handling a packet leaves the machine as it is, and does nothing but answer: the packet
is refused, or the radio is given it and its answer is passed on. -/
theorem handle_packet (env : Surroundings W) (deadline : Nat) (w : W)
    (legal : m.snapshot.Legal) (done : m.replay = []) (packet : Packet)
    (ticket : Option Ticket) :
    (m.snapshot.state ≠ .connected ∧
        handle env deadline m w (.send packet ticket) =
          ⟨m, w,
            .took (.send packet ticket) :: Effect.reply ticket (.error .deviceNotConnected)⟩) ∨
      ∃ current service answer w', m.snapshot = ⟨.connected, .current current, service⟩ ∧
        env.send w current packet = (answer, w') ∧
        handle env deadline m w (.send packet ticket) =
          ⟨m, w', .took (.send packet ticket) :: .called (.send current packet) answer ::
            Effect.reply ticket answer⟩ := by
  have step : Step env deadline m w (.send packet ticket) _ := step_process legal _
  generalize processed : process env deadline m w (.send packet ticket) = after at step
  have alone : after.machine.replay = [] →
      handle env deadline m w (.send packet ticket) = after := by
    intro settled
    rw [← processed] at settled ⊢
    exact handle_of_replay_nil settled
  cases step with
  | ignored idle => exact idle.elim
  | sendFailed _ _ down => exact .inl ⟨down, alone done⟩
  | sent _ _ before call => exact .inr ⟨_, _, _, _, before, call, alone done⟩

/-- Handling a packet gives it to the connected device, or refuses it if there is
none. -/
theorem handle_send (env : Surroundings W) (deadline : Nat) (w : W)
    (legal : m.snapshot.Legal) (done : m.replay = []) (packet : Packet)
    (ticket : Ticket) :
    ∃ rest, (handle env deadline m w (.send packet (some ticket))).effects =
        .took (.send packet (some ticket)) :: rest ∧
      Settles m.snapshot packet ticket rest ∧ (∀ other, .took other ∉ rest) ∧
      ∀ device other answer, .called (.send device other) answer ∉ rest.tail := by
  obtain ⟨down, handled⟩ | ⟨current, service, answer, w', before, -, handled⟩ :=
    handle_packet env deadline w legal done packet (some ticket)
  · rw [handled]
    refine ⟨_, rfl, ?_, by simp, by simp [Effect.reply]⟩
    simp [Settles, Snapshot.connectedDevice?, down, Effect.reply]
  · rw [handled]
    refine ⟨_, rfl, ?_, by simp, by simp⟩
    simp [Settles, Snapshot.connectedDevice?, before, Roles.current?, Effect.reply]

end Machine

/-! ## The trace of a session -/

/-- Every packet that was taken up had been filed, and what came of it is settled by
the snapshot of that moment; no packet is sent without having been taken up just
before. -/
structure Delivered (filed : List Request) (trace : List Effect) : Prop where
  taken : ∀ part packet ticket rest, trace = part ++ .took (.send packet ticket) :: rest →
    ∃ request ∈ filed, .send packet ticket = request.message ∧
      Settles (visible part) packet request.ticket rest
  called : ∀ part device packet answer rest,
    trace = part ++ .called (.send device packet) answer :: rest →
      ∃ past ticket, part = past ++ [.took (.send packet ticket)]

namespace Delivered

variable {filed : List Request} {past next : List Effect}

theorem of_subset {more : List Request} (before : Delivered filed past)
    (kept : filed ⊆ more) :
    Delivered more past where
  taken := by
    intro part packet ticket rest split
    obtain ⟨request, known, same, settled⟩ := before.taken part packet ticket rest split
    exact ⟨request, kept known, same, settled⟩
  called := before.called

theorem append_sendFree (before : Delivered filed past) (free : SendFree next) :
    Delivered filed (past ++ next) where
  taken := by
    intro part packet ticket rest split
    obtain ⟨later, reached, rfl⟩ | ⟨early, rfl, inside⟩ := entry_of_append split
    · obtain ⟨request, known, same, settled⟩ :=
        before.taken part packet ticket later reached
      exact ⟨request, known, same, settled.append next⟩
    · have present : .took (.send packet ticket) ∈ next := by simp [inside]
      exact absurd present (free.took packet ticket)
  called := by
    intro part device packet answer rest split
    obtain ⟨later, reached, rfl⟩ | ⟨early, rfl, inside⟩ := entry_of_append split
    · exact before.called part device packet answer later reached
    · have present : .called (.send device packet) answer ∈ next := by simp [inside]
      exact absurd present (free.called device packet answer)

/-- A packet is taken up: it is the only one in its part of the trace, and it is sent
at once if it is sent at all. -/
theorem append_send (before : Delivered filed past) {request : Request}
    (known : request ∈ filed)
    (settled : Settles (visible past) request.packet request.ticket next)
    (alone : ∀ other, .took other ∉ next)
    (once : ∀ device other answer, .called (.send device other) answer ∉ next.tail) :
    Delivered filed (past ++ .took request.message :: next) where
  taken := by
    intro part packet ticket rest split
    obtain ⟨later, reached, rfl⟩ | ⟨early, rfl, inside⟩ := entry_of_append split
    · obtain ⟨other, known, same, settled⟩ := before.taken part packet ticket later reached
      exact ⟨other, known, same, settled.append _⟩
    · cases early with
      | nil =>
          obtain ⟨same, rfl⟩ := List.cons.inj inside
          have message : .send packet ticket = request.message :=
            (Effect.took.inj same).symm
          obtain ⟨rfl, -⟩ := Message.send.inj message
          exact ⟨request, known, message, by simpa using settled⟩
      | cons first early =>
          have present : .took (.send packet ticket) ∈ next := by
            simp [(List.cons.inj inside).2]
          exact absurd present (alone (.send packet ticket))
  called := by
    intro part device packet answer rest split
    obtain ⟨later, reached, rfl⟩ | ⟨early, rfl, inside⟩ := entry_of_append split
    · exact before.called part device packet answer later reached
    · obtain _ | ⟨first, _ | ⟨second, early⟩⟩ := early
      · cases inside
      · obtain ⟨rfl, rfl⟩ := List.cons.inj inside
        refine ⟨past, some request.ticket, ?_⟩
        rw [settled.sent.2, Request.message]
      · have present : .called (.send device packet) answer ∈ next.tail := by
          simp [(List.cons.inj inside).2]
        exact absurd present (once device packet answer)

end Delivered

/-! ## Sessions -/

namespace Session

/-- What holds of every session, as far as packets are concerned. -/
structure Sound (s : Session W) : Prop where
  lawful : Machine.Lawful s.trace s.manager.machine
  done : s.manager.machine.replay = []
  queued : ∀ packet ticket, .send packet ticket ∈ s.manager.inbox →
    ∃ request ∈ s.filed, .send packet ticket = request.message
  known : ∀ request ∈ s.filed, request.ticket < s.manager.tickets
  distinct : (s.filed.map Request.ticket).Nodup
  delivered : Delivered s.filed s.trace

namespace Sound

variable {env : Surroundings W} {s : Session W}

theorem initial (world : W) (timeout : Nat) : (Session.initial world timeout).Sound where
  lawful := Machine.lawful_initial
  done := rfl
  queued := by simp [Session.initial, Manager.initial]
  known := by simp [Session.initial]
  distinct := List.nodup_nil
  delivered := ⟨by simp [Session.initial], by simp [Session.initial]⟩

/-- What leaves the machine alone and queues no packet makes no difference. -/
theorem withManager (before : s.Sound) (m : Manager W)
    (same : m.machine = s.manager.machine)
    (queue : ∀ packet ticket, .send packet ticket ∈ m.inbox →
      .send packet ticket ∈ s.manager.inbox)
    (later : s.manager.tickets ≤ m.tickets) (checked : List (Address × Packet)) :
    ({ s with manager := m, checked := checked } : Session W).Sound where
  lawful := by simpa only [same] using before.lawful
  done := by simpa only [same] using before.done
  queued := by
    intro packet ticket waits
    exact before.queued packet ticket (queue packet ticket waits)
  known := by
    intro request filed
    exact Nat.lt_of_lt_of_le (before.known request filed) later
  distinct := before.distinct
  delivered := before.delivered

theorem enqueue (before : s.Sound) {message : Message}
    (other : ∀ packet ticket, .send packet ticket ≠ message) {m : Manager W}
    (same : m.machine = s.manager.machine) (inbox : m.inbox = s.manager.inbox)
    (later : s.manager.tickets ≤ m.tickets) :
    ({ s with manager := (m.enqueue message).2 } : Session W).Sound := by
  apply before.withManager
  · rw [m.machine_enqueue, same]
  · intro packet ticket waits
    obtain early | late := Manager.inbox_enqueue waits
    · rwa [inbox] at early
    · exact absurd late (other packet ticket)
  · rwa [m.tickets_enqueue]

theorem file (before : s.Sound) (device : Address) (packet : Packet) :
    (s.file device packet).Sound := by
  cases ended : s.manager.ended with
  | true =>
      rw [file_of_ended ended]
      exact before.withManager { s.manager with tickets := s.manager.tickets + 1 } rfl
        (fun _ _ => id) (Nat.le_succ _) _
  | false =>
      rw [file_of_running ended]
      refine ⟨before.lawful, before.done, ?_, ?_, ?_, before.delivered.of_subset (by simp)⟩
      · intro other ticket waits
        obtain early | late := List.mem_append.mp waits
        · obtain ⟨request, known, same⟩ := before.queued other ticket early
          exact ⟨request, List.mem_append_left _ known, same⟩
        · refine ⟨_, List.mem_append_right _ (List.mem_singleton_self _), ?_⟩
          exact List.mem_singleton.mp late
      · intro request filed
        obtain early | late := List.mem_append.mp filed
        · exact Nat.lt_succ_of_lt (before.known request early)
        · rw [List.mem_singleton.mp late]
          exact Nat.lt_succ_self _
      · rw [List.map_append, List.nodup_append]
        refine ⟨before.distinct, by simp, ?_⟩
        intro ticket earlier new fresh
        obtain ⟨request, known, rfl⟩ := List.mem_map.mp earlier
        have below := before.known request known
        have now : new = s.manager.tickets := by simpa using fresh
        rw [now]
        exact Nat.ne_of_lt below

/-- Handling a message that was queued, or the expiry of a timer. -/
theorem delivered_handle (before : s.Sound) {deadline : Nat} {message : Message}
    (known : ∀ packet ticket, message = .send packet ticket →
      ∃ request ∈ s.filed, message = request.message) :
    Delivered s.filed (s.trace ++
      (Machine.handle env deadline s.manager.machine s.manager.world message).effects) := by
  have legal := before.lawful.legal
  by_cases packet : ∃ packet ticket, message = .send packet ticket
  · obtain ⟨packet, ticket, same⟩ := packet
    obtain ⟨request, filed, rfl⟩ := known packet ticket same
    obtain ⟨rest, trace, settled, alone, once⟩ := Machine.handle_send env deadline
      s.manager.world legal before.done request.packet request.ticket
    rw [← before.lawful.shown] at settled
    rw [Request.message, trace]
    exact before.delivered.append_send filed settled alone once
  · refine before.delivered.append_sendFree (Machine.sendFree_handle legal before.done ?_)
    intro other ticket same
    exact packet ⟨other, ticket, same.symm⟩

/-- A turn of the actor handles one message, or ends. -/
theorem turn (before : s.Sound) {m : Manager W} {effects : List Effect}
    (turned : s.manager.turn env = some (m, effects)) :
    ({ s with manager := m, trace := s.trace ++ effects } : Session W).Sound := by
  obtain ⟨message, rest, taken, handled⟩ | ⟨rest, left, stopped⟩ :=
    Manager.turn_cases turned
  · have fewer : rest ⊆ s.manager.inbox := by
      obtain inbox | ⟨rfl, -⟩ := taken
      · rw [inbox]
        exact List.subset_cons_self _ _
      · exact List.Subset.refl _
    have known : ∀ packet ticket, message = .send packet ticket →
        ∃ request ∈ s.filed, message = request.message := by
      rintro packet ticket rfl
      obtain inbox | ⟨-, _, timeout⟩ := taken
      · exact before.queued packet ticket (by simp [inbox])
      · cases timeout
    obtain ⟨rfl, rfl⟩ := Prod.mk.inj handled
    refine ⟨before.lawful.handle _, Machine.replay_handle _ _ _ _ _, ?_, before.known,
      before.distinct, before.delivered_handle known⟩
    intro packet ticket waits
    exact before.queued packet ticket (fewer waits)
  · obtain ⟨same, farewell⟩ := Manager.stop_of_done env
      (m := { s.manager with inbox := rest }) before.done
    rw [stopped] at same farewell
    obtain rfl : m = _ := same
    exact ⟨before.lawful.givenUp farewell.silent, before.done, by simp, before.known,
      before.distinct, before.delivered.append_sendFree farewell.sendFree⟩

theorem step (before : s.Sound) (action : Action W) : (s.step env action).Sound := by
  cases action with
  | command verb device => exact before.enqueue (by simp) rfl rfl (Nat.le_succ _)
  | check device packet =>
      simp only [Session.step]
      split
      · exact before.withManager s.manager rfl (fun _ _ => id) (Nat.le_refl _) _
      · exact before
  | queue n =>
      simp only [Session.step]
      split
      · exact (before.withManager s.manager rfl (fun _ _ => id) (Nat.le_refl _) _).file _ _
      · exact before
  | report event => exact before.enqueue (by simp) rfl rfl (Nat.le_refl _)
  | shutdown =>
      simp only [Session.step, Manager.requestShutdown]
      split
      · exact before
      · exact before.enqueue (by simp) rfl rfl (Nat.le_refl _)
  | drop => exact before.withManager s.manager.drop rfl (fun _ _ => id) (Nat.le_refl _) _
  | turn =>
      simp only [Session.step]
      split
      · rename_i turned
        exact before.turn turned
      · exact before
  | pass ms =>
      exact before.withManager { s.manager with now := s.manager.now + ms } rfl
        (fun _ _ => id) (Nat.le_refl _) _
  | change world =>
      exact before.withManager { s.manager with world := world } rfl (fun _ _ => id)
        (Nat.le_refl _) _

theorem run (before : s.Sound) (actions : List (Action W)) : (s.run env actions).Sound :=
  run_invariant (fun action before => before.step action) before actions

/-- What comes of a request is settled by the snapshot under which it is taken up. -/
theorem settles (sound : s.Sound) {request : Request} {part rest : List Effect}
    (split : s.trace = part ++ .took request.message :: rest) :
    Settles (visible part) request.packet request.ticket rest := by
  obtain ⟨other, -, message, settled⟩ := sound.delivered.taken part _ _ rest split
  have ticket : request.ticket = other.ticket :=
    Option.some.inj (Message.send.inj message).2
  rwa [ticket]

end Sound

end Session

/-! ## Where each packet goes -/

/-- What sending promises the caller: the packet goes to the device that was named if
that device is connected when the packet is taken up, and otherwise sending fails and
nothing is sent. -/
def Request.Honoured (request : Request) (s : Snapshot) (rest : List Effect) : Prop :=
  if s.connectedDevice? = some request.device then
    ∃ answer later, rest = .called (.send request.device request.packet) answer ::
      .answered request.ticket answer :: later
  else ∃ error later, rest = .answered request.ticket (.error error) :: later

/-- A packet is treated as promised unless another device is connected. -/
theorem Request.honoured_iff {request : Request} {s : Snapshot} {rest : List Effect}
    (settled : Settles s request.packet request.ticket rest) :
    request.Honoured s rest ↔
      ∀ device, s.connectedDevice? = some device → device = request.device := by
  unfold Settles at settled
  unfold Honoured
  cases connected : s.connectedDevice? with
  | none =>
      rw [connected] at settled
      obtain ⟨later, rfl⟩ := settled
      simp
  | some device =>
      rw [connected] at settled
      obtain ⟨answer, later, rfl⟩ := settled
      by_cases same : device = request.device <;> simp [same]

/-- In every session, each packet that is sent was taken up just before for a request
that was filed, and goes to the device that is connected at that moment, whatever
device was named. A request is treated as promised exactly if no other device is
connected when its packet is taken up. -/
theorem packets_reach_connected (env : Surroundings W) (world : W) (timeout : Nat)
    (actions : List (Action W)) :
    let s := (Session.initial world timeout).run env actions
    (s.filed.map Request.ticket).Nodup ∧
      (∀ part device packet answer rest,
        s.trace = part ++ .called (.send device packet) answer :: rest →
          ∃ past, ∃ request ∈ s.filed, part = past ++ [.took request.message] ∧
            request.packet = packet ∧ (visible past).connectedDevice? = some device) ∧
      ∀ request ∈ s.filed, ∀ part rest, s.trace = part ++ .took request.message :: rest →
        (request.Honoured (visible part) rest ↔
          ∀ device, (visible part).connectedDevice? = some device →
            device = request.device) := by
  intro s
  have sound : s.Sound := (Session.Sound.initial world timeout).run actions
  refine ⟨sound.distinct, ?_, ?_⟩
  · intro part device packet answer rest split
    obtain ⟨past, ticket, rfl⟩ :=
      sound.delivered.called part device packet answer rest split
    rw [List.append_assoc] at split
    obtain ⟨request, filed, message, settled⟩ :=
      sound.delivered.taken past packet ticket _ split
    refine ⟨past, request, filed, by rw [message], ?_, settled.sent.1⟩
    exact (Message.send.inj message).1.symm
  · intro request filed part rest split
    exact request.honoured_iff (sound.settles split)

/-- A radio that accepts everything. -/
def obliging : Surroundings Unit where
  connect _ _ := (.done, ())
  disconnect _ _ := (.done, ())
  send _ _ _ := (.done, ())
  cleanup _ := ()
  priority _ _ := .on
  bonded _ _ := true
  accessories _ := []
  quiet _ := false

/-- The link is up with one device, and a caller checks that and queues a packet. By
then the stack has reported that the device is gone and that another one has
connected. -/
def overtaken : List (Action Unit) :=
  [.command .connect (.numbered 1), .turn,
    .report (.connection .connected (.numbered 1)), .turn,
    .report (.connection .disconnected (.numbered 1)),
    .report (.connection .connected (.numbered 2)),
    .check (.numbered 1) [7], .queue 0, .turn, .turn, .turn]

/-- The packet for the first device goes to the second. -/
theorem packet_misdirected :
    ¬ ∀ actions : List (Action Unit),
      let s := (Session.initial () 30000).run obliging actions
      ∀ request ∈ s.filed, ∀ part rest, s.trace = part ++ .took request.message :: rest →
        request.Honoured (visible part) rest := by
  intro promised
  have filed : ((Session.initial () 30000).run obliging overtaken).filed =
      [⟨1, .numbered 1, [7]⟩] := by decide +kernel
  have trace : ((Session.initial () 30000).run obliging overtaken).trace =
      ((Session.initial () 30000).run obliging overtaken).trace.take 14 ++
        [.took (.send [7] (some 1)), .called (.send (.numbered 2) [7]) .done,
          .answered 1 .done] := by decide +kernel
  have shown : (visible (((Session.initial () 30000).run obliging overtaken).trace.take
      14)).connectedDevice? = some (.numbered 2) := by decide +kernel
  have kept := promised overtaken ⟨1, .numbered 1, [7]⟩ (by rw [filed]; simp) _ _ trace
  simp [Request.Honoured, shown, Address.numbered] at kept

end AccessoryLink
