import AccessoryLink.Proofs.Hex
import AccessoryLink.Proofs.Manager.Answers
import AccessoryLink.Service.Methods
import AccessoryLink.Service.Signals
import Mathlib.Data.List.Nodup

/-!
# Payload text in and out

Clients write packets as hexadecimal text and get them as such. Between the text of a call and the
radio stands the queue, where a packet is one message under a ticket of its own. So a call is
followed in two parts: the bytes that its text spells are filed as they are (`call_sendData`), and a
packet that was filed is given to the radio once and unchanged (`passesOn`). A text that spells
nothing is refused before the manager is asked.
-/

namespace AccessoryLink

variable {W : Type}

/-! ## What becomes of a packet -/

/-- What is done for a packet takes up that packet, and that once. -/
theorem count_took_entries (request other : Request) (fate : Fate) :
    (fate.entries other).count (.took request.message) ≤
      if other.ticket = request.ticket then 1 else 0 := by
  have apart (tickets : other.ticket ≠ request.ticket) : other.message ≠ request.message := by
    intro same
    exact tickets (Option.some.inj (Message.send.inj same).2)
  split
  · cases fate with
    | sent | refused =>
        simp only [Fate.entries, List.count_cons, List.count_nil, beq_iff_eq, reduceCtorEq,
          if_false]
        split <;> omega
    | dropped => simp [Fate.entries]
  · rename_i tickets
    cases fate <;> simp [Fate.entries, apart tickets]

/-- So where each ticket is given once, no packet is taken up twice. -/
theorem count_took_settling (request : Request) (settled : List (Request × Fate)) :
    (settling settled).count (.took request.message) ≤
      (settled.map fun entry => entry.1.ticket).count request.ticket := by
  induction settled with
  | nil => simp [settling]
  | cons entry rest ih =>
      have here := count_took_entries request entry.1 entry.2
      rw [settling, List.flatMap_cons, List.count_append, ← settling, List.map_cons,
        List.count_cons]
      simp only [beq_iff_eq]
      omega

theorem took_mem_settling {request : Request} {fate : Fate} {settled : List (Request × Fate)}
    (entry : (request, fate) ∈ settled) (handled : fate ≠ .dropped) :
    .took request.message ∈ settling settled := by
  refine List.mem_flatMap.mpr ⟨_, entry, ?_⟩
  cases fate with
  | sent device answer => exact List.mem_cons_self
  | refused => exact List.mem_cons_self
  | dropped => exact absurd rfl handled

namespace Session

/-- What is promised of a packet that was filed, whatever happens from then on. It is taken up once
at the most. Whenever that is, just this packet is given to the radio for the device that is
connected at that moment, whose answer goes to the caller, or the caller is told that there is none.
And it is taken up by the time the actor has had as many turns as there are messages in the queue,
unless a shutdown was asked for before. -/
structure PassesOn (env : Surroundings W) (s : Session W) (request : Request) : Prop where
  once : ∀ actions, (s.run env actions).trace.count (.took request.message) ≤ 1
  settled : ∀ actions part rest,
    (s.run env actions).trace = part ++ .took request.message :: rest →
      Settles (visible part) request.packet request.ticket rest
  reached : s.manager.stopping = false → ∀ actions,
    s.manager.inbox.length ≤ actions.countP Action.isTurn →
      .took request.message ∈ (s.run env actions).trace

section Filed

variable {env : Surroundings W} {s : Session W} {front back : List Request}

/-- The requests that are settled have tickets of their own. -/
theorem Ledger.count_took (ledger : s.Ledger front back) (sound : s.Sound) (request : Request) :
    s.trace.count (.took request.message) ≤ 1 := by
  obtain ⟨settled, waiting, filed, done, -⟩ := ledger.account sound.distinct
  have tickets : (settled.map fun entry => entry.1.ticket).Nodup := by
    have distinct := sound.distinct
    rw [filed, List.map_append, List.map_map] at distinct
    exact distinct.of_append_left
  have concerned : (Effect.took request.message).concernsPackets = true := rfl
  rw [← List.count_filter concerned]
  calc (deliveries s.trace).count (.took request.message)
      = (settling settled).count (.took request.message) := by rw [done]
    _ ≤ (settled.map fun entry => entry.1.ticket).count request.ticket :=
        count_took_settling request settled
    _ ≤ 1 := List.nodup_iff_count_le_one.mp tickets _

theorem passesOn (sound : s.Sound) (ledger : s.Ledger front back) {request : Request}
    (filed : request ∈ s.filed) : s.PassesOn env request where
  once := by
    intro actions
    obtain ⟨front', back', after, -⟩ := ledger.run sound actions
    exact after.count_took (sound.run actions) request
  settled := by
    intro actions part rest split
    exact (sound.run actions).settles split
  reached := by
    intro unmarked actions turns
    have sound' : (s.run env actions).Sound := sound.run actions
    have distinct := sound'.distinct
    obtain ⟨front', back', after, grown⟩ : ∃ front' back',
        (s.run env actions).Ledger front' back' ∧
          Grown s.manager.stopping (front, back) (front', back') := ledger.run sound actions
    obtain ⟨settled, waiting, known, done, queue, -, dropped⟩ := after.account distinct
    have first : s.Ahead [request] s.manager.inbox.length := by
      intro other _ waits
      simp at waits
    have mine : [request] ⊆ s.filed := by simpa using filed
    have ahead := ledger.ahead_run env sound mine first actions
    rw [Nat.sub_eq_zero_of_le turns] at ahead
    have later : [request] ⊆ (s.run env actions).filed :=
      List.Subset.trans mine (ledger.filed_subset after grown)
    obtain ⟨fate, entry⟩ := ahead.settled later known queue request List.mem_cons_self
    have handled : fate ≠ .dropped := by
      intro lost
      exact (ledger.sides after grown distinct).1 unmarked filed ((dropped _ entry).mp lost)
    have taken := took_mem_settling entry handled
    rw [← done] at taken
    exact (List.mem_filter.mp taken).1

end Filed

/-! ## Calls -/

/-- What a call of `SendData` comes to that is to hand on some bytes for a device. They are queued
as one message under a new ticket, for whose result the call waits, and that message is passed on.
If nothing else is in the queue, the next turn of the actor gives these bytes to the radio for that
device. -/
structure Sends (env : Surroundings W) (settings : Service.Settings W) (s : Session W)
    (address data : String) (device : Address) (bytes : Packet) : Prop where
  accepted : Service.call env settings s.manager (.sendData address data) =
    (.waiting s.manager.tickets, (s.file device bytes).manager)
  queued : (s.file device bytes).manager =
    { s.manager with
      inbox := s.manager.inbox ++ [.send bytes (some s.manager.tickets)]
      tickets := s.manager.tickets + 1 }
  passed : (s.file device bytes).PassesOn env ⟨s.manager.tickets, device, bytes⟩
  direct : s.manager.inbox = [] →
    let answer := (env.send s.manager.world device bytes).1
    ((s.file device bytes).step env .turn).trace =
      s.trace ++ [.took (.send bytes (some s.manager.tickets)), .called (.send device bytes) answer,
        .answered s.manager.tickets answer]

end Session

namespace Service

variable (env : Surroundings W) (settings : Settings W)

/-- The bytes that a text spells are sent as they are. -/
theorem call_sendData {address data : String} {device : Address} {bytes : Packet}
    (parsed : Address.parse address = .ok device) (writes : Hex.Writes data bytes)
    {m after : Manager W} {ticket : Ticket} (sent : m.send device bytes = (.ok ticket, after)) :
    call env settings m (.sendData address data) = (.waiting ticket, after) := by
  simp only [call, withDevice, parsed, sendText, Hex.decode_of_writes writes, sent]

/-- A text that is not read is reported, and nothing has happened. -/
theorem call_sendData_unread {address data : String} {device : Address} {error : Hex.Error}
    (parsed : Address.parse address = .ok device) (unread : Hex.decode data = .error error)
    (m : Manager W) :
    call env settings m (.sendData address data) =
      (.error (.invalidArguments error.message), m) := by
  simp only [call, withDevice, parsed, sendText, unread]

/-- A text that is no even number of digits is reported for its odd length, or for the first byte
that is no digit. -/
theorem call_sendData_refused {address data : String} {device : Address}
    (parsed : Address.parse address = .ok device) (other : ¬ Hex.IsText data) (m : Manager W) :
    let called := call env settings m (.sendData address data)
    (data.utf8ByteSize % 2 = 1 ∧
        called = (.error (.invalidArguments "Odd number of digits"), m)) ∨
      data.utf8ByteSize % 2 = 0 ∧ ∃ front byte back,
        data.toUTF8.data.toList = front ++ byte :: back ∧ (∀ b ∈ front, Hex.IsDigit b) ∧
          ¬ Hex.IsDigit byte ∧
          called = (.error (.invalidArguments ("Invalid character '" ++
            String.ofList (Hex.quotedByte byte) ++ "' at position " ++
            toString front.length)), m) := by
  intro called
  obtain even | odd := Nat.mod_two_eq_zero_or_one data.utf8ByteSize
  · obtain ⟨front, byte, back, split, good, bad, unread⟩ := Hex.decode_invalid even other
    exact .inr ⟨even, front, byte, back, split, good, bad,
      call_sendData_unread env settings parsed unread m⟩
  · exact .inl ⟨odd, call_sendData_unread env settings parsed (Hex.decode_odd odd) m⟩

end Service

namespace Session

variable {env : Surroundings W} {s : Session W} {front back : List Request}

/-- While the manager runs, bytes for the connected device are handed on. -/
theorem sends (settings : Service.Settings W) (sound : s.Sound) (ledger : s.Ledger front back)
    {address data : String} {device : Address} {bytes : Packet}
    (parsed : Address.parse address = .ok device)
    (connected : s.manager.connectionOf device = .connected) (running : s.manager.ended = false)
    (writes : Hex.Writes data bytes) : s.Sends env settings address data device bytes := by
  let request : Request := ⟨s.manager.tickets, device, bytes⟩
  have filed := file_of_running running device bytes
  have mine : request ∈ (s.file device bytes).filed := by simp [filed, request]
  have sound' : (s.file device bytes).Sound := sound.file device bytes
  obtain ⟨front', back', ledger', -⟩ := ledger.file device bytes
  refine ⟨?_, by rw [filed], passesOn sound' ledger' mine, ?_⟩
  · apply Service.call_sendData env settings parsed writes
    rw [Manager.send_eq, if_neg (not_not.mpr connected), filed]
    simp [Manager.queueSend, Manager.enqueue, running, Outcome.done]
  · intro empty answer
    have queue : (s.file device bytes).manager.inbox = request.message :: [] := by
      simp [filed, empty, request, Request.message]
    obtain ⟨service, shown⟩ := sound.lawful.legal.eq_of_connected connected
    rw [(ledger'.turn_request sound' queue).2, trace_file, filed]
    simp [Request.handling, Snapshot.connectedDevice?, Manager.snapshot, shown, request,
      Request.message, answer]

end Session

/-- Payload text in and out. While the manager runs, a call of `SendData` that names the connected
device hands on just the bytes that its text spells, whatever the case of each digit. The texts that
spell some bytes are those of an even number of digits; with any other text the call is refused and
nothing has happened, and the refusal names the odd length, or the first byte that is no digit and
its index. The signal for a packet carries the lower-case spelling of its bytes, so a call hands on
these bytes again. -/
theorem payloads_spelled (env : Surroundings W) (settings : Service.Settings W) (world : W)
    (timeout : Nat) :
    (∀ (past : List (Action W)) (address data : String) (device : Address) (bytes : Packet),
        let s := (Session.initial world timeout).run env past
        Address.parse address = .ok device → s.manager.connectionOf device = .connected →
          s.manager.ended = false → Hex.Writes data bytes →
            s.Sends env settings address data device bytes) ∧
      (∀ data, Hex.IsText data ↔ ∃ bytes, Hex.Writes data bytes) ∧
      (∀ (m : Manager W) (address data : String), ¬ Hex.IsText data →
        let called := Service.call env settings m (.sendData address data)
        (∃ message, called = (.error (.invalidArguments message), m)) ∧
          ∀ device, Address.parse address = .ok device →
            (data.utf8ByteSize % 2 = 1 ∧
                called = (.error (.invalidArguments "Odd number of digits"), m)) ∨
              data.utf8ByteSize % 2 = 0 ∧ ∃ front byte back,
                data.toUTF8.data.toList = front ++ byte :: back ∧ (∀ b ∈ front, Hex.IsDigit b) ∧
                  ¬ Hex.IsDigit byte ∧
                  called = (.error (.invalidArguments ("Invalid character '" ++
                    String.ofList (Hex.quotedByte byte) ++ "' at position " ++
                      toString front.length)), m)) ∧
      ∀ bytes : Packet, ∃ text,
        Service.Signal.ofEvent (.data bytes) = ⟨"DataReceived", [.text text]⟩ ∧
          text.toLower = text ∧ Hex.Writes text bytes := by
  refine ⟨?_, fun data => Hex.isText_iff_writes, ?_, ?_⟩
  · intro past address data device bytes s parsed connected running writes
    obtain ⟨front, back, ledger, -⟩ := (Session.Ledger.initial world timeout).run
      (Session.Sound.initial world timeout) past
    have sound : s.Sound := (Session.Sound.initial world timeout).run past
    exact Session.sends settings sound ledger parsed connected running writes
  · intro m address data other called
    refine ⟨?_, fun device parsed => Service.call_sendData_refused env settings parsed other m⟩
    cases parsed : Address.parse address with
    | error malformed =>
        refine ⟨malformed.message, ?_⟩
        simp only [called, Service.call, Service.withDevice, parsed]
    | ok device =>
        obtain ⟨-, refused⟩ | ⟨-, front, byte, back, -, -, -, refused⟩ :=
          Service.call_sendData_refused env settings parsed other m
        · exact ⟨_, refused⟩
        · exact ⟨_, refused⟩
  · intro bytes
    exact ⟨Hex.encode bytes, rfl, Hex.toLower_encode bytes, Hex.toLower_encode bytes⟩

end AccessoryLink
