import AccessoryLink.Channel.Relay

/-!
# Packets on their way in

What comes in at a socket passes the reader, its buffer and a bounded queue before a receive call
gives it to the user. The buffer is never cleared, so it is kept here with all its bytes. What a
call gave, what waits in the queue, what the reader holds and what the socket still has are one
list, which no move changes (`Tracks.told_turn`); it is the packets that came in, then the end, and
behind it the calls that found the channel closed. A measure of what is still to be done falls
with every move that is due (`Tracks.weight_due`), so tasks and user that go on come to its end.
-/

namespace AccessoryLink

/-! ## The buffer of a reader -/

/-- The bytes a reader receives into. The bytes of earlier packets stay behind a shorter one. -/
structure ReadBuffer where
  bytes : List UInt8
  length_bytes : bytes.length = maxPacketSize

namespace ReadBuffer

variable (b : ReadBuffer) (packet : Packet)

/-- The buffer of a reader that starts. -/
def blank : ReadBuffer := ⟨List.replicate maxPacketSize 0, List.length_replicate⟩

/-- Receives a packet over the first bytes. The result is their number; what is longer than the
buffer is cut. -/
def fill : Nat × ReadBuffer :=
  let part := packet.take maxPacketSize
  (part.length, ⟨part ++ b.bytes.drop part.length, by
    have bound : part.length ≤ maxPacketSize := List.length_take_le ..
    rw [List.length_append, List.length_drop, b.length_bytes, Nat.add_sub_cancel' bound]⟩)

/-- What the reader makes of a number of bytes. No bytes mean the end. -/
def reading (count : Nat) : Reading :=
  if count = 0 then .ended else .packet (b.bytes.take count)

/-- What was in the buffer before does not show. -/
theorem delivery_fill :
    ((b.fill packet).2.reading (b.fill packet).1).delivery = (Reading.packet packet).delivery := by
  cases packet with
  | nil => rfl
  | cons byte rest =>
      have front : (b.fill (byte :: rest)).2.bytes.take (b.fill (byte :: rest)).1 =
          (byte :: rest).take maxPacketSize := List.take_left
      have more : (b.fill (byte :: rest)).1 ≠ 0 := by simp [fill, maxPacketSize]
      rw [reading, if_neg more, front]
      simp [Reading.delivery, maxPacketSize, List.take_take]

end ReadBuffer

/-! ## What comes in -/

/-- How a socket ends. -/
inductive StreamEnd where
  /-- The other end is closed: a read gives no bytes. -/
  | closed
  | failed (error : SystemError)
  deriving Repr, DecidableEq

/-- What a read at the end gives. -/
def StreamEnd.reading : StreamEnd → Reading
  | closed => .ended
  | failed error => .failed error

/-- What the end is to the user. -/
def StreamEnd.error : StreamEnd → LinkError
  | closed => .connectionLost
  | failed error => .system error

theorem StreamEnd.delivery_reading (ending : StreamEnd) :
    ending.reading.delivery = .error ending.error := by
  cases ending <;> rfl

/-- What a socket still has to give: packets, and behind them its end, if it comes to one. -/
structure Inflow where
  packets : List Packet
  ending : Option StreamEnd
  deriving Repr, DecidableEq

/-- What the user is to hear of it. -/
def Inflow.deliveries (inflow : Inflow) : List Delivery :=
  inflow.packets.map .ok ++ (inflow.ending.map fun ending => .error ending.error).toList

/-- All that receive calls can give: the packets, then the end once, then for each later call that
the channel is closed. -/
def script (packets : List Packet) (ending : Option StreamEnd) (closed : Nat) : List Delivery :=
  packets.map .ok ++
    match ending with
    | none => []
    | some ending => .error ending.error :: List.replicate closed (.error .channelClosed)

theorem script_zero (packets : List Packet) (ending : Option StreamEnd) :
    script packets ending 0 = Inflow.deliveries ⟨packets, ending⟩ := by
  cases ending <;> rfl

theorem script_succ (packets : List Packet) (ending : StreamEnd) (closed : Nat) :
    script packets (some ending) (closed + 1) =
      script packets (some ending) closed ++ [.error .channelClosed] := by
  simp [script, List.replicate_succ']

/-- A relay with the buffer of its reader, the socket in front of it and the user behind it. -/
structure Intake where
  relay : Relay
  buffer : ReadBuffer
  inflow : Inflow
  /-- What the receive calls have given so far. -/
  results : List Delivery

/-- What may happen next. The user drives the receiving side by its calls; on the sending side
anything may go on. -/
inductive IntakeMove where
  /-- The socket gives the reader what comes next. -/
  | read
  /-- The reader puts what it holds into the queue. -/
  | deliver
  /-- A receive call looks for something; it goes on waiting where nothing is there. -/
  | receive
  | send (packet : Packet)
  | take
  | wrote (accepted : Bool)
  | dropSender
  deriving Repr, DecidableEq

namespace Intake

/-- A new relay in front of which a socket gives these packets and this end. -/
def start (packets : List Packet) (ending : Option StreamEnd) : Intake :=
  ⟨.initial, .blank, ⟨packets, ending⟩, []⟩

/-- The socket gives the reader what comes next, if the reader waits for it. -/
def read (s : Intake) : Intake :=
  match s.relay.reader, s.inflow with
  | .reading, ⟨packet :: rest, ending⟩ =>
    match s.buffer.fill packet with
    | (count, buffer) =>
      { s with
        relay := s.relay.step (.read (buffer.reading count))
        buffer := buffer
        inflow := ⟨rest, ending⟩ }
  | .reading, ⟨[], some ending⟩ => { s with relay := s.relay.step (.read ending.reading) }
  | _, _ => s

/-- A receive call looks for something. -/
def receive (s : Intake) : Intake :=
  match s.relay.receive with
  | (some delivery, relay) => { s with relay := relay, results := s.results ++ [delivery] }
  | (none, _) => s

/-- Lets something happen. -/
def act (s : Intake) : IntakeMove → Intake
  | .read => s.read
  | .deliver => { s with relay := s.relay.step .deliver }
  | .receive => s.receive
  | .send packet => { s with relay := (s.relay.send packet).2 }
  | .take => { s with relay := s.relay.step .take }
  | .wrote accepted => { s with relay := s.relay.step (.wrote accepted) }
  | .dropSender => { s with relay := s.relay.dropSender }

/-- Lets several things happen in a row. -/
def run (s : Intake) (moves : List IntakeMove) : Intake := moves.foldl act s

variable {s next : Intake} {packets : List Packet} {ending : Option StreamEnd}

/-! ## One move -/

/-- The receiving side is left alone. -/
structure Kept (s next : Intake) : Prop where
  reader : next.relay.reader = s.relay.reader
  received : next.relay.received = s.relay.received
  hasReceiver : next.relay.hasReceiver = s.relay.hasReceiver
  inflow : next.inflow = s.inflow

theorem Kept.refl (s : Intake) : s.Kept s := ⟨rfl, rfl, rfl, rfl⟩

/-- What a move does to the receiving side. -/
inductive Turn (s : Intake) : Intake → Prop where
  | idle {next : Intake} (kept : s.Kept next) (results : next.results = s.results) : s.Turn next
  /-- The reader holds a packet. -/
  | read {packet : Packet} {rest : List Packet} (buffer : ReadBuffer)
      (reader : s.relay.reader = .reading) (packets : s.inflow.packets = packet :: rest) :
      s.Turn { s with
        relay := { s.relay with reader := .holding (Reading.packet packet).delivery }
        buffer := buffer
        inflow := { s.inflow with packets := rest } }
  /-- The reader holds the end. -/
  | ended {last : StreamEnd} (reader : s.relay.reader = .reading)
      (packets : s.inflow.packets = []) (ending : s.inflow.ending = some last) :
      s.Turn { s with relay := { s.relay with reader := .holding (.error last.error) } }
  /-- The reader has put a packet into the queue, and reads on. -/
  | relayed {packet : Packet} (reader : s.relay.reader = .holding (.ok packet)) :
      s.Turn { s with
        relay := { s.relay with
          received := s.relay.received ++ [.ok packet]
          reader := .reading } }
  /-- The reader has put the end into the queue, and is through. -/
  | finished {error : LinkError} (reader : s.relay.reader = .holding (.error error)) :
      s.Turn { s with
        relay := { s.relay with
          received := s.relay.received ++ [.error error]
          reader := .stopped } }
  /-- A call has given what waited longest. -/
  | received {delivery : Delivery} {rest : List Delivery}
      (waiting : s.relay.received = delivery :: rest) :
      s.Turn { s with
        relay := { s.relay with received := rest }
        results := s.results ++ [delivery] }
  /-- A call has found the channel closed. -/
  | closed (waiting : s.relay.received = []) (reader : s.relay.reader = .stopped) :
      s.Turn { s with results := s.results ++ [.error .channelClosed] }

theorem turn_self (s : Intake) : s.Turn s := .idle (.refl s) rfl

theorem turn_read (s : Intake) : s.Turn s.read := by
  obtain ⟨relay, buffer, ⟨packets, ending⟩, results⟩ := s
  cases reader : relay.reader with
  | reading =>
      cases packets with
      | nil =>
          cases ending with
          | none => simpa [read, reader] using turn_self _
          | some last =>
              simpa [read, reader, Relay.step, last.delivery_reading] using
                Turn.ended (s := ⟨relay, buffer, ⟨[], some last⟩, results⟩) reader rfl rfl
      | cons packet rest =>
          have told := buffer.delivery_fill packet
          simpa [read, reader, Relay.step, told] using
            Turn.read (s := ⟨relay, buffer, ⟨packet :: rest, ending⟩, results⟩)
              (buffer.fill packet).2 reader rfl
  | holding delivery => simpa [read, reader] using turn_self _
  | stopped => simpa [read, reader] using turn_self _

theorem turn_deliver (user : s.relay.hasReceiver = true) : s.Turn (s.act .deliver) := by
  obtain ⟨relay, buffer, inflow, results⟩ := s
  replace user : relay.hasReceiver = true := user
  cases reader : relay.reader with
  | holding delivery =>
      by_cases room : relay.received.length < relayDepth
      · cases delivery with
        | ok packet =>
            simpa [act, Relay.step, Relay.deliver, reader, user, room] using
              Turn.relayed (s := ⟨relay, buffer, inflow, results⟩) reader
        | error error =>
            simpa [act, Relay.step, Relay.deliver, reader, user, room] using
              Turn.finished (s := ⟨relay, buffer, inflow, results⟩) reader
      · simpa [act, Relay.step, Relay.deliver, reader, user, room] using turn_self _
  | reading | stopped => simpa [act, Relay.step, Relay.deliver, reader] using turn_self _

theorem turn_receive (s : Intake) : s.Turn s.receive := by
  obtain ⟨relay, buffer, inflow, results⟩ := s
  cases waiting : relay.received with
  | cons delivery rest =>
      simpa [receive, Relay.receive, waiting] using
        Turn.received (s := ⟨relay, buffer, inflow, results⟩) waiting
  | nil =>
      cases reader : relay.reader with
      | stopped =>
          simpa [receive, Relay.receive, waiting, reader] using
            Turn.closed (s := ⟨relay, buffer, inflow, results⟩) waiting reader
      | reading | holding delivery =>
          simpa [receive, Relay.receive, waiting, reader] using turn_self _

/-- Whatever happens on the sending side, the receiving side is left alone. -/
theorem turn_sending {relay : Relay} (reader : relay.reader = s.relay.reader)
    (received : relay.received = s.relay.received)
    (hasReceiver : relay.hasReceiver = s.relay.hasReceiver) :
    s.Turn { s with relay := relay } :=
  .idle ⟨reader, received, hasReceiver, rfl⟩ rfl

theorem turn_act (user : s.relay.hasReceiver = true) (move : IntakeMove) :
    s.Turn (s.act move) := by
  cases move with
  | read => exact turn_read s
  | deliver => exact turn_deliver user
  | receive => exact turn_receive s
  | send packet => exact turn_sending rfl rfl rfl
  | dropSender => exact turn_sending rfl rfl rfl
  | take =>
      have kept : s.relay.take.reader = s.relay.reader ∧
          s.relay.take.received = s.relay.received ∧
          s.relay.take.hasReceiver = s.relay.hasReceiver := by
        unfold Relay.take
        split
        · exact ⟨rfl, rfl, rfl⟩
        · split <;> exact ⟨rfl, rfl, rfl⟩
        · exact ⟨rfl, rfl, rfl⟩
      exact turn_sending kept.1 kept.2.1 kept.2.2
  | wrote accepted =>
      have kept : (s.relay.step (.wrote accepted)).reader = s.relay.reader ∧
          (s.relay.step (.wrote accepted)).received = s.relay.received ∧
          (s.relay.step (.wrote accepted)).hasReceiver = s.relay.hasReceiver := by
        simp only [Relay.step]
        split
        · split <;> exact ⟨rfl, rfl, rfl⟩
        · exact ⟨rfl, rfl, rfl⟩
      exact turn_sending kept.1 kept.2.1 kept.2.2

/-! ## What is told -/

/-- What the reader has still to put into the queue. Behind an error it puts nothing. -/
def toCome (s : Intake) : List Delivery :=
  match s.relay.reader with
  | .reading => s.inflow.deliveries
  | .holding (.ok packet) => .ok packet :: s.inflow.deliveries
  | .holding (.error error) => [.error error]
  | .stopped => []

/-- The reader is past all packets: it holds the end or has told it. -/
def IsPast (s : Intake) : Prop :=
  match s.relay.reader with
  | .holding (.error _) | .stopped => True
  | _ => False

/-- What has been told, what waits and what is to come are the packets of the socket and its end,
with so many calls behind that. -/
structure Tracks (packets : List Packet) (ending : Option StreamEnd) (closed : Nat)
    (s : Intake) : Prop where
  user : s.relay.hasReceiver = true
  sized : ∀ packet ∈ s.inflow.packets, 1 ≤ packet.length ∧ packet.length ≤ maxPacketSize
  ending_eq : s.inflow.ending = ending
  ends : s.IsPast → ending.isSome
  told : s.results ++ s.relay.received ++ s.toCome = script packets ending closed
  behind : 0 < closed → s.relay.reader = .stopped ∧ s.relay.received = []

theorem tracks_start
    (sized : ∀ packet ∈ packets, 1 ≤ packet.length ∧ packet.length ≤ maxPacketSize) :
    Tracks packets ending 0 (start packets ending) where
  user := rfl
  sized := sized
  ending_eq := rfl
  ends := False.elim
  told := (script_zero packets ending).symm
  behind := fun later => absurd later (Nat.lt_irrefl 0)

/-- A packet of a fitting size arrives unchanged. -/
theorem delivery_packet {packet : Packet} (least : 1 ≤ packet.length)
    (most : packet.length ≤ maxPacketSize) : (Reading.packet packet).delivery = .ok packet := by
  cases packet with
  | nil => exact absurd least (Nat.not_succ_le_zero 0)
  | cons byte rest => exact congrArg Except.ok (List.take_of_length_le most)

variable {closed : Nat}

namespace Tracks

/-- A reader that has not stopped has not let any call find the channel closed. -/
theorem running (tracks : Tracks packets ending closed s) (runs : s.relay.reader ≠ .stopped) :
    closed = 0 :=
  Nat.eq_zero_of_not_pos fun later => runs (tracks.behind later).1

/-- No move changes the whole of what is told, but that a call may find the channel closed. -/
theorem told_turn (tracks : Tracks packets ending closed s) (turn : s.Turn next) :
    ∃ closed, Tracks packets ending closed next := by
  have told := tracks.told
  have sized := tracks.sized
  have first : 0 < 0 → next.relay.reader = .stopped ∧ next.relay.received = [] :=
    fun later => absurd later (Nat.lt_irrefl 0)
  cases turn with
  | idle kept results =>
      have come : next.toCome = s.toCome := by simp only [toCome, kept.reader, kept.inflow]
      have past : next.IsPast = s.IsPast := by simp only [IsPast, kept.reader]
      have behind := tracks.behind
      exact ⟨closed, kept.hasReceiver.trans tracks.user, kept.inflow ▸ sized,
        kept.inflow ▸ tracks.ending_eq, past ▸ tracks.ends,
        by rw [results, kept.received, come, told], by rwa [kept.reader, kept.received]⟩
  | @read packet rest buffer reader packets =>
      obtain rfl := tracks.running (by simp [reader])
      have fits := sized packet (by simp [packets])
      have whole := delivery_packet fits.1 fits.2
      refine ⟨0, tracks.user, fun other among => sized other ?_, tracks.ending_eq, ?_, ?_, first⟩
      · rw [packets]
        exact List.mem_cons_of_mem _ among
      · simp [IsPast, whole]
      · rw [← told]
        simp [toCome, reader, whole, Inflow.deliveries, packets]
  | @ended last reader packets ending =>
      obtain rfl := tracks.running (by simp [reader])
      refine ⟨0, tracks.user, sized, tracks.ending_eq, ?_, ?_, first⟩
      · simp [← tracks.ending_eq, ending]
      · rw [← told]
        simp [toCome, reader, Inflow.deliveries, packets, ending]
  | @relayed packet reader =>
      obtain rfl := tracks.running (by simp [reader])
      refine ⟨0, tracks.user, sized, tracks.ending_eq, False.elim, ?_, first⟩
      rw [← told]
      simp [toCome, reader]
  | @finished error reader =>
      obtain rfl := tracks.running (by simp [reader])
      have ends := tracks.ends (by simp [IsPast, reader])
      refine ⟨0, tracks.user, sized, tracks.ending_eq, fun _ => ends, ?_, first⟩
      rw [← told]
      simp [toCome, reader]
  | @received delivery rest waiting =>
      obtain rfl : closed = 0 :=
        Nat.eq_zero_of_not_pos fun later => by simp [(tracks.behind later).2] at waiting
      refine ⟨0, tracks.user, sized, tracks.ending_eq, tracks.ends, ?_, first⟩
      rw [← told]
      simp [toCome, waiting]
  | closed waiting reader =>
      obtain ⟨last, rfl⟩ :=
        Option.isSome_iff_exists.mp (tracks.ends (by simp [IsPast, reader]))
      refine ⟨closed + 1, tracks.user, sized, tracks.ending_eq, tracks.ends, ?_,
        fun _ => ⟨reader, waiting⟩⟩
      rw [script_succ, ← told]
      simp [toCome, reader, waiting]

theorem run (tracks : Tracks packets ending closed s) (moves : List IntakeMove) :
    ∃ closed, Tracks packets ending closed (s.run moves) := by
  induction moves generalizing s closed with
  | nil => exact ⟨closed, tracks⟩
  | cons move rest ih =>
      obtain ⟨_, next⟩ := tracks.told_turn (turn_act tracks.user move)
      exact ih next

/-- Once everything is told, with the end, the reader has stopped and the queue is empty. -/
theorem silent {last : StreamEnd} (tracks : Tracks packets (some last) closed s)
    (all : script packets (some last) 0 <+: s.results) :
    s.relay.reader = .stopped ∧ s.relay.received = [] := by
  obtain ⟨more, results⟩ := all
  by_cases later : 0 < closed
  · exact tracks.behind later
  · obtain rfl := Nat.eq_zero_of_not_pos later
    have rest : s.relay.received ++ s.toCome = [] := by
      have lengths := congrArg List.length tracks.told
      simp only [← results, List.length_append] at lengths
      apply List.eq_nil_of_length_eq_zero
      rw [List.length_append]
      omega
    obtain ⟨received, come⟩ := List.append_eq_nil_iff.mp rest
    refine ⟨?_, received⟩
    have ending := tracks.ending_eq
    unfold toCome at come
    split at come
    · simp [Inflow.deliveries, ending] at come
    · cases come
    · cases come
    · assumption

end Tracks

/-! ## What is due -/

/-- How many moves are due before everything is told: three for what the socket still has, two for
what the reader holds, one for what waits in the queue. -/
def weight (s : Intake) : Nat :=
  s.relay.received.length +
    match s.relay.reader with
    | .reading => 3 * s.inflow.deliveries.length
    | .holding (.ok _) => 2 + 3 * s.inflow.deliveries.length
    | .holding (.error _) => 2
    | .stopped => 0

/-- The move that is due: what waits is received before the reader is asked for more. -/
def due (s : Intake) : IntakeMove :=
  match s.relay.received, s.relay.reader with
  | _ :: _, _ => .receive
  | [], .reading => .read
  | [], _ => .deliver

theorem weight_start : (start packets ending).weight ≤ 3 * (packets.length + 1) := by
  have length : (Inflow.deliveries ⟨packets, ending⟩).length ≤ packets.length + 1 := by
    cases ending <;> simp [Inflow.deliveries]
  simpa [weight, start, Relay.initial] using Nat.mul_le_mul_left 3 length

theorem Kept.weight_eq (kept : s.Kept next) : next.weight = s.weight := by
  simp only [weight, kept.reader, kept.received, kept.inflow]

theorem Kept.due_eq (kept : s.Kept next) : next.due = s.due := by
  simp only [due, kept.reader, kept.received]

/-- A move brings the end nearer, or leaves what is due as it was. -/
theorem Tracks.weight_turn (tracks : Tracks packets ending closed s) (turn : s.Turn next) :
    next.weight < s.weight ∨ s.Kept next := by
  cases turn with
  | idle kept => exact .inr kept
  | @read packet rest buffer reader packets =>
      have fits := tracks.sized packet (by simp [packets])
      left
      simp only [weight, reader, delivery_packet fits.1 fits.2, Inflow.deliveries, packets,
        List.length_append, List.length_map, List.length_cons]
      omega
  | ended reader packets ending =>
      left
      simp [weight, reader, Inflow.deliveries, packets, ending]
  | relayed reader =>
      left
      simp only [weight, reader, List.length_append, List.length_cons, List.length_nil]
      omega
  | finished reader =>
      left
      simp [weight, reader]
  | received waiting =>
      left
      simp only [weight, waiting, List.length_cons]
      omega
  | closed => exact .inr ⟨rfl, rfl, rfl, rfl⟩

/-- The move that is due brings the end nearer, also where the queue is full. -/
theorem Tracks.weight_due (tracks : Tracks packets ending closed s) (left : 0 < s.weight) :
    (s.act s.due).weight < s.weight := by
  have user := tracks.user
  obtain lower | kept := tracks.weight_turn (turn_act user s.due)
  · exact lower
  · -- the move that is due never leaves the receiving side alone
    exfalso
    obtain ⟨relay, buffer, ⟨packets, ending⟩, results⟩ := s
    replace user : relay.hasReceiver = true := user
    cases waiting : relay.received with
    | cons delivery rest =>
        have same := kept.received
        simp [due, waiting, act, receive, Relay.receive] at same
    | nil =>
        have same := kept.reader
        cases reader : relay.reader with
        | reading =>
            cases packets with
            | cons packet rest => simp [due, waiting, reader, act, read, Relay.step] at same
            | nil =>
                cases ending with
                | some last => simp [due, waiting, reader, act, read, Relay.step] at same
                | none => simp [weight, waiting, reader, Inflow.deliveries] at left
        | holding delivery =>
            cases delivery <;>
              simp [due, waiting, reader, act, Relay.step, Relay.deliver, user, relayDepth] at same
        | stopped => simp [weight, waiting, reader] at left

/-- Where nothing is due, everything is told. -/
theorem Tracks.all_of_weight (tracks : Tracks packets ending closed s)
    (spent : s.weight = 0) : script packets ending 0 <+: s.results := by
  have received : s.relay.received = [] := by
    apply List.eq_nil_of_length_eq_zero
    unfold weight at spent
    omega
  have come : s.toCome = [] := by
    unfold weight at spent
    unfold toCome
    split <;> rename_i reader <;> simp only [reader] at spent
    · apply List.eq_nil_of_length_eq_zero
      omega
    · omega
    · omega
    · rfl
  have told := tracks.told
  rw [received, come, List.append_nil, List.append_nil] at told
  rw [told]
  cases ending with
  | none => exact List.prefix_rfl
  | some last => exact ⟨List.replicate closed (.error .channelClosed), by simp [script]⟩

/-! ## Rounds -/

/-- As long as moves are made, less and less is due. -/
theorem Tracks.weight_run (tracks : Tracks packets ending closed s)
    (moves : List IntakeMove) : (s.run moves).weight ≤ s.weight := by
  induction moves generalizing s closed with
  | nil => exact Nat.le_refl _
  | cons move rest ih =>
      have turn := turn_act tracks.user move
      obtain ⟨_, next⟩ := tracks.told_turn turn
      refine Nat.le_trans (ih next) ?_
      obtain lower | kept := tracks.weight_turn turn
      · exact Nat.le_of_lt lower
      · exact Nat.le_of_eq kept.weight_eq

/-- Moves among which is the one that is due bring the end nearer, whatever else they are. -/
theorem Tracks.weight_round (tracks : Tracks packets ending closed s)
    {round : List IntakeMove} (among : s.due ∈ round) (left : 0 < s.weight) :
    (s.run round).weight < s.weight := by
  induction round generalizing s closed with
  | nil => cases among
  | cons move rest ih =>
      have turn := turn_act tracks.user move
      obtain ⟨_, next⟩ := tracks.told_turn turn
      obtain lower | kept := tracks.weight_turn turn
      · exact Nat.lt_of_le_of_lt (next.weight_run rest) lower
      · -- what is due is still the same, so it must come among the other moves
        have later : s.due ∈ rest := by
          obtain here | later := List.mem_cons.mp among
          · have lower := tracks.weight_due left
            rw [here, kept.weight_eq] at lower
            exact absurd lower (Nat.lt_irrefl _)
          · exact later
        rw [← kept.weight_eq]
        exact ih next (kept.due_eq ▸ later) (kept.weight_eq ▸ left)

/-- Everything that goes on has its turn. -/
def IsRound (round : List IntakeMove) : Prop :=
  .read ∈ round ∧ .deliver ∈ round ∧ .receive ∈ round

theorem IsRound.due_mem {round : List IntakeMove} (fair : IsRound round) (s : Intake) :
    s.due ∈ round := by
  unfold due
  split
  · exact fair.2.2
  · exact fair.1
  · exact fair.2.1

/-- So many rounds as moves are due leave none. -/
theorem Tracks.weight_rounds (tracks : Tracks packets ending closed s)
    {rounds : List (List IntakeMove)} (fair : ∀ round ∈ rounds, IsRound round)
    (enough : s.weight ≤ rounds.length) : (s.run rounds.flatten).weight = 0 := by
  induction rounds generalizing s closed with
  | nil => exact Nat.eq_zero_of_le_zero enough
  | cons round rest ih =>
      obtain ⟨_, next⟩ := tracks.run round
      have shorter : (s.run round).weight ≤ rest.length := by
        obtain spent | left := Nat.eq_zero_or_pos s.weight
        · exact Nat.le_trans (tracks.weight_run round) (spent ▸ Nat.zero_le _)
        · have lower := tracks.weight_round ((fair round List.mem_cons_self).due_mem s) left
          exact Nat.le_of_lt_succ (Nat.lt_of_lt_of_le lower enough)
      have flat : s.run (round :: rest).flatten = (s.run round).run rest.flatten := by
        simp [Intake.run]
      rw [flat]
      exact ih next (fun other among => fair other (List.mem_cons_of_mem _ among)) shorter

/-- A socket gives packets of 1 to 672 bytes, and then perhaps its end. Whatever the reader, the
user and the sending side do and in which order, the receive calls have given the beginning of
this: the packets, in order and unchanged, then the end as one error, then for each further call
that the channel is closed. Where reader and user go on, everything is given: after so many rounds
as there are moves to be made, however much else comes between them. And once the end is told,
each later call finds the channel closed. -/
theorem packets_arrive_then_end (packets : List Packet) (ending : Option StreamEnd)
    (sized : ∀ packet ∈ packets, 1 ≤ packet.length ∧ packet.length ≤ 672) :
    (∀ moves, ∃ closed,
        ((start packets ending).run moves).results <+: script packets ending closed) ∧
      (∀ rounds : List (List IntakeMove), (∀ round ∈ rounds, IsRound round) →
        3 * (packets.length + 1) ≤ rounds.length →
        script packets ending 0 <+: ((start packets ending).run rounds.flatten).results) ∧
      ∀ moves last, ending = some last →
        let s := (start packets ending).run moves
        script packets ending 0 <+: s.results →
          (s.act .receive).results = s.results ++ [.error .channelClosed] := by
  have tracks : Tracks packets ending 0 (start packets ending) := tracks_start sized
  refine ⟨fun moves => ?_, fun rounds fair enough => ?_, ?_⟩
  · obtain ⟨closed, after⟩ := tracks.run moves
    exact ⟨closed, ⟨_, (List.append_assoc ..).symm.trans after.told⟩⟩
  · obtain ⟨_, after⟩ := tracks.run rounds.flatten
    exact after.all_of_weight
      (tracks.weight_rounds fair (Nat.le_trans weight_start enough))
  · rintro moves last rfl s all
    obtain ⟨_, after⟩ := tracks.run moves
    obtain ⟨reader, waiting⟩ : s.relay.reader = .stopped ∧ s.relay.received = [] :=
      after.silent all
    simp [act, receive, Relay.receive, reader, waiting]

/-- Two packets, the longer one first, from a socket that is then reset: after nine rounds of
reading, delivering and receiving all three are told. -/
theorem packets_arrive_then_end_reset :
    (∀ packet ∈ ([[8, 9], [7]] : List Packet), 1 ≤ packet.length ∧ packet.length ≤ 672) ∧
      [.ok [8, 9], .ok [7], .error (.system .connectionReset)] <+:
        ((start [[8, 9], [7]] (some (.failed .connectionReset))).run
          (List.replicate 9 [.read, .deliver, .receive]).flatten).results := by
  have sized : ∀ packet ∈ ([[8, 9], [7]] : List Packet),
      1 ≤ packet.length ∧ packet.length ≤ 672 := by decide
  refine ⟨sized, (packets_arrive_then_end _ (some (.failed .connectionReset)) sized).2.1 _
    (fun round among => ?_) (by decide)⟩
  rw [(List.mem_replicate.mp among).2]
  exact ⟨by decide, by decide, by decide⟩

end Intake

end AccessoryLink
