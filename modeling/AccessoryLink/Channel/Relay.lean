import AccessoryLink.Channel.Queue

/-!
# The relay of a channel

Two tasks stand between a socket and its user. The reader takes packets from the socket and puts
them into a queue for the user; the writer takes the user's packets from a queue and gives them to
the socket. Both queues are bounded. The end of the socket is told once, behind the packets that
came before it.
-/

namespace AccessoryLink

/-- The longest packet that is received whole; what is longer is cut. -/
def maxPacketSize : Nat := 672

/-- How many packets each queue of a relay holds. -/
def relayDepth : Nat := 128

/-- What the socket gives to a reader. -/
inductive Reading where
  | packet (packet : Packet)
  /-- The other end is closed. -/
  | ended
  | failed (error : SystemError)
  deriving Repr, DecidableEq

/-- What the user of a relay receives. -/
abbrev Delivery := Except LinkError Packet

/-- What a reading is to the user. An empty packet means the end as well. -/
def Reading.delivery : Reading → Delivery
  | packet [] => .error .connectionLost
  | packet bytes => .ok (bytes.take maxPacketSize)
  | ended => .error .connectionLost
  | failed error => .error (.system error)

/-- Where the reader stands. -/
inductive Reader where
  /-- It waits for the socket. -/
  | reading
  /-- It waits until the queue has room. -/
  | holding (delivery : Delivery)
  | stopped
  deriving Repr, DecidableEq

/-- Where the writer stands. -/
inductive Writer where
  /-- It waits for a packet. -/
  | waiting
  /-- It waits until the socket has taken a packet. -/
  | sending (packet : Packet)
  | stopped
  deriving Repr, DecidableEq

/-- The two tasks, and the queues between them and the user. -/
structure Relay where
  reader : Reader
  writer : Writer
  /-- What was received and is not taken yet. -/
  received : List Delivery
  /-- What was accepted for sending and is not under way yet. -/
  outgoing : PacketQueue
  /-- Whether the user still receives. -/
  hasReceiver : Bool
  /-- Whether the user may still send. -/
  hasSender : Bool
  deriving Repr, DecidableEq

/-- A step of one of the two tasks. -/
inductive RelayStep where
  /-- The socket gives something to the reader. -/
  | read (reading : Reading)
  /-- The reader puts what it holds into the queue. -/
  | deliver
  /-- The writer takes a packet from its queue. -/
  | take
  /-- The socket has taken the writer's packet, or has failed. -/
  | wrote (accepted : Bool)
  deriving Repr, DecidableEq

namespace Relay

/-- The relay of a new socket. -/
def initial : Relay := ⟨.reading, .waiting, [], .ofDepth relayDepth, true, true⟩

instance : Inhabited Relay := ⟨initial⟩

/-- The relay without its writer; what waited for it is lost. -/
def stopWriter (r : Relay) : Relay := { r with writer := .stopped, outgoing := r.outgoing.close }

/-- The reader puts what it holds into the queue, and stops behind an error or where nobody
receives. -/
def deliver (r : Relay) : Relay :=
  match r.reader with
  | .holding delivery =>
    if !r.hasReceiver then { r with reader := .stopped }
    else if r.received.length < relayDepth then
      { r with
        received := r.received ++ [delivery]
        reader := match delivery with | .ok _ => .reading | .error _ => .stopped }
    else r
  | _ => r

/-- The writer takes the next packet, and stops where none can come. -/
def take (r : Relay) : Relay :=
  match r.writer, r.outgoing.packets with
  | .waiting, packet :: rest =>
    { r with writer := .sending packet, outgoing := { r.outgoing with packets := rest } }
  | .waiting, [] => if r.hasSender then r else r.stopWriter
  | _, _ => r

/-- Takes a step. One that does not fit changes nothing. -/
def step (r : Relay) : RelayStep → Relay
  | .read reading =>
    match r.reader with
    | .reading => { r with reader := .holding reading.delivery }
    | _ => r
  | .deliver => r.deliver
  | .take => r.take
  | .wrote accepted =>
    match r.writer with
    | .sending _ => if accepted then { r with writer := .waiting } else r.stopWriter
    | _ => r

/-- Offers a packet for sending. -/
def send (r : Relay) (packet : Packet) : Outcome × Relay :=
  match r.outgoing.offer packet with
  | (result, outgoing) => (result, { r with outgoing := outgoing })

/-- What the user receives next. There is nothing to come once the reader has stopped. -/
def receive (r : Relay) : Option Delivery × Relay :=
  match r.received, r.reader with
  | delivery :: rest, _ => (some delivery, { r with received := rest })
  | [], .stopped => (some (.error .channelClosed), r)
  | [], _ => (none, r)

/-- Gives up receiving. -/
def dropReceiver (r : Relay) : Relay := { r with received := [], hasReceiver := false }

/-- Gives up sending. -/
def dropSender (r : Relay) : Relay := { r with hasSender := false }

/-- Stops both tasks. -/
def abort (r : Relay) : Relay := { r.stopWriter with reader := .stopped }

/-- Whether both tasks are gone, so that the socket is closed. -/
def isClosed (r : Relay) : Bool :=
  match r.reader, r.writer with
  | .stopped, .stopped => true
  | _, _ => false

/-- The step that the relay takes by itself, if there is one. -/
def ownStep? (r : Relay) : Option RelayStep :=
  match r.reader, r.writer with
  | .holding _, writer =>
    if !r.hasReceiver || decide (r.received.length < relayDepth) then some .deliver
    else
      match writer with
      | .waiting => if r.outgoing.packets.isEmpty && r.hasSender then none else some .take
      | _ => none
  | _, .waiting => if r.outgoing.packets.isEmpty && r.hasSender then none else some .take
  | _, _ => none

end Relay

end AccessoryLink
