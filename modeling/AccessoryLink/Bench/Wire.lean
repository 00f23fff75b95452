import AccessoryLink.Channel.Relay

/-!
# A packet socket

The two ends of a connected packet socket: one belongs to a relay, the other to a peer. A peer that
closes its end while packets for it are left resets the connection.
-/

namespace AccessoryLink.Bench

/-- A packet socket between a relay and a peer. -/
structure Wire where
  /-- Packets from the peer that the relay has not read. -/
  inbound : List Packet
  /-- Packets for the peer that it has not taken. -/
  outbound : List Packet
  /-- Whether the peer's end is open. -/
  peerOpen : Bool
  /-- Whether a reset is still to be told. -/
  reset : Bool
  deriving Repr, DecidableEq

namespace Wire

/-- A wire that was just made. -/
def initial : Wire := ⟨[], [], true, false⟩

/-- What a reader finds. -/
def read? (w : Wire) : Option (Reading × Wire) :=
  if w.reset then some (.failed .connectionReset, { w with reset := false })
  else
    match w.inbound with
    | packet :: rest => some (.packet packet, { w with inbound := rest })
    | [] => if w.peerOpen then none else some (.ended, w)

/-- Takes a packet for the peer, unless the peer is gone. A reset is told to whoever reads or writes
first. -/
def write (w : Wire) (packet : Packet) : Bool × Wire :=
  if w.peerOpen then (true, { w with outbound := w.outbound ++ [packet] })
  else (false, { w with reset := false })

/-- The peer sends a packet, which is lost if the relay's end is closed. -/
def peerSend (w : Wire) (relayOpen : Bool) (packet : Packet) : Bool × Wire :=
  if relayOpen then (true, { w with inbound := w.inbound ++ [packet] }) else (false, w)

/-- What a peer that looks for a packet finds. -/
inductive PeerReading where
  | packet (packet : Packet)
  | pending
  /-- Nothing is left, and the relay's end is closed. -/
  | closed
  deriving Repr, DecidableEq

/-- The peer takes a packet. -/
def peerReceive (w : Wire) (relayOpen : Bool) : PeerReading × Wire :=
  match w.outbound with
  | packet :: rest => (.packet packet, { w with outbound := rest })
  | [] => (if relayOpen then .pending else .closed, w)

/-- The peer closes its end. -/
def peerClose (w : Wire) : Wire :=
  { w with peerOpen := false, outbound := [], reset := !w.outbound.isEmpty }

end Wire

/-- The step that a relay takes next on its wire, and the wire after it. -/
def relayStep? (relay : Relay) (wire : Wire) : Option (RelayStep × Wire) :=
  match relay.ownStep? with
  | some step => some (step, wire)
  | none =>
    match relay.writer with
    | .sending packet =>
      match wire.write packet with
      | (accepted, wire) => some (.wrote accepted, wire)
    | _ =>
      match relay.reader with
      | .reading => wire.read?.map fun r => (.read r.1, r.2)
      | _ => none

/-- A relay at one end of a wire. -/
structure Coupling where
  relay : Relay
  wire : Wire

namespace Coupling

/-- A relay on a new wire. -/
def initial : Coupling := ⟨.initial, .initial⟩

/-- Lets the relay take so many steps, or fewer if it comes to wait. -/
def run (c : Coupling) : Nat → Coupling
  | 0 => c
  | n + 1 =>
    match relayStep? c.relay c.wire with
    | some (step, wire) => Coupling.run ⟨c.relay.step step, wire⟩ n
    | none => c

/-- Lets the relay run until it waits. A packet takes two steps in either direction, and the end of
the wire and of each task a few more. -/
def settle (c : Coupling) : Coupling :=
  c.run (2 * (c.wire.inbound.length + c.relay.outgoing.packets.length) + 8)

/-- The peer sends a packet. -/
def peerSend (c : Coupling) (packet : Packet) : Bool × Coupling :=
  match c.wire.peerSend (!c.relay.isClosed) packet with
  | (sent, wire) => (sent, { c with wire := wire })

/-- The peer looks for a packet. -/
def peerReceive (c : Coupling) : Wire.PeerReading × Coupling :=
  match c.wire.peerReceive (!c.relay.isClosed) with
  | (reading, wire) => (reading, { c with wire := wire })

/-- The peer closes its end. -/
def peerClose (c : Coupling) : Coupling := { c with wire := c.wire.peerClose }

end Coupling

end AccessoryLink.Bench
