import AccessoryLink.LinkState
import AccessoryLink.Address

/-!
# Messages and events

`StackEvent` is what the radio stack reports, `Message` is what the machine consumes, and `Event` is
what observers are told.
-/

namespace AccessoryLink

/-- A packet of the service channel. -/
abbrev Packet := List UInt8

/-- The number under which a caller filed a request. -/
abbrev Ticket := Nat

/-- A report of the radio stack. -/
inductive StackEvent where
  | connection (state : ConnectionState) (device : Address)
  | service (state : ServiceState) (device : Address) (channel : Option ChannelHandle)
  | data (packet : Packet)
  | error (code : Int) (message : String)
  deriving Repr, DecidableEq

/-- What a caller may ask of the link. -/
inductive Verb where
  | connect
  | disconnect
  deriving Repr, DecidableEq

/-- A request to connect or disconnect a device. -/
structure Command where
  verb : Verb
  device : Address
  ticket : Ticket
  deriving Repr, DecidableEq

/-- What the machine consumes. -/
inductive Message where
  | command (command : Command)
  /-- A packet for the current device. The result is told under the ticket, if there is one. -/
  | send (packet : Packet) (ticket : Option Ticket)
  | stack (event : StackEvent)
  /-- The connect timer of this generation has expired. -/
  | timeout (generation : Nat)
  /-- The marker behind which nothing is handled any more. -/
  | shutdown
  deriving Repr, DecidableEq

/-- What observers are told. A transition names the new state and the one before. -/
inductive Event where
  | connection (device : Address) (new prev : ConnectionState)
  | service (device : Address) (new prev : ServiceState)
  | data (packet : Packet)
  | stackError (code : Int) (message : String)
  /-- An inbound connection was refused. -/
  | incomingRejected (device : Address)
  deriving Repr, DecidableEq

/-- The event that takes back what this one told. -/
def Event.inverse : Event → Event
  | connection device new prev => connection device prev new
  | service device new prev => service device prev new
  | other => other

end AccessoryLink
