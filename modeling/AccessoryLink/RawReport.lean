import AccessoryLink.Error
import AccessoryLink.Message

/-!
# Raw reports

The stack reports states as codes and devices as raw bytes. Each report becomes exactly one typed
event; one that cannot be understood becomes an error event, so nothing is lost without a trace.
-/

namespace AccessoryLink.RawReport

/-- The code of an error event for a report that was not understood. -/
def errorCode : Int := -1

/-- The error event for a report that was not understood. -/
def failure (error : LinkError) : StackEvent := .error errorCode error.message

/-- The text of the error for an open service without a channel. -/
def missingChannel : String := "service connected without a channel"

/-- A raw address as a device. -/
def resolve (address : List UInt8) : Except LinkError Address :=
  match Address.ofBytes? address with
  | some device => .ok device
  | none => .error (.invalidAddress address.length)

/-- A report about a connection. An unknown code is reported before a bad address. -/
def connection (code : UInt32) (address : List UInt8) : StackEvent :=
  match ConnectionState.ofCode? code, resolve address with
  | none, _ => failure (.unknownConnectionState code)
  | some _, .error e => failure e
  | some state, .ok device => .connection state device

/-- A report about a service. An unknown code is reported before a bad address, and that before a
missing channel. -/
def service (code : UInt32) (address : List UInt8) (channel : Option ChannelHandle) : StackEvent :=
  match ServiceState.ofCode? code, resolve address with
  | none, _ => failure (.unknownServiceState code)
  | some _, .error e => failure e
  | some state, .ok device =>
    if state = .connected ∧ channel = none then .error errorCode missingChannel
    else .service state device channel

/-- A received packet. -/
def data (packet : Packet) : StackEvent := .data packet

/-- A failure that the transport reports itself. -/
def error (code : Int) (message : String) : StackEvent := .error code message

/-- What the transport may call back with. -/
inductive Callback where
  | connection (code : UInt32) (address : List UInt8)
  | service (code : UInt32) (address : List UInt8) (channel : Option ChannelHandle)
  | data (packet : Packet)
  | error (code : Int) (message : String)
  deriving Repr, DecidableEq

/-- The event that a callback becomes. -/
def Callback.event : Callback → StackEvent
  | connection code address => RawReport.connection code address
  | service code address channel => RawReport.service code address channel
  | data packet => RawReport.data packet
  | error code message => RawReport.error code message

@[simp] theorem resolve_bytes (device : Address) : resolve device.bytes = .ok device := by
  simp [resolve]

/-- A typed connection report arrives as it was sent. -/
@[simp] theorem connection_code (state : ConnectionState) (device : Address) :
    connection state.code device.bytes = .connection state device := by
  simp [connection]

end AccessoryLink.RawReport
