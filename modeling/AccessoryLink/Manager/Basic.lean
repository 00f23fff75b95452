import AccessoryLink.Machine.Handle
import AccessoryLink.RawReport

/-!
# The link manager: queue and requests

Requests of callers and reports of the stack share one queue, which an actor works off. A request is
checked against the snapshot as it is when the caller asks, and is then queued; so the link may have
changed when its turn comes. Queries read the snapshot and never wait.
-/

namespace AccessoryLink

/-- The manager of a link, with the surroundings that its machine acts on. -/
structure Manager (W : Type) where
  machine : Machine
  world : W
  /-- The queue, oldest first. -/
  inbox : List Message
  /-- Whether the actor has stopped; nothing is queued any more then. -/
  ended : Bool
  /-- Whether a shutdown was asked for. -/
  stopping : Bool
  /-- Whether all handles are gone, so that nothing more can come. -/
  orphaned : Bool
  /-- How long an attempt to connect may take, in milliseconds. -/
  timeout : Nat
  /-- The time, in milliseconds. -/
  now : Nat
  /-- How many requests were filed. -/
  tickets : Ticket

namespace Manager

variable {W : Type}

/-- A manager before anything was asked. -/
def initial (world : W) (timeout : Nat) : Manager W where
  machine := .initial
  world := world
  inbox := []
  ended := false
  stopping := false
  orphaned := false
  timeout := timeout
  now := 0
  tickets := 0

/-! ## Queries -/

/-- The snapshot that readers see. -/
def snapshot (m : Manager W) : Snapshot := m.machine.snapshot

/-- The connection of a device. -/
def connectionOf (m : Manager W) (device : Address) : ConnectionState :=
  m.snapshot.connectionOf device

/-- The service of a device. -/
def serviceOf (m : Manager W) (device : Address) : ServiceState := m.snapshot.serviceOf device

/-- The service channel of a device. -/
def channelOf (m : Manager W) (device : Address) : Option ChannelHandle :=
  m.snapshot.channelOf device

/-- The connected devices: one or none. -/
def connectedDevices (m : Manager W) : List Address := m.snapshot.connectedDevice?.toList

/-- The bonded accessories, and every tracked device, whose connection is in one of some states. -/
def devicesMatching (env : Surroundings W) (m : Manager W) (states : List ConnectionState) :
    List Address :=
  let known := m.snapshot.roles.devices.foldl Address.adjoin (env.accessories m.world)
  known.filter fun device => states.contains (m.connectionOf device)

/-! ## Requests -/

/-- Queues a message, unless the actor has stopped. -/
def enqueue (m : Manager W) (message : Message) : Outcome × Manager W :=
  if m.ended then (.error .managerShutdown, m)
  else (.done, { m with inbox := m.inbox ++ [message] })

/-- Queues a command under a new ticket. -/
def enqueueCommand (m : Manager W) (verb : Verb) (device : Address) : Outcome × Manager W :=
  { m with tickets := m.tickets + 1 }.enqueue (.command ⟨verb, device, m.tickets⟩)

/-- Asks to connect a device. A device switched off by its priority is refused whatever its
state. -/
def connect (env : Surroundings W) (m : Manager W) (device : Address) : Outcome × Manager W :=
  if env.priority m.world device = .off then (.error (.priorityOff device), m)
  else
    match m.connectionOf device with
    | .connected => (.error .alreadyConnected, m)
    | .connecting => (.error .alreadyConnecting, m)
    | _ => m.enqueueCommand .connect device

/-- Asks to disconnect a device. -/
def disconnect (m : Manager W) (device : Address) : Outcome × Manager W :=
  match m.connectionOf device with
  | .connected | .connecting => m.enqueueCommand .disconnect device
  | _ => (.error .deviceNotConnected, m)

/-- Asks to send a packet to a device. If it is queued, the result comes later under the ticket. -/
def send (m : Manager W) (device : Address) (packet : Packet) :
    Except LinkError Ticket × Manager W :=
  if m.connectionOf device ≠ .connected then (.error .deviceNotConnected, m)
  else
    match { m with tickets := m.tickets + 1 }.enqueue (.send packet (some m.tickets)) with
    | (.ok _, after) => (.ok m.tickets, after)
    | (.error e, after) => (.error e, after)

/-- Takes up a report of the stack. After the end nobody listens. -/
def report (m : Manager W) (event : StackEvent) : Manager W := (m.enqueue (.stack event)).2

/-- Takes up a callback of the transport as the event it becomes. -/
def deliver (m : Manager W) (call : RawReport.Callback) : Manager W := m.report call.event

/-- Asks to stop. Only the first request puts the marker into the queue; whether there is one to
wait for is told. -/
def requestShutdown (m : Manager W) : Bool × Manager W :=
  if m.stopping then (false, m)
  else (true, { m with stopping := true }.enqueue .shutdown |>.2)

/-- Gives up all handles. -/
def drop (m : Manager W) : Manager W := { m with orphaned := true }

end Manager

end AccessoryLink
