import AccessoryLink.Directory.Basic
import AccessoryLink.Hex.Report
import AccessoryLink.Json
import AccessoryLink.Manager.Basic

/-!
# The methods of the bus interface

Clients name devices, states and priorities by text and number. An argument that cannot be read is
refused before the manager is asked, so nothing has happened then; a failure of the manager is
passed on as its text.
-/

namespace AccessoryLink.Service

/-- A call of a method, or a read of the property `ConnectedCount`. -/
inductive MethodCall where
  | connect (address : String)
  | disconnect (address : String)
  | sendData (address data : String)
  | getConnectionState (address : String)
  | getServiceState (address : String)
  | getServiceChannel (address : String)
  | getConnectedDevices
  | getDevicesMatchingStates (codes : List UInt32)
  | getPriority (address : String)
  | setPriority (address priority : String)
  | connectedCount
  deriving Repr, DecidableEq

/-- What a method gives back. -/
inductive Reply where
  | accepted
  | number (n : UInt32)
  | text (text : String)
  | addresses (list : List Address)
  deriving Repr, DecidableEq

/-- Why a method failed. -/
inductive MethodError where
  | invalidArguments (text : String)
  | failed (text : String)
  deriving Repr, DecidableEq

/-- What a call comes to: a reply, an error, or a wait for the result of a send. -/
inductive Answer where
  | reply (reply : Reply)
  | error (error : MethodError)
  | waiting (ticket : Ticket)
  deriving Repr, DecidableEq

/-- The answer of an operation that gives nothing back. -/
def Answer.ofOutcome : Outcome → Answer
  | .ok _ => reply .accepted
  | .error e => error (.failed e.message)

/-- Runs an operation on the device that a text names. -/
def withDevice {α : Type} (address : String) (state : α) (run : Address → Answer × α) :
    Answer × α :=
  match Address.parse address with
  | .ok device => run device
  | .error m => (.error (.invalidArguments m.message), state)

/-- The connection states with some codes. The first code that is none is reported. -/
def statesOfCodes : List UInt32 → Except MethodError (List ConnectionState)
  | [] => .ok []
  | code :: rest =>
    match ConnectionState.ofCode? code with
    | none =>
      .error (.invalidArguments ("Unknown connection state: " ++ toString code.toNat))
    | some state => (statesOfCodes rest).map (state :: ·)

/-- A device and its service as one object of a list. -/
def deviceObject (device : Address) (service : ServiceState) : Json :=
  .obj [("address", .str device.text), ("service", .num service.code.toNat)]

/-- What the service acts on besides the manager: the priorities that users set. -/
structure Settings (W : Type) where
  setPriority : W → Address → Priority → Outcome × W

variable {W : Type}

/-- Sets the priority of a device. -/
def assignPriority (settings : Settings W) (m : Manager W) (device : Address)
    (priority : Priority) : Outcome × Manager W :=
  match settings.setPriority m.world device priority with
  | (result, world) => (result, { m with world := world })

/-- Asks to send the bytes that a text writes. -/
def sendText (m : Manager W) (device : Address) (data : String) : Answer × Manager W :=
  match Hex.decode data with
  | .error e => (.error (.invalidArguments e.message), m)
  | .ok packet =>
    match m.send device packet with
    | (.ok ticket, m) => (.waiting ticket, m)
    | (.error e, m) => (.error (.failed e.message), m)

/-- Carries out a call. -/
def call (env : Surroundings W) (settings : Settings W) (m : Manager W) :
    MethodCall → Answer × Manager W
  | .connect address => withDevice address m fun device =>
    match m.connect env device with
    | (result, m) => (.ofOutcome result, m)
  | .disconnect address => withDevice address m fun device =>
    match m.disconnect device with
    | (result, m) => (.ofOutcome result, m)
  | .sendData address data => withDevice address m fun device => sendText m device data
  | .getConnectionState address => withDevice address m fun device =>
    (.reply (.number (m.connectionOf device).code), m)
  | .getServiceState address => withDevice address m fun device =>
    (.reply (.number (m.serviceOf device).code), m)
  | .getServiceChannel address => withDevice address m fun device =>
    match m.channelOf device with
    | some channel => (.reply (.number channel.number), m)
    | none => (.error (.failed LinkError.channelClosed.message), m)
  | .getConnectedDevices =>
    let objects := m.connectedDevices.map fun device => deviceObject device (m.serviceOf device)
    (.reply (.text (Json.arr objects).text), m)
  | .getDevicesMatchingStates codes =>
    match statesOfCodes codes with
    | .ok states => (.reply (.addresses (m.devicesMatching env states)), m)
    | .error e => (.error e, m)
  | .getPriority address => withDevice address m fun device =>
    (.reply (.text (env.priority m.world device).name), m)
  | .setPriority address priority => withDevice address m fun device =>
    match Priority.ofName? priority with
    | some priority =>
      match assignPriority settings m device priority with
      | (result, m) => (.ofOutcome result, m)
    | none => (.error (.invalidArguments ("Invalid priority: " ++ priority)), m)
  | .connectedCount => (.reply (.number (UInt32.ofNat m.connectedDevices.length)), m)

end AccessoryLink.Service
