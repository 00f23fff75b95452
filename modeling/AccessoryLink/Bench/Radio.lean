import AccessoryLink.Bench.Wire
import AccessoryLink.Control.Tasks
import AccessoryLink.Directory.Watch

/-!
# A scripted radio

A radio with a list of devices, each of which is told how to answer: at once, with an error, or not
until it is asked to. Channels are wires, whose other ends the bench keeps.
-/

namespace AccessoryLink.Bench

/-- How a device answers a request. -/
inductive AnswerMode where
  | accept
  | fail
  /-- No answer comes by itself. -/
  | hang
  deriving Repr, DecidableEq

/-- The word for a mode; every other word means to accept. -/
def AnswerMode.ofWord (word : String) : AnswerMode :=
  if word = "fail" ∨ word = "refuse" then fail
  else if word = "hang" then hang
  else accept

/-- The identifier of the accessory service. -/
def accessoryUuid : String := "00000000-deca-fade-deca-deafdecacaff"

/-- The services that a list of identifiers names. Case makes no difference. -/
def servicesOf (uuids : List String) : ServiceList :=
  .known (uuids.any fun uuid => uuid.map Char.toLower == accessoryUuid)

/-- A device as the radio knows it. -/
structure RadioDevice where
  address : Address
  /-- Whether it is paired, if that can be read. -/
  paired : Option Bool
  services : ServiceList
  connected : Bool
  /-- Whether it can be read that it is connected. -/
  isReadable : Bool
  onConnect : AnswerMode
  onDisconnect : AnswerMode
  onChannel : AnswerMode
  deriving Repr, DecidableEq

/-- A device about which nothing was said. -/
def RadioDevice.fresh (address : Address) : RadioDevice where
  address := address
  paired := none
  services := .known false
  connected := false
  isReadable := true
  onConnect := .accept
  onDisconnect := .accept
  onChannel := .accept

/-- What waits for the listener. -/
inductive Arrival where
  | channel (device : Address) (socket : SocketId)
  | failure (code : Int) (message : String)
  deriving Repr, DecidableEq

/-- What the system says about some of its failures. -/
def failureText (code : Nat) : String :=
  if code = 12 then "Cannot allocate memory"
  else if code = 23 then "Too many open files in system"
  else if code = 24 then "Too many open files"
  else if code = 103 then "Software caused connection abort"
  else if code = 105 then "No buffer space available"
  else "Unknown error " ++ toString code

/-- A failure to accept with a code of the system. -/
def Arrival.ofCode (code : Nat) : Arrival :=
  failure code (failureText code ++ " (os error " ++ toString code ++ ")")

/-- The radio, and what the bench keeps of it. -/
structure Radio where
  devices : List RadioDevice
  /-- Whether the devices cannot be listed. -/
  listingFails : Bool
  /-- Why the service number cannot be claimed for inbound channels. -/
  bindFault : Option SystemError
  /-- Whether there are packet sockets at all. -/
  hasSockets : Bool
  /-- Every wire that was made, by its number. -/
  wires : List Wire
  /-- The latest wire of each device. -/
  kept : List (Address × SocketId)
  /-- What waits for the listener, oldest first. -/
  backlog : List Arrival
  /-- The latest unanswered request of each device. -/
  hanging : List (Address × RadioRequest)
  /-- The channels that were asked for and are ready or refused. -/
  openings : List (TaskId × Option SocketId)

namespace Radio

/-- A radio without devices. -/
def initial : Radio where
  devices := []
  listingFails := false
  bindFault := none
  hasSockets := true
  wires := []
  kept := []
  backlog := []
  hanging := []
  openings := []

/-- The device with an address. -/
def device? (r : Radio) (address : Address) : Option RadioDevice :=
  r.devices.find? (·.address == address)

/-- Changes a device, which is added if it is not there. -/
def change (r : Radio) (address : Address) (f : RadioDevice → RadioDevice) : Radio :=
  if (r.device? address).isSome then
    { r with devices := r.devices.map fun d => if d.address = address then f d else d }
  else { r with devices := r.devices ++ [f (.fresh address)] }

/-- Takes a device away. -/
def remove (r : Radio) (address : Address) : Radio :=
  { r with devices := r.devices.filter (·.address != address) }

/-- Sets whether a device is connected, if it is there. -/
def setConnected (r : Radio) (address : Address) (connected : Bool) : Radio :=
  if (r.device? address).isSome then r.change address ({ · with connected := connected }) else r

/-- Whether a device can be seen to be connected. -/
def isConnected (r : Radio) (address : Address) : Bool :=
  match r.device? address with
  | some d => d.isReadable && d.connected
  | none => false

/-- The bonds as a sweep would read them now. -/
def bondView (r : Radio) : BondView where
  devices := if r.listingFails then none else some (r.devices.map (·.address))
  paired address := (r.device? address).bind (·.paired)
  services address :=
    match r.device? address with
    | some d => d.services
    | none => .unreadable

/-! ## Wires -/

/-- Makes a wire to a device, which replaces the one that was kept. -/
def connectWire (r : Radio) (address : Address) : SocketId × Radio :=
  let socket := r.wires.length
  (socket,
    { r with
      wires := r.wires ++ [.initial]
      kept := (address, socket) :: r.kept.filter (·.1 != address) })

/-- The wire with a number. -/
def wire? (r : Radio) (socket : SocketId) : Option Wire := r.wires[socket]?

/-- Replaces a wire. -/
def setWire (r : Radio) (socket : SocketId) (wire : Wire) : Radio :=
  { r with wires := r.wires.set socket wire }

/-- Whether a channel waits for the listener. -/
def isWaiting (r : Radio) (socket : SocketId) : Bool :=
  r.backlog.any fun
    | .channel _ s => s == socket
    | .failure _ _ => false

/-! ## Requests -/

/-- The answer to a request to connect or disconnect, or nothing if the request hangs. -/
def answerCall (r : Radio) (address : Address) (mode : AnswerMode) (connected : Bool)
    (request : RadioRequest) : Option Bool × Radio :=
  match mode with
  | .accept => (some true, r.setConnected address connected)
  | .fail => (some false, r)
  | .hang =>
    (none, { r with hanging := (address, request) :: r.hanging.filter (·.1 != address) })

/-- The step that answers a request, if one does at once, and the radio after it. A device that is
not there fails every request. -/
def answer (r : Radio) (request : RadioRequest) : Option ControlStep × Radio :=
  match request with
  | .connect task address =>
    match r.device? address with
    | none => (some (.dialed task false), r)
    | some d =>
      match r.answerCall address d.onConnect true request with
      | (some ok, r) => (some (.dialed task ok), r)
      | (none, r) => (none, r)
  | .disconnect task address =>
    match r.device? address with
    | none => (some (.hungUp task), r)
    | some d =>
      match r.answerCall address d.onDisconnect false request with
      | (some _, r) => (some (.hungUp task), r)
      | (none, r) => (none, r)
  | .poll task address => (some (.polled task (r.isConnected address)), r)
  | .confirm task address => (some (.settled task (r.isConnected address)), r)
  | .openChannel _ _ _ => (none, r)

/-- Takes up a request to open a channel. -/
def openChannel (r : Radio) (task : TaskId) (address : Address) : Radio :=
  let mode := match r.device? address with
    | some d => d.onChannel
    | none => .accept
  if !r.hasSockets then { r with openings := r.openings ++ [(task, none)] }
  else
    match mode with
    | .accept =>
      match r.connectWire address with
      | (socket, r) => { r with openings := r.openings ++ [(task, some socket)] }
    | .fail => { r with openings := r.openings ++ [(task, none)] }
    | .hang => r

/-- Answers the hanging request of a device; the answer goes to the task that made it. -/
def release (r : Radio) (address : Address) (ok : Bool) :
    Option (TaskId × ControlStep) × Radio :=
  match r.hanging.lookup address with
  | none => (none, r)
  | some request =>
    let r := { r with hanging := r.hanging.filter (·.1 != address) }
    match request with
    | .connect task _ =>
      (some (task, .dialed task ok), if ok then r.setConnected address true else r)
    | .disconnect task _ =>
      (some (task, .hungUp task), if ok then r.setConnected address false else r)
    | _ => (none, r)

end Radio

end AccessoryLink.Bench
