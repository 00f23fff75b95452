import AccessoryLink.Admission
import AccessoryLink.Error
import AccessoryLink.Message
import AccessoryLink.Snapshot

/-!
# The link machine: state and elementary actions

The machine decides what happens to the single link. It acts on surroundings, a value of any type
with operations for the radio and questions about peers, so its answers may differ from call to
call. While it works on a message it is a `Turn`: the machine, the surroundings and the trace of
what was done so far. Every write of the shared snapshot, every event and every call stands in the
trace in its place.
-/

namespace AccessoryLink

/-- What the machine acts on: the radio, whose answers say whether a request was accepted, and what
is known of peers. Both may change with every action. -/
structure Surroundings (W : Type) where
  connect : W → Address → Outcome × W
  disconnect : W → Address → Outcome × W
  send : W → Address → Packet → Outcome × W
  /-- Releases everything the radio holds. -/
  cleanup : W → W
  priority : W → Address → Priority
  /-- Whether a device is bonded. -/
  bonded : W → Address → Bool
  /-- The bonded devices that offer the accessory service. -/
  accessories : W → List Address
  /-- Whether unsolicited connections are turned away. -/
  quiet : W → Bool

/-- Whether an inbound attempt of a device is admitted. -/
def Surroundings.admits {W : Type} (env : Surroundings W) (w : W) (device : Address)
    (outgoing : Bool) : Bool :=
  Admission.accepts (env.quiet w) outgoing (env.priority w device) (env.bonded w device)

/-- The one outstanding connect timer. -/
structure ConnectTimer where
  generation : Nat
  deadline : Nat
  deriving Repr, DecidableEq

/-- The state of the link machine. -/
structure Machine where
  snapshot : Snapshot
  /-- Commands that wait for a change of state, oldest first. -/
  deferred : List Command
  /-- Messages that were released and come before everything new. -/
  replay : List Message
  timer : Option ConnectTimer
  /-- The generation of the last timer that was armed. -/
  generation : Nat
  deriving Repr, DecidableEq

/-- The machine before its first message. -/
def Machine.initial : Machine := ⟨.initial, [], [], none, 0⟩

instance : Inhabited Machine := ⟨.initial⟩

/-- A call to the radio. -/
inductive Call where
  | connect (device : Address)
  | disconnect (device : Address)
  | send (device : Address) (packet : Packet)
  | cleanup
  deriving Repr, DecidableEq

/-- One entry of the trace. -/
inductive Effect where
  /-- A message is taken up. -/
  | took (message : Message)
  /-- The command taken up is put off. -/
  | deferred (command : Command)
  /-- The shared snapshot is written. -/
  | wrote (snapshot : Snapshot)
  /-- Observers are told. -/
  | told (event : Event)
  /-- The radio is called, and answers. -/
  | called (call : Call) (answer : Outcome)
  /-- An inbound attempt is judged. -/
  | judged (device : Address) (outgoing admitted : Bool)
  /-- The caller who holds the ticket gets a result. -/
  | answered (ticket : Ticket) (result : Outcome)
  /-- The message taken up is rejected. -/
  | rejected (state : MachineState) (conflict : RoleConflict)
  deriving DecidableEq

/-- The line logged for an entry: a rejection names the state it was met in and its cause. -/
def Effect.logLine? : Effect → Option String
  | rejected state conflict =>
    some (state.name ++ ": message rejected: " ++ (LinkError.roleConflict conflict).message)
  | _ => none

/-- The machine at work. -/
structure Turn (W : Type) where
  machine : Machine
  world : W
  effects : List Effect

namespace Turn

variable {W : Type}

/-- Adds an entry to the trace. -/
def note (t : Turn W) (effect : Effect) : Turn W :=
  { t with effects := t.effects ++ [effect] }

/-- The snapshot as it stands. -/
def snapshot (t : Turn W) : Snapshot := t.machine.snapshot

/-- Tells observers. -/
def tell (t : Turn W) (event : Event) : Turn W := t.note (.told event)

/-- Tells observers that the connection of a device changed. -/
def tellConnection (t : Turn W) (device : Address) (new prev : ConnectionState) : Turn W :=
  t.tell (.connection device new prev)

/-- Tells observers that the service of a device changed. -/
def tellService (t : Turn W) (device : Address) (new prev : ServiceState) : Turn W :=
  t.tell (.service device new prev)

/-- Writes the shared snapshot. -/
def write (t : Turn W) (snapshot : Snapshot) : Turn W :=
  { t with machine := { t.machine with snapshot := snapshot } }.note (.wrote snapshot)

/-- Records the service channel of the current device. -/
def setService (t : Turn W) (channel : Option ChannelHandle) : Turn W :=
  t.write { t.snapshot with service := channel }

/-- Gives a result to the caller who waits for one. -/
def answer (t : Turn W) (ticket : Option Ticket) (result : Outcome) : Turn W :=
  match ticket with
  | some n => t.note (.answered n result)
  | none => t

/-- Fails the caller of a message that will not be processed. -/
def refuse (t : Turn W) (message : Message) (error : LinkError) : Turn W :=
  match message with
  | .send _ ticket => t.answer ticket (.error error)
  | _ => t

/-- Gives up the message taken up. -/
def reject (t : Turn W) (conflict : RoleConflict) : Turn W :=
  t.note (.rejected t.snapshot.state conflict)

/-- Puts a command off until the state changes. -/
def defer (t : Turn W) (command : Command) : Turn W :=
  { t with machine := { t.machine with deferred := t.machine.deferred ++ [command] } }.note
    (.deferred command)

/-- Arms the connect timer under a new generation. -/
def arm (t : Turn W) (deadline : Nat) : Turn W :=
  let generation := t.machine.generation + 1
  { t with machine :=
      { t.machine with timer := some ⟨generation, deadline⟩, generation := generation } }

/-- Asks the radio to connect a device. -/
def connect (env : Surroundings W) (t : Turn W) (device : Address) : Outcome × Turn W :=
  let (result, world) := env.connect t.world device
  (result, { t with world := world }.note (.called (.connect device) result))

/-- Asks the radio to disconnect a device. -/
def disconnect (env : Surroundings W) (t : Turn W) (device : Address) : Outcome × Turn W :=
  let (result, world) := env.disconnect t.world device
  (result, { t with world := world }.note (.called (.disconnect device) result))

/-- Gives the radio a packet for a device. -/
def send (env : Surroundings W) (t : Turn W) (device : Address) (packet : Packet) :
    Outcome × Turn W :=
  let (result, world) := env.send t.world device packet
  (result, { t with world := world }.note (.called (.send device packet) result))

/-- Releases everything the radio holds. -/
def cleanup (env : Surroundings W) (t : Turn W) : Turn W :=
  { t with world := env.cleanup t.world }.note (.called .cleanup .done)

/-- Judges an inbound attempt. -/
def judge (env : Surroundings W) (t : Turn W) (device : Address) (outgoing : Bool) :
    Bool × Turn W :=
  let admitted := env.admits t.world device outgoing
  (admitted, t.note (.judged device outgoing admitted))

/-- Moves to a state with these roles. Only a connected link has a service and only a pending
transition has a timer; a change of state releases what was put off, ahead of everything else. -/
def enter (t : Turn W) (next : MachineState) (roles : Roles) : Turn W :=
  let m := t.machine
  let snapshot : Snapshot :=
    ⟨next, roles, if next = .connected then m.snapshot.service else none⟩
  let after : Machine :=
    { snapshot := snapshot
      deferred := if m.snapshot.state = next then m.deferred else []
      replay :=
        if m.snapshot.state = next then m.replay
        else m.deferred.map Message.command ++ m.replay
      timer := if next = .pending then m.timer else none
      generation := m.generation }
  { t with machine := after }.note (.wrote snapshot)

/-- Commits a change of state and roles and goes on from there. A change of roles that failed, or
one that would leave a device tracked while disconnected, rejects the message and changes
nothing. -/
def commitThen (t : Turn W) (next : MachineState) (roles : Except RoleConflict Roles)
    (proceed : Turn W → Turn W) : Turn W :=
  match roles with
  | .error conflict => t.reject conflict
  | .ok roles =>
    if next = .disconnected ∧ roles ≠ .idle then t.reject ⟨.enterDisconnected, roles⟩
    else proceed (t.enter next roles)

/-- Commits a change of state and roles. -/
def commit (t : Turn W) (next : MachineState) (roles : Except RoleConflict Roles) : Turn W :=
  t.commitThen next roles id

end Turn

end AccessoryLink
