import AccessoryLink.Channel.Register
import AccessoryLink.Channel.Relay
import AccessoryLink.RawReport

/-!
# Link control: the books

Link control carries out what the machine asks of the radio. Each link has a task of its own, which
brings the link up, opens the service channel and relays packets until the link is lost; each
disconnection has one too. Tasks that have ended, or were aborted, are in the list of tasks no more
and take no further step.

The books are the task that was last started for each device, the register of the service channel,
and the devices whose disconnection is under way.
-/

namespace AccessoryLink

/-- The number of a task. -/
abbrev TaskId := Nat

/-- The number of a socket. -/
abbrev SocketId := Nat

/-- An established link. -/
structure Serving where
  /-- The socket of the service channel and its relay, if the channel could be opened. -/
  channel : Option (SocketId × Relay)
  /-- Whether packets are still expected from the relay. -/
  receiving : Bool
  /-- Whether it was asked if the device is still connected. -/
  asking : Bool
  /-- When to ask next. -/
  nextPoll : Nat
  deriving Repr, DecidableEq

/-- Where the task of a link stands. -/
inductive LinkStage where
  /-- It was just started: by a request from here, or by an inbound channel with its socket. -/
  | fresh (accepted : Option SocketId)
  /-- The radio was asked to connect the device. -/
  | dialing (deadline : Nat)
  /-- The service channel was asked for. -/
  | opening (deadline : Nat)
  | serving (serving : Serving)
  deriving Repr, DecidableEq

/-- The task of a link. -/
structure LinkTask where
  id : TaskId
  device : Address
  stage : LinkStage
  deriving Repr, DecidableEq

/-- Where the task of a disconnection stands. -/
inductive HangupStage where
  | fresh
  /-- The radio was asked to disconnect the device. -/
  | calling
  /-- It was asked whether the device is still connected. -/
  | reading
  deriving Repr, DecidableEq

/-- The task of a disconnection. -/
structure HangupTask where
  id : TaskId
  device : Address
  /-- Whether a link task was aborted for it. -/
  aborted : Bool
  stage : HangupStage
  deriving Repr, DecidableEq

/-- Where the listener for inbound channels stands. -/
inductive Listener where
  | accepting
  /-- It waits after a failure, up to a moment. -/
  | pausing (moment : Nat)
  deriving Repr, DecidableEq

/-- The control of all links of an adapter. -/
structure Control where
  /-- The number under which the accessory service is reached. -/
  psm : UInt16
  /-- How often a link is checked, in milliseconds. -/
  pollInterval : Nat
  register : ChannelRegister
  closing : ClosingSet
  /-- The task last started for each device, running or not. -/
  links : List (Address × TaskId)
  /-- The running tasks of links. -/
  tasks : List LinkTask
  /-- The running tasks of disconnections. -/
  hangups : List HangupTask
  listener : Option Listener
  nextTask : TaskId

/-- How long the radio may take to connect a device. -/
def dialLimit : Nat := 25000

/-- How long the service channel may take to open. -/
def openLimit : Nat := 10000

/-- How long the listener waits after a failure. -/
def acceptRetryDelay : Nat := 1000

/-- What is reported at the end of a disconnection. A device whose link task was aborted is gone as
far as the service is concerned, even if it stays connected for another reason. -/
def settledState (aborted stillConnected : Bool) : ConnectionState :=
  if stillConnected && !aborted then .connected else .disconnected

/-- A report to the stack, and the task it comes from. Reports of the listener come from none. -/
structure Report where
  task : Option TaskId
  event : StackEvent
  deriving Repr, DecidableEq

/-- What a task asks of the radio. -/
inductive RadioRequest where
  | connect (task : TaskId) (device : Address)
  | disconnect (task : TaskId) (device : Address)
  | openChannel (task : TaskId) (device : Address) (psm : UInt16)
  /-- Whether the device of a link is still connected. -/
  | poll (task : TaskId) (device : Address)
  /-- Whether a device is still connected after it was to be disconnected. -/
  | confirm (task : TaskId) (device : Address)
  deriving Repr, DecidableEq

/-- The task that made a request. -/
def RadioRequest.task : RadioRequest → TaskId
  | connect task _ | disconnect task _ | openChannel task _ _ | poll task _ | confirm task _ => task

namespace Control

/-- The control before its first request. -/
def initial (psm : UInt16) (pollInterval : Nat) : Control where
  psm := psm
  pollInterval := pollInterval
  register := .initial
  closing := []
  links := []
  tasks := []
  hangups := []
  listener := none
  nextTask := 0

/-- A running link task. -/
def task? (c : Control) (id : TaskId) : Option LinkTask := c.tasks.find? (·.id == id)

/-- A running disconnection. -/
def hangup? (c : Control) (id : TaskId) : Option HangupTask := c.hangups.find? (·.id == id)

/-- Whether the task last started for a device is still running. -/
def isLinked (c : Control) (device : Address) : Bool :=
  match c.links.lookup device with
  | some id => (c.task? id).isSome
  | none => false

/-- Ends a link task. -/
def endTask (c : Control) (id : TaskId) : Control :=
  { c with tasks := c.tasks.filter (·.id != id) }

/-- Ends a disconnection. -/
def endHangup (c : Control) (id : TaskId) : Control :=
  { c with hangups := c.hangups.filter (·.id != id) }

/-- Moves a link task to another stage. -/
def setStage (c : Control) (id : TaskId) (stage : LinkStage) : Control :=
  { c with tasks := c.tasks.map fun t => if t.id = id then { t with stage := stage } else t }

/-- Moves a disconnection to another stage. -/
def setHangupStage (c : Control) (id : TaskId) (stage : HangupStage) : Control :=
  { c with hangups := c.hangups.map fun t => if t.id = id then { t with stage := stage } else t }

/-- Files the task last started for a device. -/
def setLink (c : Control) (device : Address) (id : TaskId) : Control :=
  { c with links := (device, id) :: c.links.filter (·.1 != device) }

/-- Starts the task of a link and files it. -/
def startLink (c : Control) (device : Address) (accepted : Option SocketId) : Control :=
  let task : LinkTask := ⟨c.nextTask, device, .fresh accepted⟩
  { c.setLink device task.id with tasks := c.tasks ++ [task], nextTask := c.nextTask + 1 }

/-- Removes the mark of a disconnection under way. -/
def reopen (c : Control) (device : Address) : Control :=
  { c with closing := c.closing.reopen device }

/-- Gives up sending on the line of a task. -/
def dropLine (c : Control) (line : Nat) : Control :=
  { c with
    tasks := c.tasks.map fun t =>
      match t.stage with
      | .serving s =>
        if t.id = line then
          { t with
            stage := .serving
              { s with channel := s.channel.map fun ch => (ch.1, ch.2.dropSender) } }
        else t
      | _ => t }

/-- Gives up sending on the line of the holder of the service channel. -/
def dropHolderLine (c : Control) : Control :=
  match c.register.holder with
  | some holder => c.dropLine holder.line
  | none => c

/-- Takes the service channel from a device, if it holds it. -/
def closeChannel (c : Control) (device : Address) : Option ChannelHandle × Control :=
  match c.register.close device with
  | (some handle, register) => (some handle, { c.dropHolderLine with register := register })
  | (none, _) => (none, c)

/-- Gives the service channel to the task of a device, unless another device holds it. -/
def openChannel? (c : Control) (device : Address) (task : TaskId) :
    Option (ChannelHandle × Control) :=
  match c.register.open? device task with
  | some (handle, register) => some (handle, { c.dropHolderLine with register := register })
  | none => none

/-- Whether some task keeps a socket open. -/
def holdsSocket (c : Control) (socket : SocketId) : Bool :=
  c.tasks.any fun t =>
    match t.stage with
    | .fresh (some s) => s == socket
    | .serving { channel := some (s, relay), .. } => s == socket && !relay.isClosed
    | _ => false

end Control

end AccessoryLink
