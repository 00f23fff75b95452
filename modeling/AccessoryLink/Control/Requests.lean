import AccessoryLink.Control.Basic

/-!
# Link control: requests of the machine

The four requests that the machine makes. None of them waits: a connection and a disconnection only
start a task, and a packet is only queued.
-/

namespace AccessoryLink.Control

/-- Starts to connect a device. It is refused while a task of the device is running. -/
def connect (c : Control) (device : Address) : Outcome × Control :=
  if c.isLinked device then (.error (.controlRefused .connect), c)
  else (.done, (c.reopen device).startLink device none)

/-- Starts to disconnect a device and aborts the task of its link. While a disconnection is under
way, further ones do nothing. -/
def disconnect (c : Control) (device : Address) : Outcome × Control :=
  match c.closing.mark device with
  | (false, _) => (.done, c)
  | (true, closing) =>
    let linked := c.links.lookup device
    let c := { c with closing := closing, links := c.links.filter (·.1 != device) }
    let c := match linked with
      | some id => c.endTask id
      | none => c
    let c := (c.closeChannel device).2
    (.done,
      { c with
        hangups := c.hangups ++ [⟨c.nextTask, device, linked.isSome, .fresh⟩]
        nextTask := c.nextTask + 1 })

/-- Offers a packet to the relay of a task. -/
def sendOn (c : Control) (id : TaskId) (packet : Packet) : Outcome × Control :=
  match c.task? id with
  | some ⟨_, _, .serving s⟩ =>
    match s.channel with
    | some (socket, relay) =>
      match relay.send packet with
      | (result, relay) =>
        (result, c.setStage id (.serving { s with channel := some (socket, relay) }))
    | none => (.error .channelClosed, c)
  | _ => (.error .channelClosed, c)

/-- Queues a packet for a device, if it holds the service channel. -/
def send (c : Control) (device : Address) (packet : Packet) : Outcome × Control :=
  match c.register.line? device with
  | some line => c.sendOn line packet
  | none => (.error .channelClosed, c)

/-- Gives everything up that is filed: the listener, the tasks of links, and the service channel. -/
def cleanup (c : Control) : Control :=
  let c := c.dropHolderLine
  { c with
    listener := none
    tasks := c.tasks.filter fun t => !(c.links.any fun link => link.2 == t.id)
    links := []
    register := c.register.clear
    closing := [] }

/-- Starts to listen for inbound channels, once the service number is claimed. A listener that was
there is given up. -/
def listen (c : Control) (bound : Outcome) : Outcome × Control :=
  match bound with
  | .ok _ => (.done, { c with listener := some .accepting })
  | .error e => (.error e, c)

end AccessoryLink.Control
