import AccessoryLink.Machine.Basic

/-!
# Processing one message

What the machine does with a message depends on its state. A command that cannot be carried out
while a transition is pending is put off; everything else is settled at once. Observers hear of a
change before it is committed, and a refused request to the radio takes back what they were told.
-/

namespace AccessoryLink.Machine

variable {W : Type}

/-- Drops a peer that was not admitted. Whether the radio accepts that makes no difference. -/
def dropPeer (env : Surroundings W) (t : Turn W) (device : Address) : Turn W :=
  (t.disconnect env device).2

/-! ## Disconnected -/

/-- A command to connect opens an attempt, which the timer bounds. -/
def startAttempt (env : Surroundings W) (deadline : Nat) (t : Turn W) (device : Address) : Turn W :=
  let t := t.tellConnection device .connecting .disconnected
  match t.connect env device with
  | (.error _, t) => t.tellConnection device .disconnected .connecting
  | (.ok _, t) => t.commitThen .pending (t.snapshot.roles.setTarget device) (·.arm deadline)

/-- A device that announces itself is judged, and refused in public. -/
def inboundConnecting (env : Surroundings W) (t : Turn W) (device : Address) : Turn W :=
  match t.judge env device t.snapshot.roles.target?.isSome with
  | (true, t) =>
    (t.tellConnection device .connecting .disconnected).commit .pending
      (t.snapshot.roles.setIncoming device)
  | (false, t) => (dropPeer env t device).tell (.incomingRejected device)

/-- A device that is connected without having announced itself is judged too. -/
def inboundConnected (env : Surroundings W) (t : Turn W) (device : Address) : Turn W :=
  match t.judge env device t.snapshot.roles.target?.isSome with
  | (true, t) =>
    (t.tellConnection device .connected .disconnected).commit .connected
      (t.snapshot.roles.setCurrent device)
  | (false, t) => dropPeer env t device

/-- Nothing is connected. No device may be tracked then. -/
def whileDisconnected (env : Surroundings W) (deadline : Nat) (t : Turn W) (message : Message) :
    Turn W :=
  let roles := t.snapshot.roles
  if roles ≠ .idle then
    (t.refuse message .deviceNotConnected).reject ⟨.processWhileDisconnected, roles⟩
  else
    match message with
    | .command ⟨.connect, device, _⟩ => startAttempt env deadline t device
    | .send _ ticket => t.answer ticket (.error .deviceNotConnected)
    | .stack (.connection .connecting device) => inboundConnecting env t device
    | .stack (.connection .connected device) => inboundConnected env t device
    | _ => t

/-! ## Pending -/

/-- A command to disconnect cancels an attempt or a handover to its device; any other waits. -/
def pendingDisconnect (env : Surroundings W) (t : Turn W) (command : Command) : Turn W :=
  let device := command.device
  let roles := t.snapshot.roles
  match roles with
  | .handover _ target =>
    if target = device then
      (t.tellConnection device .disconnected .connecting).commit .pending
        (.ok (roles.clear .target))
    else t.defer command
  | .outgoing target =>
    if target = device then
      match t.disconnect env device with
      | (.ok _, t) =>
        (t.tellConnection device .disconnected .connecting).commit .disconnected
          (.ok (roles.clear .target))
      | (.error _, t) => t.defer command
    else t.defer command
  | _ => t.defer command

/-- The expiry of the armed timer stands for a report that the target is disconnected. A timer of
another generation is stale. -/
def pendingTimeout (t : Turn W) (generation : Nat) : Turn W :=
  match t.machine.timer with
  | none => t
  | some timer =>
    if timer.generation ≠ generation then t
    else
      let m := { t.machine with timer := none }
      match t.snapshot.roles.target? with
      | some target =>
        let report := Message.stack (.connection .disconnected target)
        { t with machine := { m with replay := report :: m.replay } }
      | none => { t with machine := m }

/-- The current device is gone. A waiting target is connected next. -/
def currentGone (env : Surroundings W) (deadline : Nat) (t : Turn W) (device : Address) : Turn W :=
  let roles := t.snapshot.roles
  let t := t.tellConnection device .disconnected .disconnecting
  match roles.target? with
  | none => t.commit .disconnected (.ok ((roles.clear .current).clear .incoming))
  | some target =>
    t.commitThen .pending (.ok (roles.clear .current)) fun t =>
      match t.connect env target with
      | (.ok _, t) => t.arm deadline
      | (.error _, t) =>
        (t.tellConnection target .disconnected .connecting).commit .disconnected
          (.ok (t.snapshot.roles.clear .target))

/-- A device is reported disconnected. -/
def pendingDisconnected (env : Surroundings W) (deadline : Nat) (t : Turn W) (device : Address) :
    Turn W :=
  let roles := t.snapshot.roles
  match roles.roleOf device with
  | .current => currentGone env deadline t device
  | .target =>
    let next := if roles.current?.isSome then MachineState.pending else .disconnected
    (t.tellConnection device .disconnected .connecting).commit next (.ok (roles.clear .target))
  | .incoming =>
    (t.tellConnection device .disconnected .connecting).commit .disconnected
      (.ok (roles.clear .incoming))
  | .none => t

/-- Tells that each of some devices is gone, whatever it was before. -/
def tellGone (t : Turn W) : List Address → Turn W
  | [] => t
  | device :: rest =>
    tellGone (t.tellConnection device .disconnected (t.snapshot.connectionOf device)) rest

/-- A device is reported connected. One that was not tracked takes the place of all others. -/
def pendingConnected (t : Turn W) (device : Address) : Turn W :=
  let roles := t.snapshot.roles
  match roles.roleOf device with
  | .current =>
    let t := t.tellConnection device .connected .disconnecting
    let t := match roles.target? with
      | some target => t.tellConnection target .disconnected .connecting
      | none => t
    t.commit .connected (.ok (roles.clear .target))
  | .target | .incoming =>
    let t := match roles.current? with
      | some displaced => t.tellConnection displaced .disconnected .disconnecting
      | none => t
    (t.tellConnection device .connected .connecting).commit .connected
      ((roles.promote device).map Prod.fst)
  | .none =>
    ((tellGone t roles.devices).tellConnection device .connected .disconnected).commit .connected
      (.ok (.current device))

/-- A transition is under way. -/
def whilePending (env : Surroundings W) (deadline : Nat) (t : Turn W) (message : Message) :
    Turn W :=
  match message with
  | .command command =>
    match command.verb with
    | .connect => t.defer command
    | .disconnect => pendingDisconnect env t command
  | .send _ ticket => t.answer ticket (.error .deviceNotConnected)
  | .timeout generation => pendingTimeout t generation
  | .stack (.connection .disconnected device) => pendingDisconnected env deadline t device
  | .stack (.connection .connected device) => pendingConnected t device
  | _ => t

/-! ## Connected -/

/-- The service goes down with the link, although the stack may not say so. -/
def dropService (t : Turn W) (device : Address) : Turn W :=
  if t.snapshot.service.isSome then
    (t.setService none).tellService device .disconnected .connected
  else t

/-- Gives the link up in favour of another device. -/
def startHandover (env : Surroundings W) (t : Turn W) (current device : Address) : Turn W :=
  let t := t.tellConnection device .connecting .disconnected
  match t.disconnect env current with
  | (.error _, t) => t.tellConnection device .disconnected .connecting
  | (.ok _, t) =>
    ((dropService t current).tellConnection current .disconnecting .connected).commit .pending
      (t.snapshot.roles.setTarget device)

/-- Gives the link up. If the radio refuses, the link and its service are back as they were. -/
def startDisconnect (env : Surroundings W) (t : Turn W) (device : Address) : Turn W :=
  let service := t.snapshot.service
  let t := (dropService t device).tellConnection device .disconnecting .connected
  match t.disconnect env device with
  | (.error _, t) =>
    let t := t.tellConnection device .connected .disconnecting
    match service with
    | some channel =>
      (t.setService (some channel)).tellService device .connected .disconnected
    | none => t
  | (.ok _, t) => t.commit .pending (.ok t.snapshot.roles)

/-- The service of the current device opens, moves to another channel, or closes. -/
def serviceChanged (t : Turn W) (device : Address) (state : ServiceState)
    (channel : Option ChannelHandle) : Turn W :=
  match state, t.snapshot.service, channel with
  | .connected, _, none => t
  | .connected, none, some handle =>
    (t.setService (some handle)).tellService device .connected .disconnected
  | .connected, some _, some handle => t.setService (some handle)
  | .disconnected, some _, _ => (t.setService none).tellService device .disconnected .connected
  | .disconnected, none, _ => t

/-- The current device is gone. -/
def linkLost (t : Turn W) (device : Address) : Turn W :=
  ((dropService t device).tellConnection device .disconnected .connected).commit .disconnected
    (.ok (t.snapshot.roles.clear .current))

/-- A device is connected. It must be the current one. -/
def whileConnected (env : Surroundings W) (t : Turn W) (message : Message) : Turn W :=
  match t.snapshot.roles.current? with
  | none =>
    (t.refuse message .deviceNotConnected).reject ⟨.processWhileConnected, t.snapshot.roles⟩
  | some current =>
    match message with
    | .command ⟨.connect, device, _⟩ =>
      if device = current then t else startHandover env t current device
    | .command ⟨.disconnect, device, _⟩ =>
      if device = current then startDisconnect env t device else t
    | .send packet ticket =>
      match t.send env current packet with
      | (result, t) => t.answer ticket result
    | .stack (.connection .disconnected device) =>
      if device = current then linkLost t device else t
    | .stack (.service state device channel) =>
      if device = current then serviceChanged t device state channel else t
    | .stack (.data packet) => t.tell (.data packet)
    | _ => t

/-! ## All states -/

/-- Processes one message. A failure of the stack is passed on in every state. -/
def process (env : Surroundings W) (deadline : Nat) (m : Machine) (w : W) (message : Message) :
    Turn W :=
  let t : Turn W := ⟨m, w, [.took message]⟩
  match message with
  | .stack (.error code text) => t.tell (.stackError code text)
  | .shutdown => t
  | _ =>
    match m.snapshot.state with
    | .disconnected => whileDisconnected env deadline t message
    | .pending => whilePending env deadline t message
    | .connected => whileConnected env t message

end AccessoryLink.Machine
