import AccessoryLink.Control.Basic

/-!
# Link control: steps of the tasks

A step is what a task does between two waits. What it waited for comes as part of the step: an
answer of the radio, a packet, the time. A step of a task that is not running, or that waits for
something else, changes nothing.
-/

namespace AccessoryLink

/-- A step of a task, or of the listener. -/
inductive ControlStep where
  /-- A task that was just started takes its first step. -/
  | start (task : TaskId)
  /-- The radio answers whether it connected the device. -/
  | dialed (task : TaskId) (connected : Bool)
  /-- The radio took too long. -/
  | dialExpired (task : TaskId)
  /-- The service channel is open, or cannot be opened. -/
  | opened (task : TaskId) (socket : Option SocketId)
  /-- The service channel took too long to open. -/
  | openExpired (task : TaskId)
  /-- The relay of a link takes a step. -/
  | relayed (task : TaskId) (step : RelayStep)
  /-- A link takes what its relay received. -/
  | received (task : TaskId)
  /-- It is time to check a link. -/
  | tick (task : TaskId)
  /-- The radio answers whether the device of a link is still connected. -/
  | polled (task : TaskId) (connected : Bool)
  /-- A disconnection takes its first step. -/
  | hangup (task : TaskId)
  /-- The radio has answered the request to disconnect, whatever it said. -/
  | hungUp (task : TaskId)
  /-- The radio answers whether the device is still connected. -/
  | settled (task : TaskId) (connected : Bool)
  /-- The listener accepts a channel. -/
  | accepted (socket : SocketId) (device : Address)
  /-- The listener fails. -/
  | acceptFailed (code : Int) (message : String)
  /-- The listener goes on after a failure. -/
  | resumed
  deriving Repr, DecidableEq

/-- The control at work: its state, what it reported and what it asked of the radio. -/
structure ControlTurn where
  control : Control
  reports : List Report
  requests : List RadioRequest

namespace ControlTurn

/-- A turn in which nothing has happened. -/
def still (c : Control) : ControlTurn := ⟨c, [], []⟩

/-- Changes the state. -/
def update (t : ControlTurn) (f : Control → Control) : ControlTurn :=
  { t with control := f t.control }

/-- Reports the connection of a device. -/
def reportConnection (t : ControlTurn) (task : TaskId) (device : Address)
    (state : ConnectionState) : ControlTurn :=
  { t with reports := t.reports ++ [⟨some task, RawReport.connection state.code device.bytes⟩] }

/-- Reports the service of a device. -/
def reportService (t : ControlTurn) (task : TaskId) (device : Address) (state : ServiceState)
    (channel : Option ChannelHandle) : ControlTurn :=
  { t with
    reports := t.reports ++ [⟨some task, RawReport.service state.code device.bytes channel⟩] }

/-- Reports a packet. -/
def reportData (t : ControlTurn) (task : TaskId) (packet : Packet) : ControlTurn :=
  { t with reports := t.reports ++ [⟨some task, RawReport.data packet⟩] }

/-- Asks something of the radio. -/
def ask (t : ControlTurn) (request : RadioRequest) : ControlTurn :=
  { t with requests := t.requests ++ [request] }

/-- Reports that a device is gone, and ends its task. -/
def quit (t : ControlTurn) (task : TaskId) (device : Address) : ControlTurn :=
  (t.reportConnection task device .disconnected).update (·.endTask task)

/-- Begins to relay and to check a link; the first check is due at once. -/
def serve (t : ControlTurn) (task : TaskId) (channel : Option SocketId) (now : Nat) : ControlTurn :=
  t.update (·.setStage task
    (.serving ⟨channel.map fun socket => (socket, .initial), channel.isSome, false, now⟩))

/-- Installs the service channel of a task. If another device holds it, the link is given up. -/
def install (t : ControlTurn) (task : TaskId) (device : Address) (socket : SocketId) (now : Nat) :
    ControlTurn :=
  match t.control.openChannel? device task with
  | some (handle, c) =>
    ((t.update fun _ => c).reportService task device .connected (some handle)).serve task
      (some socket) now
  | none => t.quit task device

/-- Takes the service channel from a device and reports it, if the device held it. -/
def dropService (t : ControlTurn) (task : TaskId) (device : Address) : ControlTurn :=
  match t.control.closeChannel device with
  | (some _, c) => (t.update fun _ => c).reportService task device .disconnected none
  | (none, _) => t

end ControlTurn

namespace Control

/-- The first step of a link task. An inbound link is there already; any other is asked for. -/
def start (c : Control) (task : LinkTask) (now : Nat) : ControlTurn :=
  let t := ControlTurn.still c
  match task.stage with
  | .fresh none =>
    (t.update (·.setStage task.id (.dialing (now + dialLimit)))).ask (.connect task.id task.device)
  | .fresh (some socket) =>
    ((t.reportConnection task.id task.device .connecting).reportConnection task.id task.device
      .connected).install task.id task.device socket now
  | _ => t

/-- The radio has answered the request to connect. -/
def dialed (c : Control) (task : LinkTask) (connected : Bool) (now : Nat) : ControlTurn :=
  let t := ControlTurn.still c
  match task.stage, connected with
  | .dialing _, true =>
    ((t.reportConnection task.id task.device .connected).update
      (·.setStage task.id (.opening (now + openLimit)))).ask
        (.openChannel task.id task.device c.psm)
  | .dialing _, false => t.quit task.id task.device
  | _, _ => t

/-- The radio took too long to connect. -/
def dialExpired (c : Control) (task : LinkTask) (now : Nat) : ControlTurn :=
  let t := ControlTurn.still c
  match task.stage with
  | .dialing deadline => if deadline ≤ now then t.quit task.id task.device else t
  | _ => t

/-- The service channel is open, or cannot be opened; the link goes on without it then. -/
def opened (c : Control) (task : LinkTask) (socket : Option SocketId) (now : Nat) : ControlTurn :=
  let t := ControlTurn.still c
  match task.stage, socket with
  | .opening _, some socket => t.install task.id task.device socket now
  | .opening _, none => t.serve task.id none now
  | _, _ => t

/-- The service channel took too long to open. -/
def openExpired (c : Control) (task : LinkTask) (now : Nat) : ControlTurn :=
  let t := ControlTurn.still c
  match task.stage with
  | .opening deadline => if deadline ≤ now then t.serve task.id none now else t
  | _ => t

/-- The relay of a link takes a step. -/
def relayed (c : Control) (task : LinkTask) (step : RelayStep) : ControlTurn :=
  let t := ControlTurn.still c
  match task.stage with
  | .serving s =>
    match s.channel with
    | some (socket, relay) =>
      t.update (·.setStage task.id (.serving { s with channel := some (socket, relay.step step) }))
    | none => t
  | _ => t

/-- A link takes what its relay received. The end of the channel alone does not end the link. -/
def received (c : Control) (task : LinkTask) : ControlTurn :=
  let t := ControlTurn.still c
  match task.stage with
  | .serving s =>
    match s.channel with
    | some (socket, relay) =>
      if s.asking || !s.receiving then t
      else
        match relay.receive with
        | (some (.ok packet), relay) =>
          (t.update (·.setStage task.id
            (.serving { s with channel := some (socket, relay) }))).reportData task.id packet
        | (some (.error _), relay) =>
          (t.update (·.setStage task.id
            (.serving { s with channel := some (socket, relay.dropReceiver), receiving := false })))
            |>.dropService task.id task.device
        | (none, _) => t
    | none => t
  | _ => t

/-- It is time to check a link. Checks that were missed are passed over. -/
def tick (c : Control) (task : LinkTask) (now : Nat) : ControlTurn :=
  let t := ControlTurn.still c
  match task.stage with
  | .serving s =>
    if !s.asking && decide (s.nextPoll ≤ now) then
      let next := s.nextPoll + ((now - s.nextPoll) / c.pollInterval + 1) * c.pollInterval
      (t.update (·.setStage task.id (.serving { s with asking := true, nextPoll := next }))).ask
        (.poll task.id task.device)
    else t
  | _ => t

/-- The radio has answered the check of a link. A link that is lost takes its service along. -/
def polled (c : Control) (task : LinkTask) (connected : Bool) : ControlTurn :=
  let t := ControlTurn.still c
  match task.stage with
  | .serving s =>
    if !s.asking then t
    else if connected then t.update (·.setStage task.id (.serving { s with asking := false }))
    else (t.dropService task.id task.device).quit task.id task.device
  | _ => t

/-- A disconnection begins. -/
def hangup (c : Control) (task : HangupTask) : ControlTurn :=
  let t := ControlTurn.still c
  match task.stage with
  | .fresh =>
    ((t.reportConnection task.id task.device .disconnecting).update
      (·.setHangupStage task.id .calling)).ask (.disconnect task.id task.device)
  | _ => t

/-- The radio has answered the request to disconnect. -/
def hungUp (c : Control) (task : HangupTask) : ControlTurn :=
  let t := ControlTurn.still c
  match task.stage with
  | .calling =>
    (t.update (·.setHangupStage task.id .reading)).ask (.confirm task.id task.device)
  | _ => t

/-- A disconnection is over. -/
def settled (c : Control) (task : HangupTask) (connected : Bool) : ControlTurn :=
  let t := ControlTurn.still c
  match task.stage with
  | .reading =>
    (t.reportConnection task.id task.device (settledState task.aborted connected)).update
      (·.endHangup task.id)
  | _ => t

/-- The listener accepts a channel. The task of an earlier link of the device is aborted. -/
def accepted (c : Control) (socket : SocketId) (device : Address) : ControlTurn :=
  match c.listener with
  | some .accepting =>
    let c := c.reopen device
    let c := match c.links.lookup device with
      | some old => c.endTask old
      | none => c
    .still (c.startLink device (some socket))
  | _ => .still c

/-- The listener fails, reports it and waits. -/
def acceptFailed (c : Control) (code : Int) (message : String) (now : Nat) : ControlTurn :=
  match c.listener with
  | some .accepting =>
    ⟨{ c with listener := some (.pausing (now + acceptRetryDelay)) },
      [⟨none, RawReport.error code message⟩], []⟩
  | _ => .still c

/-- The listener goes on after a failure. -/
def resumed (c : Control) (now : Nat) : ControlTurn :=
  match c.listener with
  | some (.pausing moment) =>
    .still (if moment ≤ now then { c with listener := some .accepting } else c)
  | _ => .still c

/-- Runs a step of a link task, if it is running. -/
def onTask (c : Control) (id : TaskId) (step : LinkTask → ControlTurn) : ControlTurn :=
  match c.task? id with
  | some task => step task
  | none => .still c

/-- Runs a step of a disconnection, if it is running. -/
def onHangup (c : Control) (id : TaskId) (step : HangupTask → ControlTurn) : ControlTurn :=
  match c.hangup? id with
  | some task => step task
  | none => .still c

/-- Takes a step, at some moment. -/
def step (c : Control) (now : Nat) : ControlStep → ControlTurn
  | .start id => c.onTask id (c.start · now)
  | .dialed id connected => c.onTask id (c.dialed · connected now)
  | .dialExpired id => c.onTask id (c.dialExpired · now)
  | .opened id socket => c.onTask id (c.opened · socket now)
  | .openExpired id => c.onTask id (c.openExpired · now)
  | .relayed id step => c.onTask id (c.relayed · step)
  | .received id => c.onTask id c.received
  | .tick id => c.onTask id (c.tick · now)
  | .polled id connected => c.onTask id (c.polled · connected)
  | .hangup id => c.onHangup id c.hangup
  | .hungUp id => c.onHangup id c.hungUp
  | .settled id connected => c.onHangup id (c.settled · connected)
  | .accepted socket device => c.accepted socket device
  | .acceptFailed code message => c.acceptFailed code message now
  | .resumed => c.resumed now

end Control

end AccessoryLink
