import AccessoryLink.Bench.Radio
import AccessoryLink.Station.Basic

/-!
# A test rig

A station over a scripted radio, closed up so that it runs by itself. Tasks that are ready wait in a
queue and run one after the other, each until it waits again. The radio answers only when no task is
ready, in the order in which it was asked; and the watcher of the bonds comes last. Time stands
still meanwhile.
-/

namespace AccessoryLink.Bench

/-- What can be ready to run. -/
inductive Job where
  | actor
  | listener
  | task (id : TaskId)
  | relay (id : TaskId)
  deriving Repr, DecidableEq

/-- What the radio and the sockets were asked for. -/
inductive RadioCall where
  | connect (device : Address)
  | disconnect (device : Address)
  | bind (psm : UInt16)
  | openChannel (device : Address) (psm : UInt16)
  deriving Repr, DecidableEq

/-- A station on a bench. -/
structure Rig where
  station : Station
  /-- Whether the manager runs; if not, reports are only recorded. -/
  managed : Bool
  radio : Radio
  watcher : Option Watcher
  queue : List Job
  /-- What the radio was asked and has not answered yet, oldest first. -/
  outstanding : List RadioRequest
  /-- What the machine did since the record was last taken. -/
  effects : List Effect
  /-- What was reported since then. -/
  reports : List StackEvent
  /-- What the radio and the sockets were asked for since then. -/
  calls : List RadioCall

namespace Rig

/-- A rig before its first step. -/
def initial (station : Station) (radio : Radio) (managed : Bool) : Rig where
  station := station
  managed := managed
  radio := radio
  watcher := none
  queue := []
  outstanding := []
  effects := []
  reports := []
  calls := []

/-- The control of the station. -/
def control (rig : Rig) : Control := rig.station.world.control

/-- The directory of the station. -/
def directory (rig : Rig) : Directory := rig.station.world.directory

/-- Replaces the control. -/
def setControl (rig : Rig) (control : Control) : Rig :=
  let world := { rig.station.world with control := control }
  { rig with station := { rig.station with world := world } }

/-- Replaces the directory. -/
def setDirectory (rig : Rig) (directory : Directory) : Rig :=
  { rig with
    station := { rig.station with world := { rig.station.world with directory := directory } } }

/-- Records a call. -/
def log (rig : Rig) (call : RadioCall) : Rig := { rig with calls := rig.calls ++ [call] }

/-- Takes up a request to the radio. -/
def request (rig : Rig) (request : RadioRequest) : Rig :=
  match request with
  | .connect _ device =>
    { rig.log (.connect device) with outstanding := rig.outstanding ++ [request] }
  | .disconnect _ device =>
    { rig.log (.disconnect device) with outstanding := rig.outstanding ++ [request] }
  | .openChannel task device psm =>
    let rig := if rig.radio.hasSockets then rig.log (.openChannel device psm) else rig
    { rig with radio := rig.radio.openChannel task device }
  | _ => { rig with outstanding := rig.outstanding ++ [request] }

/-- Drops what waits for a listener that is gone. -/
def dropBacklog (rig : Rig) : Rig :=
  if rig.control.listener.isNone then { rig with radio := { rig.radio with backlog := [] } }
  else rig

/-- Lets the station take a step. -/
def take (rig : Rig) (step : StationStep) : StationOutput × Rig :=
  match rig.station.step step with
  | (station, out) =>
    let station := if rig.managed then station else { station with inbox := [] }
    let rig :=
      { rig with
        station := station
        effects := rig.effects ++ out.effects
        reports := rig.reports ++ out.reports.map (·.event) }
    (out, (out.requests.foldl request rig).dropBacklog)

/-- Gives an answer of the radio to the task that waits for it. The task goes on at once, ahead of
all that is ready, until it waits again. -/
def takeAnswer (rig : Rig) (task : TaskId) (step : ControlStep) : Rig :=
  let rig := (rig.take (.task step)).2
  { rig with queue := .task task :: rig.queue }

/-! ## Running -/

/-- The step of the listener, and the radio after it. -/
def listenerStep? (rig : Rig) : Option (StationStep × Radio) :=
  match rig.control.listener with
  | some .accepting =>
    match rig.radio.backlog with
    | .channel device socket :: rest =>
      some (.task (.accepted socket device), { rig.radio with backlog := rest })
    | .failure code message :: rest =>
      some (.task (.acceptFailed code message), { rig.radio with backlog := rest })
    | [] => none
  | some (.pausing moment) =>
    if moment ≤ rig.station.now then some (.task .resumed, rig.radio) else none
  | none => none

/-- The step of a link task, and the radio after it. -/
def linkStep? (rig : Rig) (task : LinkTask) : Option (StationStep × Radio) :=
  let now := rig.station.now
  match task.stage with
  | .fresh _ => some (.task (.start task.id), rig.radio)
  | .dialing deadline =>
    if deadline ≤ now then some (.task (.dialExpired task.id), rig.radio) else none
  | .opening deadline =>
    match rig.radio.openings.lookup task.id with
    | some socket =>
      some (.task (.opened task.id socket),
        { rig.radio with openings := rig.radio.openings.filter (·.1 != task.id) })
    | none => if deadline ≤ now then some (.task (.openExpired task.id), rig.radio) else none
  | .serving s =>
    if s.asking then none
    else if s.nextPoll ≤ now then some (.task (.tick task.id), rig.radio)
    else
      match s.channel with
      | some (_, relay) =>
        if s.receiving && relay.receive.1.isSome then some (.task (.received task.id), rig.radio)
        else none
      | none => none

/-- The step of a task. -/
def taskStep? (rig : Rig) (id : TaskId) : Option (StationStep × Radio) :=
  match rig.control.task? id with
  | some task => rig.linkStep? task
  | none =>
    match rig.control.hangup? id with
    | some task => if task.stage = .fresh then some (.task (.hangup id), rig.radio) else none
    | none => none

/-- The step of a relay, and the radio after it. -/
def relayStep? (rig : Rig) (id : TaskId) : Option (StationStep × Radio) :=
  match rig.control.task? id with
  | some ⟨_, _, .serving s⟩ =>
    match s.channel with
    | some (socket, relay) =>
      match rig.radio.wire? socket with
      | some wire =>
        (Bench.relayStep? relay wire).map fun r =>
          (.task (.relayed id r.1), rig.radio.setWire socket r.2)
      | none => none
    | none => none
  | _ => none

/-- The step that a job takes next, if it is ready. -/
def next? (rig : Rig) : Job → Option (StationStep × Radio)
  | .actor => if rig.managed && rig.station.isReady then some (.actor, rig.radio) else none
  | .listener => rig.listenerStep?
  | .task id => rig.taskStep? id
  | .relay id => rig.relayStep? id

/-- Everything that may be ready, tasks in the order in which they were started. -/
def jobs (rig : Rig) : List Job :=
  let links := rig.control.tasks.map (·.id)
  let ids := (links ++ rig.control.hangups.map (·.id)).mergeSort (· ≤ ·)
  .actor :: .listener :: ids.map .task ++ links.map .relay

/-- Puts what has become ready at the end of the queue. -/
def enlist (rig : Rig) : Rig :=
  { rig with
    queue := rig.queue ++
      rig.jobs.filter fun job => !rig.queue.contains job && (rig.next? job).isSome }

/-- Lets the watcher take its step, if it has one. -/
def watch? (rig : Rig) : Option Rig :=
  match rig.watcher with
  | none => none
  | some watcher =>
    (watcher.next? rig.radio.bondView rig.station.now).map fun step =>
      match watcher.step rig.directory step with
      | (watcher, directory) => { rig.setDirectory directory with watcher := some watcher }

/-- Lets the radio answer a request. -/
def answer (rig : Rig) (request : RadioRequest) : Rig :=
  match rig.radio.answer request with
  | (some step, radio) => { rig with radio := radio }.takeAnswer request.task step
  | (none, radio) => { rig with radio := radio }

/-- Runs so many steps, or fewer if nothing is ready any more. -/
def run (rig : Rig) : Nat → Rig
  | 0 => rig
  | n + 1 =>
    let rig := rig.enlist
    match rig.queue with
    | job :: rest =>
      match rig.next? job with
      | some (step, radio) => ({ rig with radio := radio }.take step).2.run n
      | none => { rig with queue := rest }.run n
    | [] =>
      match rig.outstanding with
      | request :: rest => ({ rig with outstanding := rest }.answer request).run n
      | [] =>
        match rig.watch? with
        | some rig => rig.run n
        | none => rig

/-- More steps than anything on a bench takes before it waits. -/
def patience : Nat := 1000000

/-- Runs until nothing moves. -/
def settle (rig : Rig) : Rig := rig.run patience

/-- Lets time pass by half seconds, so many of them at most. -/
def pass (rig : Rig) (ms : Nat) : Nat → Rig
  | 0 => rig
  | n + 1 =>
    if ms = 0 then rig
    else
      let tick := min ms 500
      ((rig.take (.pass tick)).2.settle).pass (ms - tick) n

/-- Lets time pass. -/
def advance (rig : Rig) (ms : Nat) : Rig := rig.pass ms (ms / 500 + 1)

/-! ## The radio's side -/

/-- The adapter announces something. -/
def announce (rig : Rig) (a : Announcement) : Rig :=
  { rig with watcher := rig.watcher.map (·.hear a) }

/-- The adapter announces changes of a device, or the device itself if it was not known. -/
def announceChanges (rig : Rig) (device : Address) (known : Bool)
    (properties : List DeviceProperty) : Rig :=
  if known then properties.foldl (fun rig p => rig.announce (.changed device p)) rig
  else rig.announce (.added device)

/-- Changes the radio. -/
def onRadio (rig : Rig) (f : Radio → Radio) : Rig := { rig with radio := f rig.radio }

/-- Answers the hanging request of a device, if there is one. -/
def release (rig : Rig) (device : Address) (ok : Bool) : Bool × Rig :=
  match rig.radio.release device ok with
  | (some (task, step), radio) => (true, { rig with radio := radio }.takeAnswer task step)
  | (none, _) => (false, rig)

/-- A device connects, and opens a channel to the listener, if somebody listens. -/
def inbound (rig : Rig) (device : Address) : Bool × Rig :=
  let rig := rig.onRadio (·.setConnected device true)
  if rig.control.listener.isNone then (false, rig)
  else
    match rig.radio.connectWire device with
    | (socket, radio) =>
      (true, { rig with radio :=
        { radio with backlog := radio.backlog ++ [.channel device socket] } })

/-- The listener fails to accept once, if somebody listens. -/
def inboundError (rig : Rig) (code : Nat) : Bool × Rig :=
  if rig.control.listener.isNone then (false, rig)
  else (true, rig.onRadio fun radio => { radio with backlog := radio.backlog ++ [.ofCode code] })

/-- Whether the near end of a wire is open. -/
def isOpen (rig : Rig) (socket : SocketId) : Bool :=
  rig.control.holdsSocket socket || rig.radio.isWaiting socket

/-- A peer sends a packet; the answer says whether the near end is open, if there is a channel. -/
def peerSend (rig : Rig) (device : Address) (packet : Packet) : Option Bool × Rig :=
  match rig.radio.kept.lookup device with
  | none => (none, rig)
  | some socket =>
    match rig.radio.wire? socket with
    | none => (none, rig)
    | some wire =>
      match wire.peerSend (rig.isOpen socket) packet with
      | (sent, wire) => (some sent, rig.onRadio (·.setWire socket wire))

/-- A peer looks for a packet, if there is a channel. -/
def peerReceive (rig : Rig) (device : Address) : Option Wire.PeerReading × Rig :=
  match rig.radio.kept.lookup device with
  | none => (none, rig)
  | some socket =>
    match rig.radio.wire? socket with
    | none => (none, rig)
    | some wire =>
      match wire.peerReceive (rig.isOpen socket) with
      | (reading, wire) => (some reading, rig.onRadio (·.setWire socket wire))

/-- A peer closes its end; the answer says whether there was a channel. -/
def peerClose (rig : Rig) (device : Address) : Bool × Rig :=
  match rig.radio.kept.lookup device with
  | none => (false, rig)
  | some socket =>
    match rig.radio.wire? socket with
    | none => (false, rig)
    | some wire =>
      (true, rig.onRadio fun radio =>
        { radio.setWire socket wire.peerClose with
          kept := radio.kept.filter (·.1 != device) })

/-! ## The station's side -/

/-- Claims the service number for inbound channels. -/
def bind (rig : Rig) : Outcome × Rig :=
  if !rig.radio.hasSockets then (.error (.system .other), rig)
  else
    let rig := rig.log (.bind rig.control.psm)
    match rig.radio.bindFault with
    | some fault => (.error (.system fault), rig)
    | none => (.done, rig)

/-- Starts to listen. What waits for a listener that is given up is lost. -/
def listen (rig : Rig) : Outcome × Rig :=
  match rig.bind with
  | (bound, rig) =>
    let rig :=
      if Outcome.isDone bound then rig.onRadio ({ · with backlog := [] }) else rig
    (bound, (rig.take (.listen bound)).2)

/-- Reads the bonds anew. -/
def refresh (rig : Rig) : Outcome × Rig :=
  match rig.radio.bondView.sweep.conclude rig.directory with
  | some (result, directory) => (result, rig.setDirectory directory)
  | none => (.error .bluetooth, rig)

/-- Hands a request to the control itself. -/
def direct (rig : Rig) (x : Outcome × Control) : Outcome × Rig :=
  (x.1, (rig.setControl x.2).dropBacklog)

/-- Asks to connect a device. -/
def connect (rig : Rig) (device : Address) : StationOutput × Rig :=
  if rig.managed then rig.take (.connect device)
  else
    match rig.direct (rig.control.connect device) with
    | (result, rig) => ({ result := some result }, rig)

/-- Asks to disconnect a device. -/
def disconnect (rig : Rig) (device : Address) : StationOutput × Rig :=
  if rig.managed then rig.take (.disconnect device)
  else
    match rig.direct (rig.control.disconnect device) with
    | (result, rig) => ({ result := some result }, rig)

/-- Asks to send a packet to a device. -/
def send (rig : Rig) (device : Address) (packet : Packet) : StationOutput × Rig :=
  if rig.managed then rig.take (.send device packet)
  else
    match rig.direct (rig.control.send device packet) with
    | (result, rig) => ({ result := some result }, rig)

/-- Makes the control give everything up. -/
def cleanup (rig : Rig) : Rig := (rig.direct (.done, rig.control.cleanup)).2

/-- Begins to watch the bonds. -/
def startWatch (rig : Rig) (interval : Nat) : Rig :=
  { rig with watcher := some (.initial interval) }

/-- Forgets the record. -/
def clearRecord (rig : Rig) : Rig := { rig with effects := [], reports := [], calls := [] }

end Rig

end AccessoryLink.Bench
