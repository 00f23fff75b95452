import AccessoryLink.Bench.Rig
import AccessoryLink.Daemon.Startup
import AccessoryLink.Service.EventQueue

/-!
# The service on a bench

The whole service over a scripted radio, from its start to its end. Clients call its methods and
receive its signals; a client that waits for something lets time pass until it comes.
-/

namespace AccessoryLink.Bench

open Service

/-- How often the service refreshes the bonds in any case, in milliseconds. -/
def bondInterval : Nat := 30000

/-- A service on a bench. -/
structure ServiceRig where
  startup : Daemon.Startup
  rig : Rig
  /-- How many signals the client has received. -/
  received : Nat

namespace ServiceRig

/-- Whether the service has started. -/
def isReady (s : ServiceRig) : Bool :=
  match s.startup.outcome with
  | .ok _ => true
  | .error _ => false

/-- The rig of a service that has started: it listens, reads the bonds and watches them, whether or
not that succeeds. Devices on another adapter are out of its reach. -/
def run (started : Daemon.Started) (file : ConfigFile) (radio : Radio) (home : String) : Rig :=
  let config := started.config
  let radio := if started.adapter = home then radio else { radio with devices := [] }
  let control := Control.initial config.psm (1000 * config.linkPollInterval)
  let station :=
    Station.initial control (.ofConfig config file) (1000 * config.connectTimeout)
  (((Rig.initial station radio true).listen.2.refresh.2).startWatch bondInterval).settle

/-- Starts the service, with devices on the adapter `home`. -/
def start (platform : Daemon.Platform) (file : ConfigFile) (radio : Radio) (home : String) :
    ServiceRig :=
  let startup := Daemon.start platform file
  match startup.outcome with
  | .ok started => ⟨startup, run started startup.file radio home, 0⟩
  | .error _ =>
    ⟨startup, .initial (.initial (.initial 0 0) (.ofConfig .default startup.file) 0) radio true, 0⟩

/-- The signals that were sent so far. -/
def signals (s : ServiceRig) : List Signal :=
  EventQueue.signalsOf (s.rig.effects.filterMap fun
    | .told event => some event
    | _ => none)

/-- The requests to connect and disconnect that were made so far. -/
def requests (s : ServiceRig) : List RadioCall :=
  s.rig.calls.filter fun
    | .connect _ | .disconnect _ => true
    | _ => false

/-- How many calls there were on the bus so far. -/
def busCount (s : ServiceRig) : Nat := s.startup.calls.length + s.requests.length

/-- Lets the service run until nothing moves. -/
def settle (s : ServiceRig) : ServiceRig := { s with rig := s.rig.settle }

/-- A call of a method, and its answer. -/
def call (s : ServiceRig) (method : MethodCall) : Answer × ServiceRig :=
  match Service.call StationWorld.surroundings StationWorld.settings s.rig.station method with
  | (answer, station) =>
    let after := { s with rig := { s.rig with station := station } }.settle
    match answer with
    | .waiting ticket =>
      match Manager.resultOf? ticket (after.rig.effects.drop s.rig.effects.length) with
      | some result => (.ofOutcome result, after)
      | none => (answer, after)
    | _ => (answer, after)

/-- Lets time pass by half seconds, so many of them at most, until something holds. -/
def wait (s : ServiceRig) (holds : ServiceRig → Bool) : Nat → ServiceRig
  | 0 => s
  | n + 1 => if holds s then s else { s with rig := s.rig.advance 500 }.wait holds n

/-- How many half seconds a client waits at most. -/
def patience : Nat := 240

/-- Waits for so many signals, and receives all that have come. -/
def receive (s : ServiceRig) (count : Nat) : List Signal × ServiceRig :=
  let s := s.wait (fun s => decide (s.received + count ≤ s.signals.length)) patience
  (s.signals.drop s.received, { s with received := s.signals.length })

/-- Calls a method again and again until the answer satisfies a condition. -/
def callUntil (s : ServiceRig) (method : MethodCall) (holds : Answer → Bool) :
    Answer × ServiceRig :=
  (s.wait (fun s => holds (s.call method).1) patience).call method

/-- Waits for so many calls on the bus. -/
def awaitBus (s : ServiceRig) (count : Nat) : ServiceRig :=
  s.wait (fun s => decide (count ≤ s.busCount)) patience

/-- Ends the service. -/
def stop (s : ServiceRig) : ServiceRig := { s with rig := (s.rig.take .shutdown).2.settle }

/-- The text of the configuration file. -/
def file (s : ServiceRig) : ConfigFile := s.rig.directory.file

end ServiceRig

end AccessoryLink.Bench
