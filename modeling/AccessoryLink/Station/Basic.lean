import AccessoryLink.Control.Requests
import AccessoryLink.Control.Tasks
import AccessoryLink.Directory.Basic
import AccessoryLink.Manager.Actor
import AccessoryLink.Service.Methods

/-!
# A station

A link manager whose machine acts on a link control and a peer directory, and whose queue gets what
the tasks of the control report. What happens to a station is a sequence of steps: requests of
callers, turns of the actor, steps of the tasks, new bonds, and the passing of time.
-/

namespace AccessoryLink

/-- What the machine of a station acts on. -/
structure StationWorld where
  control : Control
  directory : Directory

namespace StationWorld

/-- The control and the directory as what a machine acts on. -/
def surroundings : Surroundings StationWorld where
  connect w device :=
    match w.control.connect device with
    | (result, control) => (result, { w with control := control })
  disconnect w device :=
    match w.control.disconnect device with
    | (result, control) => (result, { w with control := control })
  send w device packet :=
    match w.control.send device packet with
    | (result, control) => (result, { w with control := control })
  cleanup w := { w with control := w.control.cleanup }
  priority w device := w.directory.priority device
  bonded w device := w.directory.isBonded device
  accessories w := w.directory.accessories
  quiet w := w.directory.isQuiet

/-- Sets a priority in the directory. -/
def setPriority (w : StationWorld) (device : Address) (priority : Priority) :
    Outcome × StationWorld :=
  match w.directory.setPriority device priority with
  | (result, directory) => (result, { w with directory := directory })

/-- The directory as what the bus service acts on. -/
def settings : Service.Settings StationWorld := ⟨setPriority⟩

end StationWorld

/-- A manager over a control and a directory. -/
abbrev Station := Manager StationWorld

/-- What happens to a station. -/
inductive StationStep where
  | connect (device : Address)
  | disconnect (device : Address)
  | send (device : Address) (packet : Packet)
  | shutdown
  | drop
  | setPriority (device : Address) (priority : Priority)
  /-- The service number is claimed for inbound channels, or cannot be. -/
  | listen (bound : Outcome)
  /-- The bonds were read anew. -/
  | bonds (bonds : Bonds)
  /-- The actor takes a turn. -/
  | actor
  /-- A task or the listener takes a step. -/
  | task (step : ControlStep)
  /-- Time passes. -/
  | pass (ms : Nat)

/-- What comes out of a step. -/
structure StationOutput where
  /-- The answer to the caller, if it is known at once. -/
  result : Option Outcome := none
  /-- The ticket under which the result will be told. -/
  ticket : Option Ticket := none
  /-- What the machine did. -/
  effects : List Effect := []
  /-- What the tasks reported. -/
  reports : List Report := []
  /-- What the tasks asked of the radio. -/
  requests : List RadioRequest := []

namespace Station

/-- A station before its first step. -/
def initial (control : Control) (directory : Directory) (timeout : Nat) : Station :=
  Manager.initial ⟨control, directory⟩ timeout

/-- The output of a request that is answered at once. -/
def answered (x : Outcome × Station) : Station × StationOutput := (x.2, { result := some x.1 })

/-- Queues what the tasks reported. -/
def hear (s : Station) (reports : List Report) : Station :=
  reports.foldl (fun s report => s.report report.event) s

/-- A task or the listener takes a step. -/
def advanceTask (s : Station) (step : ControlStep) : Station × StationOutput :=
  let t := s.world.control.step s.now step
  (hear { s with world := { s.world with control := t.control } } t.reports,
    { reports := t.reports, requests := t.requests })

/-- Takes a step. -/
def step (s : Station) : StationStep → Station × StationOutput
  | .connect device => answered (s.connect StationWorld.surroundings device)
  | .disconnect device => answered (s.disconnect device)
  | .send device packet =>
    match s.send device packet with
    | (.ok ticket, s) => (s, { ticket := some ticket })
    | (.error e, s) => (s, { result := some (.error e) })
  | .shutdown => (s.requestShutdown.2, { result := some .done })
  | .drop => (s.drop, {})
  | .setPriority device priority =>
    answered (Service.assignPriority StationWorld.settings s device priority)
  | .listen bound =>
    match s.world.control.listen bound with
    | (result, control) =>
      ({ s with world := { s.world with control := control } }, { result := some result })
  | .bonds bonds =>
    ({ s with world := { s.world with directory := s.world.directory.store bonds } }, {})
  | .actor =>
    match s.turn StationWorld.surroundings with
    | some (s, effects) => (s, { effects := effects })
    | none => (s, {})
  | .task step => advanceTask s step
  | .pass ms => ({ s with now := s.now + ms }, {})

end Station

end AccessoryLink
