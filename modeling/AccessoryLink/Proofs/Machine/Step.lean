import AccessoryLink.Machine.Basic
import AccessoryLink.Proofs.Snapshot

/-!
# What one message can do

`Step` lists every outcome of processing a message from a legal snapshot: the
condition under which it arises, the answers of the surroundings, the complete trace,
and the machine that is left. Its constructors follow the states of the machine, not
the branches of the code; `Ignores` collects the messages that leave no trace but
their own.

What holds along every run is proved by cases on `Step`, and no such proof opens the
handlers.
-/

namespace AccessoryLink

variable {W : Type}

namespace Snapshot

/-- What is written and told when the service of a device goes down with the link. -/
def serviceDrop (s : Snapshot) (device : Address) : List Effect :=
  match s.service with
  | none => []
  | some _ =>
    [.wrote { s with service := none }, .told (.service device .disconnected .connected)]

/-- What is written and told when a service that was dropped too early is back. -/
def serviceReturn (s : Snapshot) (device : Address) : List Effect :=
  match s.service with
  | none => []
  | some _ => [.wrote s, .told (.service device .connected .disconnected)]

/-- What is told when every tracked device gives way to another one. -/
def displacement (s : Snapshot) : List Effect :=
  s.roles.devices.map fun device =>
    .told (.connection device .disconnected (s.connectionOf device))

end Snapshot

/-- The result that a caller is given, if one waits. -/
def Effect.reply (ticket : Option Ticket) (result : Outcome) : List Effect :=
  match ticket with
  | none => []
  | some n => [.answered n result]

section Membership

variable {s : Snapshot} {device : Address} {effect : Effect}

@[simp] theorem mem_serviceDrop : effect ∈ s.serviceDrop device ↔ s.service.isSome ∧
    (effect = .wrote { s with service := none } ∨
      effect = .told (.service device .disconnected .connected)) := by
  cases service : s.service <;> simp [Snapshot.serviceDrop, service]

@[simp] theorem mem_serviceReturn : effect ∈ s.serviceReturn device ↔ s.service.isSome ∧
    (effect = .wrote s ∨ effect = .told (.service device .connected .disconnected)) := by
  cases service : s.service <;> simp [Snapshot.serviceReturn, service]

@[simp] theorem mem_displacement : effect ∈ s.displacement ↔ ∃ device ∈ s.roles.devices,
    effect = .told (.connection device .disconnected (s.connectionOf device)) := by
  simp [Snapshot.displacement, eq_comm]

@[simp] theorem mem_reply {ticket : Option Ticket} {result : Outcome} :
    effect ∈ Effect.reply ticket result ↔
      ∃ n, ticket = some n ∧ effect = .answered n result := by
  cases ticket <;> simp [Effect.reply]

end Membership

namespace Machine

/-- The machine after it has entered a state with some roles. -/
def entered (m : Machine) (next : MachineState) (roles : Roles) : Machine where
  snapshot := ⟨next, roles, if next = .connected then m.snapshot.service else none⟩
  deferred := if m.snapshot.state = next then m.deferred else []
  replay :=
    if m.snapshot.state = next then m.replay else m.deferred.map Message.command ++ m.replay
  timer := if next = .pending then m.timer else none
  generation := m.generation

@[simp] theorem snapshot_entered_disconnected (m : Machine) :
    (m.entered .disconnected .idle).snapshot = .initial := rfl

@[simp] theorem snapshot_entered_pending (m : Machine) (roles : Roles) :
    (m.entered .pending roles).snapshot = ⟨.pending, roles, none⟩ := rfl

@[simp] theorem snapshot_entered_connected (m : Machine) (roles : Roles) :
    (m.entered .connected roles).snapshot = ⟨.connected, roles, m.snapshot.service⟩ := rfl

/-- A pending machine that only changes its roles releases nothing, so coming to rest
afterwards is coming to rest at once. -/
theorem entered_pending_disconnected {m : Machine} (pending : m.snapshot.state = .pending)
    (roles : Roles) :
    (m.entered .pending roles).entered .disconnected .idle =
      m.entered .disconnected .idle := by
  simp [entered, pending]

/-- The machine with its connect timer armed anew. -/
def armed (m : Machine) (deadline : Nat) : Machine :=
  { m with timer := some ⟨m.generation + 1, deadline⟩, generation := m.generation + 1 }

/-- The machine with one more command waiting. -/
def deferring (m : Machine) (command : Command) : Machine :=
  { m with deferred := m.deferred ++ [command] }

/-- The machine with another service channel. -/
def withService (m : Machine) (service : Option ChannelHandle) : Machine :=
  { m with snapshot := { m.snapshot with service := service } }

/-- The messages that make no difference to a machine. -/
def Ignores (m : Machine) : Message → Prop
  | .command ⟨.connect, device, _⟩ => m.snapshot.connectionOf device = .connected
  | .command ⟨.disconnect, device, _⟩ =>
    m.snapshot.state ≠ .pending ∧ m.snapshot.connectionOf device ≠ .connected
  | .send _ _ => False
  | .stack (.connection .disconnected device) =>
    m.snapshot.connectionOf device = .disconnected
  | .stack (.connection .disconnecting _) => True
  | .stack (.connection .connecting _) => m.snapshot.state ≠ .disconnected
  | .stack (.connection .connected _) => m.snapshot.state = .connected
  | .stack (.service .connected device channel) =>
    m.snapshot.connectionOf device ≠ .connected ∨ channel = none
  | .stack (.service .disconnected device _) =>
    m.snapshot.connectionOf device ≠ .connected ∨ m.snapshot.service = none
  | .stack (.data _) => m.snapshot.state ≠ .connected
  | .stack (.error _ _) => False
  | .timeout generation =>
    m.snapshot.state ≠ .pending ∨
      ∀ timer, m.timer = some timer → timer.generation ≠ generation
  | .shutdown => True

/-- Whether a command has to wait while a transition is pending. Only a command to
disconnect the device that is being connected is carried out at once. -/
def Waits (m : Machine) (command : Command) : Prop :=
  m.snapshot.state = .pending ∧
    (command.verb = .disconnect → m.snapshot.roles.target? ≠ some command.device)

/-- Everything that processing one message from a legal snapshot can come to. -/
inductive Step (env : Surroundings W) (deadline : Nat) (m : Machine) (w : W) :
    Message → Turn W → Prop where
  | ignored {message : Message} (idle : m.Ignores message) :
      Step env deadline m w message ⟨m, w, [.took message]⟩
  | stackFailed (code : Int) (text : String) :
      Step env deadline m w (.stack (.error code text))
        ⟨m, w, [.took (.stack (.error code text)), .told (.stackError code text)]⟩
  | sendFailed (packet : Packet) (ticket : Option Ticket)
      (down : m.snapshot.state ≠ .connected) :
      Step env deadline m w (.send packet ticket)
        ⟨m, w,
          .took (.send packet ticket) :: Effect.reply ticket (.error .deviceNotConnected)⟩
  -- Disconnected
  | connectRefused {device : Address} (ticket : Ticket) {error : LinkError} {w' : W}
      (before : m.snapshot = .initial) (call : env.connect w device = (.error error, w')) :
      Step env deadline m w (.command ⟨.connect, device, ticket⟩)
        ⟨m, w', [.took (.command ⟨.connect, device, ticket⟩),
          .told (.connection device .connecting .disconnected),
          .called (.connect device) (.error error),
          .told (.connection device .disconnected .connecting)]⟩
  | connectStarted {device : Address} (ticket : Ticket) {w' : W}
      (before : m.snapshot = .initial) (call : env.connect w device = (.ok (), w')) :
      Step env deadline m w (.command ⟨.connect, device, ticket⟩)
        ⟨(m.entered .pending (.outgoing device)).armed deadline, w',
          [.took (.command ⟨.connect, device, ticket⟩),
            .told (.connection device .connecting .disconnected),
            .called (.connect device) (.ok ()),
            .wrote ⟨.pending, .outgoing device, none⟩]⟩
  | inboundAdmitted {device : Address} (before : m.snapshot = .initial)
      (admitted : env.admits w device false = true) :
      Step env deadline m w (.stack (.connection .connecting device))
        ⟨m.entered .pending (.incoming device), w,
          [.took (.stack (.connection .connecting device)),
            .judged device false true,
            .told (.connection device .connecting .disconnected),
            .wrote ⟨.pending, .incoming device, none⟩]⟩
  | inboundRefused {device : Address} {answer : Outcome} {w' : W}
      (before : m.snapshot = .initial) (refused : env.admits w device false = false)
      (call : env.disconnect w device = (answer, w')) :
      Step env deadline m w (.stack (.connection .connecting device))
        ⟨m, w', [.took (.stack (.connection .connecting device)),
          .judged device false false,
          .called (.disconnect device) answer,
          .told (.incomingRejected device)]⟩
  | linkAdmitted {device : Address} (before : m.snapshot = .initial)
      (admitted : env.admits w device false = true) :
      Step env deadline m w (.stack (.connection .connected device))
        ⟨m.entered .connected (.current device), w,
          [.took (.stack (.connection .connected device)),
            .judged device false true,
            .told (.connection device .connected .disconnected),
            .wrote ⟨.connected, .current device, none⟩]⟩
  | linkRefused {device : Address} {answer : Outcome} {w' : W}
      (before : m.snapshot = .initial) (refused : env.admits w device false = false)
      (call : env.disconnect w device = (answer, w')) :
      Step env deadline m w (.stack (.connection .connected device))
        ⟨m, w', [.took (.stack (.connection .connected device)),
          .judged device false false,
          .called (.disconnect device) answer]⟩
  -- Pending: commands and the timer
  | putOff (command : Command) (waits : m.Waits command) :
      Step env deadline m w (.command command)
        ⟨m.deferring command, w, [.took (.command command), .deferred command]⟩
  | handoverCancelled {current device : Address} (ticket : Ticket)
      (distinct : current ≠ device)
      (before : m.snapshot = ⟨.pending, .handover current device, none⟩) :
      Step env deadline m w (.command ⟨.disconnect, device, ticket⟩)
        ⟨m.entered .pending (.current current), w,
          [.took (.command ⟨.disconnect, device, ticket⟩),
            .told (.connection device .disconnected .connecting),
            .wrote ⟨.pending, .current current, none⟩]⟩
  | attemptCancelled {device : Address} (ticket : Ticket) {w' : W}
      (before : m.snapshot = ⟨.pending, .outgoing device, none⟩)
      (call : env.disconnect w device = (.ok (), w')) :
      Step env deadline m w (.command ⟨.disconnect, device, ticket⟩)
        ⟨m.entered .disconnected .idle, w',
          [.took (.command ⟨.disconnect, device, ticket⟩),
            .called (.disconnect device) (.ok ()),
            .told (.connection device .disconnected .connecting),
            .wrote .initial]⟩
  | cancelRefused {device : Address} (ticket : Ticket) {error : LinkError} {w' : W}
      (before : m.snapshot = ⟨.pending, .outgoing device, none⟩)
      (call : env.disconnect w device = (.error error, w')) :
      Step env deadline m w (.command ⟨.disconnect, device, ticket⟩)
        ⟨m.deferring ⟨.disconnect, device, ticket⟩, w',
          [.took (.command ⟨.disconnect, device, ticket⟩),
            .called (.disconnect device) (.error error),
            .deferred ⟨.disconnect, device, ticket⟩]⟩
  | attemptExpired {target : Address} {timer : ConnectTimer} (armed : m.timer = some timer)
      (pending : m.snapshot.state = .pending)
      (awaited : m.snapshot.roles.target? = some target) :
      Step env deadline m w (.timeout timer.generation)
        ⟨{ m with
            timer := none
            replay := .stack (.connection .disconnected target) :: m.replay }, w,
          [.took (.timeout timer.generation)]⟩
  | timerDropped {timer : ConnectTimer} (armed : m.timer = some timer)
      (pending : m.snapshot.state = .pending) (awaited : m.snapshot.roles.target? = none) :
      Step env deadline m w (.timeout timer.generation)
        ⟨{ m with timer := none }, w, [.took (.timeout timer.generation)]⟩
  -- Pending: a device is reported disconnected
  | attemptFailed {device : Address}
      (before : m.snapshot = ⟨.pending, .outgoing device, none⟩) :
      Step env deadline m w (.stack (.connection .disconnected device))
        ⟨m.entered .disconnected .idle, w,
          [.took (.stack (.connection .disconnected device)),
            .told (.connection device .disconnected .connecting),
            .wrote .initial]⟩
  | inboundGone {device : Address}
      (before : m.snapshot = ⟨.pending, .incoming device, none⟩) :
      Step env deadline m w (.stack (.connection .disconnected device))
        ⟨m.entered .disconnected .idle, w,
          [.took (.stack (.connection .disconnected device)),
            .told (.connection device .disconnected .connecting),
            .wrote .initial]⟩
  | currentGone {device : Address}
      (before : m.snapshot = ⟨.pending, .current device, none⟩) :
      Step env deadline m w (.stack (.connection .disconnected device))
        ⟨m.entered .disconnected .idle, w,
          [.took (.stack (.connection .disconnected device)),
            .told (.connection device .disconnected .disconnecting),
            .wrote .initial]⟩
  | handoverTargetGone {current device : Address} (distinct : current ≠ device)
      (before : m.snapshot = ⟨.pending, .handover current device, none⟩) :
      Step env deadline m w (.stack (.connection .disconnected device))
        ⟨m.entered .pending (.current current), w,
          [.took (.stack (.connection .disconnected device)),
            .told (.connection device .disconnected .connecting),
            .wrote ⟨.pending, .current current, none⟩]⟩
  | handoverConnecting {device target : Address} {w' : W} (distinct : device ≠ target)
      (before : m.snapshot = ⟨.pending, .handover device target, none⟩)
      (call : env.connect w target = (.ok (), w')) :
      Step env deadline m w (.stack (.connection .disconnected device))
        ⟨(m.entered .pending (.outgoing target)).armed deadline, w',
          [.took (.stack (.connection .disconnected device)),
            .told (.connection device .disconnected .disconnecting),
            .wrote ⟨.pending, .outgoing target, none⟩,
            .called (.connect target) (.ok ())]⟩
  | handoverRefused {device target : Address} {error : LinkError} {w' : W}
      (distinct : device ≠ target)
      (before : m.snapshot = ⟨.pending, .handover device target, none⟩)
      (call : env.connect w target = (.error error, w')) :
      Step env deadline m w (.stack (.connection .disconnected device))
        ⟨m.entered .disconnected .idle, w',
          [.took (.stack (.connection .disconnected device)),
            .told (.connection device .disconnected .disconnecting),
            .wrote ⟨.pending, .outgoing target, none⟩,
            .called (.connect target) (.error error),
            .told (.connection target .disconnected .connecting),
            .wrote .initial]⟩
  -- Pending: a device is reported connected
  | attemptConnected {device : Address}
      (before : m.snapshot = ⟨.pending, .outgoing device, none⟩) :
      Step env deadline m w (.stack (.connection .connected device))
        ⟨m.entered .connected (.current device), w,
          [.took (.stack (.connection .connected device)),
            .told (.connection device .connected .connecting),
            .wrote ⟨.connected, .current device, none⟩]⟩
  | inboundConnected {device : Address}
      (before : m.snapshot = ⟨.pending, .incoming device, none⟩) :
      Step env deadline m w (.stack (.connection .connected device))
        ⟨m.entered .connected (.current device), w,
          [.took (.stack (.connection .connected device)),
            .told (.connection device .connected .connecting),
            .wrote ⟨.connected, .current device, none⟩]⟩
  | currentBack {device : Address}
      (before : m.snapshot = ⟨.pending, .current device, none⟩) :
      Step env deadline m w (.stack (.connection .connected device))
        ⟨m.entered .connected (.current device), w,
          [.took (.stack (.connection .connected device)),
            .told (.connection device .connected .disconnecting),
            .wrote ⟨.connected, .current device, none⟩]⟩
  | handoverUndone {device target : Address} (distinct : device ≠ target)
      (before : m.snapshot = ⟨.pending, .handover device target, none⟩) :
      Step env deadline m w (.stack (.connection .connected device))
        ⟨m.entered .connected (.current device), w,
          [.took (.stack (.connection .connected device)),
            .told (.connection device .connected .disconnecting),
            .told (.connection target .disconnected .connecting),
            .wrote ⟨.connected, .current device, none⟩]⟩
  | handoverDone {current device : Address} (distinct : current ≠ device)
      (before : m.snapshot = ⟨.pending, .handover current device, none⟩) :
      Step env deadline m w (.stack (.connection .connected device))
        ⟨m.entered .connected (.current device), w,
          [.took (.stack (.connection .connected device)),
            .told (.connection current .disconnected .disconnecting),
            .told (.connection device .connected .connecting),
            .wrote ⟨.connected, .current device, none⟩]⟩
  | resynchronized {device : Address} (pending : m.snapshot.state = .pending)
      (closed : m.snapshot.service = none)
      (unknown : m.snapshot.roles.roleOf device = .none) :
      Step env deadline m w (.stack (.connection .connected device))
        ⟨m.entered .connected (.current device), w,
          .took (.stack (.connection .connected device)) :: m.snapshot.displacement ++
            [.told (.connection device .connected .disconnected),
              .wrote ⟨.connected, .current device, none⟩]⟩
  -- Connected
  | handoverDenied {current device : Address} {service : Option ChannelHandle}
      (ticket : Ticket) {error : LinkError} {w' : W} (distinct : current ≠ device)
      (before : m.snapshot = ⟨.connected, .current current, service⟩)
      (call : env.disconnect w current = (.error error, w')) :
      Step env deadline m w (.command ⟨.connect, device, ticket⟩)
        ⟨m, w', [.took (.command ⟨.connect, device, ticket⟩),
          .told (.connection device .connecting .disconnected),
          .called (.disconnect current) (.error error),
          .told (.connection device .disconnected .connecting)]⟩
  | handoverStarted {current device : Address} {service : Option ChannelHandle}
      (ticket : Ticket) {w' : W} (distinct : current ≠ device)
      (before : m.snapshot = ⟨.connected, .current current, service⟩)
      (call : env.disconnect w current = (.ok (), w')) :
      Step env deadline m w (.command ⟨.connect, device, ticket⟩)
        ⟨m.entered .pending (.handover current device), w',
          [.took (.command ⟨.connect, device, ticket⟩),
            .told (.connection device .connecting .disconnected),
            .called (.disconnect current) (.ok ())] ++ m.snapshot.serviceDrop current ++
            [.told (.connection current .disconnecting .connected),
              .wrote ⟨.pending, .handover current device, none⟩]⟩
  | disconnectDenied {device : Address} {service : Option ChannelHandle} (ticket : Ticket)
      {error : LinkError} {w' : W}
      (before : m.snapshot = ⟨.connected, .current device, service⟩)
      (call : env.disconnect w device = (.error error, w')) :
      Step env deadline m w (.command ⟨.disconnect, device, ticket⟩)
        ⟨m, w',
          .took (.command ⟨.disconnect, device, ticket⟩) :: m.snapshot.serviceDrop device ++
            [.told (.connection device .disconnecting .connected),
              .called (.disconnect device) (.error error),
              .told (.connection device .connected .disconnecting)] ++
            m.snapshot.serviceReturn device⟩
  | disconnectStarted {device : Address} {service : Option ChannelHandle} (ticket : Ticket)
      {w' : W} (before : m.snapshot = ⟨.connected, .current device, service⟩)
      (call : env.disconnect w device = (.ok (), w')) :
      Step env deadline m w (.command ⟨.disconnect, device, ticket⟩)
        ⟨m.entered .pending (.current device), w',
          .took (.command ⟨.disconnect, device, ticket⟩) :: m.snapshot.serviceDrop device ++
            [.told (.connection device .disconnecting .connected),
              .called (.disconnect device) (.ok ()),
              .wrote ⟨.pending, .current device, none⟩]⟩
  | sent {current : Address} {service : Option ChannelHandle} (packet : Packet)
      (ticket : Option Ticket) {answer : Outcome} {w' : W}
      (before : m.snapshot = ⟨.connected, .current current, service⟩)
      (call : env.send w current packet = (answer, w')) :
      Step env deadline m w (.send packet ticket)
        ⟨m, w', .took (.send packet ticket) :: .called (.send current packet) answer ::
          Effect.reply ticket answer⟩
  | linkLost {device : Address} {service : Option ChannelHandle}
      (before : m.snapshot = ⟨.connected, .current device, service⟩) :
      Step env deadline m w (.stack (.connection .disconnected device))
        ⟨m.entered .disconnected .idle, w,
          .took (.stack (.connection .disconnected device)) ::
            m.snapshot.serviceDrop device ++
              [.told (.connection device .disconnected .connected), .wrote .initial]⟩
  | serviceOpened {device : Address} (handle : ChannelHandle)
      (before : m.snapshot = ⟨.connected, .current device, none⟩) :
      Step env deadline m w (.stack (.service .connected device (some handle)))
        ⟨m.withService (some handle), w,
          [.took (.stack (.service .connected device (some handle))),
            .wrote ⟨.connected, .current device, some handle⟩,
            .told (.service device .connected .disconnected)]⟩
  | serviceMoved {device : Address} {old : ChannelHandle} (handle : ChannelHandle)
      (before : m.snapshot = ⟨.connected, .current device, some old⟩) :
      Step env deadline m w (.stack (.service .connected device (some handle)))
        ⟨m.withService (some handle), w,
          [.took (.stack (.service .connected device (some handle))),
            .wrote ⟨.connected, .current device, some handle⟩]⟩
  | serviceClosed {device : Address} {old : ChannelHandle} (channel : Option ChannelHandle)
      (before : m.snapshot = ⟨.connected, .current device, some old⟩) :
      Step env deadline m w (.stack (.service .disconnected device channel))
        ⟨m.withService none, w,
          [.took (.stack (.service .disconnected device channel)),
            .wrote ⟨.connected, .current device, none⟩,
            .told (.service device .disconnected .connected)]⟩
  | dataRelayed (packet : Packet) (up : m.snapshot.state = .connected) :
      Step env deadline m w (.stack (.data packet))
        ⟨m, w, [.took (.stack (.data packet)), .told (.data packet)]⟩

end Machine

end AccessoryLink
