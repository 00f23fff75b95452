import AccessoryLink.LinkState
import AccessoryLink.Roles

/-!
# The shared snapshot

The machine publishes its state, the roles and the open service channel as one value, and every
query is answered from that value alone. `Snapshot.Legal` says which combinations the machine keeps
to; the type also holds the others, since processing has to withstand them.
-/

namespace AccessoryLink

/-- The state of the link machine. -/
inductive MachineState where
  | disconnected
  | pending
  | connected
  deriving Repr, DecidableEq

/-- How a machine state is named in reports. -/
def MachineState.name : MachineState → String
  | disconnected => "Disconnected"
  | pending => "Pending"
  | connected => "Connected"

/-- What readers see of the machine. -/
structure Snapshot where
  state : MachineState := .disconnected
  roles : Roles := .idle
  /-- The open service channel of the current device. -/
  service : Option ChannelHandle := none
  deriving Repr, DecidableEq

namespace Snapshot

/-- Nothing is connected and nothing is under way. -/
def initial : Snapshot := ⟨.disconnected, .idle, none⟩

instance : Inhabited Snapshot := ⟨initial⟩

/-- The connection of a device. -/
def connectionOf (s : Snapshot) (device : Address) : ConnectionState :=
  match s.state, s.roles.roleOf device with
  | .pending, .target => .connecting
  | .pending, .incoming => .connecting
  | .pending, .current => .disconnecting
  | .connected, .current => .connected
  | _, _ => .disconnected

/-- The service channel of a device. -/
def channelOf (s : Snapshot) (device : Address) : Option ChannelHandle :=
  if s.state = .connected ∧ s.roles.current? = some device then s.service else none

/-- The service of a device: connected if it has a channel. -/
def serviceOf (s : Snapshot) (device : Address) : ServiceState :=
  if (s.channelOf device).isSome then .connected else .disconnected

/-- The connected device. -/
def connectedDevice? (s : Snapshot) : Option Address :=
  if s.state = .connected then s.roles.current? else none

/-- The combinations of state, roles and service that a machine keeps to. -/
def Legal (s : Snapshot) : Prop :=
  match s.state, s.roles with
  | .disconnected, .idle => s.service = none
  | .pending, .outgoing _ => s.service = none
  | .pending, .incoming _ => s.service = none
  | .pending, .current _ => s.service = none
  | .pending, .handover device target => device ≠ target ∧ s.service = none
  | .connected, .current _ => True
  | _, _ => False

instance (s : Snapshot) : Decidable s.Legal := by
  unfold Legal
  split <;> infer_instance

end Snapshot

end AccessoryLink
