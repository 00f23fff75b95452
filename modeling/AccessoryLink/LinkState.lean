/-!
# Link and service states

What observers are told about a device, with the codes the radio stack and the bus use for it. The
codes of connection states leave a gap at three.
-/

namespace AccessoryLink

/-- The connection of one device as observers see it. -/
inductive ConnectionState where
  | disconnected
  | connecting
  | connected
  | disconnecting
  deriving Repr, DecidableEq

namespace ConnectionState

/-- The code of a connection state. -/
def code : ConnectionState → UInt32
  | disconnected => 0
  | connecting => 1
  | connected => 2
  | disconnecting => 4

/-- The connection state with this code. -/
def ofCode? (code : UInt32) : Option ConnectionState :=
  if code = 0 then some disconnected
  else if code = 1 then some connecting
  else if code = 2 then some connected
  else if code = 4 then some disconnecting
  else none

/-- The word for a connection state. -/
def name : ConnectionState → String
  | disconnected => "disconnected"
  | connecting => "connecting"
  | connected => "connected"
  | disconnecting => "disconnecting"

theorem ofCode?_eq_some_iff {code : UInt32} {s : ConnectionState} :
    ofCode? code = some s ↔ s.code = code := by
  unfold ofCode?
  split
  · subst_vars; cases s <;> decide
  split
  · subst_vars; cases s <;> decide
  split
  · subst_vars; cases s <;> decide
  split
  · subst_vars; cases s <;> decide
  · cases s <;> simp_all [ConnectionState.code, eq_comm]

@[simp] theorem ofCode?_code (s : ConnectionState) : ofCode? s.code = some s :=
  ofCode?_eq_some_iff.2 rfl

end ConnectionState

/-- The accessory service of one device. -/
inductive ServiceState where
  | disconnected
  | connected
  deriving Repr, DecidableEq

namespace ServiceState

/-- The code of a service state. -/
def code : ServiceState → UInt32
  | disconnected => 0
  | connected => 1

/-- The service state with this code. -/
def ofCode? (code : UInt32) : Option ServiceState :=
  if code = 0 then some disconnected
  else if code = 1 then some connected
  else none

/-- The word for a service state. -/
def name : ServiceState → String
  | disconnected => "disconnected"
  | connected => "connected"

theorem ofCode?_eq_some_iff {code : UInt32} {s : ServiceState} :
    ofCode? code = some s ↔ s.code = code := by
  unfold ofCode?
  split
  · subst_vars; cases s <;> decide
  split
  · subst_vars; cases s <;> decide
  · cases s <;> simp_all [ServiceState.code, eq_comm]

@[simp] theorem ofCode?_code (s : ServiceState) : ofCode? s.code = some s :=
  ofCode?_eq_some_iff.2 rfl

end ServiceState

/-- The number under which an open service channel is known. -/
structure ChannelHandle where
  number : UInt32
  deriving Repr, DecidableEq

namespace ChannelHandle

/-- How a channel is named in reports. -/
def text (handle : ChannelHandle) : String := "ch#" ++ toString handle.number.toNat

/-- The handle after this one. The numbers wrap. -/
def next (handle : ChannelHandle) : ChannelHandle := ⟨handle.number + 1⟩

end ChannelHandle

/-- The priority that the user gave to connections of a device. -/
inductive Priority where
  | undefined
  | off
  | on
  | autoConnect
  deriving Repr, DecidableEq

namespace Priority

instance : Inhabited Priority := ⟨undefined⟩

/-- Every priority. -/
def all : List Priority := [undefined, off, on, autoConnect]

/-- The word for a priority. -/
def name : Priority → String
  | undefined => "undefined"
  | off => "off"
  | on => "on"
  | autoConnect => "auto_connect"

/-- The priority with this name, spelt exactly so. -/
def ofName? (name : String) : Option Priority := all.find? fun p => p.name == name

/-- Whether the priority is above off. -/
def isEnabled : Priority → Bool
  | on | autoConnect => true
  | undefined | off => false

theorem ofName?_name (p : Priority) : ofName? p.name = some p := by cases p <;> decide

end Priority

end AccessoryLink
