import AccessoryLink.Address
import AccessoryLink.LinkState

/-!
# Configuration

The settings of the service and the devices the user knows. A known device is found by the meaning
of its address text and not by its spelling; an entry whose text is no address is kept, and is never
found.
-/

namespace AccessoryLink

/-- A device that the user knows. -/
structure KnownDevice where
  /-- The address as it was written. -/
  address : String
  name : String
  priority : Priority
  deriving Repr, DecidableEq

/-- The settings of the service. -/
structure Config where
  connectTimeoutSecs : UInt64
  /-- Turns inbound connections away unless one was asked for here. -/
  quietMode : Bool
  /-- The number under which the accessory service is reached. -/
  psm : UInt16
  adapter : Option String
  linkPollIntervalSecs : UInt64
  knownDevices : List KnownDevice
  deriving Repr, DecidableEq

namespace KnownDevice

/-- Whether an entry is about a device. -/
def isAbout (device : Address) (entry : KnownDevice) : Bool :=
  Address.parse? entry.address == some device

/-- The entry made for a device that is not known yet. -/
def fresh (device : Address) (priority : Priority) : KnownDevice := ⟨device.text, "", priority⟩

/-- The entries with another priority for a device: the first entry about it is changed, and if
there is none, one is added at the end. -/
def assign (device : Address) (priority : Priority) : List KnownDevice → List KnownDevice
  | [] => [fresh device priority]
  | entry :: rest =>
    if entry.isAbout device then { entry with priority := priority } :: rest
    else entry :: assign device priority rest

end KnownDevice

namespace Config

/-- The settings where nothing is said. -/
def default : Config where
  connectTimeoutSecs := 30
  quietMode := false
  psm := 4097
  adapter := none
  linkPollIntervalSecs := 5
  knownDevices := []

instance : Inhabited Config := ⟨default⟩

/-- How long an attempt to connect may take, in seconds. -/
def connectTimeout (config : Config) : Nat := config.connectTimeoutSecs.toNat

/-- How often the state of a link is read, in seconds: at most once a second. -/
def linkPollInterval (config : Config) : Nat := max config.linkPollIntervalSecs.toNat 1

/-- The first entry about a device. -/
def knownDevice? (config : Config) (device : Address) : Option KnownDevice :=
  config.knownDevices.find? (·.isAbout device)

/-- The priority of a device. -/
def priorityOf (config : Config) (device : Address) : Priority :=
  match config.knownDevice? device with
  | some entry => entry.priority
  | none => .undefined

/-- Records the priority of a device. -/
def setPriority (config : Config) (device : Address) (priority : Priority) : Config :=
  { config with knownDevices := KnownDevice.assign device priority config.knownDevices }

/-- Records priorities one after the other. -/
def setPriorities (config : Config) (writes : List (Address × Priority)) : Config :=
  writes.foldl (fun config write => config.setPriority write.1 write.2) config

/-- Gives every entry about a device another name. -/
def rename (config : Config) (device : Address) (name : String) : Config :=
  { config with
    knownDevices := config.knownDevices.map fun entry =>
      if entry.isAbout device then { entry with name := name } else entry }

end Config

end AccessoryLink
