import AccessoryLink.Config.Store

/-!
# Starting the service

The service loads its configuration, takes an adapter, powers it on if need be, and asks for its
name on the bus. The first of these that fails ends it, and nothing after that is tried.
-/

namespace AccessoryLink.Daemon

/-- What the service finds when it starts. -/
structure Platform where
  /-- The adapters, if they can be listed. -/
  adapters : Option (List String)
  isPowered : Bool
  /-- Whether an adapter can be powered on. -/
  canPower : Bool
  /-- Whether somebody else owns the name of the service. -/
  nameTaken : Bool
  deriving Repr, DecidableEq

/-- A call that the service makes while it starts. -/
inductive StartupCall where
  | powerOn (adapter : String)
  | requestName
  deriving Repr, DecidableEq

/-- The adapter that is taken where none is configured, if it is there. -/
def preferredAdapter : String := "hci0"

/-- Whether a text may be a part of an object path: parts of letters, digits and underscores,
between slashes. -/
def isPathPart (text : String) : Bool :=
  ((text.splitOn "/").all fun part =>
    !part.isEmpty && part.all fun c => c.isAlphanum || c == '_')

/-- The first of some names. -/
def firstName? : List String → Option String
  | [] => none
  | name :: rest =>
    match firstName? rest with
    | some other => some (if other < name then other else name)
    | none => some name

/-- The adapter that is taken. One that is configured need not be listed. -/
def adapter? (config : Config) (platform : Platform) : Option String :=
  match config.adapter with
  | some name => if isPathPart name then some name else none
  | none =>
    platform.adapters.bind fun names =>
      if names.contains preferredAdapter then some preferredAdapter else firstName? names

/-- A service that has started. -/
structure Started where
  config : Config
  adapter : String
  deriving Repr, DecidableEq

/-- How a start ended, the file after it, and the calls that were made. -/
structure Startup where
  outcome : Except LinkError Started
  file : ConfigFile
  calls : List StartupCall

/-- Asks for the name of the service. -/
def claimName (platform : Platform) (started : Started) (file : ConfigFile)
    (calls : List StartupCall) : Startup where
  outcome := if platform.nameTaken then .error .bus else .ok started
  file := file
  calls := calls ++ [.requestName]

/-- Powers the adapter on if need be, and goes on. -/
def powerOn (platform : Platform) (started : Started) (file : ConfigFile) : Startup :=
  if platform.isPowered then claimName platform started file []
  else
    let calls := [.powerOn started.adapter]
    if platform.canPower then claimName platform started file calls
    else ⟨.error .bluetooth, file, calls⟩

/-- Starts the service. -/
def start (platform : Platform) (file : ConfigFile) : Startup :=
  match file.load with
  | (.error e, file) => ⟨.error e, file, []⟩
  | (.ok config, file) =>
    match adapter? config platform with
    | none => ⟨.error .bluetooth, file, []⟩
    | some adapter => powerOn platform ⟨config, adapter⟩ file

end AccessoryLink.Daemon
