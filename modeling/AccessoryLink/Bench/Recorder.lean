import AccessoryLink.Directory.Basic
import AccessoryLink.Machine.Basic
import AccessoryLink.Service.Methods

/-!
# A recording radio

Surroundings for trying the machine out: a peer directory, and a radio that accepts every request
but those it was told to refuse. What was asked of it stands in the trace of the machine.
-/

namespace AccessoryLink.Bench

/-- A directory, and what the radio refuses. -/
structure Recorder where
  directory : Directory
  refusedConnects : List Address
  refusedDisconnects : List Address
  /-- The error that every send fails with. -/
  sendFault : Option LinkError

namespace Recorder

/-- A radio that refuses nothing. -/
def ofDirectory (directory : Directory) : Recorder := ⟨directory, [], [], none⟩

/-- The error that a word stands for. -/
def faultOfWord (word : String) : LinkError :=
  if word = "closed" then .channelClosed
  else if word = "full" then .system .wouldBlock
  else if word = "lost" then .connectionLost
  else if word = "timeout" then .requestTimeout
  else .controlRefused .send

/-- Sets what is refused from now on. -/
def refuse (r : Recorder) (connects disconnects : List Address) (send : Option String) : Recorder :=
  { r with
    refusedConnects := connects
    refusedDisconnects := disconnects
    sendFault := send.map faultOfWord }

/-- The answer to a request that is refused for some devices. -/
def answer (refused : List Address) (device : Address) (request : ControlRequest) : Outcome :=
  if refused.contains device then .error (.controlRefused request) else .done

/-- The recorder as what a machine acts on. -/
def surroundings : Surroundings Recorder where
  connect r device := (answer r.refusedConnects device .connect, r)
  disconnect r device := (answer r.refusedDisconnects device .disconnect, r)
  send r _ _ := (match r.sendFault with | some e => .error e | none => .done, r)
  cleanup r := r
  priority r device := r.directory.priority device
  bonded r device := r.directory.isBonded device
  accessories r := r.directory.accessories
  quiet r := r.directory.isQuiet

/-- Sets a priority in the directory. -/
def setPriority (r : Recorder) (device : Address) (priority : Priority) : Outcome × Recorder :=
  match r.directory.setPriority device priority with
  | (result, directory) => (result, { r with directory := directory })

/-- The recorder as what the bus service acts on. -/
def settings : Service.Settings Recorder := ⟨setPriority⟩

end Recorder

end AccessoryLink.Bench
