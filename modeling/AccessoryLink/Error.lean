import AccessoryLink.LinkState
import AccessoryLink.Roles

/-!
# Errors

One constructor a cause, and one function for the text of each.
-/

namespace AccessoryLink

/-- A failure of the operating system. -/
inductive SystemError where
  | wouldBlock
  | invalidData
  | notADirectory
  | notFound
  | connectionReset
  | addressInUse
  | permissionDenied
  /-- Any other failure. -/
  | other
  deriving Repr, DecidableEq

/-- How a failure of the operating system is worded. -/
def SystemError.text : SystemError → String
  | wouldBlock => "operation would block"
  | invalidData => "stream did not contain valid UTF-8"
  | notADirectory => "Not a directory (os error 20)"
  | notFound => "No such file or directory (os error 2)"
  | connectionReset => "Connection reset by peer (os error 104)"
  | addressInUse => "Address in use (os error 98)"
  | permissionDenied => "Permission denied (os error 13)"
  | other => "Address family not supported by protocol (os error 97)"

/-- What is asked of the radio. -/
inductive ControlRequest where
  | connect
  | disconnect
  | send
  deriving Repr, DecidableEq

/-- How a request is named in reports. -/
def ControlRequest.text : ControlRequest → String
  | connect => "connect"
  | disconnect => "disconnect"
  | send => "send"

/-- Why an operation on the link failed. -/
inductive LinkError where
  /-- A raw address of the stack has this many bytes instead of six. -/
  | invalidAddress (size : Nat)
  | unknownConnectionState (code : UInt32)
  | unknownServiceState (code : UInt32)
  | deviceNotConnected
  | alreadyConnected
  | alreadyConnecting
  | priorityOff (device : Address)
  | roleConflict (conflict : RoleConflict)
  | controlRefused (request : ControlRequest)
  | channelClosed
  | connectionLost
  | requestTimeout
  | managerShutdown
  | system (error : SystemError)
  /-- A configuration text that does not follow the format or names a wrong type. -/
  | configSyntax
  /-- A configuration that cannot be put into a text. -/
  | configUnwritable
  /-- The Bluetooth service failed. -/
  | bluetooth
  /-- The message bus failed. -/
  | bus
  deriving Repr, DecidableEq

namespace LinkError

/-- The text of an error. Details that other programs supply are left out. -/
def message : LinkError → String
  | invalidAddress size => "Invalid peer address (" ++ toString size ++ " bytes)"
  | unknownConnectionState code => "Unknown connection state code: " ++ toString code.toNat
  | unknownServiceState code => "Unknown service state code: " ++ toString code.toNat
  | deviceNotConnected => "Device not connected"
  | alreadyConnected => "Already connected to device"
  | alreadyConnecting => "Already connecting to device"
  | priorityOff device => "Connections to " ++ device.text ++ " are disabled by priority"
  | roleConflict conflict =>
    "Cannot " ++ conflict.operation.text ++ " while roles are " ++ conflict.roles.text
  | controlRefused request => "Control interface refused " ++ request.text
  | channelClosed => "Service channel not open"
  | connectionLost => "Connection lost"
  | requestTimeout => "Request timeout"
  | managerShutdown => "Link manager has been shut down"
  | system error => "I/O error: " ++ error.text
  | configSyntax => "TOML parsing error"
  | configUnwritable => "TOML serialization error"
  | bluetooth => "Bluetooth error"
  | bus => "D-Bus error"

end LinkError

/-- The outcome of an operation that gives nothing back. -/
abbrev Outcome := Except LinkError Unit

/-- The outcome of an operation that succeeded. -/
def Outcome.done : Outcome := .ok ()

/-- Whether the operation succeeded. -/
def Outcome.isDone : Outcome → Bool
  | .ok _ => true
  | .error _ => false

instance {A : Type} [DecidableEq A] : DecidableEq (Except LinkError A) := fun a b =>
  match a, b with
  | .ok x, .ok y =>
    if same : x = y then .isTrue (same ▸ rfl) else .isFalse fun both => same (Except.ok.inj both)
  | .error e, .error f =>
    if same : e = f then .isTrue (same ▸ rfl)
    else .isFalse fun both => same (Except.error.inj both)
  | .ok _, .error _ => .isFalse nofun
  | .error _, .ok _ => .isFalse nofun

end AccessoryLink
