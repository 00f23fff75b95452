import AccessoryLink.Hex
import AccessoryLink.Message

/-!
# The signals of the bus interface

Every event becomes one signal. States go out as codes, devices and packets as text.
-/

namespace AccessoryLink.Service

/-- The path of the object that sends the signals. -/
def objectPath : String := "/org/iap2d/link"

/-- The interface that the signals and methods belong to. -/
def interfaceName : String := "org.iap2d.Link1"

/-- The name under which the service is known on the bus. -/
def busName : String := "org.iap2d"

/-- An argument of a signal. -/
inductive Argument where
  | text (text : String)
  | number (n : Int)
  deriving Repr, DecidableEq

/-- A signal. -/
structure Signal where
  name : String
  arguments : List Argument
  deriving Repr, DecidableEq

/-- The signal that tells an event. -/
def Signal.ofEvent : Event → Signal
  | .connection device new prev =>
    ⟨"ConnectionStateChanged", [.text device.text, .number new.code.toNat, .number prev.code.toNat]⟩
  | .service device new prev =>
    ⟨"ServiceStateChanged", [.text device.text, .number new.code.toNat, .number prev.code.toNat]⟩
  | .data packet => ⟨"DataReceived", [.text (Hex.encode packet)]⟩
  | .stackError code message => ⟨"StackError", [.number code, .text message]⟩
  | .incomingRejected device => ⟨"IncomingRejected", [.text device.text]⟩

end AccessoryLink.Service
