import AccessoryLink.LinkState
import AccessoryLink.Address

/-!
# The register of the service channel

There is one service channel, and one device holds it. Another device is refused until the holder
gives it up; the holder itself may open it again. Each opening has a handle of its own, and a
refused one uses up none.
-/

namespace AccessoryLink

/-- Who holds the service channel, under which handle, and the line that its packets go to. -/
structure ChannelHolder where
  device : Address
  handle : ChannelHandle
  line : Nat
  deriving Repr, DecidableEq

/-- The register of the service channel. -/
structure ChannelRegister where
  holder : Option ChannelHolder
  /-- The handle of the next opening. -/
  next : ChannelHandle
  deriving Repr, DecidableEq

namespace ChannelRegister

/-- Nobody holds the channel, and the first handle is one. -/
def initial : ChannelRegister := ⟨none, ⟨1⟩⟩

instance : Inhabited ChannelRegister := ⟨initial⟩

/-- Whether a device holds the channel. -/
def isHeldBy (r : ChannelRegister) (device : Address) : Bool :=
  match r.holder with
  | some holder => holder.device == device
  | none => false

/-- Whether a device may open the channel. -/
def admits (r : ChannelRegister) (device : Address) : Bool :=
  r.holder.isNone || r.isHeldBy device

/-- Gives the channel to a device, with a new line. -/
def open? (r : ChannelRegister) (device : Address) (line : Nat) :
    Option (ChannelHandle × ChannelRegister) :=
  if r.admits device then some (r.next, ⟨some ⟨device, r.next, line⟩, r.next.next⟩) else none

/-- Takes the channel from a device, if it holds it. -/
def close (r : ChannelRegister) (device : Address) : Option ChannelHandle × ChannelRegister :=
  if r.isHeldBy device then (r.holder.map (·.handle), { r with holder := none }) else (none, r)

/-- The line for packets to a device. -/
def line? (r : ChannelRegister) (device : Address) : Option Nat :=
  if r.isHeldBy device then r.holder.map (·.line) else none

/-- Takes the channel from whoever holds it. -/
def clear (r : ChannelRegister) : ChannelRegister := { r with holder := none }

end ChannelRegister

/-- The devices whose disconnection is under way. -/
abbrev ClosingSet := List Address

namespace ClosingSet

/-- Marks a device. The answer says whether it was not marked yet. -/
def mark (closing : ClosingSet) (device : Address) : Bool × ClosingSet :=
  if closing.contains device then (false, closing) else (true, closing ++ [device])

/-- Removes the mark of a device. -/
def reopen (closing : ClosingSet) (device : Address) : ClosingSet :=
  closing.filter (· != device)

end ClosingSet

end AccessoryLink
