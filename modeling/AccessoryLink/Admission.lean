import AccessoryLink.LinkState

/-!
# Admission of inbound connections

Whether a device that connects by itself may take the link. An undefined priority usually means that
service discovery has not run yet, so a bonded device is let in.
-/

namespace AccessoryLink.Admission

/-- Decides about a device from its priority and bond. Quiet mode turns everything away unless a
connection asked for here is in flight. -/
def accepts (quiet outgoing : Bool) (priority : Priority) (bonded : Bool) : Bool :=
  if quiet && !outgoing then false
  else priority.isEnabled || (priority == .undefined && bonded)

theorem accepts_off (quiet outgoing bonded : Bool) :
    accepts quiet outgoing .off bonded = false := by
  cases quiet <;> cases outgoing <;> rfl

end AccessoryLink.Admission
