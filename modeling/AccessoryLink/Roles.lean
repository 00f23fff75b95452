import AccessoryLink.Address

/-!
# Roles of devices

The machine follows at most one current device, one target and one incoming device. Only five
combinations of these three slots can occur, so they are five constructors; `current?`, `target?`
and `incoming?` read the slots back.
-/

namespace AccessoryLink

/-- The part that a device plays for the machine. -/
inductive Role where
  | none
  | current
  | target
  | incoming
  deriving Repr, DecidableEq

/-- The word for a role. -/
def Role.name : Role → String
  | none => "none"
  | current => "current"
  | target => "target"
  | incoming => "incoming"

/-- Which devices are tracked, and as what. -/
inductive Roles where
  | idle
  /-- A connection that was asked for here is on its way. -/
  | outgoing (target : Address)
  /-- A device is connecting by itself and is not admitted yet. -/
  | incoming (device : Address)
  /-- The current device is being dropped in favour of the target. -/
  | handover (current target : Address)
  /-- The connected device, or the one being dropped while a transition is pending. -/
  | current (device : Address)
  deriving Repr, DecidableEq

/-- What was attempted when the roles stood in the way. -/
inductive RoleOperation where
  | setTarget
  | setIncoming
  | setCurrent
  | promote
  | enterDisconnected
  | processWhileDisconnected
  | processWhileConnected
  deriving Repr, DecidableEq

/-- How an operation is named in reports. -/
def RoleOperation.text : RoleOperation → String
  | setTarget => "set target"
  | setIncoming => "set incoming"
  | setCurrent => "set current"
  | promote => "promote"
  | enterDisconnected => "enter disconnected"
  | processWhileDisconnected => "process while disconnected"
  | processWhileConnected => "process while connected"

/-- An operation that the roles do not allow. -/
structure RoleConflict where
  operation : RoleOperation
  roles : Roles
  deriving Repr, DecidableEq

namespace Roles

instance : Inhabited Roles := ⟨idle⟩

/-- The current device. -/
def current? : Roles → Option Address
  | current device => some device
  | handover device _ => some device
  | _ => Option.none

/-- The device being connected to. -/
def target? : Roles → Option Address
  | outgoing device => some device
  | handover _ device => some device
  | _ => Option.none

/-- The device that is connecting by itself. -/
def incoming? : Roles → Option Address
  | incoming device => some device
  | _ => Option.none

/-- Whether no device is tracked. -/
def isEmpty : Roles → Bool
  | idle => true
  | _ => false

/-- The role of a device; the current slot is asked first, then the target. -/
def roleOf (roles : Roles) (device : Address) : Role :=
  if roles.current? = some device then .current
  else if roles.target? = some device then .target
  else if roles.incoming? = some device then .incoming
  else .none

/-- Every tracked device, the current one first. -/
def devices (roles : Roles) : List Address :=
  roles.current?.toList ++ roles.target?.toList ++ roles.incoming?.toList

/-- Makes a device the target, beside a current device or none. -/
def setTarget (roles : Roles) (device : Address) : Except RoleConflict Roles :=
  match roles with
  | idle => .ok (outgoing device)
  | current c => if c = device then .error ⟨.setTarget, roles⟩ else .ok (handover c device)
  | _ => .error ⟨.setTarget, roles⟩

/-- Makes a device the incoming one, if none is tracked. -/
def setIncoming (roles : Roles) (device : Address) : Except RoleConflict Roles :=
  match roles with
  | idle => .ok (incoming device)
  | _ => .error ⟨.setIncoming, roles⟩

/-- Makes a device the current one, if none is tracked. -/
def setCurrent (roles : Roles) (device : Address) : Except RoleConflict Roles :=
  match roles with
  | idle => .ok (current device)
  | _ => .error ⟨.setCurrent, roles⟩

/-- Makes the target or incoming device current. Beside the new roles stands the current device that
a handover displaces. -/
def promote (roles : Roles) (device : Address) : Except RoleConflict (Roles × Option Address) :=
  match roles with
  | outgoing target =>
    if target = device then .ok (current device, Option.none) else .error ⟨.promote, roles⟩
  | incoming other =>
    if other = device then .ok (current device, Option.none) else .error ⟨.promote, roles⟩
  | handover old target =>
    if target = device then .ok (current device, some old) else .error ⟨.promote, roles⟩
  | _ => .error ⟨.promote, roles⟩

/-- The roles with one slot emptied. -/
def clear (roles : Roles) (role : Role) : Roles :=
  match role, roles with
  | .current, current _ => idle
  | .current, handover _ target => outgoing target
  | .target, outgoing _ => idle
  | .target, handover device _ => current device
  | .incoming, incoming _ => idle
  | _, _ => roles

/-- The device in the slot of a role. -/
def slot? (roles : Roles) : Role → Option Address
  | .none => Option.none
  | .current => roles.current?
  | .target => roles.target?
  | .incoming => roles.incoming?

/-- Empties one slot and hands out the device that was in it. -/
def take (roles : Roles) (role : Role) : Option Address × Roles :=
  (roles.slot? role, roles.clear role)

/-- A change of the roles that is asked for. -/
inductive Change where
  | setTarget (device : Address)
  | setIncoming (device : Address)
  | setCurrent (device : Address)
  | promote (device : Address)
  | clear (role : Role)
  deriving Repr, DecidableEq

/-- Makes a change: what it hands out, and the roles after it. A change that fails leaves the roles
as they were. -/
def change (roles : Roles) (change : Change) : Except RoleConflict (Option Address) × Roles :=
  let outcome : Except RoleConflict (Roles × Option Address) :=
    match change with
    | .setTarget device => (roles.setTarget device).map (·, Option.none)
    | .setIncoming device => (roles.setIncoming device).map (·, Option.none)
    | .setCurrent device => (roles.setCurrent device).map (·, Option.none)
    | .promote device => roles.promote device
    | .clear role => .ok (roles.take role).swap
  match outcome with
  | .ok (after, handed) => (.ok handed, after)
  | .error conflict => (.error conflict, roles)

/-- How roles are shown in reports. -/
def text : Roles → String
  | idle => "Idle"
  | outgoing target => "Outgoing(" ++ target.text ++ ")"
  | incoming device => "Incoming(" ++ device.text ++ ")"
  | handover device target =>
    "Handover \x7b current: " ++ device.text ++ ", target: " ++ target.text ++ " \x7d"
  | current device => "Current(" ++ device.text ++ ")"

end Roles

end AccessoryLink
