import AccessoryLink.Proofs.Snapshot

/-!
# Roles as three slots

The rules for roles are simple if they are told of three slots, each of which is free or holds a
device: `Slots.change` tells them so. The roles themselves are five tagged forms, and a change of
one form into another has to be the change of one slot. `slots_change` says that it is, whatever the
roles, and `roles_act_as_slots` follows it through any row of changes.

Three slots alone would admit a device in two of them, or an incoming device beside others. The
forms leave out all of this but a handover from a device to itself, and no change leads there
(`OneToAnother`).
-/

namespace AccessoryLink

/-- Three places for devices, each free or taken. -/
structure Slots where
  current : Option Address
  target : Option Address
  incoming : Option Address
  deriving Repr, DecidableEq

namespace Slots

/-- Nobody is in a slot. -/
def vacant : Slots := ⟨none, none, none⟩

/-- Who is in the slot of a role. -/
def get (s : Slots) : Role → Option Address
  | .none => none
  | .current => s.current
  | .target => s.target
  | .incoming => s.incoming

/-- The slots with another occupant, or nobody, in the slot of a role. -/
def set (s : Slots) (role : Role) (occupant : Option Address) : Slots :=
  match role with
  | .none => s
  | .current => { s with current := occupant }
  | .target => { s with target := occupant }
  | .incoming => { s with incoming := occupant }

/-- Makes a change of three slots: what it hands out, if it is admitted, and the slots after it. A
target may be set beside another device that is current, and nothing else beside anybody. To promote
a device empties all slots for it, and hands out the device that was current. -/
def change (s : Slots) : Roles.Change → Option (Option Address) × Slots
  | .setTarget device =>
    if s.target = none ∧ s.incoming = none ∧ s.current ≠ some device then
      (some none, s.set .target device)
    else (none, s)
  | .setIncoming device => if s = vacant then (some none, s.set .incoming device) else (none, s)
  | .setCurrent device => if s = vacant then (some none, s.set .current device) else (none, s)
  | .promote device =>
    if s.target = some device ∨ s.incoming = some device then
      (some s.current, vacant.set .current device)
    else (none, s)
  | .clear role => (some (s.get role), s.set role none)

/-- Makes changes one after the other, and collects what they hand out. -/
def run (s : Slots) : List Roles.Change → List (Option (Option Address)) × Slots
  | [] => ([], s)
  | change :: rest =>
    let (reply, after) := s.change change
    let later := run after rest
    (reply :: later.1, later.2)

end Slots

namespace Roles

/-- Makes changes one after the other, and collects what they hand out. -/
def run (roles : Roles) : List Change → List (Except RoleConflict (Option Address)) × Roles
  | [] => ([], roles)
  | change :: rest =>
    let (reply, after) := roles.change change
    let later := run after rest
    (reply :: later.1, later.2)

/-- The roles read as three slots. -/
def slots (roles : Roles) : Slots := ⟨roles.current?, roles.target?, roles.incoming?⟩

@[simp] theorem slots_idle : idle.slots = .vacant := rfl

@[simp] theorem slots_outgoing (device : Address) :
    (outgoing device).slots = ⟨Option.none, some device, Option.none⟩ := rfl

@[simp] theorem slots_incoming (device : Address) :
    (incoming device).slots = ⟨Option.none, Option.none, some device⟩ := rfl

@[simp] theorem slots_handover (device target : Address) :
    (handover device target).slots = ⟨some device, some target, Option.none⟩ := rfl

@[simp] theorem slots_current (device : Address) :
    (current device).slots = ⟨some device, Option.none, Option.none⟩ := rfl

/-! ## One change -/

/-- What is asked of the roles is what happens to the slots. -/
theorem slots_change (roles : Roles) (change : Change) :
    (roles.change change).1.toOption = (roles.slots.change change).1 ∧
      (roles.change change).2.slots = (roles.slots.change change).2 := by
  cases change with
  | setTarget device =>
    cases roles with
    | current holder =>
      by_cases same : holder = device <;>
        simp [Roles.change, setTarget, Slots.change, Slots.set, same, Except.map, Except.toOption]
    | _ =>
      simp [Roles.change, setTarget, Slots.change, Slots.set, Slots.vacant, Except.map,
        Except.toOption]
  | setIncoming device =>
    cases roles <;>
      simp [Roles.change, setIncoming, Slots.change, Slots.set, Slots.vacant, Except.map,
        Except.toOption]
  | setCurrent device =>
    cases roles <;>
      simp [Roles.change, setCurrent, Slots.change, Slots.set, Slots.vacant, Except.map,
        Except.toOption]
  | promote device =>
    cases roles with
    | outgoing peer | incoming peer | handover holder peer =>
      by_cases same : peer = device <;>
        simp [Roles.change, promote, Slots.change, Slots.set, Slots.vacant, same, Except.toOption]
    | _ => simp [Roles.change, promote, Slots.change, Slots.vacant, Except.toOption]
  | clear role =>
    cases role <;> cases roles <;>
      simp [Roles.change, take, slot?, clear, Slots.change, Slots.get, Slots.set, Slots.vacant,
        current?, target?, incoming?, Except.toOption]

/-- A change that fails changes nothing, and its report names the roles as they are. -/
theorem change_failed {roles : Roles} {change : Change} {conflict : RoleConflict}
    (failed : (roles.change change).1 = .error conflict) :
    conflict.roles = roles ∧ (roles.change change).2 = roles := by
  cases change with
  | clear role => cases failed
  | setTarget device => cases roles <;> grind [Roles.change, setTarget, Except.map]
  | setIncoming device => cases roles <;> grind [Roles.change, setIncoming, Except.map]
  | setCurrent device => cases roles <;> grind [Roles.change, setCurrent, Except.map]
  | promote device => cases roles <;> grind [Roles.change, promote]

/-! ## Who is where -/

/-- A handover leads from one device to another one. -/
def OneToAnother : Roles → Prop
  | handover holder target => holder ≠ target
  | _ => True

theorem OneToAnother.change {roles : Roles} (sound : roles.OneToAnother) (change : Change) :
    (roles.change change).2.OneToAnother := by
  cases change with
  | setTarget device => cases roles <;> grind [Roles.change, setTarget, Except.map, OneToAnother]
  | setIncoming device =>
    cases roles <;> grind [Roles.change, setIncoming, Except.map, OneToAnother]
  | setCurrent device => cases roles <;> grind [Roles.change, setCurrent, Except.map, OneToAnother]
  | promote device => cases roles <;> grind [Roles.change, promote, OneToAnother]
  | clear role =>
    show (roles.clear role).OneToAnother
    cases role <;> cases roles <;> trivial

/-- The role of a device names the slot that it is in, and there is no other. -/
theorem get_slots_eq_some_iff {roles : Roles} (sound : roles.OneToAnother) {role : Role}
    {device : Address} :
    roles.slots.get role = some device ↔ role ≠ .none ∧ roles.roleOf device = role := by
  cases role <;> cases roles <;>
    grind [Slots.get, slots, current?, target?, incoming?, roleOf, OneToAnother]

theorem nodup_devices {roles : Roles} (sound : roles.OneToAnother) : roles.devices.Nodup := by
  cases roles with
  | handover holder target =>
    have other : holder ≠ target := sound
    simp [devices, current?, target?, incoming?, other]
  | _ => simp [devices, current?, target?, incoming?]

/-! ## Rows of changes -/

/-- Roles and slots answer alike, and go on alike. -/
theorem slots_run (roles : Roles) (changes : List Change) :
    (roles.run changes).1.map Except.toOption = (roles.slots.run changes).1 ∧
      (roles.run changes).2.slots = (roles.slots.run changes).2 := by
  induction changes generalizing roles with
  | nil => exact ⟨rfl, rfl⟩
  | cons change rest ih =>
    obtain ⟨reply, after⟩ := slots_change roles change
    obtain ⟨replies, last⟩ := ih (roles.change change).2
    rw [after] at replies last
    simp only [run, Slots.run, List.map_cons]
    exact ⟨by rw [reply, replies], last⟩

theorem OneToAnother.run {roles : Roles} (sound : roles.OneToAnother) (changes : List Change) :
    (roles.run changes).2.OneToAnother := by
  induction changes generalizing roles with
  | nil => exact sound
  | cons change rest ih => exact ih (sound.change change)

/-- Roles are three slots, for every row of changes that begins with nobody tracked. They hand out
what the slots hand out, refuse what the slots refuse, and hold the same devices in the end. A
change that fails leaves them as they were and reports them so. No device is in two slots, its role
names the slot that it is in, the tracked devices are those in a slot, each listed once, and an
incoming device is the only one. -/
theorem roles_act_as_slots (changes : List Change) :
    let roles := (idle.run changes).2
    (idle.run changes).1.map Except.toOption = (Slots.vacant.run changes).1 ∧
      roles.slots = (Slots.vacant.run changes).2 ∧
      (∀ change conflict, (roles.change change).1 = .error conflict →
        conflict.roles = roles ∧ (roles.change change).2 = roles) ∧
      (∀ one other device, roles.slots.get one = some device → roles.slots.get other = some device →
        one = other) ∧
      (∀ role device, roles.slots.get role = some device ↔
        role ≠ .none ∧ roles.roleOf device = role) ∧
      roles.devices.Nodup ∧
      (∀ device, device ∈ roles.devices ↔ ∃ role, roles.slots.get role = some device) ∧
      ∀ device, roles.incoming? = some device →
        roles.current? = Option.none ∧ roles.target? = Option.none := by
  intro roles
  have nobody : idle.OneToAnother := trivial
  have sound : roles.OneToAnother := nobody.run changes
  obtain ⟨replies, last⟩ := slots_run idle changes
  refine ⟨replies, last, fun _ _ => change_failed, ?_, fun _ _ => get_slots_eq_some_iff sound,
    nodup_devices sound, ?_, ?_⟩
  · intro one other device here there
    have first := ((get_slots_eq_some_iff sound).1 here).2
    exact first.symm.trans ((get_slots_eq_some_iff sound).1 there).2
  · intro device
    simp only [mem_devices, get_slots_eq_some_iff sound]
    exact ⟨fun tracked => ⟨_, tracked, rfl⟩, fun ⟨_, tracked, same⟩ => same ▸ tracked⟩
  · intro device arriving
    cases here : roles with
    | incoming peer => exact ⟨rfl, rfl⟩
    | _ => rw [here] at arriving; cases arriving

end Roles

end AccessoryLink
