import AccessoryLink.Snapshot

/-!
# Views of a legal snapshot

A legal snapshot has one of six forms: `Legal.eq_initial`, `Legal.eq_pending` and
`Legal.eq_connected` give them state by state. For each form the queries are written
out as a choice on the device that is asked about, so that later proofs compare
devices and never open the queries themselves.
-/

namespace AccessoryLink

/-- A device with this first byte, for runs that are written out. -/
def Address.numbered (n : UInt8) : Address := ⟨[n, 0, 0, 0, 0, 0], rfl⟩

namespace Roles

variable (current target peer device : Address)

@[simp] theorem current?_current : (Roles.current current).current? = some current := rfl

@[simp] theorem current?_handover : (handover current target).current? = some current := rfl

@[simp] theorem roleOf_idle : idle.roleOf device = .none := rfl

@[simp] theorem roleOf_outgoing :
    (outgoing target).roleOf device = if target = device then .target else .none := by
  simp [roleOf, current?, target?, incoming?]

@[simp] theorem roleOf_incoming :
    (incoming peer).roleOf device = if peer = device then .incoming else .none := by
  simp [roleOf, current?, target?, incoming?]

@[simp] theorem roleOf_current :
    (Roles.current current).roleOf device =
      if current = device then .current else .none := by
  simp [roleOf, current?, target?, incoming?]

@[simp] theorem roleOf_handover :
    (handover current target).roleOf device =
      if current = device then .current
      else if target = device then .target else .none := by
  simp [roleOf, current?, target?, incoming?]

/-- The devices that are listed are those with a role. -/
theorem mem_devices {roles : Roles} {device : Address} :
    device ∈ roles.devices ↔ roles.roleOf device ≠ .none := by
  cases roles with
  | idle => simp [devices, current?, target?, incoming?]
  | outgoing target => simp [devices, current?, target?, incoming?, eq_comm]
  | incoming peer => simp [devices, current?, target?, incoming?, eq_comm]
  | current current => simp [devices, current?, target?, incoming?, eq_comm]
  | handover current target =>
    by_cases leaving : current = device
    · simp [devices, target?, incoming?, leaving]
    · simp [devices, target?, incoming?, leaving, Ne.symm leaving, eq_comm]

end Roles

namespace Snapshot

/-- The four forms of a legal snapshot while a transition is pending. -/
theorem Legal.eq_pending {s : Snapshot} (legal : s.Legal) (pending : s.state = .pending) :
    (∃ target, s = ⟨.pending, .outgoing target, none⟩) ∨
      (∃ peer, s = ⟨.pending, .incoming peer, none⟩) ∨
      (∃ current, s = ⟨.pending, .current current, none⟩) ∨
      ∃ current target, current ≠ target ∧
        s = ⟨.pending, .handover current target, none⟩ := by
  obtain ⟨state, roles, service⟩ := s
  cases state <;> cases roles <;> simp_all [Legal]

theorem Legal.eq_initial {s : Snapshot} (legal : s.Legal) (down : s.state = .disconnected) :
    s = .initial := by
  obtain ⟨state, roles, service⟩ := s
  cases state <;> cases roles <;> simp_all [Legal, initial]

theorem Legal.eq_connected {s : Snapshot} (legal : s.Legal) (up : s.state = .connected) :
    ∃ current service, s = ⟨.connected, .current current, service⟩ := by
  obtain ⟨state, roles, service⟩ := s
  cases state <;> cases roles <;> simp_all [Legal]

theorem Legal.service_of_pending {s : Snapshot} (legal : s.Legal)
    (pending : s.state = .pending) :
    s.service = none := by
  obtain ⟨state, roles, service⟩ := s
  cases state <;> cases roles <;> simp_all [Legal]

section Views

variable (current target peer device : Address) (service : Option ChannelHandle)

@[simp] theorem legal_initial : initial.Legal := rfl

@[simp] theorem legal_outgoing :
    (⟨.pending, .outgoing target, none⟩ : Snapshot).Legal := rfl

@[simp] theorem legal_incoming : (⟨.pending, .incoming peer, none⟩ : Snapshot).Legal := rfl

@[simp] theorem legal_leaving : (⟨.pending, .current current, none⟩ : Snapshot).Legal := rfl

@[simp] theorem legal_handover :
    (⟨.pending, .handover current target, none⟩ : Snapshot).Legal ↔ current ≠ target := by
  simp [Legal]

@[simp] theorem legal_connected :
    (⟨.connected, .current current, service⟩ : Snapshot).Legal := trivial

@[simp] theorem connectionOf_initial : initial.connectionOf device = .disconnected := rfl

@[simp] theorem connectionOf_outgoing :
    (⟨.pending, .outgoing target, service⟩ : Snapshot).connectionOf device =
      if target = device then .connecting else .disconnected := by
  by_cases same : target = device <;> simp [connectionOf, same]

@[simp] theorem connectionOf_incoming :
    (⟨.pending, .incoming peer, service⟩ : Snapshot).connectionOf device =
      if peer = device then .connecting else .disconnected := by
  by_cases same : peer = device <;> simp [connectionOf, same]

@[simp] theorem connectionOf_leaving :
    (⟨.pending, .current current, service⟩ : Snapshot).connectionOf device =
      if current = device then .disconnecting else .disconnected := by
  by_cases same : current = device <;> simp [connectionOf, same]

@[simp] theorem connectionOf_handover :
    (⟨.pending, .handover current target, service⟩ : Snapshot).connectionOf device =
      if current = device then .disconnecting
      else if target = device then .connecting else .disconnected := by
  by_cases same : current = device
  · simp [connectionOf, same]
  · by_cases next : target = device <;> simp [connectionOf, same, next]

@[simp] theorem connectionOf_connected :
    (⟨.connected, .current current, service⟩ : Snapshot).connectionOf device =
      if current = device then .connected else .disconnected := by
  by_cases same : current = device <;> simp [connectionOf, same]

@[simp] theorem state_initial : initial.state = .disconnected := rfl

@[simp] theorem roles_initial : initial.roles = .idle := rfl

@[simp] theorem service_initial : initial.service = none := rfl

@[simp] theorem serviceOf_initial : initial.serviceOf device = .disconnected := rfl

/-- Only a connected link has a service. -/
theorem serviceOf_of_pending {s : Snapshot} (pending : s.state = .pending) :
    s.serviceOf device = .disconnected := by
  simp [serviceOf, channelOf, pending]

@[simp] theorem serviceOf_connected :
    (⟨.connected, .current current, service⟩ : Snapshot).serviceOf device =
      if current = device ∧ service.isSome then .connected else .disconnected := by
  by_cases same : current = device <;> simp [serviceOf, channelOf, Roles.current?, same]

end Views

theorem current?_of_eq {s : Snapshot} {state : MachineState} {current : Address}
    {service : Option ChannelHandle} (same : s = ⟨state, .current current, service⟩) :
    s.roles.current? = some current := by
  rw [same]
  rfl

/-- A device that is connected for observers is the current one. -/
theorem Legal.eq_of_connected {s : Snapshot} (legal : s.Legal) {device : Address}
    (connected : s.connectionOf device = .connected) :
    ∃ service, s = ⟨.connected, .current device, service⟩ := by
  have up : s.state = .connected := by
    unfold connectionOf at connected
    split at connected <;> simp_all
  obtain ⟨current, service, rfl⟩ := legal.eq_connected up
  obtain rfl : current = device := by simpa using connected
  exact ⟨service, rfl⟩

/-- A device without a role is disconnected for observers. -/
theorem connectionOf_of_roleOf_none {s : Snapshot} {device : Address}
    (unknown : s.roles.roleOf device = .none) : s.connectionOf device = .disconnected := by
  simp only [connectionOf, unknown]
  cases s.state <;> rfl

end Snapshot

end AccessoryLink
