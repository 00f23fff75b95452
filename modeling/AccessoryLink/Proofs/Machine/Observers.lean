import AccessoryLink.Proofs.Machine.Legality

/-!
# What observers are told

Every transition is told with the state it leads to and the one it comes from, both
written out by hand in each branch. `Leads` says that a list of such transitions fits
together, and `Faithful` that what was told of every device fits together and ends
with what the snapshot says.

Within a message the two differ: observers hear of an attempt before the radio was
asked, and of a lost link before it is committed. They agree whenever the machine is
between two messages, and a message that was put off and is replayed counts as one of
its own.
-/

namespace AccessoryLink

variable {W : Type}

/-! ## Chains of transitions -/

section Leads

variable {State : Type}

/-- The transitions, each a new state with the one before it, lead from one state to
another, and none of them stands still. -/
def Leads (start : State) : List (State × State) → State → Prop
  | [], finish => start = finish
  | (new, prev) :: rest, finish => prev = start ∧ new ≠ prev ∧ Leads new rest finish

theorem Leads.append {start middle finish : State} {first second : List (State × State)}
    (reached : Leads start first middle) (rest : Leads middle second finish) :
    Leads start (first ++ second) finish := by
  induction first generalizing start with
  | nil =>
      obtain rfl : start = middle := reached
      exact rest
  | cons change first ih =>
      obtain ⟨from', moves, later⟩ := reached
      exact ⟨from', moves, ih later⟩

end Leads

namespace Effect

/-- The transition of the connection of a device that an entry of the trace tells. -/
def connectionChange? (device : Address) :
    Effect → Option (ConnectionState × ConnectionState)
  | .told (.connection other new prev) => if other = device then some (new, prev) else none
  | _ => none

/-- The transition of the service of a device that an entry of the trace tells. -/
def serviceChange? (device : Address) : Effect → Option (ServiceState × ServiceState)
  | .told (.service other new prev) => if other = device then some (new, prev) else none
  | _ => none

end Effect

/-- What observers were told about the connection of a device, in order. -/
def connectionChanges (device : Address) (trace : List Effect) :
    List (ConnectionState × ConnectionState) :=
  trace.filterMap (Effect.connectionChange? device)

/-- What observers were told about the service of a device, in order. -/
def serviceChanges (device : Address) (trace : List Effect) :
    List (ServiceState × ServiceState) :=
  trace.filterMap (Effect.serviceChange? device)

section Changes

variable (device : Address) (effect : Effect) (past rest : List Effect)

@[simp] theorem connectionChanges_nil : connectionChanges device [] = [] := rfl

theorem connectionChanges_cons : connectionChanges device (effect :: rest) =
    (effect.connectionChange? device).toList ++ connectionChanges device rest := by
  cases change : effect.connectionChange? device <;> simp [connectionChanges, change]

theorem connectionChanges_append : connectionChanges device (past ++ rest) =
    connectionChanges device past ++ connectionChanges device rest := List.filterMap_append

theorem connectionChanges_of_untold {trace : List Effect}
    (untold : ∀ new prev, .told (.connection device new prev) ∉ trace) :
    connectionChanges device trace = [] := by
  apply List.filterMap_eq_nil_iff.mpr
  intro effect inside
  simp only [Effect.connectionChange?]
  split
  · split
    · rename_i same
      subst same
      exact absurd inside (untold _ _)
    · rfl
  · rfl

@[simp] theorem connectionChanges_reply (ticket : Option Ticket) (result : Outcome) :
    connectionChanges device (Effect.reply ticket result) = [] :=
  connectionChanges_of_untold device (by simp)

@[simp] theorem connectionChanges_serviceDrop (s : Snapshot) (other : Address) :
    connectionChanges device (s.serviceDrop other) = [] :=
  connectionChanges_of_untold device (by simp)

@[simp] theorem connectionChanges_serviceReturn (s : Snapshot) (other : Address) :
    connectionChanges device (s.serviceReturn other) = [] :=
  connectionChanges_of_untold device (by simp)

@[simp] theorem serviceChanges_nil : serviceChanges device [] = [] := rfl

theorem serviceChanges_cons : serviceChanges device (effect :: rest) =
    (effect.serviceChange? device).toList ++ serviceChanges device rest := by
  cases change : effect.serviceChange? device <;> simp [serviceChanges, change]

theorem serviceChanges_append : serviceChanges device (past ++ rest) =
    serviceChanges device past ++ serviceChanges device rest := List.filterMap_append

theorem serviceChanges_of_untold {trace : List Effect}
    (untold : ∀ new prev, .told (.service device new prev) ∉ trace) :
    serviceChanges device trace = [] := by
  apply List.filterMap_eq_nil_iff.mpr
  intro effect inside
  simp only [Effect.serviceChange?]
  split
  · split
    · rename_i same
      subst same
      exact absurd inside (untold _ _)
    · rfl
  · rfl

@[simp] theorem serviceChanges_reply (ticket : Option Ticket) (result : Outcome) :
    serviceChanges device (Effect.reply ticket result) = [] :=
  serviceChanges_of_untold device (by simp)

@[simp] theorem serviceChanges_serviceDrop (s : Snapshot) (other : Address) :
    serviceChanges device (s.serviceDrop other) =
      if other = device ∧ s.service.isSome then [(.disconnected, .connected)] else [] := by
  cases service : s.service with
  | none => simp [Snapshot.serviceDrop, service]
  | some handle =>
      simp only [Snapshot.serviceDrop, service, serviceChanges_cons, serviceChanges_nil,
        Effect.serviceChange?]
      split_ifs <;> simp_all

@[simp] theorem serviceChanges_serviceReturn (s : Snapshot) (other : Address) :
    serviceChanges device (s.serviceReturn other) =
      if other = device ∧ s.service.isSome then [(.connected, .disconnected)] else [] := by
  cases service : s.service with
  | none => simp [Snapshot.serviceReturn, service]
  | some handle =>
      simp only [Snapshot.serviceReturn, service, serviceChanges_cons, serviceChanges_nil,
        Effect.serviceChange?]
      split_ifs <;> simp_all

@[simp] theorem serviceChanges_displacement (s : Snapshot) :
    serviceChanges device s.displacement = [] :=
  serviceChanges_of_untold device (by simp)

end Changes

/-- What was told of every device starts at disconnected, fits together, and ends with
what a snapshot says. -/
structure Faithful (trace : List Effect) (s : Snapshot) : Prop where
  connection : ∀ device,
    Leads .disconnected (connectionChanges device trace) (s.connectionOf device)
  service : ∀ device, Leads .disconnected (serviceChanges device trace) (s.serviceOf device)

namespace Machine

variable {env : Surroundings W} {deadline : Nat} {m : Machine} {w : W} {message : Message}
  {after : Turn W}

/-- Telling every tracked device that it is gone is right for each of them, and says
nothing about any other. -/
theorem leads_displacement {s : Snapshot} (legal : s.Legal) (pending : s.state = .pending)
    (device : Address) :
    Leads (s.connectionOf device) (connectionChanges device s.displacement)
      .disconnected := by
  obtain ⟨target, rfl⟩ | ⟨peer, rfl⟩ | ⟨current, rfl⟩ | ⟨current, target, distinct, rfl⟩ :=
    legal.eq_pending pending
  all_goals
    simp only [Snapshot.displacement, Roles.devices, Roles.current?, Roles.target?,
      Roles.incoming?, Option.toList, List.nil_append, List.append_nil,
      List.singleton_append, List.map_cons, List.map_nil, connectionChanges_cons,
      connectionChanges_nil, Effect.connectionChange?]
    split_ifs <;> simp_all [Leads]

/-- What one step tells about the connection of a device leads from what the snapshot
said to what it says. -/
theorem Step.connection (step : Step env deadline m w message after)
    (legal : m.snapshot.Legal) (device : Address) :
    Leads (m.snapshot.connectionOf device) (connectionChanges device after.effects)
      (after.machine.snapshot.connectionOf device) := by
  cases step
  case resynchronized other pending closed unknown =>
    have link : Leads .disconnected
        (connectionChanges device [.told (.connection other .connected .disconnected)])
        ((m.entered .connected (.current other)).snapshot.connectionOf device) := by
      simp only [connectionChanges_cons, connectionChanges_nil, Effect.connectionChange?,
        snapshot_entered_connected, Snapshot.connectionOf_connected]
      split_ifs <;> simp [Leads]
    simpa [connectionChanges_cons, connectionChanges_append, Effect.connectionChange?] using
      (leads_displacement legal pending device).append link
  all_goals
    simp_all [connectionChanges_cons, connectionChanges_append, Effect.connectionChange?,
      Leads, armed, deferring, withService]
  all_goals try (split_ifs <;> simp_all [Leads])

/-- What one step tells about the service of a device leads from what the snapshot
said to what it says. -/
theorem Step.service (step : Step env deadline m w message after) (device : Address) :
    Leads (m.snapshot.serviceOf device) (serviceChanges device after.effects)
      (after.machine.snapshot.serviceOf device) := by
  cases step
  all_goals
    simp_all [serviceChanges_cons, serviceChanges_append, Effect.serviceChange?, Leads,
      armed, deferring, withService, Snapshot.serviceOf_of_pending]
  all_goals try (split_ifs <;> simp_all [Leads])

/-- A step takes up its message first, and no other. -/
theorem Step.taken (step : Step env deadline m w message after) :
    ∃ rest, after.effects = .took message :: rest ∧ ∀ other, .took other ∉ rest := by
  cases step
  all_goals simp

theorem Step.faithful (step : Step env deadline m w message after)
    (legal : m.snapshot.Legal) {past : List Effect} (before : Faithful past m.snapshot) :
    Faithful (past ++ after.effects) after.machine.snapshot where
  connection := by
    intro device
    rw [connectionChanges_append]
    exact (before.connection device).append (step.connection legal device)
  service := by
    intro device
    rw [serviceChanges_append]
    exact (before.service device).append (step.service device)

/-- Observers and readers agree now, and they agreed whenever a message was taken up.
-/
structure Agreed (past : List Effect) (m : Machine) : Prop where
  lawful : Lawful past m
  now : Faithful past m.snapshot
  earlier : ∀ part, PausesAfter past part → Faithful part (visible part)

theorem agreed_initial : Agreed [] .initial where
  lawful := lawful_initial
  now := ⟨fun _ => rfl, fun _ => rfl⟩
  earlier := by
    rintro part ⟨message, rest, empty⟩
    simp at empty

theorem Agreed.step {past : List Effect} (before : Agreed past m)
    (step : Step env deadline m w message after) :
    Agreed (past ++ after.effects) after.machine where
  lawful := before.lawful.step step
  now := step.faithful before.lawful.legal before.now
  earlier := by
    intro part pause
    obtain ⟨rest, trace, quiet⟩ := step.taken
    rw [trace] at pause
    obtain early | rfl := pause.of_append quiet
    · exact before.earlier part early
    · rw [before.lawful.shown]
      exact before.now

/-- Nothing in `Agreed` depends on what is left to replay. -/
theorem Agreed.withReplay {past : List Effect} (before : Agreed past m)
    (rest : List Message) :
    Agreed past { m with replay := rest } :=
  ⟨before.lawful.withReplay rest, before.now, before.earlier⟩

/-- Observers and queries never drift apart. On every run, what was told of the
connection and of the service of each device is a chain from disconnected that ends
with what the snapshot says: after the last message, and after each processed message
before it, released ones included. -/
theorem observers_agree (env : Surroundings W) (arrivals : List (Arrival W)) :
    Faithful (run env .initial arrivals).2 (run env .initial arrivals).1.snapshot ∧
      visible (run env .initial arrivals).2 = (run env .initial arrivals).1.snapshot ∧
      ∀ part, PausesAfter (run env .initial arrivals).2 part →
        Faithful part (visible part) := by
  have agreed : Agreed (run env .initial arrivals).2 (run env .initial arrivals).1 :=
    run_invariant (P := Agreed) (fun before => before.lawful.legal)
      (fun rest before step => (before.withReplay rest).step step) agreed_initial arrivals
  exact ⟨agreed.now, agreed.lawful.shown, agreed.earlier⟩

end Machine

end AccessoryLink
