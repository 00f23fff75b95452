import AccessoryLink.Proofs.Machine.Observers

/-!
# One link at a time

Observers know of a device what they were told last, and a single message may tell them of
two devices and of a service. So what they know must make sense between any two events, not
only when the machine is done: a device that is displaced is down before the next one is up,
and a service goes down before its link does.

`Observed.Permits` says which events may be told next. Every step tells only such events
(`Step.permitted`), and being told such an event keeps what observers know `Exclusive`
(`Exclusive.hear`). `one_link_at_a_time` puts this together for every part of every run.
-/

namespace AccessoryLink

variable {W : Type}

/-- What observers know of every device. -/
structure Observed where
  connection : Address → ConnectionState
  service : Address → ServiceState

namespace Observed

/-- Observers who were told nothing. -/
def fresh : Observed := ⟨fun _ => .disconnected, fun _ => .disconnected⟩

/-- Observers who know what a snapshot says. -/
def ofSnapshot (s : Snapshot) : Observed := ⟨s.connectionOf, s.serviceOf⟩

/-- A transition replaces what was known of its device. -/
def hear (o : Observed) : Event → Observed
  | .connection device new _ =>
    { o with connection := fun other => if device = other then new else o.connection other }
  | .service device new _ =>
    { o with service := fun other => if device = other then new else o.service other }
  | _ => o

/-- What observers know after one more entry of the trace. -/
def follow (o : Observed) : Effect → Observed
  | .told event => o.hear event
  | _ => o

/-- Whether a device has the link, or is giving it up. -/
def Holds (o : Observed) (device : Address) : Prop :=
  o.connection device = .connected ∨ o.connection device = .disconnecting

/-- At most one device has the link and at most one is connecting, and only a connected
device has a service. -/
structure Exclusive (o : Observed) : Prop where
  link : ∀ device other, o.Holds device → o.Holds other → device = other
  attempt : ∀ device other, o.connection device = .connecting →
    o.connection other = .connecting → device = other
  service : ∀ device, o.service device = .connected → o.connection device = .connected

/-- Whether an event may be told next. The connection of a device changes only while its
service is down. A device may begin to connect if no other does, and it may get the link if
no other has it. -/
def Permits (o : Observed) : Event → Prop
  | .connection device new _ =>
    o.service device = .disconnected ∧
      (new = .connecting → ∀ other, o.connection other = .connecting → device = other) ∧
      (new = .connected ∨ new = .disconnecting → ∀ other, o.Holds other → device = other)
  | .service device new _ => new = .connected → o.connection device = .connected
  | _ => True

/-- Whether every event of a trace may be told in its place. -/
def PermitsAll (o : Observed) : List Effect → Prop
  | [] => True
  | effect :: rest =>
    (∀ event, effect = .told event → o.Permits event) ∧ (o.follow effect).PermitsAll rest

variable {o : Observed} {event : Event} {effect : Effect} {past rest trace part : List Effect}

theorem exclusive_fresh : fresh.Exclusive where
  link device other held := by simp [Holds, fresh] at held
  attempt device other connecting := by cases connecting
  service device up := by cases up

/-- Being told an event that may be told keeps what is known exclusive. -/
theorem Exclusive.hear (before : o.Exclusive) (permitted : o.Permits event) :
    (o.hear event).Exclusive := by
  cases event with
  | connection changed new prev =>
      obtain ⟨down, alone, free⟩ := permitted
      constructor
      · intro device other held another
        simp only [Holds, Observed.hear] at held another
        split_ifs at held another with first second second
        · exact first.symm.trans second
        · exact first.symm.trans (free held other another)
        · exact (free another device held).symm.trans second
        · exact before.link device other held another
      · intro device other connecting another
        simp only [Observed.hear] at connecting another
        split_ifs at connecting another with first second second
        · exact first.symm.trans second
        · exact first.symm.trans (alone connecting other another)
        · exact (alone another device connecting).symm.trans second
        · exact before.attempt device other connecting another
      · intro device up
        have other : changed ≠ device := by
          rintro rfl
          exact absurd (down.symm.trans up) (by simp)
        simpa [Observed.hear, other] using before.service device up
  | service changed new prev =>
      refine ⟨before.link, before.attempt, ?_⟩
      intro device up
      simp only [Observed.hear] at up ⊢
      split_ifs at up with same
      · exact same ▸ permitted up
      · exact before.service device up
  | _ => exact before

theorem Exclusive.follow (before : o.Exclusive)
    (permitted : ∀ event, effect = .told event → o.Permits event) :
    (o.follow effect).Exclusive := by
  cases effect with
  | told event => exact before.hear (permitted event rfl)
  | _ => exact before

@[simp] theorem permitsAll_nil : o.PermitsAll [] := trivial

theorem permitsAll_cons : o.PermitsAll (effect :: rest) ↔
    (∀ event, effect = .told event → o.Permits event) ∧
      (o.follow effect).PermitsAll rest := Iff.rfl

theorem permitsAll_append : o.PermitsAll (past ++ rest) ↔
    o.PermitsAll past ∧ (past.foldl follow o).PermitsAll rest := by
  induction past generalizing o with
  | nil => simp
  | cons effect later ih =>
      simp only [List.cons_append, permitsAll_cons, ih, and_assoc, List.foldl_cons]

/-- Where nothing is told there is nothing to permit. -/
theorem permitsAll_of_untold (untold : ∀ event, .told event ∉ trace) : o.PermitsAll trace := by
  induction trace generalizing o with
  | nil => trivial
  | cons effect rest ih =>
      refine ⟨?_, ih fun event inside => untold event (List.mem_cons_of_mem _ inside)⟩
      rintro event rfl
      exact absurd List.mem_cons_self (untold event)

@[simp] theorem permitsAll_reply (ticket : Option Ticket) (result : Outcome) :
    o.PermitsAll (Effect.reply ticket result) := permitsAll_of_untold (by simp)

/-- A service may go down at any time. -/
@[simp] theorem permitsAll_serviceDrop (s : Snapshot) (device : Address) :
    o.PermitsAll (s.serviceDrop device) := by
  cases service : s.service <;>
    simp [Snapshot.serviceDrop, service, permitsAll_cons, Permits]

@[simp] theorem permitsAll_serviceReturn (s : Snapshot) (device : Address) :
    o.PermitsAll (s.serviceReturn device) ↔
      (s.service.isSome → o.connection device = .connected) := by
  cases service : s.service <;>
    simp [Snapshot.serviceReturn, service, permitsAll_cons, Permits, follow]

/-- The service of the current device of a connected link is the only one, so dropping it
leaves none. -/
@[simp] theorem follow_serviceDrop (connection : Address → ConnectionState) (current : Address)
    (service : Option ChannelHandle) :
    (Snapshot.serviceDrop ⟨.connected, .current current, service⟩ current).foldl follow
        ⟨connection, Snapshot.serviceOf ⟨.connected, .current current, service⟩⟩ =
      ⟨connection, fun _ => .disconnected⟩ := by
  cases service with
  | none => simp [Snapshot.serviceDrop, funext_iff]
  | some handle =>
      have all (other : Address) : (if current = other then ServiceState.disconnected
          else if current = other then .connected else .disconnected) = .disconnected := by
        split_ifs <;> rfl
      simp [Snapshot.serviceDrop, follow, hear, all]

/-- That devices are gone may be told while no service is up. -/
theorem permitsAll_gone (down : ∀ device, o.service device = .disconnected)
    (prev : Address → ConnectionState) (devices : List Address) :
    o.PermitsAll (devices.map fun device =>
      .told (.connection device .disconnected (prev device))) := by
  induction devices generalizing o with
  | nil => trivial
  | cons device rest ih =>
      refine ⟨?_, ih (o := o.hear (.connection device .disconnected (prev device))) down⟩
      rintro event told
      obtain rfl := Effect.told.inj told
      simp [Permits, down]

/-- Whatever part of a permitted trace observers have got, what they know is exclusive. -/
theorem Exclusive.follow_part (before : o.Exclusive) (permitted : o.PermitsAll trace)
    (reached : part <+: trace) : (part.foldl Observed.follow o).Exclusive := by
  obtain ⟨rest, rfl⟩ := reached
  rw [permitsAll_append] at permitted
  induction part generalizing o with
  | nil => exact before
  | cons effect part ih =>
      obtain ⟨⟨first, early⟩, late⟩ := permitted
      exact ih (before.follow first) ⟨early, late⟩

end Observed

/-- What observers know after a trace of a fresh machine. -/
def observed (trace : List Effect) : Observed := trace.foldl Observed.follow .fresh

/-! ## What was told last -/

section Last

variable {State : Type} {start finish : State} {changes : List (State × State)}

/-- The state that the last transition leads to. -/
def lastOf (start : State) (changes : List (State × State)) : State :=
  changes.foldl (fun _ change => change.1) start

/-- A chain of transitions ends with the last of them. -/
theorem Leads.lastOf_eq (leads : Leads start changes finish) :
    lastOf start changes = finish := by
  induction changes generalizing start with
  | nil => exact leads
  | cons change rest ih => exact ih leads.2.2

end Last

/-- Observers know what they were told last of a connection. -/
theorem connection_follow (o : Observed) (trace : List Effect) (device : Address) :
    (trace.foldl Observed.follow o).connection device =
      lastOf (o.connection device) (connectionChanges device trace) := by
  induction trace generalizing o with
  | nil => rfl
  | cons effect rest ih =>
      rw [List.foldl_cons, ih, connectionChanges_cons]
      cases effect with
      | told event =>
          cases event with
          | connection other new prev =>
              by_cases same : other = device <;>
                simp [Observed.follow, Observed.hear, Effect.connectionChange?, lastOf, same]
          | _ => rfl
      | _ => rfl

/-- Observers know what they were told last of a service. -/
theorem service_follow (o : Observed) (trace : List Effect) (device : Address) :
    (trace.foldl Observed.follow o).service device =
      lastOf (o.service device) (serviceChanges device trace) := by
  induction trace generalizing o with
  | nil => rfl
  | cons effect rest ih =>
      rw [List.foldl_cons, ih, serviceChanges_cons]
      cases effect with
      | told event =>
          cases event with
          | service other new prev =>
              by_cases same : other = device <;>
                simp [Observed.follow, Observed.hear, Effect.serviceChange?, lastOf, same]
          | _ => rfl
      | _ => rfl

/-- What was told faithfully is what the snapshot says. -/
theorem Faithful.observed_eq {trace : List Effect} {s : Snapshot}
    (faithful : Faithful trace s) : observed trace = .ofSnapshot s := by
  have connection (device : Address) :
      (observed trace).connection device = s.connectionOf device := by
    rw [observed, connection_follow]
    exact (faithful.connection device).lastOf_eq
  have service (device : Address) :
      (observed trace).service device = s.serviceOf device := by
    rw [observed, service_follow]
    exact (faithful.service device).lastOf_eq
  rw [Observed.ofSnapshot, ← funext connection, ← funext service]

namespace Machine

variable {env : Surroundings W} {deadline : Nat} {m : Machine} {w : W} {message : Message}
  {after : Turn W}

/-- Telling every tracked device that it is gone leaves observers with nothing. -/
theorem follow_displacement {s : Snapshot} (legal : s.Legal) (pending : s.state = .pending) :
    s.displacement.foldl Observed.follow (.ofSnapshot s) = .fresh := by
  have connection (device : Address) :
      (s.displacement.foldl Observed.follow (.ofSnapshot s)).connection device =
        .disconnected := by
    rw [connection_follow]
    exact (leads_displacement legal pending device).lastOf_eq
  have service (device : Address) :
      (s.displacement.foldl Observed.follow (.ofSnapshot s)).service device =
        .disconnected := by
    rw [service_follow, serviceChanges_displacement]
    exact Snapshot.serviceOf_of_pending device pending
  rw [Observed.fresh, ← funext connection, ← funext service]

/-- Every event of a step may be told in its place. -/
theorem Step.permitted (step : Step env deadline m w message after) (legal : m.snapshot.Legal) :
    (Observed.ofSnapshot m.snapshot).PermitsAll after.effects := by
  cases step
  case resynchronized device pending closed unknown =>
    have gone : (Observed.ofSnapshot m.snapshot).PermitsAll m.snapshot.displacement :=
      Observed.permitsAll_gone (fun other => Snapshot.serviceOf_of_pending other pending) _ _
    simp [Observed.permitsAll_cons, Observed.permitsAll_append, Observed.follow, gone,
      follow_displacement legal pending, Observed.Permits, Observed.fresh, Observed.Holds]
  all_goals
    simp_all [Observed.permitsAll_cons, Observed.permitsAll_append, Observed.Permits,
      Observed.follow, Observed.hear, Observed.ofSnapshot, Observed.Holds,
      Snapshot.serviceOf_of_pending]
  all_goals grind

/-! ## Every run -/

/-- Observers were told nothing that they could not be told, and agree with the snapshot. -/
structure Harmonious (past : List Effect) (m : Machine) : Prop where
  lawful : Lawful past m
  faithful : Faithful past m.snapshot
  permitted : Observed.fresh.PermitsAll past

theorem harmonious_initial : Harmonious [] .initial where
  lawful := lawful_initial
  faithful := ⟨fun _ => rfl, fun _ => rfl⟩
  permitted := trivial

theorem Harmonious.step {past : List Effect} (before : Harmonious past m)
    (step : Step env deadline m w message after) :
    Harmonious (past ++ after.effects) after.machine where
  lawful := before.lawful.step step
  faithful := step.faithful before.lawful.legal before.faithful
  permitted := by
    refine Observed.permitsAll_append.mpr ⟨before.permitted, ?_⟩
    rw [← observed, before.faithful.observed_eq]
    exact step.permitted before.lawful.legal

/-- Nothing in `Harmonious` depends on what is left to replay. -/
theorem Harmonious.withReplay {past : List Effect} (before : Harmonious past m)
    (rest : List Message) : Harmonious past { m with replay := rest } :=
  ⟨before.lawful.withReplay rest, before.faithful, before.permitted⟩

/-- One link at a time. Whatever part of a run observers have got, also in the middle of a
message, they know of at most one device that has the link or is giving it up, of at most
one that is connecting, and of no service but that of a connected device. While a service
is up nothing is told of the connection of its device, so the service is up within one
stretch of being connected. -/
theorem one_link_at_a_time (env : Surroundings W) (arrivals : List (Arrival W)) :
    (∀ part, part <+: (run env .initial arrivals).2 → (observed part).Exclusive) ∧
      ∀ part device new prev rest,
        (run env .initial arrivals).2 =
            part ++ .told (.connection device new prev) :: rest →
          (observed part).service device = .disconnected := by
  have harmonious : Harmonious (run env .initial arrivals).2 (run env .initial arrivals).1 :=
    run_invariant (P := Harmonious) (fun before => before.lawful.legal)
      (fun rest before step => (before.withReplay rest).step step) harmonious_initial arrivals
  constructor
  · intro part reached
    exact Observed.exclusive_fresh.follow_part harmonious.permitted reached
  · intro part device new prev rest split
    have permitted := harmonious.permitted
    rw [split, Observed.permitsAll_append] at permitted
    exact (permitted.2.1 _ rfl).1

end Machine

end AccessoryLink
