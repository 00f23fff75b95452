import AccessoryLink.Proofs.Machine.Moments
import AccessoryLink.Proofs.Machine.Observers
import AccessoryLink.Proofs.Manager.Session

/-!
# What becomes of callbacks

The transport calls back with a code for the state, bytes for the device and perhaps a channel, and
any of them may be wrong. `Means` says what each callback is to be taken for, one case a kind of
callback and a kind of fault. The cases exclude one another and leave nothing out, so a callback
means one event, and that is the event it becomes (`means_iff`).

An open service goes with a channel in every event that a callback may mean. That is kept all the
way to the machine: what it takes up was queued as it was reported, or was released by the machine
itself, and that is no report of a service (`taken_handle`, `Heeds.turn`).
-/

namespace AccessoryLink

variable {W : Type}

/-! ## What a callback means -/

namespace RawReport

theorem resolve_eq_error {address : List UInt8} (size : address.length ≠ 6) :
    resolve address = .error (.invalidAddress address.length) := by
  simp [resolve, Address.ofBytes?, size]

section Faults

variable {code : UInt32} {address : List UInt8} {channel : Option ChannelHandle}

/-- An unknown code is told, whatever the address is. -/
theorem connection_unknown (unknown : ∀ state : ConnectionState, state.code ≠ code) :
    connection code address = failure (.unknownConnectionState code) := by
  have none : ConnectionState.ofCode? code = none :=
    Option.eq_none_iff_forall_ne_some.mpr fun state known =>
      unknown state (ConnectionState.ofCode?_eq_some_iff.mp known)
  simp [connection, none]

/-- A bad address is told once the code is known. -/
theorem connection_unresolved (state : ConnectionState) (size : address.length ≠ 6) :
    connection state.code address = failure (.invalidAddress address.length) := by
  simp [connection, resolve_eq_error size]

/-- An unknown code is told, whatever the address and the channel are. -/
theorem service_unknown (unknown : ∀ state : ServiceState, state.code ≠ code) :
    service code address channel = failure (.unknownServiceState code) := by
  have none : ServiceState.ofCode? code = none :=
    Option.eq_none_iff_forall_ne_some.mpr fun state known =>
      unknown state (ServiceState.ofCode?_eq_some_iff.mp known)
  simp [service, none]

/-- A bad address is told once the code is known, whatever the channel is. -/
theorem service_unresolved (state : ServiceState) (size : address.length ≠ 6) :
    service state.code address channel = failure (.invalidAddress address.length) := by
  simp [service, resolve_eq_error size]

/-- A typed report of a service arrives as it was sent, unless it lacks the channel. -/
theorem service_code {state : ServiceState} (carried : state = .connected → channel ≠ none)
    (device : Address) :
    service state.code device.bytes channel = .service state device channel := by
  simpa [service] using carried

theorem service_missing (device : Address) :
    service ServiceState.connected.code device.bytes none = .error errorCode missingChannel := by
  simp [service]

end Faults

namespace Callback

/-- What a callback is to be taken for. Of several faults only the first is told: first comes the
code, then the address, and then the channel. -/
inductive Means : Callback → StackEvent → Prop where
  | connection (state : ConnectionState) (device : Address) :
      Means (.connection state.code device.bytes) (.connection state device)
  | connectionCode {code : UInt32} (unknown : ∀ state : ConnectionState, state.code ≠ code)
      (address : List UInt8) :
      Means (.connection code address)
        (.error (-1) (LinkError.unknownConnectionState code).message)
  | connectionAddress (state : ConnectionState) {address : List UInt8}
      (size : address.length ≠ 6) :
      Means (.connection state.code address)
        (.error (-1) (LinkError.invalidAddress address.length).message)
  | service {state : ServiceState} {channel : Option ChannelHandle}
      (carried : state = .connected → channel ≠ none) (device : Address) :
      Means (.service state.code device.bytes channel) (.service state device channel)
  | serviceCode {code : UInt32} (unknown : ∀ state : ServiceState, state.code ≠ code)
      (address : List UInt8) (channel : Option ChannelHandle) :
      Means (.service code address channel)
        (.error (-1) (LinkError.unknownServiceState code).message)
  | serviceAddress (state : ServiceState) {address : List UInt8} (size : address.length ≠ 6)
      (channel : Option ChannelHandle) :
      Means (.service state.code address channel)
        (.error (-1) (LinkError.invalidAddress address.length).message)
  | serviceChannel (device : Address) :
      Means (.service ServiceState.connected.code device.bytes none)
        (.error (-1) "service connected without a channel")
  | data (packet : Packet) : Means (.data packet) (.data packet)
  | error (code : Int) (message : String) : Means (.error code message) (.error code message)

/-- A callback becomes what it means. -/
theorem Means.event_eq {call : Callback} {event : StackEvent} (means : call.Means event) :
    call.event = event := by
  cases means with
  | connection state device => exact connection_code state device
  | connectionCode unknown address => exact connection_unknown unknown
  | connectionAddress state size => exact connection_unresolved state size
  | service carried device => exact service_code carried device
  | serviceCode unknown address channel => exact service_unknown unknown
  | serviceAddress state size channel => exact service_unresolved state size
  | serviceChannel device => exact service_missing device
  | data packet => rfl
  | error code message => rfl

/-- Every callback means something. The code is looked at first, then the address, then the
channel. -/
theorem exists_means (call : Callback) : ∃ event, call.Means event := by
  cases call with
  | connection code address =>
      by_cases known : ∃ state : ConnectionState, state.code = code
      · obtain ⟨state, rfl⟩ := known
        by_cases size : address.length = 6
        · exact ⟨_, .connection state ⟨address, size⟩⟩
        · exact ⟨_, .connectionAddress state size⟩
      · exact ⟨_, .connectionCode (not_exists.mp known) address⟩
  | service code address channel =>
      by_cases known : ∃ state : ServiceState, state.code = code
      · obtain ⟨state, rfl⟩ := known
        by_cases size : address.length = 6
        · by_cases carried : state = .connected → channel ≠ none
          · exact ⟨_, .service carried ⟨address, size⟩⟩
          · obtain ⟨rfl, missing⟩ := Classical.not_imp.mp carried
            obtain rfl := not_not.mp missing
            exact ⟨_, .serviceChannel ⟨address, size⟩⟩
        · exact ⟨_, .serviceAddress state size channel⟩
      · exact ⟨_, .serviceCode (not_exists.mp known) address channel⟩
  | data packet => exact ⟨_, .data packet⟩
  | error code message => exact ⟨_, .error code message⟩

/-- A callback means the event it becomes, and no other. -/
theorem means_iff {call : Callback} {event : StackEvent} :
    call.Means event ↔ event = call.event := by
  constructor
  · intro means
    exact means.event_eq.symm
  · rintro rfl
    obtain ⟨event, means⟩ := exists_means call
    rw [means.event_eq]
    exact means

end Callback

end RawReport

/-- Whether an event that reports an open service tells the channel. -/
def StackEvent.Carried (event : StackEvent) : Prop :=
  ∀ device, event ≠ .service .connected device none

/-- The report of the machine itself is no report of a service. -/
theorem StackEvent.carried_connection (state : ConnectionState) (device : Address) :
    (StackEvent.connection state device).Carried := fun _ bare => nomatch bare

/-- No callback becomes an open service without its channel. -/
theorem RawReport.Callback.carried (call : Callback) : call.event.Carried := by
  intro device bare
  obtain ⟨event, means⟩ := call.exists_means
  obtain rfl : event = .service .connected device none := means.event_eq.symm.trans bare
  cases means with
  | service carried => exact carried rfl rfl

/-! ## What the machine takes up -/

/-- Handling a message takes up that message, and then nothing but what is released. -/
theorem Machine.taken_handle (env : Surroundings W) (deadline : Nat) {m : Machine} (w : W)
    (message : Message) (legal : m.snapshot.Legal) (done : m.replay = []) :
    let t := handle env deadline m w message
    t.machine.snapshot.Legal ∧
      ∀ next, .took next ∈ t.effects → next = message ∨ next.Released := by
  intro t
  let kept (past : List Effect) (now : Machine) (_ : W) : Prop :=
    now.snapshot.Legal ∧ ∀ next, .took next ∈ past → next = message ∨ next.Released
  have ends : kept ([] ++ t.effects) t.machine t.world := by
    refine handle_released (P := kept) And.left ?_ legal done ?_
    · rintro past now world other after rest released ⟨lawful, before⟩ step
      have resumed : { now with replay := rest }.snapshot.Legal := lawful
      refine ⟨step.legal resumed, fun next inside => ?_⟩
      obtain ⟨later, effects, quiet⟩ := step.taken
      rw [effects] at inside
      obtain early | late := List.mem_append.mp inside
      · exact before next early
      · obtain same | behind := List.mem_cons.mp late
        · exact .inr (Effect.took.inj same ▸ released)
        · exact absurd behind (quiet next)
    · intro after step
      refine ⟨step.legal legal, fun next inside => ?_⟩
      obtain ⟨later, effects, quiet⟩ := step.taken
      rw [List.nil_append, effects] at inside
      obtain same | behind := List.mem_cons.mp inside
      · exact .inl (Effect.took.inj same)
      · exact absurd behind (quiet next)
  exact ends

namespace Manager

/-- While the queue is open, a callback puts the event it becomes behind everything else. -/
theorem deliver_eq {m : Manager W} (running : m.ended = false) (call : RawReport.Callback) :
    m.deliver call = { m with inbox := m.inbox ++ [.stack call.event] } := by
  simp [deliver, report, enqueue_eq, running]

/-- Whatever report waits in the queue, or was taken up, has some property. -/
structure Heeds (good : StackEvent → Prop) (m : Manager W) (trace : List Effect) : Prop where
  legal : m.machine.snapshot.Legal
  done : m.machine.replay = []
  waiting : ∀ event, .stack event ∈ m.inbox → good event
  taken : ∀ event, .took (.stack event) ∈ trace → good event

theorem heeds_initial (good : StackEvent → Prop) (world : W) (timeout : Nat) :
    Heeds good (initial world timeout) [] where
  legal := rfl
  done := rfl
  waiting := by simp [initial]
  taken := by simp

namespace Heeds

variable {good : StackEvent → Prop} {m : Manager W} {trace : List Effect}

/-- Nothing in `Heeds` depends on more than the machine and the reports in the queue. -/
theorem outside (before : Heeds good m trace) {after : Manager W}
    (machine : after.machine = m.machine)
    (queued : ∀ event, .stack event ∈ after.inbox → .stack event ∈ m.inbox ∨ good event) :
    Heeds good after trace where
  legal := machine ▸ before.legal
  done := machine ▸ before.done
  waiting := by
    intro event waits
    obtain early | new := queued event waits
    · exact before.waiting event early
    · exact new
  taken := before.taken

/-- The machine takes up what waited, the expiry of its timer, or what it releases itself. -/
theorem handle (env : Surroundings W) (gone : ∀ device, good (.connection .disconnected device))
    (before : Heeds good m trace) {message : Message} {rest : List Message}
    (next : m.inbox = message :: rest ∨ rest = m.inbox ∧ ∃ n, message = .timeout n) :
    let result := { m with inbox := rest }.handle env message
    Heeds good result.1 (trace ++ result.2) := by
  intro result
  obtain ⟨legal, taken⟩ :=
    Machine.taken_handle env m.deadline m.world message before.legal before.done
  have left : ∀ event, .stack event ∈ rest → good event := by
    intro event waits
    apply before.waiting
    obtain queue | ⟨rfl, -⟩ := next
    · rw [queue]
      exact List.mem_cons_of_mem _ waits
    · exact waits
  have first : ∀ event, message = .stack event → good event := by
    rintro event rfl
    obtain queue | ⟨-, n, other⟩ := next
    · exact before.waiting event (queue ▸ List.mem_cons_self)
    · cases other
  refine ⟨legal, Machine.replay_handle _ _ _ _ _, left, fun event inside => ?_⟩
  obtain early | late := List.mem_append.mp inside
  · exact before.taken event early
  · obtain same | released := taken _ late
    · exact first event same.symm
    · cases released with
      | report device => exact gone device

/-- The end takes up nothing, and leaves nothing in the queue. -/
theorem stop (env : Surroundings W) (before : Heeds good m trace) (rest : List Message) :
    let result := { m with inbox := rest }.stop env
    Heeds good result.1 (trace ++ result.2) := by
  intro result
  obtain ⟨left, farewell⟩ := stop_of_done env (m := { m with inbox := rest }) before.done
  have after : result.1 = _ := left
  rw [after]
  refine ⟨before.legal, before.done, by simp, fun event inside => ?_⟩
  obtain early | late := List.mem_append.mp inside
  · exact before.taken event early
  · exact absurd late (farewell.absent (by simp) (by simp))

/-- A turn of the actor. -/
theorem turn {env : Surroundings W} (gone : ∀ device, good (.connection .disconnected device))
    (before : Heeds good m trace) {after : Manager W} {effects : List Effect}
    (turned : m.turn env = some (after, effects)) : Heeds good after (trace ++ effects) := by
  obtain ⟨message, rest, next, handled⟩ | ⟨rest, -, stopped⟩ := turn_cases turned
  · have kept := before.handle env gone next
    rwa [handled] at kept
  · have kept := before.stop env rest
    rwa [stopped] at kept

end Heeds

end Manager

namespace Session

variable {env : Surroundings W} {good : StackEvent → Prop} {s : Session W}

/-- A report that an action queues is the one that the stack makes. -/
theorem report_of_queues {action : Action W} {event : StackEvent}
    (queued : .stack event ∈ s.queues action) : action = .report event := by
  unfold queues at queued
  split at queued
  · cases queued
  · cases action with
    | command verb device => simp [posts] at queued
    | queue n =>
        simp only [posts] at queued
        split at queued <;> simp at queued
    | report other =>
        obtain rfl : event = other := by simpa [posts] using queued
        rfl
    | shutdown =>
        simp only [posts] at queued
        split at queued <;> simp at queued
    | _ => cases queued

theorem heeds_step (gone : ∀ device, good (.connection .disconnected device))
    (before : s.manager.Heeds good s.trace) {action : Action W}
    (reports : ∀ event, action = .report event → good event) :
    (s.step env action).manager.Heeds good (s.step env action).trace := by
  by_cases acts : action = .turn
  · subst acts
    simp only [Session.step]
    split
    · rename_i turned
      exact before.turn gone turned
    · exact before
  · obtain ⟨⟨tickets, world, manager⟩, trace⟩ := step_outside env s acts
    rw [manager, trace]
    refine before.outside rfl fun event waits => ?_
    obtain early | late := List.mem_append.mp waits
    · exact .inl early
    · exact .inr (reports event (report_of_queues late))

/-- What every report of the stack has, every report has that is taken up. -/
theorem heeds_run (env : Surroundings W)
    (gone : ∀ device, good (.connection .disconnected device))
    (before : s.manager.Heeds good s.trace) (actions : List (Action W))
    (reports : ∀ event, .report event ∈ actions → good event) :
    (s.run env actions).manager.Heeds good (s.run env actions).trace := by
  induction actions generalizing s with
  | nil => exact before
  | cons action rest ih =>
      apply ih
      · apply heeds_step gone before
        rintro event rfl
        exact reports event List.mem_cons_self
      · intro event later
        exact reports event (List.mem_cons_of_mem _ later)

end Session

end AccessoryLink
