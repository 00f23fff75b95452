import AccessoryLink.Proofs.Machine.Run

/-!
# Rejected messages

A machine that runs from its beginning never rejects a message. Rejection is its defence against a
snapshot that it would not reach itself, so everything here is about any snapshot: every combination
of state, roles and service, a handover from a device to itself included. `Step` says nothing of
those, and the handlers are gone through once more, but only for what they never do. A turn is
`Calm` as long as it has rejected nothing and has shown nobody tracked while disconnected. Each
elementary action keeps it so; a commit does because the role that a device was found in says what
else may be tracked, in a snapshot of any kind (`Roles.eq_of_roleOf_target` and its neighbours).

Four handlers are left where a message can be rejected: the guards of the two states at rest, a
handover during a handover, and the loss of a link while a handover is recorded. What they have done
until then is nothing that a later message could trip over: at most the service is gone
(`process_ends`).
-/

namespace AccessoryLink

variable {W : Type}

/-! ## What readers are shown -/

/-- A trace that takes readers from one snapshot to another, and shows nobody tracked while
disconnected. -/
structure Snapshot.Reaches (start : Snapshot) (trace : List Effect) (last : Snapshot) : Prop where
  shown : trace.foldl Snapshot.seen start = last
  vacant : ∀ s, .wrote s ∈ trace → s.state = .disconnected → s.roles = .idle

namespace Snapshot.Reaches

variable {start middle last : Snapshot} {past next : List Effect}

theorem refl (start : Snapshot) : start.Reaches [] start := ⟨rfl, nofun⟩

theorem append (first : start.Reaches past middle) (second : middle.Reaches next last) :
    start.Reaches (past ++ next) last where
  shown := by rw [List.foldl_append, first.shown, second.shown]
  vacant s written down := by
    obtain early | late := List.mem_append.1 written
    · exact first.vacant s early down
    · exact second.vacant s late down

theorem silent (start : Snapshot) (silent : ∀ s, .wrote s ∉ next) : start.Reaches next start where
  shown := seen_of_silent silent start
  vacant s written := absurd written (silent s)

theorem wrote (start : Snapshot) {s : Snapshot}
    (vacant : s.state = .disconnected → s.roles = .idle) : start.Reaches [.wrote s] s where
  shown := rfl
  vacant other written := by
    obtain rfl : other = s := by simpa using written
    exact vacant

end Snapshot.Reaches

/-! ## Roles by the role of a device -/

namespace Roles

variable {roles : Roles} {device : Address}

theorem eq_of_roleOf_current (role : roles.roleOf device = .current) :
    roles = .current device ∨ ∃ target, roles = .handover device target := by
  cases roles with
  | current holder =>
    obtain rfl : holder = device := by simpa using role
    exact .inl rfl
  | handover holder target =>
    obtain rfl : holder = device := by grind [roleOf_handover]
    exact .inr ⟨target, rfl⟩
  | idle | outgoing | incoming => grind [roleOf_idle, roleOf_outgoing, roleOf_incoming]

theorem eq_of_roleOf_target (role : roles.roleOf device = .target) :
    roles = .outgoing device ∨ ∃ holder, roles = .handover holder device := by
  cases roles with
  | outgoing target =>
    obtain rfl : target = device := by simpa using role
    exact .inl rfl
  | handover holder target =>
    obtain rfl : target = device := by grind [roleOf_handover]
    exact .inr ⟨holder, rfl⟩
  | idle | incoming | current => grind [roleOf_idle, roleOf_incoming, roleOf_current]

theorem eq_of_roleOf_incoming (role : roles.roleOf device = .incoming) :
    roles = .incoming device := by
  cases roles with
  | incoming peer =>
    obtain rfl : peer = device := by simpa using role
    rfl
  | idle | outgoing | current | handover =>
    grind [roleOf_idle, roleOf_outgoing, roleOf_current, roleOf_handover]

end Roles

/-! ## Turns that reject nothing -/

/-- Whether an entry of the trace is neither a write nor a rejection. -/
def Effect.IsQuiet : Effect → Prop
  | .wrote _ | .rejected _ _ => False
  | _ => True

/-- A turn that has rejected nothing, whose snapshot is the one that readers see, and that has shown
nobody tracked while disconnected. -/
structure Turn.Calm (start : Snapshot) (t : Turn W) : Prop where
  reaches : start.Reaches t.effects t.snapshot
  accepted : ∀ state conflict, .rejected state conflict ∉ t.effects

/-- A commit goes through unless it would leave somebody tracked while disconnected. -/
theorem Turn.commitThen_of_vacant {t : Turn W} {next : MachineState} {roles : Roles}
    {proceed : Turn W → Turn W} (vacant : next = .disconnected → roles = .idle) :
    t.commitThen next (.ok roles) proceed = proceed (t.enter next roles) :=
  if_neg fun ⟨down, occupied⟩ => occupied (vacant down)

namespace Turn.Calm

variable {env : Surroundings W} {start : Snapshot} {t u : Turn W} {more : List Effect}

/-- Entries that write nothing and reject nothing may be added. -/
theorem extend (calm : t.Calm start) (same : u.snapshot = t.snapshot)
    (trace : u.effects = t.effects ++ more) (quiet : ∀ effect ∈ more, effect.IsQuiet) :
    u.Calm start where
  reaches := by
    rw [trace, same]
    exact calm.reaches.append (.silent _ fun s written => quiet _ written)
  accepted state conflict rejected := by
    obtain early | late := List.mem_append.1 (trace ▸ rejected)
    · exact calm.accepted state conflict early
    · exact quiet _ late

/-- A snapshot may be shown that tracks nobody while disconnected. -/
theorem wrote (calm : t.Calm start) (trace : u.effects = t.effects ++ [.wrote u.snapshot])
    (vacant : u.snapshot.state = .disconnected → u.snapshot.roles = .idle) : u.Calm start where
  reaches := by
    rw [trace]
    exact calm.reaches.append (.wrote _ vacant)
  accepted state conflict rejected := by
    have early : .rejected state conflict ∈ t.effects := by simpa [trace] using rejected
    exact calm.accepted state conflict early

theorem note (calm : t.Calm start) {effect : Effect} (quiet : effect.IsQuiet) :
    (t.note effect).Calm start :=
  calm.extend rfl rfl fun _ inside => List.mem_singleton.1 inside ▸ quiet

theorem tell (calm : t.Calm start) (event : Event) : (t.tell event).Calm start := calm.note trivial

theorem tellConnection (calm : t.Calm start) (device : Address) (new prev : ConnectionState) :
    (t.tellConnection device new prev).Calm start := calm.note trivial

theorem tellService (calm : t.Calm start) (device : Address) (new prev : ServiceState) :
    (t.tellService device new prev).Calm start := calm.note trivial

theorem answer (calm : t.Calm start) (ticket : Option Ticket) (result : Outcome) :
    (t.answer ticket result).Calm start := by
  cases ticket with
  | none => exact calm
  | some n => exact calm.note trivial

theorem defer (calm : t.Calm start) (command : Command) : (t.defer command).Calm start :=
  calm.extend rfl rfl fun _ inside => List.mem_singleton.1 inside ▸ trivial

/-- What stands in the machine beside the snapshot may change. -/
theorem ofMachine (calm : t.Calm start) {m : Machine} (same : m.snapshot = t.snapshot) :
    Turn.Calm start { t with machine := m } :=
  calm.extend same (List.append_nil _).symm (by simp)

theorem arm (calm : t.Calm start) (deadline : Nat) : (t.arm deadline).Calm start :=
  calm.ofMachine rfl

theorem connect (calm : t.Calm start) (env : Surroundings W) (device : Address) :
    ∃ answer u, t.connect env device = (answer, u) ∧ u.Calm start ∧ u.machine = t.machine :=
  ⟨_, _, rfl, calm.extend rfl rfl fun _ inside => List.mem_singleton.1 inside ▸ trivial, rfl⟩

theorem disconnect (calm : t.Calm start) (env : Surroundings W) (device : Address) :
    ∃ answer u, t.disconnect env device = (answer, u) ∧ u.Calm start ∧ u.machine = t.machine :=
  ⟨_, _, rfl, calm.extend rfl rfl fun _ inside => List.mem_singleton.1 inside ▸ trivial, rfl⟩

theorem send (calm : t.Calm start) (env : Surroundings W) (device : Address) (packet : Packet) :
    ∃ answer u, t.send env device packet = (answer, u) ∧ u.Calm start ∧ u.machine = t.machine :=
  ⟨_, _, rfl, calm.extend rfl rfl fun _ inside => List.mem_singleton.1 inside ▸ trivial, rfl⟩

theorem judge (calm : t.Calm start) (env : Surroundings W) (device : Address) (outgoing : Bool) :
    ∃ admitted u, t.judge env device outgoing = (admitted, u) ∧ u.Calm start ∧
      u.machine = t.machine :=
  ⟨_, _, rfl, calm.note trivial, rfl⟩

/-- A service may be recorded unless the machine is disconnected. -/
theorem setService (calm : t.Calm start) (up : t.snapshot.state ≠ .disconnected)
    (service : Option ChannelHandle) : (t.setService service).Calm start :=
  calm.wrote rfl fun down => absurd down up

theorem enter (calm : t.Calm start) {next : MachineState} {roles : Roles}
    (vacant : next = .disconnected → roles = .idle) : (t.enter next roles).Calm start :=
  calm.wrote rfl vacant

theorem commit (calm : t.Calm start) {next : MachineState} {roles : Roles}
    (vacant : next = .disconnected → roles = .idle) :
    (t.commit next (.ok roles)).Calm start := by
  rw [Turn.commit, commitThen_of_vacant vacant]
  exact calm.enter vacant

end Turn.Calm

namespace Machine

open Turn (Calm)

variable {env : Surroundings W} {start : Snapshot} {t : Turn W} {device : Address}

/-! ## Disconnected -/

theorem calm_startAttempt (calm : t.Calm start) (idle : t.snapshot.roles = .idle) (deadline : Nat) :
    (startAttempt env deadline t device).Calm start := by
  obtain ⟨answer, u, call, asked, same⟩ :=
    (calm.tellConnection device .connecting .disconnected).connect env device
  simp only [startAttempt, call]
  cases answer with
  | error e => exact asked.tellConnection ..
  | ok _ =>
    have free : u.snapshot.roles = .idle := (congrArg (·.snapshot.roles) same).trans idle
    simp only [free, Roles.setTarget]
    rw [Turn.commitThen_of_vacant (by simp)]
    exact (asked.enter (by simp)).arm deadline

theorem calm_dropPeer (calm : t.Calm start) : (dropPeer env t device).Calm start := by
  obtain ⟨_, u, call, asked, -⟩ := calm.disconnect env device
  rw [dropPeer, call]
  exact asked

theorem calm_inboundConnecting (calm : t.Calm start) (idle : t.snapshot.roles = .idle) :
    (inboundConnecting env t device).Calm start := by
  obtain ⟨admitted, u, verdict, judged, same⟩ :=
    calm.judge env device t.snapshot.roles.target?.isSome
  simp only [inboundConnecting, verdict]
  cases admitted with
  | true =>
    have free : u.snapshot.roles = .idle := (congrArg (·.snapshot.roles) same).trans idle
    simp only [free, Roles.setIncoming]
    exact (judged.tellConnection ..).commit (by simp)
  | false => exact (calm_dropPeer judged).tell _

theorem calm_inboundConnected (calm : t.Calm start) (idle : t.snapshot.roles = .idle) :
    (inboundConnected env t device).Calm start := by
  obtain ⟨admitted, u, verdict, judged, same⟩ :=
    calm.judge env device t.snapshot.roles.target?.isSome
  simp only [inboundConnected, verdict]
  cases admitted with
  | true =>
    have free : u.snapshot.roles = .idle := (congrArg (·.snapshot.roles) same).trans idle
    simp only [free, Roles.setCurrent]
    exact (judged.tellConnection ..).commit (by simp)
  | false => exact calm_dropPeer judged

/-- With nobody tracked, nothing is rejected while disconnected. -/
theorem calm_whileDisconnected (calm : t.Calm start) (idle : t.snapshot.roles = .idle)
    (deadline : Nat) (message : Message) :
    (whileDisconnected env deadline t message).Calm start := by
  simp only [whileDisconnected, idle, ne_eq, not_true_eq_false, if_false]
  split
  · exact calm_startAttempt calm idle deadline
  · exact calm.answer _ _
  · exact calm_inboundConnecting calm idle
  · exact calm_inboundConnected calm idle
  · exact calm

/-! ## Pending -/

theorem calm_pendingDisconnect (calm : t.Calm start) (command : Command) :
    (pendingDisconnect env t command).Calm start := by
  cases roles : t.snapshot.roles with
  | handover holder target =>
    simp only [pendingDisconnect, roles]
    split
    · exact (calm.tellConnection ..).commit (by simp)
    · exact calm.defer command
  | outgoing target =>
    simp only [pendingDisconnect, roles]
    split
    · obtain ⟨answer, u, call, asked, -⟩ := calm.disconnect env command.device
      simp only [call]
      cases answer with
      | ok _ => exact (asked.tellConnection ..).commit fun _ => rfl
      | error e => exact asked.defer command
    · exact calm.defer command
  | idle | incoming | current =>
    simp only [pendingDisconnect, roles]
    exact calm.defer command

theorem calm_pendingTimeout (calm : t.Calm start) (generation : Nat) :
    (pendingTimeout t generation).Calm start := by
  simp only [pendingTimeout]
  split
  · exact calm
  · split
    · exact calm
    · split <;> exact calm.ofMachine rfl

/-- A device that leaves in favour of another is out of the roles before that one is connected, so a
refusal finds nobody tracked beside it. -/
theorem calm_currentGone (calm : t.Calm start) (role : t.snapshot.roles.roleOf device = .current)
    (deadline : Nat) : (currentGone env deadline t device).Calm start := by
  obtain alone | ⟨target, both⟩ := Roles.eq_of_roleOf_current role
  · simp only [currentGone, alone]
    exact (calm.tellConnection ..).commit fun _ => rfl
  · simp only [currentGone, both, Roles.target?]
    rw [Turn.commitThen_of_vacant (by simp)]
    have left : ((t.tellConnection device .disconnected .disconnecting).enter .pending
        ((Roles.handover device target).clear .current)).Calm start :=
      (calm.tellConnection ..).enter (by simp)
    obtain ⟨answer, u, call, asked, same⟩ := left.connect env target
    simp only [call]
    cases answer with
    | ok _ => exact asked.arm deadline
    | error e =>
      have waiting : u.machine.snapshot.roles = .outgoing target := by
        rw [same]
        rfl
      refine (asked.tellConnection ..).commit fun _ => ?_
      show u.machine.snapshot.roles.clear .target = .idle
      rw [waiting]
      rfl

theorem calm_pendingDisconnected (calm : t.Calm start) (deadline : Nat) (device : Address) :
    (pendingDisconnected env deadline t device).Calm start := by
  cases role : t.snapshot.roles.roleOf device with
  | current =>
    simp only [pendingDisconnected, role]
    exact calm_currentGone calm role deadline
  | target =>
    -- with a current device beside it the transition goes on, and otherwise nobody is left
    obtain alone | ⟨holder, both⟩ := Roles.eq_of_roleOf_target role
    · simp only [pendingDisconnected, role]
      rw [alone]
      exact (calm.tellConnection ..).commit fun _ => rfl
    · simp only [pendingDisconnected, role]
      rw [both]
      exact (calm.tellConnection ..).commit (by simp)
  | incoming =>
    have alone := Roles.eq_of_roleOf_incoming role
    simp only [pendingDisconnected, role]
    rw [alone]
    exact (calm.tellConnection ..).commit fun _ => rfl
  | none =>
    simp only [pendingDisconnected, role]
    exact calm

theorem calm_tellGone (calm : t.Calm start) (devices : List Address) :
    (tellGone t devices).Calm start := by
  induction devices generalizing t with
  | nil => exact calm
  | cons device rest ih => exact ih (calm.tellConnection ..)

/-- A device that gives way is told to, if there is one. -/
theorem calm_tellIf (calm : t.Calm start) (peer? : Option Address) (new prev : ConnectionState) :
    (match peer? with
      | some peer => t.tellConnection peer new prev
      | none => t).Calm start := by
  cases peer? with
  | none => exact calm
  | some peer => exact calm.tellConnection peer new prev

/-- Whoever awaits the link becomes the current device. -/
theorem promote_awaited {roles : Roles}
    (role : roles.roleOf device = .target ∨ roles.roleOf device = .incoming) :
    (roles.promote device).map Prod.fst = .ok (.current device) := by
  obtain target | incoming := role
  · obtain rfl | ⟨holder, rfl⟩ := Roles.eq_of_roleOf_target target <;>
      simp [Roles.promote, Except.map]
  · obtain rfl := Roles.eq_of_roleOf_incoming incoming
    simp [Roles.promote, Except.map]

theorem calm_pendingConnected (calm : t.Calm start) (device : Address) :
    (pendingConnected t device).Calm start := by
  cases role : t.snapshot.roles.roleOf device with
  | current =>
    simp only [pendingConnected, role]
    exact (calm_tellIf (calm.tellConnection ..) ..).commit (by simp)
  | target =>
    simp only [pendingConnected, role, promote_awaited (.inl role)]
    exact ((calm_tellIf calm ..).tellConnection ..).commit (by simp)
  | incoming =>
    simp only [pendingConnected, role, promote_awaited (.inr role)]
    exact ((calm_tellIf calm ..).tellConnection ..).commit (by simp)
  | none =>
    simp only [pendingConnected, role]
    exact ((calm_tellGone calm _).tellConnection ..).commit (by simp)

/-- Nothing is rejected while a transition is pending. -/
theorem calm_whilePending (calm : t.Calm start) (deadline : Nat) (message : Message) :
    (whilePending env deadline t message).Calm start := by
  simp only [whilePending]
  split
  · split
    · exact calm.defer _
    · exact calm_pendingDisconnect calm _
  · exact calm.answer _ _
  · exact calm_pendingTimeout calm _
  · exact calm_pendingDisconnected calm deadline _
  · exact calm_pendingConnected calm _
  · exact calm

/-! ## Connected -/

/-- The machine keeps everything but the service when that goes down with the link. -/
theorem machine_dropService (t : Turn W) (device : Address) :
    (dropService t device).machine = t.machine.withService none := by
  obtain ⟨m, w, past⟩ := t
  rw [dropService_mk]

theorem calm_dropService (calm : t.Calm start) (up : t.snapshot.state = .connected)
    (device : Address) : (dropService t device).Calm start := by
  rw [dropService]
  split
  · exact (calm.setService (by simp [up]) none).tellService ..
  · exact calm

theorem calm_serviceChanged (calm : t.Calm start) (up : t.snapshot.state = .connected)
    (device : Address) (state : ServiceState) (channel : Option ChannelHandle) :
    (serviceChanged t device state channel).Calm start := by
  have recorded (service : Option ChannelHandle) : (t.setService service).Calm start :=
    calm.setService (by simp [up]) service
  simp only [serviceChanged]
  split
  · exact calm
  · exact (recorded _).tellService ..
  · exact recorded _
  · exact (recorded _).tellService ..
  · exact calm

theorem calm_startDisconnect (calm : t.Calm start) (up : t.snapshot.state = .connected) :
    (startDisconnect env t device).Calm start := by
  have dropped := (calm_dropService calm up device).tellConnection device .disconnecting .connected
  obtain ⟨answer, u, call, asked, same⟩ := dropped.disconnect env device
  cases answer with
  | ok _ =>
    simp only [startDisconnect, call]
    exact asked.commit (by simp)
  | error e =>
    have still : u.snapshot.state ≠ .disconnected := by
      rw [Turn.snapshot, same]
      show (dropService t device).machine.snapshot.state ≠ .disconnected
      rw [machine_dropService]
      show t.snapshot.state ≠ .disconnected
      simp [up]
    simp only [startDisconnect, call]
    split
    · exact ((asked.tellConnection ..).setService still _).tellService ..
    · exact asked.tellConnection ..

/-! ## How a message ends -/

/-- How processing a message ends: with nothing rejected, or with a rejection as the last thing.
Until then the machine has changed at most its service, and if the message was a packet, all that
happened is that its sender was refused. -/
inductive Ends (m : Machine) (message : Message) (t : Turn W) : Prop
  | accepted (calm : t.Calm m.snapshot)
  | rejected {u : Turn W} {conflict : RoleConflict} (calm : u.Calm m.snapshot)
      (spared : u.machine = m.withService u.snapshot.service)
      (refused : ∀ packet ticket, message = .send packet ticket →
        u.effects = .took message :: Effect.reply ticket (.error .deviceNotConnected))
      (ends : t = u.reject conflict)

variable {m : Machine} {w : W}

/-- The beginning of every turn. -/
theorem calm_took (m : Machine) (w : W) (message : Message) :
    (Turn.mk m w [.took message]).Calm m.snapshot where
  reaches := .silent _ (by simp)
  accepted := by simp

/-- A guard refuses whoever waits for an answer, and changes nothing. -/
theorem ends_guard (m : Machine) (w : W) (message : Message) (conflict : RoleConflict) :
    Ends m message
      (((Turn.mk m w [.took message]).refuse message .deviceNotConnected).reject conflict) := by
  have calm := calm_took m w message
  cases message with
  | send packet ticket =>
    refine .rejected (calm.answer ticket (.error .deviceNotConnected)) ?_ ?_ rfl
    · rw [answer_mk]
      rfl
    · rintro _ _ ⟨⟩
      rw [answer_mk]
      rfl
  | command command => exact .rejected calm rfl nofun rfl
  | stack event => exact .rejected calm rfl nofun rfl
  | timeout generation => exact .rejected calm rfl nofun rfl
  | shutdown => exact .rejected calm rfl nofun rfl

/-- A message other than a packet may still be rejected when the service is down already. -/
theorem ends_dropped {u : Turn W} {peer : Address} {new prev : ConnectionState}
    (told : ((dropService u device).tellConnection peer new prev).Calm m.snapshot)
    (same : u.machine = m) {message : Message}
    (noSend : ∀ packet ticket, message ≠ .send packet ticket) (conflict : RoleConflict) :
    Ends m message (((dropService u device).tellConnection peer new prev).reject conflict) := by
  refine .rejected told ?_ (fun packet ticket sent => absurd sent (noSend packet ticket)) rfl
  show (dropService u device).machine =
    m.withService (dropService u device).machine.snapshot.service
  rw [machine_dropService, same]
  rfl

variable {past : List Effect}

/-- A link may be lost while a handover is recorded. That would leave the target tracked. -/
theorem ends_linkLost (calm : (Turn.mk m w past).Calm m.snapshot)
    (up : m.snapshot.state = .connected) (holds : m.snapshot.roles.current? = some device)
    {message : Message} (noSend : ∀ packet ticket, message ≠ .send packet ticket) :
    Ends m message (linkLost (Turn.mk m w past) device) := by
  have told := (calm_dropService calm up device).tellConnection device .disconnected .connected
  rw [linkLost, snapshot_mk]
  -- of a handover the target is left over, and the commit refuses that
  cases tracked : m.snapshot.roles with
  | current holder => exact .accepted (told.commit fun _ => rfl)
  | handover holder target =>
    exact ends_dropped told rfl noSend ⟨.enterDisconnected, .outgoing target⟩
  | idle | outgoing | incoming => simp [tracked, Roles.current?] at holds

/-- A handover may be asked for while another is recorded. The link is given up then, but its roles
stay. -/
theorem ends_startHandover {current : Address} (calm : (Turn.mk m w past).Calm m.snapshot)
    (up : m.snapshot.state = .connected) (holds : m.snapshot.roles.current? = some current)
    (apart : device ≠ current) {message : Message}
    (noSend : ∀ packet ticket, message ≠ .send packet ticket) :
    Ends m message (startHandover env (Turn.mk m w past) current device) := by
  obtain ⟨answer, u, call, asked, same⟩ :=
    (calm.tellConnection device .connecting .disconnected).disconnect env current
  cases answer with
  | error e =>
    simp only [startHandover, call]
    exact .accepted (asked.tellConnection ..)
  | ok _ =>
    have still : u.snapshot = m.snapshot := congrArg Machine.snapshot same
    have told := (calm_dropService asked (still ▸ up) current).tellConnection
      current .disconnecting .connected
    simp only [startHandover, call, still]
    cases tracked : m.snapshot.roles with
    | current holder =>
      obtain rfl : holder = current := by simpa [tracked] using holds
      simp only [Roles.setTarget, if_neg (Ne.symm apart)]
      exact .accepted (told.commit (by simp))
    | handover holder target =>
      exact ends_dropped told same noSend ⟨.setTarget, .handover holder target⟩
    | idle | outgoing | incoming => simp [tracked, Roles.current?] at holds

theorem ends_whileConnected (env : Surroundings W) (m : Machine) (w : W) (message : Message)
    (up : m.snapshot.state = .connected) :
    Ends m message (whileConnected env (Turn.mk m w [.took message]) message) := by
  have calm := calm_took m w message
  cases holds : m.snapshot.roles.current? with
  | none =>
    simp only [whileConnected, snapshot_mk, holds]
    exact ends_guard m w message _
  | some current =>
    simp only [whileConnected, snapshot_mk, holds]
    split
    · split
      · exact .accepted calm
      · next apart => exact ends_startHandover calm up holds apart (by simp)
    · split
      · exact .accepted (calm_startDisconnect calm up)
      · exact .accepted calm
    · next packet ticket =>
      obtain ⟨answer, u, call, asked, -⟩ := calm.send env current packet
      simp only [call]
      exact .accepted (asked.answer ..)
    · split
      · next same => exact ends_linkLost calm up (same ▸ holds) (by simp)
      · exact .accepted calm
    · split
      · exact .accepted (calm_serviceChanged calm up ..)
      · exact .accepted calm
    · exact .accepted (calm.tell _)
    · exact .accepted calm

/-- Processing a message in any snapshot ends in one of two ways. -/
theorem process_ends (env : Surroundings W) (deadline : Nat) (m : Machine) (w : W)
    (message : Message) : Ends m message (process env deadline m w message) := by
  have calm := calm_took m w message
  simp only [process]
  split
  · exact .accepted (calm.tell _)
  · exact .accepted calm
  · split
    · by_cases idle : m.snapshot.roles = .idle
      · exact .accepted (calm_whileDisconnected calm idle deadline message)
      · simp only [whileDisconnected, snapshot_mk, ne_eq, idle, not_false_eq_true, if_true]
        exact ends_guard m w message _
    · exact .accepted (calm_whilePending calm deadline message)
    · next up => exact ends_whileConnected env m w message up

/-! ## Runs -/

namespace Ends

variable {message : Message} {state : MachineState} {conflict : RoleConflict}

theorem reaches (ends : Ends m message t) : m.snapshot.Reaches t.effects t.snapshot := by
  cases ends with
  | accepted calm => exact calm.reaches
  | @rejected u conflict calm spared refused same =>
    subst same
    have last : u.snapshot.Reaches [.rejected u.snapshot.state conflict] u.snapshot :=
      .silent _ (by simp)
    exact calm.reaches.append last

/-- A rejection names the state that the message was met in, and leaves of the machine everything
but the service. -/
theorem spares (ends : Ends m message t) (rejected : .rejected state conflict ∈ t.effects) :
    state = m.snapshot.state ∧
      t.machine = { m with snapshot := { m.snapshot with service := t.snapshot.service } } ∧
      ∀ packet ticket, message = .send packet ticket →
        t.effects = .took message :: Effect.reply ticket (.error .deviceNotConnected) ++
          [.rejected state conflict] := by
  cases ends with
  | accepted calm => exact absurd rejected (calm.accepted state conflict)
  | @rejected u cause calm spared refused same =>
    subst same
    have still : u.snapshot.state = m.snapshot.state := by
      rw [Turn.snapshot, spared]
      rfl
    obtain early | last := List.mem_append.1 rejected
    · exact absurd early (calm.accepted state conflict)
    · have entry : .rejected state conflict = Effect.rejected u.snapshot.state cause :=
        List.mem_singleton.1 last
      refine ⟨(Effect.rejected.inj entry).1.trans still, spared, fun packet ticket sent => ?_⟩
      rw [entry, ← refused packet ticket sent]
      rfl

end Ends

theorem reaches_replayAll (deadline : Nat) (t : Turn W)
    (reached : start.Reaches t.effects t.snapshot) :
    start.Reaches (replayAll env deadline t).effects (replayAll env deadline t).snapshot := by
  fun_induction replayAll env deadline t with
  | case1 t _ => exact reached
  | case2 t message rest held next ih =>
    have taken := process_ends env deadline { t.machine with replay := rest } t.world message
    exact ih (reached.append taken.reaches)

theorem reaches_handle (env : Surroundings W) (deadline : Nat) (m : Machine) (w : W)
    (message : Message) :
    m.snapshot.Reaches (handle env deadline m w message).effects
      (handle env deadline m w message).snapshot :=
  reaches_replayAll deadline _ (process_ends env deadline m w message).reaches

/-- Whatever a machine starts from, no run shows anybody tracked while disconnected. -/
theorem reaches_run (env : Surroundings W) (m : Machine) (arrivals : List (Arrival W)) :
    m.snapshot.Reaches (run env m arrivals).2 (run env m arrivals).1.snapshot := by
  induction arrivals generalizing m with
  | nil => exact .refl _
  | cons arrival rest ih =>
    rw [run_cons]
    exact (reaches_handle env arrival.deadline m arrival.world arrival.message).append (ih _)

/-- A rejection never corrupts the roles, whatever snapshot the machine has. It leaves the state,
the roles, the timer, the commands put off and the messages to be replayed as they were, and it is
the end of handling the message if nothing was to be replayed before. The sender of a packet is told
that no device is connected. No message, rejected or not, sets the state to disconnected with
somebody tracked, and no run does. -/
theorem rejection_spares_roles (env : Surroundings W) (deadline : Nat) (m : Machine) (w : W)
    (message : Message) :
    let t := process env deadline m w message
    (∀ state conflict, .rejected state conflict ∈ t.effects →
      state = m.snapshot.state ∧
      t.machine = { m with snapshot := { m.snapshot with service := t.snapshot.service } } ∧
      (m.replay = [] → handle env deadline m w message = t) ∧
      ∀ packet ticket, message = .send packet ticket →
        t.effects = .took message :: Effect.reply ticket (.error .deviceNotConnected) ++
          [.rejected state conflict]) ∧
    (∀ s, .wrote s ∈ t.effects → s.state = .disconnected → s.roles = .idle) ∧
    t.effects.foldl Snapshot.seen m.snapshot = t.snapshot ∧
    ∀ arrivals, m.snapshot.Reaches (run env m arrivals).2 (run env m arrivals).1.snapshot := by
  intro t
  have ends : Ends m message t := process_ends env deadline m w message
  refine ⟨fun state conflict rejected => ?_, ends.reaches.vacant, ends.reaches.shown,
    reaches_run env m⟩
  obtain ⟨met, spared, refused⟩ := ends.spares rejected
  refine ⟨met, spared, fun nothing => handle_of_replay_nil ?_, refused⟩
  show t.machine.replay = []
  rw [spared]
  exact nothing

/-- A radio that does whatever it is asked. -/
def compliant : Surroundings Unit where
  connect _ _ := (.ok (), ())
  disconnect _ _ := (.ok (), ())
  send _ _ _ := (.ok (), ())
  cleanup _ := ()
  priority _ _ := .on
  bonded _ _ := true
  accessories _ := []
  quiet _ := false

/-- A machine that stands connected, with a service, in the middle of a handover. -/
def astray : Machine :=
  { initial with
    snapshot := ⟨.connected, .handover (.numbered 1) (.numbered 2), some ⟨7⟩⟩
    deferred := [⟨.connect, .numbered 3, 0⟩] }

/-- A machine that stands connected with nobody connected. -/
def vacated : Machine := { astray with snapshot := ⟨.connected, .outgoing (.numbered 2), none⟩ }

/-- The loss of the link takes the service along and nothing else, and a packet for nobody is
refused. -/
theorem astray_keeps_roles :
    (process compliant 60000 astray () (.stack (.connection .disconnected (.numbered 1)))).machine =
        { astray with snapshot := { astray.snapshot with service := none } } ∧
      (process compliant 60000 vacated () (.send [5] (some 9))).machine = vacated ∧
      .answered 9 (.error .deviceNotConnected) ∈
        (process compliant 60000 vacated () (.send [5] (some 9))).effects := by
  have loss := (rejection_spares_roles compliant 60000 astray ()
    (.stack (.connection .disconnected (.numbered 1)))).1 .connected
    ⟨.enterDisconnected, .outgoing (.numbered 2)⟩ (by decide)
  have packet := (rejection_spares_roles compliant 60000 vacated ()
    (.send [5] (some 9))).1 .connected ⟨.processWhileConnected, .outgoing (.numbered 2)⟩ (by decide)
  refine ⟨loss.2.1, packet.2.1, ?_⟩
  rw [packet.2.2.2 [5] (some 9) rfl]
  simp [Effect.reply]

end Machine

end AccessoryLink
