import AccessoryLink.Machine.Handle
import AccessoryLink.Proofs.Machine.Step

/-!
# Processing does nothing but a step

`step_process`: from a legal snapshot, processing a message comes to one of the
outcomes that `Step` lists. The elementary actions are computed once, on a turn
written out as its machine, surroundings and trace; each handler is then a chain of
these computations, split by what the snapshot is and by what the radio answers.
-/

namespace AccessoryLink

variable {W : Type}

namespace Machine

/-! ## The elementary actions -/

section Actions

variable (m : Machine) (w : W) (past : List Effect)

theorem tell_mk (event : Event) :
    (Turn.mk m w past).tell event = ⟨m, w, past ++ [.told event]⟩ := rfl

theorem tellConnection_mk (device : Address) (new prev : ConnectionState) :
    (Turn.mk m w past).tellConnection device new prev =
      ⟨m, w, past ++ [.told (.connection device new prev)]⟩ := rfl

theorem snapshot_mk : (Turn.mk m w past).snapshot = m.snapshot := rfl

theorem arm_mk (deadline : Nat) :
    (Turn.mk m w past).arm deadline = ⟨m.armed deadline, w, past⟩ := rfl

theorem setService_mk (service : Option ChannelHandle) :
    (Turn.mk m w past).setService service =
      ⟨m.withService service, w,
        past ++ [.wrote { m.snapshot with service := service }]⟩ := rfl

theorem answer_mk (ticket : Option Ticket) (result : Outcome) :
    (Turn.mk m w past).answer ticket result =
      ⟨m, w, past ++ Effect.reply ticket result⟩ := by
  cases ticket with
  | none => simp [Turn.answer, Effect.reply]
  | some n => rfl

theorem judge_mk (env : Surroundings W) (device : Address) (outgoing : Bool) :
    (Turn.mk m w past).judge env device outgoing = (env.admits w device outgoing,
      ⟨m, w, past ++ [.judged device outgoing (env.admits w device outgoing)]⟩) := rfl

variable {m w past} {env : Surroundings W} {device : Address} {answer : Outcome} {w' : W}

theorem connect_mk (call : env.connect w device = (answer, w')) :
    (Turn.mk m w past).connect env device =
      (answer, ⟨m, w', past ++ [.called (.connect device) answer]⟩) := by
  simp only [Turn.connect, call, Turn.note]

theorem disconnect_mk (call : env.disconnect w device = (answer, w')) :
    (Turn.mk m w past).disconnect env device =
      (answer, ⟨m, w', past ++ [.called (.disconnect device) answer]⟩) := by
  simp only [Turn.disconnect, call, Turn.note]

theorem send_mk {packet : Packet} (call : env.send w device packet = (answer, w')) :
    (Turn.mk m w past).send env device packet =
      (answer, ⟨m, w', past ++ [.called (.send device packet) answer]⟩) := by
  simp only [Turn.send, call, Turn.note]

/-- While pending, any roles may be committed. -/
theorem commitThen_pending (roles : Roles) (proceed : Turn W → Turn W) :
    (Turn.mk m w past).commitThen .pending (.ok roles) proceed = proceed
      ⟨m.entered .pending roles, w, past ++ [.wrote ⟨.pending, roles, none⟩]⟩ := rfl

theorem commit_pending (roles : Roles) :
    (Turn.mk m w past).commit .pending (.ok roles) =
      ⟨m.entered .pending roles, w, past ++ [.wrote ⟨.pending, roles, none⟩]⟩ := rfl

theorem commit_connected (roles : Roles) :
    (Turn.mk m w past).commit .connected (.ok roles) =
      ⟨m.entered .connected roles, w,
        past ++ [.wrote ⟨.connected, roles, m.snapshot.service⟩]⟩ := rfl

/-- The machine comes to rest only with nobody tracked. -/
theorem commit_disconnected :
    (Turn.mk m w past).commit .disconnected (.ok .idle) =
      ⟨m.entered .disconnected .idle, w, past ++ [.wrote .initial]⟩ := rfl

end Actions

/-! ## Disconnected -/

section Disconnected

variable {env : Surroundings W} {deadline : Nat} {m : Machine} {w : W}

theorem step_startAttempt (before : m.snapshot = .initial) (device : Address)
    (ticket : Ticket) :
    Step env deadline m w (.command ⟨.connect, device, ticket⟩)
      (startAttempt env deadline ⟨m, w, [.took (.command ⟨.connect, device, ticket⟩)]⟩
        device) := by
  have free : m.snapshot.roles.setTarget device = .ok (.outgoing device) := by
    rw [before]
    rfl
  rcases call : env.connect w device with ⟨error | _, w'⟩
  · simp only [startAttempt, tellConnection_mk, connect_mk call]
    exact .connectRefused ticket before call
  · simp only [startAttempt, tellConnection_mk, connect_mk call, snapshot_mk, free,
      commitThen_pending, arm_mk]
    exact .connectStarted ticket before call

theorem step_inboundConnecting (before : m.snapshot = .initial) (device : Address) :
    Step env deadline m w (.stack (.connection .connecting device))
      (inboundConnecting env ⟨m, w, [.took (.stack (.connection .connecting device))]⟩
        device) := by
  have nobody : m.snapshot.roles.target?.isSome = false := by
    rw [before]
    rfl
  have free : m.snapshot.roles.setIncoming device = .ok (.incoming device) := by
    rw [before]
    rfl
  cases verdict : env.admits w device false with
  | true =>
      simp only [inboundConnecting, judge_mk, snapshot_mk, nobody, verdict,
        tellConnection_mk, free, commit_pending]
      exact .inboundAdmitted before verdict
  | false =>
      rcases call : env.disconnect w device with ⟨answer, w'⟩
      simp only [inboundConnecting, judge_mk, snapshot_mk, nobody, verdict, dropPeer,
        disconnect_mk call, tell_mk]
      exact .inboundRefused before verdict call

theorem step_inboundConnected (before : m.snapshot = .initial) (device : Address) :
    Step env deadline m w (.stack (.connection .connected device))
      (inboundConnected env ⟨m, w, [.took (.stack (.connection .connected device))]⟩
        device) := by
  have nobody : m.snapshot.roles.target?.isSome = false := by
    rw [before]
    rfl
  have free : m.snapshot.roles.setCurrent device = .ok (.current device) := by
    rw [before]
    rfl
  have closed : m.snapshot.service = none := by
    rw [before]
    rfl
  cases verdict : env.admits w device false with
  | true =>
      simp only [inboundConnected, judge_mk, snapshot_mk, nobody, verdict,
        tellConnection_mk, free, commit_connected, closed]
      exact .linkAdmitted before verdict
  | false =>
      rcases call : env.disconnect w device with ⟨answer, w'⟩
      simp only [inboundConnected, judge_mk, snapshot_mk, nobody, verdict, dropPeer,
        disconnect_mk call]
      exact .linkRefused before verdict call

/-- What is left over while nothing is connected makes no difference. -/
theorem ignores_of_disconnected (before : m.snapshot = .initial) {message : Message}
    (noConnect : ∀ device ticket, message ≠ .command ⟨.connect, device, ticket⟩)
    (noSend : ∀ packet ticket, message ≠ .send packet ticket)
    (noAttempt : ∀ device, message ≠ .stack (.connection .connecting device))
    (noLink : ∀ device, message ≠ .stack (.connection .connected device))
    (noFailure : ∀ code text, message ≠ .stack (.error code text)) : m.Ignores message := by
  have down : m.snapshot.state = .disconnected := by
    rw [before]
    rfl
  have unseen (device : Address) : m.snapshot.connectionOf device = .disconnected := by
    rw [before]
    rfl
  cases message with
  | command command =>
      obtain ⟨_ | _, device, ticket⟩ := command
      · exact absurd rfl (noConnect device ticket)
      · simp [Ignores, down, unseen]
  | send packet ticket => exact absurd rfl (noSend packet ticket)
  | stack event =>
      cases event with
      | connection state device =>
          cases state with
          | disconnected => exact unseen device
          | connecting => exact absurd rfl (noAttempt device)
          | connected => exact absurd rfl (noLink device)
          | disconnecting => trivial
      | service state device channel => cases state <;> simp [Ignores, unseen]
      | data packet => simp [Ignores, down]
      | error code text => exact absurd rfl (noFailure code text)
  | timeout generation => simp [Ignores, down]
  | shutdown => trivial

theorem step_whileDisconnected (before : m.snapshot = .initial) {message : Message}
    (noFailure : ∀ code text, message ≠ .stack (.error code text)) :
    Step env deadline m w message
      (whileDisconnected env deadline ⟨m, w, [.took message]⟩ message) := by
  have nobody : m.snapshot.roles = .idle := by
    rw [before]
    rfl
  have down : m.snapshot.state ≠ .connected := by simp [before]
  simp only [whileDisconnected, snapshot_mk, nobody, ne_eq, not_true_eq_false, if_false]
  split
  · exact step_startAttempt before _ _
  · rw [answer_mk]
    exact .sendFailed _ _ down
  · exact step_inboundConnecting before _
  · exact step_inboundConnected before _
  · rename_i noConnect noSend noAttempt noLink
    apply Step.ignored
    exact ignores_of_disconnected before noConnect noSend noAttempt noLink noFailure

end Disconnected

/-! ## Pending -/

section Pending

variable {env : Surroundings W} {deadline : Nat} {m : Machine} {w : W}

theorem step_pendingDisconnect (legal : m.snapshot.Legal)
    (pending : m.snapshot.state = .pending) (device : Address) (ticket : Ticket) :
    Step env deadline m w (.command ⟨.disconnect, device, ticket⟩)
      (pendingDisconnect env ⟨m, w, [.took (.command ⟨.disconnect, device, ticket⟩)]⟩
        ⟨.disconnect, device, ticket⟩) := by
  have wait (other : m.snapshot.roles.target? ≠ some device) :
      Step env deadline m w (.command ⟨.disconnect, device, ticket⟩)
        ((Turn.mk m w [.took (.command ⟨.disconnect, device, ticket⟩)]).defer
          ⟨.disconnect, device, ticket⟩) :=
    .putOff _ ⟨pending, fun _ => other⟩
  obtain ⟨target, before⟩ | ⟨peer, before⟩ | ⟨current, before⟩ |
    ⟨current, target, distinct, before⟩ := legal.eq_pending pending
  · by_cases same : target = device
    · subst same
      rcases call : env.disconnect w target with ⟨error | _, w'⟩
      · simp only [pendingDisconnect, snapshot_mk, before, if_true, disconnect_mk call]
        exact .cancelRefused ticket before call
      · simp only [pendingDisconnect, snapshot_mk, before, if_true, disconnect_mk call,
          tellConnection_mk, Roles.clear, commit_disconnected]
        exact .attemptCancelled ticket before call
    · simp only [pendingDisconnect, snapshot_mk, before, if_neg same]
      exact wait (by simp [before, Roles.target?, same])
  · simp only [pendingDisconnect, snapshot_mk, before]
    exact wait (by simp [before, Roles.target?])
  · simp only [pendingDisconnect, snapshot_mk, before]
    exact wait (by simp [before, Roles.target?])
  · by_cases same : target = device
    · subst same
      simp only [pendingDisconnect, snapshot_mk, before, if_true, tellConnection_mk,
        Roles.clear, commit_pending]
      exact .handoverCancelled ticket distinct before
    · simp only [pendingDisconnect, snapshot_mk, before, if_neg same]
      exact wait (by simp [before, Roles.target?, same])

theorem step_pendingTimeout (pending : m.snapshot.state = .pending) (generation : Nat) :
    Step env deadline m w (.timeout generation)
      (pendingTimeout ⟨m, w, [.took (.timeout generation)]⟩ generation) := by
  cases armed : m.timer with
  | none =>
      simp only [pendingTimeout, armed]
      exact .ignored (.inr (by simp [armed]))
  | some timer =>
      by_cases same : timer.generation = generation
      · subst same
        cases awaited : m.snapshot.roles.target? with
        | some target =>
            simp only [pendingTimeout, armed, snapshot_mk, awaited, ne_eq,
              not_true_eq_false, if_false]
            exact .attemptExpired armed pending awaited
        | none =>
            simp only [pendingTimeout, armed, snapshot_mk, awaited, ne_eq,
              not_true_eq_false, if_false]
            exact .timerDropped armed pending awaited
      · simp only [pendingTimeout, armed, ne_eq, same, not_false_eq_true, if_true]
        exact .ignored (.inr (by simp [armed, same]))

theorem step_currentGone {device target : Address} (distinct : device ≠ target)
    (before : m.snapshot = ⟨.pending, .handover device target, none⟩) :
    Step env deadline m w (.stack (.connection .disconnected device))
      (Machine.currentGone env deadline
        ⟨m, w, [.took (.stack (.connection .disconnected device))]⟩ device) := by
  have pending : m.snapshot.state = .pending := by rw [before]
  rcases call : env.connect w target with ⟨error | _, w'⟩
  · simp only [Machine.currentGone, snapshot_mk, before, Roles.target?, tellConnection_mk,
      Roles.clear, commitThen_pending, connect_mk call, snapshot_entered_pending,
      commit_disconnected, entered_pending_disconnected pending]
    exact .handoverRefused distinct before call
  · simp only [Machine.currentGone, snapshot_mk, before, Roles.target?, tellConnection_mk,
      Roles.clear, commitThen_pending, connect_mk call, arm_mk]
    exact .handoverConnecting distinct before call

theorem step_pendingDisconnected (legal : m.snapshot.Legal)
    (pending : m.snapshot.state = .pending) (device : Address) :
    Step env deadline m w (.stack (.connection .disconnected device))
      (pendingDisconnected env deadline
        ⟨m, w, [.took (.stack (.connection .disconnected device))]⟩ device) := by
  by_cases unknown : m.snapshot.roles.roleOf device = .none
  · simp only [pendingDisconnected, snapshot_mk, unknown]
    exact .ignored (Snapshot.connectionOf_of_roleOf_none unknown)
  obtain ⟨target, before⟩ | ⟨peer, before⟩ | ⟨current, before⟩ |
    ⟨current, target, distinct, before⟩ := legal.eq_pending pending
  · obtain rfl : target = device := by simpa [before] using unknown
    simp only [pendingDisconnected, snapshot_mk, before, Roles.roleOf_outgoing, if_true,
      Roles.current?, Option.isSome_none, Bool.false_eq_true, if_false, tellConnection_mk,
      Roles.clear, commit_disconnected]
    exact .attemptFailed before
  · obtain rfl : peer = device := by simpa [before] using unknown
    simp only [pendingDisconnected, snapshot_mk, before, Roles.roleOf_incoming, if_true,
      tellConnection_mk, Roles.clear, commit_disconnected]
    exact .inboundGone before
  · obtain rfl : current = device := by simpa [before] using unknown
    simp only [pendingDisconnected, snapshot_mk, before, Roles.roleOf_current, if_true,
      Machine.currentGone, Roles.target?, tellConnection_mk, Roles.clear,
      commit_disconnected]
    exact .currentGone before
  · by_cases same : current = device
    · subst same
      have role : m.snapshot.roles.roleOf current = .current := by simp [before]
      simp only [pendingDisconnected, snapshot_mk, role]
      exact step_currentGone distinct before
    · obtain rfl : target = device := by simpa [before, same] using unknown
      simp only [pendingDisconnected, snapshot_mk, before, Roles.roleOf_handover,
        if_neg same, if_true, Roles.current?, Option.isSome_some, tellConnection_mk,
        Roles.clear, commit_pending]
      exact .handoverTargetGone distinct before

theorem tellGone_mk (devices : List Address) (past : List Effect) :
    tellGone (Turn.mk m w past) devices = ⟨m, w, past ++
      devices.map fun device =>
        .told (.connection device .disconnected (m.snapshot.connectionOf device))⟩ := by
  induction devices generalizing past with
  | nil => simp [tellGone]
  | cons device rest ih =>
      rw [tellGone, tellConnection_mk, snapshot_mk, ih]
      simp

theorem step_pendingConnected (legal : m.snapshot.Legal)
    (pending : m.snapshot.state = .pending) (device : Address) :
    Step env deadline m w (.stack (.connection .connected device))
      (pendingConnected ⟨m, w, [.took (.stack (.connection .connected device))]⟩
        device) := by
  have closed : m.snapshot.service = none := legal.service_of_pending pending
  by_cases unknown : m.snapshot.roles.roleOf device = .none
  · simp only [pendingConnected, snapshot_mk, unknown, tellGone_mk, tellConnection_mk,
      commit_connected, closed, List.append_assoc]
    exact .resynchronized pending closed unknown
  obtain ⟨target, before⟩ | ⟨peer, before⟩ | ⟨current, before⟩ |
    ⟨current, target, distinct, before⟩ := legal.eq_pending pending
  · obtain rfl : target = device := by simpa [before] using unknown
    simp only [pendingConnected, snapshot_mk, before, Roles.roleOf_outgoing, if_true,
      Roles.current?, tellConnection_mk, Roles.promote, Except.map, commit_connected]
    exact .attemptConnected before
  · obtain rfl : peer = device := by simpa [before] using unknown
    simp only [pendingConnected, snapshot_mk, before, Roles.roleOf_incoming, if_true,
      Roles.current?, tellConnection_mk, Roles.promote, Except.map, commit_connected]
    exact .inboundConnected before
  · obtain rfl : current = device := by simpa [before] using unknown
    simp only [pendingConnected, snapshot_mk, before, Roles.roleOf_current, if_true,
      Roles.target?, tellConnection_mk, Roles.clear, commit_connected]
    exact .currentBack before
  · by_cases same : current = device
    · subst same
      simp only [pendingConnected, snapshot_mk, before, Roles.roleOf_handover, if_true,
        Roles.target?, tellConnection_mk, Roles.clear, commit_connected]
      exact .handoverUndone distinct before
    · obtain rfl : target = device := by simpa [before, same] using unknown
      simp only [pendingConnected, snapshot_mk, before, Roles.roleOf_handover,
        if_neg same, if_true, Roles.current?, tellConnection_mk, Roles.promote,
        Except.map, commit_connected]
      exact .handoverDone distinct before

/-- What is left over while a transition is pending makes no difference. -/
theorem ignores_of_pending (pending : m.snapshot.state = .pending) {message : Message}
    (noCommand : ∀ command, message ≠ .command command)
    (noSend : ∀ packet ticket, message ≠ .send packet ticket)
    (noTimeout : ∀ generation, message ≠ .timeout generation)
    (noLoss : ∀ device, message ≠ .stack (.connection .disconnected device))
    (noLink : ∀ device, message ≠ .stack (.connection .connected device))
    (noFailure : ∀ code text, message ≠ .stack (.error code text)) : m.Ignores message := by
  have unlinked (device : Address) : m.snapshot.connectionOf device ≠ .connected := by
    simp only [Snapshot.connectionOf, pending]
    cases m.snapshot.roles.roleOf device <;> simp
  cases message with
  | command command => exact absurd rfl (noCommand command)
  | send packet ticket => exact absurd rfl (noSend packet ticket)
  | stack event =>
      cases event with
      | connection state device =>
          cases state with
          | disconnected => exact absurd rfl (noLoss device)
          | connecting => simp [Ignores, pending]
          | connected => exact absurd rfl (noLink device)
          | disconnecting => trivial
      | service state device channel => cases state <;> exact .inl (unlinked device)
      | data packet => simp [Ignores, pending]
      | error code text => exact absurd rfl (noFailure code text)
  | timeout generation => exact absurd rfl (noTimeout generation)
  | shutdown => trivial

theorem step_whilePending (legal : m.snapshot.Legal) (pending : m.snapshot.state = .pending)
    {message : Message} (noFailure : ∀ code text, message ≠ .stack (.error code text)) :
    Step env deadline m w message
      (whilePending env deadline ⟨m, w, [.took message]⟩ message) := by
  have down : m.snapshot.state ≠ .connected := by simp [pending]
  unfold whilePending
  split
  · rename_i command
    obtain ⟨_ | _, device, ticket⟩ := command
    · exact .putOff _ ⟨pending, by simp⟩
    · exact step_pendingDisconnect legal pending device ticket
  · rw [answer_mk]
    exact .sendFailed _ _ down
  · exact step_pendingTimeout pending _
  · exact step_pendingDisconnected legal pending _
  · exact step_pendingConnected legal pending _
  · rename_i noCommand noSend noTimeout noLoss noLink
    apply Step.ignored
    exact ignores_of_pending pending noCommand noSend noTimeout noLoss noLink noFailure

end Pending

/-! ## Connected -/

section Connected

variable {env : Surroundings W} {deadline : Nat} {m : Machine} {w : W}

theorem withService_self {service : Option ChannelHandle}
    (same : m.snapshot.service = service) :
    m.withService service = m := by
  subst same
  rfl

/-- Dropping the service first makes no difference to a machine that leaves the
connected state. -/
theorem entered_withService (service : Option ChannelHandle) {next : MachineState}
    (leaving : next ≠ .connected) (roles : Roles) :
    (m.withService service).entered next roles = m.entered next roles := by
  simp only [entered, withService, if_neg leaving]
  rfl

theorem dropService_mk (past : List Effect) (device : Address) :
    dropService (Turn.mk m w past) device =
      ⟨m.withService none, w, past ++ m.snapshot.serviceDrop device⟩ := by
  cases service : m.snapshot.service with
  | none =>
      simp [dropService, snapshot_mk, service, Snapshot.serviceDrop,
        withService_self service]
  | some handle =>
      simp only [dropService, snapshot_mk, service, Option.isSome_some, if_true,
        setService_mk, Turn.tellService, tell_mk, Snapshot.serviceDrop, List.append_assoc]
      rfl

theorem step_startHandover {current device : Address} {service : Option ChannelHandle}
    (distinct : current ≠ device)
    (before : m.snapshot = ⟨.connected, .current current, service⟩) (ticket : Ticket) :
    Step env deadline m w (.command ⟨.connect, device, ticket⟩)
      (startHandover env ⟨m, w, [.took (.command ⟨.connect, device, ticket⟩)]⟩
        current device) := by
  have free : m.snapshot.roles.setTarget device = .ok (.handover current device) := by
    simp [before, Roles.setTarget, distinct]
  have leaving : MachineState.pending ≠ .connected := by decide
  rcases call : env.disconnect w current with ⟨error | _, w'⟩
  · simp only [startHandover, tellConnection_mk, disconnect_mk call]
    exact .handoverDenied ticket distinct before call
  · simp only [startHandover, tellConnection_mk, disconnect_mk call, dropService_mk]
    rw [snapshot_mk, free, commit_pending, entered_withService none leaving]
    have step : Step env deadline m w _ _ := .handoverStarted ticket distinct before call
    simpa using step

theorem step_startDisconnect {device : Address} {service : Option ChannelHandle}
    (before : m.snapshot = ⟨.connected, .current device, service⟩) (ticket : Ticket) :
    Step env deadline m w (.command ⟨.disconnect, device, ticket⟩)
      (startDisconnect env ⟨m, w, [.took (.command ⟨.disconnect, device, ticket⟩)]⟩
        device) := by
  have roles : (m.withService none).snapshot.roles = .current device := by
    rw [withService, before]
  have leaving : MachineState.pending ≠ .connected := by decide
  rcases call : env.disconnect w device with ⟨error | _, w'⟩
  · have step : Step env deadline m w _ _ := .disconnectDenied ticket before call
    simp only [startDisconnect, dropService_mk, tellConnection_mk, disconnect_mk call,
      snapshot_mk]
    cases held : m.snapshot.service with
    | none =>
        rw [withService_self held]
        simpa [Snapshot.serviceReturn, held] using step
    | some handle =>
        have back : (m.withService none).withService (some handle) = m :=
          withService_self held
        have shown :
            { (m.withService none).snapshot with service := some handle } = m.snapshot :=
          congrArg Machine.snapshot back
        simp only [setService_mk, Turn.tellService, tell_mk, back, shown]
        simpa [Snapshot.serviceReturn, held] using step
  · simp only [startDisconnect, dropService_mk, tellConnection_mk, disconnect_mk call]
    rw [snapshot_mk, roles, commit_pending, entered_withService none leaving]
    have step : Step env deadline m w _ _ := .disconnectStarted ticket before call
    simpa using step

theorem step_serviceChanged {device : Address} {service : Option ChannelHandle}
    (before : m.snapshot = ⟨.connected, .current device, service⟩) (state : ServiceState)
    (channel : Option ChannelHandle) :
    Step env deadline m w (.stack (.service state device channel))
      (serviceChanged ⟨m, w, [.took (.stack (.service state device channel))]⟩ device state
        channel) := by
  cases state with
  | connected =>
      cases channel with
      | none => exact .ignored (.inr rfl)
      | some handle =>
          cases service with
          | none =>
              simp only [serviceChanged, snapshot_mk, before, setService_mk,
                Turn.tellService, tell_mk]
              exact .serviceOpened handle before
          | some old =>
              simp only [serviceChanged, snapshot_mk, before, setService_mk]
              exact .serviceMoved handle before
  | disconnected =>
      cases service with
      | none =>
          simp only [serviceChanged, snapshot_mk, before]
          exact .ignored (.inr (by rw [before]))
      | some old =>
          simp only [serviceChanged, snapshot_mk, before, setService_mk, Turn.tellService,
            tell_mk]
          exact .serviceClosed channel before

theorem step_linkLost {device : Address} {service : Option ChannelHandle}
    (before : m.snapshot = ⟨.connected, .current device, service⟩) :
    Step env deadline m w (.stack (.connection .disconnected device))
      (Machine.linkLost ⟨m, w, [.took (.stack (.connection .disconnected device))]⟩
        device) := by
  have freed : m.snapshot.roles.clear .current = .idle := by
    rw [before]
    rfl
  have leaving : MachineState.disconnected ≠ .connected := by decide
  simp only [Machine.linkLost, dropService_mk, tellConnection_mk]
  rw [snapshot_mk, freed, commit_disconnected, entered_withService none leaving]
  have step : Step env deadline m w _ _ := .linkLost before
  simpa using step

/-- What is left over while a device is connected makes no difference. -/
theorem ignores_of_connected (up : m.snapshot.state = .connected) {message : Message}
    (noConnect : ∀ device ticket, message ≠ .command ⟨.connect, device, ticket⟩)
    (noDisconnect : ∀ device ticket, message ≠ .command ⟨.disconnect, device, ticket⟩)
    (noSend : ∀ packet ticket, message ≠ .send packet ticket)
    (noLoss : ∀ device, message ≠ .stack (.connection .disconnected device))
    (noService : ∀ state device channel, message ≠ .stack (.service state device channel))
    (noData : ∀ packet, message ≠ .stack (.data packet))
    (noFailure : ∀ code text, message ≠ .stack (.error code text)) : m.Ignores message := by
  cases message with
  | command command =>
      obtain ⟨_ | _, device, ticket⟩ := command
      · exact absurd rfl (noConnect device ticket)
      · exact absurd rfl (noDisconnect device ticket)
  | send packet ticket => exact absurd rfl (noSend packet ticket)
  | stack event =>
      cases event with
      | connection state device =>
          cases state with
          | disconnected => exact absurd rfl (noLoss device)
          | connecting => simp [Ignores, up]
          | connected => exact up
          | disconnecting => trivial
      | service state device channel => exact absurd rfl (noService state device channel)
      | data packet => exact absurd rfl (noData packet)
      | error code text => exact absurd rfl (noFailure code text)
  | timeout generation => simp [Ignores, up]
  | shutdown => trivial

theorem step_whileConnected {current : Address} {service : Option ChannelHandle}
    (before : m.snapshot = ⟨.connected, .current current, service⟩) {message : Message}
    (noFailure : ∀ code text, message ≠ .stack (.error code text)) :
    Step env deadline m w message (whileConnected env ⟨m, w, [.took message]⟩ message) := by
  have held : m.snapshot.roles.current? = some current := by
    rw [before]
    rfl
  have up : m.snapshot.state = .connected := by rw [before]
  simp only [whileConnected, snapshot_mk, held]
  split
  · split
    · rename_i device _ same
      exact .ignored (by simp [Ignores, before, same])
    · rename_i device _ other
      exact step_startHandover (Ne.symm other) before _
  · split
    · rename_i device _ same
      subst same
      exact step_startDisconnect before _
    · rename_i device _ other
      exact .ignored (by simp [Ignores, before, Ne.symm other])
  · rename_i packet ticket
    rcases call : env.send w current packet with ⟨answer, w'⟩
    simp only [send_mk call, answer_mk]
    exact .sent packet ticket before call
  · split
    · rename_i device same
      subst same
      exact step_linkLost before
    · rename_i device other
      exact .ignored (by simp [Ignores, before, Ne.symm other])
  · split
    · rename_i device _ same
      subst same
      exact step_serviceChanged before _ _
    · rename_i state device channel other
      exact .ignored (by cases state <;> simp [Ignores, before, Ne.symm other])
  · exact .dataRelayed _ up
  · rename_i noConnect noDisconnect noSend noLoss noService noData
    apply Step.ignored
    exact ignores_of_connected up noConnect noDisconnect noSend noLoss noService noData
      noFailure

end Connected

/-! ## All states -/

/-- From a legal snapshot, processing a message comes to nothing but a listed outcome.
-/
theorem step_process {env : Surroundings W} {deadline : Nat} {m : Machine} {w : W}
    (legal : m.snapshot.Legal) (message : Message) :
    Step env deadline m w message (process env deadline m w message) := by
  unfold process
  split
  · exact .stackFailed _ _
  · exact .ignored trivial
  · rename_i noFailure _
    cases state : m.snapshot.state with
    | disconnected => exact step_whileDisconnected (legal.eq_initial state) noFailure
    | pending => exact step_whilePending legal state noFailure
    | connected =>
        obtain ⟨current, service, before⟩ := legal.eq_connected state
        exact step_whileConnected before noFailure

end Machine

end AccessoryLink
