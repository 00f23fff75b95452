import AccessoryLink.Control.Requests
import AccessoryLink.Control.Tasks

/-!
# What a step of the control can do

`Moves` lists every outcome of a step of a task or of the listener: who took it and where
it stood, what is reported, and the control that is left. What holds of the control
after any order of steps is proved by cases on `Moves`, and no such proof opens the tasks
themselves. Whatever an established link does without a report, and without giving its
channel up, is one outcome, `served`.
-/

namespace AccessoryLink

namespace RawReport

/-- A typed report that a service is down arrives as it was sent. -/
@[simp] theorem service_disconnected (device : Address) (channel : Option ChannelHandle) :
    service ServiceState.disconnected.code device.bytes channel =
      .service .disconnected device channel := by
  simp [service]

/-- A typed report of an open channel arrives as it was sent. -/
@[simp] theorem service_connected (device : Address) (handle : ChannelHandle) :
    service ServiceState.connected.code device.bytes (some handle) =
      .service .connected device (some handle) := by
  simp [service]

end RawReport

/-- The report of a task that the connection of its device is in some state. -/
def LinkTask.reports (t : LinkTask) (state : ConnectionState) : Report :=
  ⟨some t.id, .connection state t.device⟩

/-- The report of a disconnection that the connection of its device is in some state. -/
def HangupTask.reports (t : HangupTask) (state : ConnectionState) : Report :=
  ⟨some t.id, .connection state t.device⟩

namespace Control

/-- What a task reports when it gives the service channel up: nothing if another device
holds it, or nobody. -/
def serviceEnd (c : Control) (t : LinkTask) : List Report :=
  if c.register.isHeldBy t.device then [⟨some t.id, .service .disconnected t.device none⟩]
  else []

theorem serviceEnd_cases (c : Control) (t : LinkTask) :
    c.serviceEnd t = [] ∨
      c.serviceEnd t = [⟨some t.id, .service .disconnected t.device none⟩] := by
  simp only [serviceEnd]
  split
  · exact .inr rfl
  · exact .inl rfl

/-- Ends the task that was last started for a device. -/
def endLink (c : Control) (device : Address) : Control :=
  match c.links.lookup device with
  | some id => c.endTask id
  | none => c

theorem endLink_filed {c : Control} {device : Address} {id : TaskId}
    (filed : c.links.lookup device = some id) : c.endLink device = c.endTask id := by
  simp [endLink, filed]

theorem endLink_missing {c : Control} {device : Address}
    (missing : c.links.lookup device = none) : c.endLink device = c := by
  simp [endLink, missing]

@[simp] theorem register_endLink (c : Control) (device : Address) :
    (c.endLink device).register = c.register := by
  cases filed : c.links.lookup device with
  | none => rw [endLink_missing filed]
  | some id => rw [endLink_filed filed]; rfl

/-- The stage of a link whose service channel has just been opened. -/
def carrying (socket : SocketId) (now : Nat) : LinkStage :=
  .serving ⟨some (socket, .initial), true, false, now⟩

/-- Everything that a step of a task or of the listener can come to. -/
inductive Moves (c : Control) : List Report → Control → Prop where
  | still : Moves c [] c
  -- Links
  | dialing {t : LinkTask} (runs : t ∈ c.tasks) (stage : t.stage = .fresh none)
      (limit : Nat) : Moves c [] (c.setStage t.id (.dialing limit))
  | dialed {t : LinkTask} {deadline : Nat} (runs : t ∈ c.tasks)
      (stage : t.stage = .dialing deadline) (limit : Nat) :
      Moves c [t.reports .connected] (c.setStage t.id (.opening limit))
  | dialFailed {t : LinkTask} {deadline : Nat} (runs : t ∈ c.tasks)
      (stage : t.stage = .dialing deadline) :
      Moves c [t.reports .disconnected] (c.endTask t.id)
  | inbound {t : LinkTask} {socket : SocketId} {handle : ChannelHandle} {after : Control}
      (runs : t ∈ c.tasks) (stage : t.stage = .fresh (some socket))
      (opened : c.openChannel? t.device t.id = some (handle, after)) (now : Nat) :
      Moves c
        [t.reports .connecting, t.reports .connected,
          ⟨some t.id, .service .connected t.device (some handle)⟩]
        (after.setStage t.id (carrying socket now))
  | inboundRefused {t : LinkTask} {socket : SocketId} (runs : t ∈ c.tasks)
      (stage : t.stage = .fresh (some socket))
      (held : c.openChannel? t.device t.id = none) :
      Moves c [t.reports .connecting, t.reports .connected, t.reports .disconnected]
        (c.endTask t.id)
  | opened {t : LinkTask} {deadline : Nat} {handle : ChannelHandle} {after : Control}
      (runs : t ∈ c.tasks) (stage : t.stage = .opening deadline)
      (opened : c.openChannel? t.device t.id = some (handle, after)) (socket : SocketId)
      (now : Nat) :
      Moves c [⟨some t.id, .service .connected t.device (some handle)⟩]
        (after.setStage t.id (carrying socket now))
  | openRefused {t : LinkTask} {deadline : Nat} (runs : t ∈ c.tasks)
      (stage : t.stage = .opening deadline)
      (held : c.openChannel? t.device t.id = none) :
      Moves c [t.reports .disconnected] (c.endTask t.id)
  | unserved {t : LinkTask} {deadline : Nat} (runs : t ∈ c.tasks)
      (stage : t.stage = .opening deadline) (now : Nat) :
      Moves c [] (c.setStage t.id (.serving ⟨none, false, false, now⟩))
  | served {t : LinkTask} {s next : Serving} (runs : t ∈ c.tasks)
      (stage : t.stage = .serving s) (same : next.receiving = s.receiving) :
      Moves c [] (c.setStage t.id (.serving next))
  | received {t : LinkTask} {s : Serving} {socket : SocketId} {relay rest : Relay}
      {packet : Packet} (runs : t ∈ c.tasks) (stage : t.stage = .serving s)
      (receiving : s.receiving = true) (channel : s.channel = some (socket, relay))
      (taken : relay.receive = (some (.ok packet), rest)) :
      Moves c [⟨some t.id, .data packet⟩]
        (c.setStage t.id (.serving { s with channel := some (socket, rest) }))
  | channelEnded {t : LinkTask} {s next : Serving} (runs : t ∈ c.tasks)
      (stage : t.stage = .serving s) (done : next.receiving = false) :
      Moves c (c.serviceEnd t)
        ((c.setStage t.id (.serving next)).closeChannel t.device).2
  | lost {t : LinkTask} {s : Serving} (runs : t ∈ c.tasks) (stage : t.stage = .serving s) :
      Moves c (c.serviceEnd t ++ [t.reports .disconnected])
        ((c.closeChannel t.device).2.endTask t.id)
  -- Disconnections
  | hangupStarted {t : HangupTask} (runs : t ∈ c.hangups) (stage : t.stage = .fresh) :
      Moves c [t.reports .disconnecting] (c.setHangupStage t.id .calling)
  | hangupAsked {t : HangupTask} (runs : t ∈ c.hangups) (stage : t.stage = .calling) :
      Moves c [] (c.setHangupStage t.id .reading)
  | settled {t : HangupTask} (runs : t ∈ c.hangups) (stage : t.stage = .reading)
      (connected : Bool) :
      Moves c [t.reports (settledState t.aborted connected)] (c.endHangup t.id)
  -- The listener
  | accepted (socket : SocketId) (device : Address) :
      Moves c [] (((c.reopen device).endLink device).startLink device (some socket))
  | listened (listener : Option Listener) {reports : List Report}
      (failures : ∀ report ∈ reports, ∃ code text, report.event = .error code text) :
      Moves c reports { c with listener := listener }

/-! ## What a task does with the service channel -/

section Channel

variable {turn : ControlTurn} {task : TaskId} {device : Address} {socket : SocketId}

/-- A typed report of a task is passed on as it is. -/
theorem reportConnection_eq (state : ConnectionState) :
    turn.reportConnection task device state =
      { turn with reports := turn.reports ++ [⟨some task, .connection state device⟩] } := by
  simp [ControlTurn.reportConnection]

theorem install_opened {handle : ChannelHandle} {after : Control}
    (opened : turn.control.openChannel? device task = some (handle, after)) (now : Nat) :
    turn.install task device socket now =
      ⟨after.setStage task (carrying socket now),
        turn.reports ++ [⟨some task, .service .connected device (some handle)⟩],
        turn.requests⟩ := by
  simp [ControlTurn.install, opened, ControlTurn.update, ControlTurn.reportService,
    ControlTurn.serve, carrying]

theorem install_refused (held : turn.control.openChannel? device task = none) (now : Nat) :
    turn.install task device socket now =
      ⟨turn.control.endTask task,
        turn.reports ++ [⟨some task, .connection .disconnected device⟩], turn.requests⟩ := by
  simp [ControlTurn.install, held, ControlTurn.quit, reportConnection_eq,
    ControlTurn.update]

theorem dropHolderLine_cases (c : Control) :
    c.dropHolderLine = c ∨ ∃ line, c.dropHolderLine = c.dropLine line := by
  cases held : c.register.holder with
  | none => exact .inl (by simp [dropHolderLine, held])
  | some holder => exact .inr ⟨holder.line, by simp [dropHolderLine, held]⟩

theorem closeChannel_free {c : Control} (free : c.register.isHeldBy device = false) :
    c.closeChannel device = (none, c) := by
  simp [closeChannel, ChannelRegister.close, free]

theorem closeChannel_held {c : Control} (held : c.register.isHeldBy device = true) :
    ∃ handle, c.closeChannel device =
      (some handle, { c.dropHolderLine with register := { c.register with holder := none } }) := by
  cases holder : c.register.holder with
  | none => simp [ChannelRegister.isHeldBy, holder] at held
  | some h => exact ⟨h.handle, by simp [closeChannel, ChannelRegister.close, held, holder]⟩

theorem closeChannel_cases (c : Control) (device : Address) :
    (c.closeChannel device).2 = c ∨
      ∃ register, (c.closeChannel device).2 = { c.dropHolderLine with register := register } := by
  cases held : c.register.isHeldBy device with
  | false => exact .inl (by rw [closeChannel_free held])
  | true =>
      obtain ⟨handle, closed⟩ := closeChannel_held held
      exact .inr ⟨_, by rw [closed]⟩

theorem dropService_eq :
    turn.dropService task device =
      ⟨(turn.control.closeChannel device).2,
        turn.reports ++
          if turn.control.register.isHeldBy device then
            [⟨some task, .service .disconnected device none⟩]
          else [],
        turn.requests⟩ := by
  cases held : turn.control.register.isHeldBy device with
  | false => simp [ControlTurn.dropService, closeChannel_free held]
  | true =>
      obtain ⟨handle, closed⟩ := closeChannel_held held
      simp [ControlTurn.dropService, closed, ControlTurn.update, ControlTurn.reportService]

end Channel

/-! ## The steps of the tasks -/

section Links

variable {c : Control} {t : LinkTask} (runs : t ∈ c.tasks) (now : Nat)
include runs

theorem moves_start : Moves c (c.start t now).reports (c.start t now).control := by
  unfold start
  split
  · rename_i stage
    exact .dialing runs stage (now + dialLimit)
  · rename_i socket stage
    cases opened : c.openChannel? t.device t.id with
    | none =>
        simp only [reportConnection_eq]
        rw [install_refused opened]
        exact .inboundRefused runs stage opened
    | some result =>
        simp only [reportConnection_eq]
        rw [install_opened opened]
        exact .inbound runs stage opened now
  · exact .still

theorem moves_dialed (connected : Bool) :
    Moves c (c.dialed t connected now).reports (c.dialed t connected now).control := by
  unfold dialed
  split
  · rename_i stage
    simp only [reportConnection_eq]
    exact .dialed runs stage (now + openLimit)
  · rename_i stage
    simp only [ControlTurn.quit, reportConnection_eq]
    exact .dialFailed runs stage
  · exact .still

theorem moves_dialExpired :
    Moves c (c.dialExpired t now).reports (c.dialExpired t now).control := by
  unfold dialExpired
  split
  · rename_i deadline stage
    split
    · simp only [ControlTurn.quit, reportConnection_eq]
      exact .dialFailed runs stage
    · exact .still
  · exact .still

theorem moves_opened (socket : Option SocketId) :
    Moves c (c.opened t socket now).reports (c.opened t socket now).control := by
  unfold opened
  split
  · rename_i socket stage
    cases opened : c.openChannel? t.device t.id with
    | none =>
        rw [install_refused opened]
        exact .openRefused runs stage opened
    | some result =>
        rw [install_opened opened]
        exact .opened runs stage opened socket now
  · rename_i stage
    exact .unserved runs stage now
  · exact .still

theorem moves_openExpired :
    Moves c (c.openExpired t now).reports (c.openExpired t now).control := by
  unfold openExpired
  split
  · rename_i deadline stage
    split
    · exact .unserved runs stage now
    · exact .still
  · exact .still

theorem moves_relayed (step : RelayStep) :
    Moves c (c.relayed t step).reports (c.relayed t step).control := by
  unfold relayed
  split
  · rename_i s stage
    split
    · exact .served runs stage rfl
    · exact .still
  · exact .still

theorem moves_received : Moves c (c.received t).reports (c.received t).control := by
  unfold received
  split
  · rename_i s stage
    split
    · rename_i socket relay channel
      split
      · exact .still
      · rename_i ready
        split
        · rename_i packet rest taken
          have receiving : s.receiving = true := by
            simpa using (not_or.mp (mt (Bool.or_eq_true _ _).mpr ready)).2
          exact .received runs stage receiving channel taken
        · rename_i error rest taken
          rw [dropService_eq]
          exact .channelEnded runs stage rfl
        · exact .still
    · exact .still
  · exact .still

theorem moves_tick : Moves c (c.tick t now).reports (c.tick t now).control := by
  unfold tick
  split
  · rename_i s stage
    split
    · exact .served runs stage rfl
    · exact .still
  · exact .still

theorem moves_polled (connected : Bool) :
    Moves c (c.polled t connected).reports (c.polled t connected).control := by
  unfold polled
  split
  · rename_i s stage
    split
    · exact .still
    · split
      · exact .served runs stage rfl
      · simp only [dropService_eq, ControlTurn.quit, reportConnection_eq]
        exact .lost runs stage
  · exact .still

end Links

section Hangups

variable {c : Control} {t : HangupTask} (runs : t ∈ c.hangups)
include runs

theorem moves_hangup : Moves c (c.hangup t).reports (c.hangup t).control := by
  unfold hangup
  split
  · rename_i stage
    simp only [reportConnection_eq]
    exact .hangupStarted runs stage
  · exact .still

theorem moves_hungUp : Moves c (c.hungUp t).reports (c.hungUp t).control := by
  unfold hungUp
  split
  · rename_i stage
    exact .hangupAsked runs stage
  · exact .still

theorem moves_settled (connected : Bool) :
    Moves c (c.settled t connected).reports (c.settled t connected).control := by
  unfold settled
  split
  · rename_i stage
    simp only [reportConnection_eq]
    exact .settled runs stage connected
  · exact .still

end Hangups

section Listening

variable (c : Control)

theorem moves_accepted (socket : SocketId) (device : Address) :
    Moves c (c.accepted socket device).reports (c.accepted socket device).control := by
  unfold accepted
  split
  · exact .accepted socket device
  · exact .still

theorem moves_acceptFailed (code : Int) (message : String) (now : Nat) :
    Moves c (c.acceptFailed code message now).reports
      (c.acceptFailed code message now).control := by
  unfold acceptFailed
  split
  · refine .listened _ ?_
    intro report inside
    rw [List.mem_singleton.mp inside]
    exact ⟨code, message, rfl⟩
  · exact .still

theorem moves_resumed (now : Nat) :
    Moves c (c.resumed now).reports (c.resumed now).control := by
  unfold resumed
  split
  · split
    · exact .listened (some .accepting) fun _ none => absurd none List.not_mem_nil
    · exact .still
  · exact .still

end Listening

/-! ## Every step -/

variable {c : Control}

theorem mem_of_task? {id : TaskId} {t : LinkTask} (found : c.task? id = some t) :
    t ∈ c.tasks := List.mem_of_find?_eq_some found

theorem id_of_task? {id : TaskId} {t : LinkTask} (found : c.task? id = some t) :
    t.id = id := by
  unfold task? at found
  simpa using List.find?_some found

/-- Sending a packet changes nothing, or the channel of a link that goes on as it was. -/
theorem send_cases (c : Control) (device : Address) (packet : Packet) :
    (c.send device packet).2 = c ∨
      ∃ t ∈ c.tasks, ∃ s next, t.stage = .serving s ∧ next.receiving = s.receiving ∧
        (c.send device packet).2 = c.setStage t.id (.serving next) := by
  unfold send
  split
  · rename_i line _
    unfold sendOn
    split
    · rename_i id own s found
      split
      · rename_i socket relay _
        right
        have same : id = line := id_of_task? found
        rw [← same]
        let next : Serving := { s with channel := some (socket, (relay.send packet).2) }
        exact ⟨_, mem_of_task? found, s, next, rfl, rfl, rfl⟩
      · exact .inl rfl
    · exact .inl rfl
  · exact .inl rfl

/-- Nor does it come to anything that a step does not come to. -/
theorem moves_send (c : Control) (device : Address) (packet : Packet) :
    Moves c [] (c.send device packet).2 := by
  obtain same | ⟨t, runs, s, next, stage, receiving, same⟩ := send_cases c device packet
  · rw [same]
    exact .still
  · rw [same]
    exact .served runs stage receiving

theorem moves_onTask (id : TaskId) {step : LinkTask → ControlTurn}
    (moves : ∀ {t}, t ∈ c.tasks → Moves c (step t).reports (step t).control) :
    Moves c (c.onTask id step).reports (c.onTask id step).control := by
  unfold onTask
  split
  · rename_i t found
    exact moves (mem_of_task? found)
  · exact .still

theorem moves_onHangup (id : TaskId) {step : HangupTask → ControlTurn}
    (moves : ∀ {t}, t ∈ c.hangups → Moves c (step t).reports (step t).control) :
    Moves c (c.onHangup id step).reports (c.onHangup id step).control := by
  unfold onHangup
  split
  · rename_i t found
    exact moves (List.mem_of_find?_eq_some found)
  · exact .still

/-- `Moves` lists every outcome. -/
theorem moves_step (c : Control) (now : Nat) (step : ControlStep) :
    Moves c (c.step now step).reports (c.step now step).control := by
  cases step with
  | start id => exact moves_onTask id fun runs => moves_start runs now
  | dialed id connected => exact moves_onTask id fun runs => moves_dialed runs now connected
  | dialExpired id => exact moves_onTask id fun runs => moves_dialExpired runs now
  | opened id socket => exact moves_onTask id fun runs => moves_opened runs now socket
  | openExpired id => exact moves_onTask id fun runs => moves_openExpired runs now
  | relayed id step => exact moves_onTask id fun runs => moves_relayed runs step
  | received id => exact moves_onTask id moves_received
  | tick id => exact moves_onTask id fun runs => moves_tick runs now
  | polled id connected => exact moves_onTask id fun runs => moves_polled runs connected
  | hangup id => exact moves_onHangup id moves_hangup
  | hungUp id => exact moves_onHangup id moves_hungUp
  | settled id connected => exact moves_onHangup id fun runs => moves_settled runs connected
  | accepted socket device => exact moves_accepted c socket device
  | acceptFailed code message => exact moves_acceptFailed c code message now
  | resumed => exact moves_resumed c now

end Control

end AccessoryLink
