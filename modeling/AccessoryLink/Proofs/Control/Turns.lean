import AccessoryLink.Proofs.Control.Authors
import AccessoryLink.Proofs.Control.Custody
import AccessoryLink.Proofs.Control.Receipts

/-!
# Whose turn it is

`Moves` says what a step can come to, but not whose step it was. Here the steps are told
apart by the task that takes them: it reports in its own name, starts nothing, and leaves
the failures of the listener to the listener (`isOf_step`). So whatever bears the number of
a link was reported in a step of that link (`voice_step`), and the packets among it are
those that the link took (`packets_reported`). A number is given to one task only, and once
that has ended nothing bears the number any more (`Numbers.reported_eq_nil`).
-/

namespace AccessoryLink

/-- The task that takes a step. The steps of the listener are no task's. -/
def ControlStep.task? : ControlStep → Option TaskId
  | start task | dialed task _ | dialExpired task | opened task _ | openExpired task
  | relayed task _ | received task | tick task | polled task _ | hangup task | hungUp task
  | settled task _ => some task
  | accepted _ _ | acceptFailed _ _ | resumed => none

/-- A turn of a task: no other task is started in it, and what is reported is reported in
the name of the task and is no failure of the listener. -/
structure ControlTurn.IsOf (turn : ControlTurn) (c : Control) (task : TaskId) : Prop where
  nextTask : turn.control.nextTask = c.nextTask
  reports : ∀ report ∈ turn.reports,
    report.task = some task ∧ ∀ code text, report.event ≠ .error code text

namespace ControlTurn

variable {c : Control} {turn : ControlTurn} {task : TaskId} {device : Address}

theorem isOf_still (c : Control) (task : TaskId) : (still c).IsOf c task := ⟨rfl, by simp [still]⟩

/-- One more report in the name of the task. -/
theorem IsOf.report (own : turn.IsOf c task) (event : StackEvent)
    (understood : ∀ code text, event ≠ .error code text) (requests : List RadioRequest) :
    (⟨turn.control, turn.reports ++ [⟨some task, event⟩], requests⟩ : ControlTurn).IsOf c
      task where
  nextTask := own.nextTask
  reports := by
    intro report inside
    obtain before | new := List.mem_append.mp inside
    · exact own.reports report before
    · rw [List.mem_singleton.mp new]
      exact ⟨rfl, understood⟩

namespace IsOf

variable (own : turn.IsOf c task)
include own

theorem update {f : Control → Control} (same : (f turn.control).nextTask = turn.control.nextTask) :
    (turn.update f).IsOf c task := ⟨same.trans own.nextTask, own.reports⟩

theorem ask (request : RadioRequest) : (turn.ask request).IsOf c task :=
  ⟨own.nextTask, own.reports⟩

theorem reportConnection (state : ConnectionState) :
    (turn.reportConnection task device state).IsOf c task := by
  rw [Control.reportConnection_eq]
  exact own.report _ (by simp) _

theorem reportData (packet : Packet) : (turn.reportData task packet).IsOf c task :=
  own.report _ (by simp [RawReport.data]) _

theorem quit : (turn.quit task device).IsOf c task := (own.reportConnection _).update rfl

theorem install (socket : SocketId) (now : Nat) :
    (turn.install task device socket now).IsOf c task := by
  cases opened : turn.control.openChannel? device task with
  | none =>
      rw [Control.install_refused opened]
      have told := own.report (.connection .disconnected device) (by simp) turn.requests
      exact told.update (f := (·.endTask task)) rfl
  | some result =>
      obtain ⟨handle, after⟩ := result
      rw [Control.install_opened opened]
      obtain ⟨-, rfl⟩ := Control.openChannel?_some opened
      refine (own.report _ (by simp) _).update (f := fun _ => _) ?_
      exact (Control.Narrows.dropHolderLine turn.control).nextTask

theorem dropService : (turn.dropService task device).IsOf c task := by
  have closed : (turn.control.closeChannel device).2.nextTask = c.nextTask :=
    (Control.Narrows.closeChannel turn.control device).nextTask.trans own.nextTask
  rw [Control.dropService_eq]
  split
  · exact ⟨closed, (own.report _ (by simp) []).reports⟩
  · simpa using (⟨closed, own.reports⟩ : IsOf ⟨_, turn.reports, turn.requests⟩ c task)

end IsOf

end ControlTurn

namespace Control

variable {c c' : Control} {id task : TaskId} {device : Address} {reports : List Report}

section Links

variable (c) (t : LinkTask) (now : Nat)

theorem isOf_start : (c.start t now).IsOf c t.id := by
  have still := ControlTurn.isOf_still c t.id
  unfold start
  split
  · exact (still.update rfl).ask _
  · exact ((still.reportConnection _).reportConnection _).install _ _
  · exact still

theorem isOf_dialed (connected : Bool) : (c.dialed t connected now).IsOf c t.id := by
  have still := ControlTurn.isOf_still c t.id
  unfold dialed
  split
  · exact ((still.reportConnection _).update rfl).ask _
  · exact still.quit
  · exact still

theorem isOf_dialExpired : (c.dialExpired t now).IsOf c t.id := by
  have still := ControlTurn.isOf_still c t.id
  unfold dialExpired
  split
  · split
    · exact still.quit
    · exact still
  · exact still

theorem isOf_opened (socket : Option SocketId) : (c.opened t socket now).IsOf c t.id := by
  have still := ControlTurn.isOf_still c t.id
  unfold opened
  split
  · exact still.install _ _
  · exact still.update rfl
  · exact still

theorem isOf_openExpired : (c.openExpired t now).IsOf c t.id := by
  have still := ControlTurn.isOf_still c t.id
  unfold openExpired
  split
  · split
    · exact still.update rfl
    · exact still
  · exact still

theorem isOf_relayed (step : RelayStep) : (c.relayed t step).IsOf c t.id := by
  have still := ControlTurn.isOf_still c t.id
  unfold relayed
  split
  · split
    · exact still.update rfl
    · exact still
  · exact still

theorem isOf_received : (c.received t).IsOf c t.id := by
  have still := ControlTurn.isOf_still c t.id
  unfold received
  split
  · split
    · split
      · exact still
      · split
        · exact (still.update rfl).reportData _
        · exact (still.update rfl).dropService
        · exact still
    · exact still
  · exact still

theorem isOf_tick : (c.tick t now).IsOf c t.id := by
  have still := ControlTurn.isOf_still c t.id
  unfold tick
  split
  · split
    · exact (still.update rfl).ask _
    · exact still
  · exact still

theorem isOf_polled (connected : Bool) : (c.polled t connected).IsOf c t.id := by
  have still := ControlTurn.isOf_still c t.id
  unfold polled
  split
  · split
    · exact still
    · split
      · exact still.update rfl
      · exact still.dropService.quit
  · exact still

end Links

section Hangups

variable (c) (t : HangupTask)

theorem isOf_hangup : (c.hangup t).IsOf c t.id := by
  have still := ControlTurn.isOf_still c t.id
  unfold hangup
  split
  · exact ((still.reportConnection _).update rfl).ask _
  · exact still

theorem isOf_hungUp : (c.hungUp t).IsOf c t.id := by
  have still := ControlTurn.isOf_still c t.id
  unfold hungUp
  split
  · exact (still.update rfl).ask _
  · exact still

theorem isOf_settled (connected : Bool) : (c.settled t connected).IsOf c t.id := by
  have still := ControlTurn.isOf_still c t.id
  unfold settled
  split
  · exact (still.reportConnection _).update rfl
  · exact still

end Hangups

theorem isOf_onTask {step : LinkTask → ControlTurn} (own : ∀ t, (step t).IsOf c t.id) :
    (c.onTask task step).IsOf c task := by
  unfold onTask
  split
  · rename_i t found
    exact id_of_task? found ▸ own t
  · exact ControlTurn.isOf_still c task

theorem isOf_onHangup {step : HangupTask → ControlTurn} (own : ∀ t, (step t).IsOf c t.id) :
    (c.onHangup task step).IsOf c task := by
  unfold onHangup
  split
  · rename_i t found
    have same : t.id = task := by simpa using List.find?_some found
    exact same ▸ own t
  · exact ControlTurn.isOf_still c task

/-- The steps of a task are turns of it. -/
theorem isOf_step (c : Control) (now : Nat) {step : ControlStep} (own : step.task? = some task) :
    (c.step now step).IsOf c task := by
  cases step <;> cases own
  case start => exact isOf_onTask fun t => isOf_start c t now
  case dialed connected => exact isOf_onTask fun t => isOf_dialed c t now connected
  case dialExpired => exact isOf_onTask fun t => isOf_dialExpired c t now
  case opened socket => exact isOf_onTask fun t => isOf_opened c t now socket
  case openExpired => exact isOf_onTask fun t => isOf_openExpired c t now
  case relayed step => exact isOf_onTask fun t => isOf_relayed c t step
  case received => exact isOf_onTask fun t => isOf_received c t
  case tick => exact isOf_onTask fun t => isOf_tick c t now
  case polled connected => exact isOf_onTask fun t => isOf_polled c t connected
  case hangup => exact isOf_onHangup fun t => isOf_hangup c t
  case hungUp => exact isOf_onHangup fun t => isOf_hungUp c t
  case settled connected => exact isOf_onHangup fun t => isOf_settled c t connected

/-- A listener that accepts starts a link in the place of an earlier one. -/
theorem accepted_listening (listens : c.listener = some .accepting) (socket : SocketId)
    (other : Address) : (c.accepted socket other).control =
      ((c.reopen other).endLink other).startLink other (some socket) := by
  simp only [Control.accepted, listens]
  rfl

theorem accepted_deaf (deaf : c.listener ≠ some .accepting) (socket : SocketId)
    (other : Address) : (c.accepted socket other).control = c := by
  unfold Control.accepted
  split
  · contradiction
  · rfl

/-! ## Who runs -/

/-- Whether the task of a link runs. -/
def Runs (c : Control) (id : TaskId) : Prop := ∃ t ∈ c.tasks, t.id = id

theorem Narrows.runs (narrows : Narrows c c') (runs : c'.Runs id) : c.Runs id := by
  obtain ⟨u, inside, rfl⟩ := runs
  obtain ⟨t, before, same, -⟩ := narrows.stands u inside
  exact ⟨t, before, same.symm⟩

theorem runs_setStage {task : TaskId} {stage : LinkStage} (runs : (c.setStage task stage).Runs id) :
    c.Runs id := by
  obtain ⟨u, inside, rfl⟩ := runs
  have listed := List.mem_map_of_mem (f := LinkTask.id) inside
  rw [map_id_setStage] at listed
  exact List.mem_map.mp listed

theorem runs_startLink {accepted : Option SocketId}
    (runs : (c.startLink device accepted).Runs id) : c.Runs id ∨ id = c.nextTask := by
  obtain ⟨u, inside, rfl⟩ := runs
  obtain before | rfl := mem_startLink.mp inside
  · exact .inl ⟨u, before, rfl⟩
  · exact .inr rfl

/-- A link that runs after a step ran before, or has a new number. -/
theorem Moves.runs (moves : Moves c reports c') (runs : c'.Runs id) :
    c.Runs id ∨ id = c.nextTask := by
  cases moves with
  | still | hangupStarted | hangupAsked | settled | listened => exact .inl runs
  | dialing | dialed | unserved | served | received => exact .inl (runs_setStage runs)
  | dialFailed | openRefused | inboundRefused =>
      exact .inl ((Narrows.endTask c _).runs runs)
  | inbound _ _ opened | opened _ _ opened =>
      obtain ⟨-, rfl⟩ := openChannel?_some opened
      have before := runs_setStage runs
      exact .inl ((Narrows.dropHolderLine c).runs before)
  | channelEnded => exact .inl (runs_setStage ((Narrows.closeChannel _ _).runs runs))
  | lost => exact .inl (((Narrows.closeChannel c _).trans (.endTask _ _)).runs runs)
  | accepted socket other =>
      have ended := Narrows.endLink (c.reopen other) other
      obtain before | new := runs_startLink runs
      · exact .inl (ended.runs before)
      · exact .inr (new.trans ended.nextTask)

/-- A link that runs after anything that may happen ran before, or has a new number. -/
theorem runs_act {action : ControlAction} (runs : (c.act action).Runs id) :
    c.Runs id ∨ id = c.nextTask := by
  cases action with
  | connect other =>
      cases idle : c.isLinked other with
      | true =>
          simp only [Control.act, connect_linked idle] at runs
          exact .inl runs
      | false =>
          simp only [Control.act, connect_idle idle] at runs
          exact runs_startLink runs
  | disconnect other =>
      by_cases marked : other ∈ c.closing
      · simp only [Control.act, disconnect_marked marked] at runs
        exact .inl runs
      · simp only [Control.act, disconnect_unmarked marked] at runs
        exact .inl (((Narrows.endLink c other).trans (.closeChannel _ other)).runs runs)
  | send other packet => exact (moves_send c other packet).runs runs
  | cleanup =>
      obtain ⟨u, inside, same⟩ := runs
      exact .inl ((Narrows.dropHolderLine c).runs ⟨u, (List.mem_filter.mp inside).1, same⟩)
  | listen bound => cases bound <;> exact .inl runs
  | step now step => exact (moves_step c now step).runs runs

theorem nextTask_act (c : Control) (action : ControlAction) :
    c.nextTask ≤ (c.act action).nextTask := by
  cases action with
  | connect other => exact nextTask_connect c other
  | disconnect other => exact nextTask_disconnect c other
  | send other packet => exact nextTask_send c other packet
  | cleanup => exact Nat.le_of_eq (Narrows.dropHolderLine c).nextTask.symm
  | listen bound => cases bound <;> exact Nat.le_refl _
  | step now step => exact (moves_step c now step).nextTask

/-- A number that was given to the task of a link. -/
structure Numbers (c : Control) (id : TaskId) : Prop where
  known : id < c.nextTask
  link : ∀ h ∈ c.hangups, h.id ≠ id

/-- No disconnection gets the number of a link. -/
theorem Numbers.act (numbers : c.Numbers id) (action : ControlAction) :
    (c.act action).Numbers id where
  known := Nat.lt_of_lt_of_le numbers.known (nextTask_act c action)
  link := by
    have kept {after : Control} (moved : ∀ h ∈ after.hangups, ∃ g ∈ c.hangups,
        g.id = h.id ∧ g.device = h.device) : ∀ h ∈ after.hangups, h.id ≠ id := by
      intro h runs
      obtain ⟨g, before, same, -⟩ := moved h runs
      exact same ▸ numbers.link g before
    cases action with
    | connect other =>
        cases idle : c.isLinked other with
        | true =>
            simp only [Control.act, connect_linked idle]
            exact numbers.link
        | false =>
            simp only [Control.act, connect_idle idle]
            exact numbers.link
    | disconnect other =>
        by_cases marked : other ∈ c.closing
        · simp only [Control.act, disconnect_marked marked]
          exact numbers.link
        · simp only [Control.act, disconnect_unmarked marked]
          intro h runs
          obtain before | new := List.mem_append.mp runs
          · exact numbers.link h before
          · rw [List.mem_singleton.mp new]
            exact (Nat.ne_of_lt numbers.known).symm
    | send other packet => exact kept (moves_send c other packet).hangups
    | cleanup =>
        have same : c.cleanup.hangups = c.hangups := (Narrows.dropHolderLine c).hangups
        show ∀ h ∈ c.cleanup.hangups, h.id ≠ id
        rw [same]
        exact numbers.link
    | listen bound => cases bound <;> exact numbers.link
    | step now step => exact kept (moves_step c now step).hangups

/-! ## What a task reports -/

/-- The events that are reported in the name of a task. -/
def voice (id : TaskId) (reports : List Report) : List StackEvent :=
  (reports.filter (·.task == some id)).map Report.event

@[simp] theorem voice_nil (id : TaskId) : voice id [] = [] := rfl

/-- What a task reports is its own, and nobody else's. -/
theorem voice_map (id task : TaskId) (events : List StackEvent) :
    voice id (events.map (Report.mk (some task))) = if task = id then events else [] := by
  by_cases own : task = id
  · simp [voice, List.filter_map, Function.comp_def, own]
  · simp [voice, List.filter_map, Function.comp_def, own]

theorem voice_eq_nil {reports : List Report}
    (foreign : ∀ report ∈ reports, report.task ≠ some id) : voice id reports = [] := by
  simpa [voice] using foreign

/-- What is reported in the name of a task is reported in a step of it. -/
theorem voice_step (c : Control) (now : Nat) {step : ControlStep} (other : step.task? ≠ some id) :
    voice id (c.step now step).reports = [] := by
  apply voice_eq_nil
  intro report inside
  cases taker : step.task? with
  | some task =>
      rw [((isOf_step c now taker).reports report inside).1, ← taker]
      exact other
  | none =>
      have failures : report.task = none := by
        cases step <;> cases taker
        case accepted =>
          simp only [Control.step, accepted] at inside
          split at inside <;> cases inside
        case acceptFailed =>
          simp only [Control.step, acceptFailed] at inside
          split at inside
          · rw [List.mem_singleton.mp inside]
          · cases inside
        case resumed =>
          simp only [Control.step, resumed] at inside
          split at inside <;> cases inside
      simp [failures]

/-- What a task reports when something happens. Requests report nothing. -/
def reported (c : Control) (id : TaskId) : ControlAction → List StackEvent
  | .step now step => voice id (c.step now step).reports
  | _ => []

/-- The packets that a task takes when something happens. -/
def taken (c : Control) (id : TaskId) : ControlAction → List Packet
  | .step _ step => if step.task? = some id then (c.receipts step).map Receipt.packet else []
  | _ => []

/-- The packets that a task reports are those that it takes. -/
theorem packets_reported (c : Control) (id : TaskId) (action : ControlAction) :
    (c.reported id action).filterMap StackEvent.packet? = c.taken id action := by
  cases action with
  | step now step =>
      simp only [reported, taken]
      by_cases own : step.task? = some id
      · have all : (c.step now step).reports.filter (·.task == some id) =
            (c.step now step).reports := by
          rw [List.filter_eq_self]
          intro report inside
          simpa using ((isOf_step c now own).reports report inside).1
        rw [if_pos own, ← packets_step c now step, voice, all, List.filterMap_map]
        rfl
      · rw [if_neg own, voice_step c now own]
        rfl
  | _ => rfl

/-- The task of a link that does not run reports nothing. -/
theorem Numbers.reported_eq_nil (numbers : c.Numbers id) (ended : ¬ c.Runs id)
    (action : ControlAction) : c.reported id action = [] := by
  cases action with
  | step now step =>
      by_cases own : step.task? = some id
      · apply voice_eq_nil
        intro report inside same
        obtain ⟨t, runs, author⟩ | ⟨h, runs, author⟩ | ⟨code, text, failure⟩ :=
          (moves_step c now step).authors report inside
        · exact ended ⟨t, runs, Option.some.inj (author.symm.trans same)⟩
        · exact numbers.link h runs (Option.some.inj (author.symm.trans same))
        · exact ((isOf_step c now own).reports report inside).2 code text failure
      · exact voice_step c now own
  | _ => rfl

end Control

end AccessoryLink
