import AccessoryLink.Proofs.Control.Turns

/-!
# What goes on after everything was given up

A task shows itself by signs: what it reports, and what it asks of the radio. Giving
everything up aborts the links and the listener and takes the service channel away, so that
nothing of them is seen any more. The tasks of disconnections are filed nowhere: they run on
behind it, each through the rest of its script (`HangupTask.rest`), which nothing else can
cut short or change (`hangup_act`).

So everything that was started is over with the cleanup exactly if no disconnection is under
way then.
-/

namespace AccessoryLink

/-- What is seen of a task: a report, or a request to the radio. -/
inductive Sign where
  | report (report : Report)
  | request (request : RadioRequest)
  deriving Repr, DecidableEq

/-- The task that gives a sign. The listener is no task. -/
def Sign.task? : Sign → Option TaskId
  | .report r => r.task
  | .request r => some r.task

/-- The signs among them that a task gives. -/
def signsBy (id : TaskId) (signs : List Sign) : List Sign :=
  signs.filter (·.task? == some id)

@[simp] theorem signsBy_append (id : TaskId) (front back : List Sign) :
    signsBy id (front ++ back) = signsBy id front ++ signsBy id back := List.filter_append ..

theorem signsBy_eq_nil {id : TaskId} {signs : List Sign}
    (foreign : ∀ sign ∈ signs, sign.task? ≠ some id) : signsBy id signs = [] := by
  simpa [signsBy] using foreign

theorem signsBy_eq_self {id : TaskId} {signs : List Sign}
    (own : ∀ sign ∈ signs, sign.task? = some id) : signsBy id signs = signs := by
  simpa [signsBy] using own

/-- All signs of a turn. What is asked of the radio is asked behind the reports. -/
def ControlTurn.signs (turn : ControlTurn) : List Sign :=
  turn.reports.map .report ++ turn.requests.map .request

/-- What a disconnection has still to do, where its device is found connected or not at the
end. -/
def HangupTask.rest (h : HangupTask) (connected : Bool) : List Sign :=
  let ending : List Sign := [.report (h.reports (settledState h.aborted connected))]
  let check : List Sign := .request (.confirm h.id h.device) :: ending
  match h.stage with
  | .fresh =>
    .report (h.reports .disconnecting) :: .request (.disconnect h.id h.device) :: check
  | .calling => check
  | .reading => ending

namespace Control

theorem listener_dropHolderLine (c : Control) : c.dropHolderLine.listener = c.listener := by
  obtain same | ⟨line, dropped⟩ := dropHolderLine_cases c
  · rw [same]
  · rw [dropped]
    rfl

theorem listener_closeChannel (c : Control) (device : Address) :
    (c.closeChannel device).2.listener = c.listener := by
  obtain same | ⟨register, closed⟩ := closeChannel_cases c device
  · rw [same]
  · rw [closed]
    exact listener_dropHolderLine c

end Control

/-- A turn of a link, as far as it concerns the rest of the control: disconnections and the
listener are left alone, and the radio is asked in the name of the link. -/
structure ControlTurn.Spares (turn : ControlTurn) (c : Control) (task : TaskId) : Prop where
  hangups : turn.control.hangups = c.hangups
  listener : turn.control.listener = c.listener
  requests : ∀ request ∈ turn.requests, request.task = task

namespace ControlTurn

variable {c : Control} {turn : ControlTurn} {task : TaskId} {device : Address}

theorem spares_still (c : Control) (task : TaskId) : (still c).Spares c task :=
  ⟨rfl, rfl, by simp [still]⟩

namespace Spares

variable (spares : turn.Spares c task)
include spares

theorem setStage (id : TaskId) (stage : LinkStage) :
    (turn.update (·.setStage id stage)).Spares c task :=
  ⟨spares.hangups, spares.listener, spares.requests⟩

theorem ask {request : RadioRequest} (own : request.task = task) :
    (turn.ask request).Spares c task where
  hangups := spares.hangups
  listener := spares.listener
  requests := by
    intro other inside
    obtain before | new := List.mem_append.mp inside
    · exact spares.requests other before
    · exact List.mem_singleton.mp new ▸ own

theorem reportConnection (state : ConnectionState) :
    (turn.reportConnection task device state).Spares c task :=
  ⟨spares.hangups, spares.listener, spares.requests⟩

theorem reportData (packet : Packet) : (turn.reportData task packet).Spares c task :=
  ⟨spares.hangups, spares.listener, spares.requests⟩

theorem quit : (turn.quit task device).Spares c task :=
  ⟨spares.hangups, spares.listener, spares.requests⟩

theorem install (socket : SocketId) (now : Nat) :
    (turn.install task device socket now).Spares c task := by
  cases opened : turn.control.openChannel? device task with
  | none =>
      rw [Control.install_refused opened]
      exact ⟨spares.hangups, spares.listener, spares.requests⟩
  | some result =>
      obtain ⟨handle, after⟩ := result
      rw [Control.install_opened opened]
      obtain ⟨-, rfl⟩ := Control.openChannel?_some opened
      have hangups := (Control.Narrows.dropHolderLine turn.control).hangups
      have listener := Control.listener_dropHolderLine turn.control
      exact ⟨hangups.trans spares.hangups, listener.trans spares.listener, spares.requests⟩

theorem dropService : (turn.dropService task device).Spares c task := by
  rw [Control.dropService_eq]
  have hangups := (Control.Narrows.closeChannel turn.control device).hangups
  have listener := Control.listener_closeChannel turn.control device
  exact ⟨hangups.trans spares.hangups, listener.trans spares.listener, spares.requests⟩

end Spares

end ControlTurn

namespace Control

variable {c c' : Control} {id task : TaskId} {bound : TaskId} {h : HangupTask}

/-- The signs that are given when something happens. Requests of the machine only start and
end tasks. -/
def signsOf (c : Control) : ControlAction → List Sign
  | .step now step => (c.step now step).signs
  | _ => []

/-- The signs that are given while several things happen in a row. -/
def signs (c : Control) : List ControlAction → List Sign
  | [] => []
  | action :: rest => c.signsOf action ++ (c.act action).signs rest

/-! ## Whose signs they are -/

section Links

variable (c) (t : LinkTask) (now : Nat)

theorem spares_start : (c.start t now).Spares c t.id := by
  have still := ControlTurn.spares_still c t.id
  unfold start
  split
  · exact (still.setStage _ _).ask rfl
  · exact ((still.reportConnection _).reportConnection _).install _ _
  · exact still

theorem spares_dialed (connected : Bool) : (c.dialed t connected now).Spares c t.id := by
  have still := ControlTurn.spares_still c t.id
  unfold dialed
  split
  · exact ((still.reportConnection _).setStage _ _).ask rfl
  · exact still.quit
  · exact still

theorem spares_dialExpired : (c.dialExpired t now).Spares c t.id := by
  have still := ControlTurn.spares_still c t.id
  unfold dialExpired
  split
  · split
    · exact still.quit
    · exact still
  · exact still

theorem spares_opened (socket : Option SocketId) : (c.opened t socket now).Spares c t.id := by
  have still := ControlTurn.spares_still c t.id
  unfold opened
  split
  · exact still.install _ _
  · exact still.setStage _ _
  · exact still

theorem spares_openExpired : (c.openExpired t now).Spares c t.id := by
  have still := ControlTurn.spares_still c t.id
  unfold openExpired
  split
  · split
    · exact still.setStage _ _
    · exact still
  · exact still

theorem spares_relayed (step : RelayStep) : (c.relayed t step).Spares c t.id := by
  have still := ControlTurn.spares_still c t.id
  unfold relayed
  split
  · split
    · exact still.setStage _ _
    · exact still
  · exact still

theorem spares_received : (c.received t).Spares c t.id := by
  have still := ControlTurn.spares_still c t.id
  unfold received
  split
  · split
    · split
      · exact still
      · split
        · exact (still.setStage _ _).reportData _
        · exact (still.setStage _ _).dropService
        · exact still
    · exact still
  · exact still

theorem spares_tick : (c.tick t now).Spares c t.id := by
  have still := ControlTurn.spares_still c t.id
  unfold tick
  split
  · split
    · exact (still.setStage _ _).ask rfl
    · exact still
  · exact still

theorem spares_polled (connected : Bool) : (c.polled t connected).Spares c t.id := by
  have still := ControlTurn.spares_still c t.id
  unfold polled
  split
  · split
    · exact still
    · split
      · exact still.setStage _ _
      · exact still.dropService.quit
  · exact still

end Links

/-- What a step of a disconnection comes to: nothing, a part of what it has still to do, or
all that is left of it. -/
inductive Settles (c : Control) (h : HangupTask) (turn : ControlTurn) : Prop where
  | still (idle : turn = .still c)
  | onward {stage : HangupStage} (control : turn.control = c.setHangupStage h.id stage)
      (script : ∀ connected,
        turn.signs ++ { h with stage := stage }.rest connected = h.rest connected)
  | done (connected : Bool) (control : turn.control = c.endHangup h.id)
      (script : turn.signs = h.rest connected)

section Hangups

variable (c) (h : HangupTask)

theorem settles_hangup : c.Settles h (c.hangup h) := by
  unfold hangup
  split
  · rename_i stage
    refine .onward rfl fun connected => ?_
    simp [reportConnection_eq, ControlTurn.signs, ControlTurn.still, ControlTurn.update,
      ControlTurn.ask, HangupTask.rest, stage, HangupTask.reports]
  · exact .still rfl

theorem settles_hungUp : c.Settles h (c.hungUp h) := by
  unfold hungUp
  split
  · rename_i stage
    refine .onward rfl fun connected => ?_
    simp [ControlTurn.signs, ControlTurn.still, ControlTurn.update, ControlTurn.ask,
      HangupTask.rest, stage, HangupTask.reports]
  · exact .still rfl

theorem settles_settled (connected : Bool) : c.Settles h (c.settled h connected) := by
  unfold settled
  split
  · rename_i stage
    refine .done connected rfl ?_
    simp [reportConnection_eq, ControlTurn.signs, ControlTurn.still, ControlTurn.update,
      HangupTask.rest, stage, HangupTask.reports]
  · exact .still rfl

end Hangups

/-- All that a disconnection has still to do is done in its own name. -/
theorem task_rest (h : HangupTask) (connected : Bool) :
    ∀ sign ∈ h.rest connected, sign.task? = some h.id := by
  rcases stage : h.stage <;>
    simp [HangupTask.rest, stage, HangupTask.reports, Sign.task?, RadioRequest.task]

/-- Whose turn a turn is, and what it comes to for the rest of the control. -/
inductive Takes (c : Control) (turn : ControlTurn) : Option TaskId → Prop where
  | still {task? : Option TaskId} (idle : turn = .still c) : Takes c turn task?
  | link {t : LinkTask} (runs : t ∈ c.tasks) (own : turn.IsOf c t.id)
      (spares : turn.Spares c t.id) : Takes c turn (some t.id)
  | hangup {h : HangupTask} (runs : h ∈ c.hangups) (settles : c.Settles h turn) :
      Takes c turn (some h.id)
  | listener (listens : c.listener ≠ none) (hangups : turn.control.hangups = c.hangups)
      (silent : turn.requests = []) (anonymous : ∀ report ∈ turn.reports, report.task = none) :
      Takes c turn none

theorem takes_onTask {step : LinkTask → ControlTurn} (own : ∀ t, (step t).IsOf c t.id)
    (spares : ∀ t, (step t).Spares c t.id) : c.Takes (c.onTask task step) (some task) := by
  unfold onTask
  split
  · rename_i t found
    obtain rfl := id_of_task? found
    exact .link (mem_of_task? found) (own t) (spares t)
  · exact .still rfl

theorem takes_onHangup {step : HangupTask → ControlTurn} (settles : ∀ h, c.Settles h (step h)) :
    c.Takes (c.onHangup task step) (some task) := by
  unfold onHangup
  split
  · rename_i h found
    have same : h.id = task := by simpa using List.find?_some found
    exact same ▸ .hangup (List.mem_of_find?_eq_some found) (settles h)
  · exact .still rfl

/-- Every step is a turn of the task that takes it, or of the listener. -/
theorem takes_step (c : Control) (now : Nat) (step : ControlStep) :
    c.Takes (c.step now step) step.task? := by
  cases step with
  | start =>
      exact takes_onTask (fun t => isOf_start c t now) fun t => spares_start c t now
  | dialed _ connected =>
      exact takes_onTask (fun t => isOf_dialed c t now connected)
        fun t => spares_dialed c t now connected
  | dialExpired =>
      exact takes_onTask (fun t => isOf_dialExpired c t now) fun t => spares_dialExpired c t now
  | opened _ socket =>
      exact takes_onTask (fun t => isOf_opened c t now socket)
        fun t => spares_opened c t now socket
  | openExpired =>
      exact takes_onTask (fun t => isOf_openExpired c t now) fun t => spares_openExpired c t now
  | relayed _ step =>
      exact takes_onTask (fun t => isOf_relayed c t step) fun t => spares_relayed c t step
  | received => exact takes_onTask (isOf_received c) (spares_received c)
  | tick => exact takes_onTask (fun t => isOf_tick c t now) fun t => spares_tick c t now
  | polled _ connected =>
      exact takes_onTask (fun t => isOf_polled c t connected)
        fun t => spares_polled c t connected
  | hangup => exact takes_onHangup (settles_hangup c)
  | hungUp => exact takes_onHangup (settles_hungUp c)
  | settled _ connected => exact takes_onHangup fun h => settles_settled c h connected
  | accepted socket device =>
      show c.Takes (c.accepted socket device) none
      unfold accepted
      split
      · rename_i listens
        have ended := (Narrows.endLink (c.reopen device) device).hangups
        exact .listener (by simp [listens]) ended rfl (by simp [ControlTurn.still])
      · exact .still rfl
  | acceptFailed code message =>
      show c.Takes (c.acceptFailed code message now) none
      unfold acceptFailed
      split
      · rename_i listens
        exact .listener (by simp [listens]) rfl rfl (by simp)
      · exact .still rfl
  | resumed =>
      show c.Takes (c.resumed now) none
      unfold resumed
      split
      · rename_i moment listens
        refine .listener (by simp [listens]) ?_ rfl (by simp [ControlTurn.still])
        split <;> rfl
      · exact .still rfl

namespace Takes

variable {turn : ControlTurn} {taker : Option TaskId} (takes : c.Takes turn taker)
include takes

theorem signed : ∀ sign ∈ turn.signs, sign.task? = taker := by
  intro sign inside
  cases takes with
  | still idle =>
      rw [idle] at inside
      cases inside
  | link runs own spares =>
      obtain reported | asked := List.mem_append.mp inside
      · obtain ⟨report, made, rfl⟩ := List.mem_map.mp reported
        exact (own.reports report made).1
      · obtain ⟨request, made, rfl⟩ := List.mem_map.mp asked
        exact congrArg some (spares.requests request made)
  | @hangup h runs settles =>
      cases settles with
      | still idle =>
          rw [idle] at inside
          cases inside
      | onward control script =>
          apply task_rest h false
          rw [← script false]
          exact List.mem_append_left _ inside
      | done connected control script => exact task_rest h connected sign (script ▸ inside)
  | listener listens hangups silent anonymous =>
      simp only [ControlTurn.signs, silent, List.map_nil, List.append_nil] at inside
      obtain ⟨report, made, rfl⟩ := List.mem_map.mp inside
      exact anonymous report made

/-- Who gives a sign runs. -/
theorem runs {sign : Sign} (inside : sign ∈ turn.signs) :
    (∃ t ∈ c.tasks, taker = some t.id) ∨ (∃ h ∈ c.hangups, taker = some h.id) ∨
      taker = none ∧ c.listener ≠ none := by
  cases takes with
  | still idle =>
      rw [idle] at inside
      cases inside
  | link runs => exact .inl ⟨_, runs, rfl⟩
  | hangup runs => exact .inr (.inl ⟨_, runs, rfl⟩)
  | listener listens => exact .inr (.inr ⟨rfl, listens⟩)

/-- No step makes the control listen. -/
theorem listener_eq_none (deaf : c.listener = none) : turn.control.listener = none := by
  cases takes with
  | still idle => exact idle ▸ deaf
  | link _ _ spares => exact spares.listener.trans deaf
  | hangup _ settles =>
      cases settles with
      | still idle => exact idle ▸ deaf
      | onward control => exact control ▸ deaf
      | done _ control => exact control ▸ deaf
  | listener listens => exact absurd deaf listens

end Takes

/-! ## What becomes of a disconnection -/

/-- A request gives no sign. It leaves the disconnections that are under way alone, and may
start one. -/
theorem hangups_request (c : Control) (action : ControlAction) :
    (∃ now step, action = .step now step) ∨ c.signsOf action = [] ∧
      ∃ new, (c.act action).hangups = c.hangups ++ new ∧ ∀ h ∈ new, h.id = c.nextTask := by
  have same {c' : Control} (same : c'.hangups = c.hangups) :
      ∃ new, c'.hangups = c.hangups ++ new ∧ ∀ h ∈ new, h.id = c.nextTask :=
    ⟨[], by simpa using same, by simp⟩
  cases action with
  | connect device =>
      refine .inr ⟨rfl, ?_⟩
      cases idle : c.isLinked device with
      | true => exact same (by rw [Control.act, connect_linked idle])
      | false =>
          rw [Control.act, connect_idle idle]
          exact same rfl
  | disconnect device =>
      refine .inr ⟨rfl, ?_⟩
      by_cases marked : device ∈ c.closing
      · exact same (by rw [Control.act, disconnect_marked marked])
      · rw [Control.act, disconnect_unmarked marked]
        exact ⟨_, rfl, by simp⟩
  | send device packet =>
      refine .inr ⟨rfl, ?_⟩
      obtain kept | ⟨t, -, s, next, -, -, kept⟩ := send_cases c device packet <;>
        rw [Control.act, kept]
      · exact same rfl
      · exact same rfl
  | cleanup => exact .inr ⟨rfl, same (Narrows.dropHolderLine c).hangups⟩
  | listen bound => cases bound <;> exact .inr ⟨rfl, same rfl⟩
  | step now step => exact .inl ⟨now, step, rfl⟩

/-- A disconnection that is there after something happened was there before, or has a new
number. -/
theorem mem_hangups_act {action : ControlAction} (inside : h ∈ (c.act action).hangups) :
    (∃ g ∈ c.hangups, g.id = h.id) ∨ h.id = c.nextTask := by
  obtain ⟨now, step, rfl⟩ | ⟨-, new, grown, numbered⟩ := hangups_request c action
  · obtain ⟨g, runs, same, -⟩ := (moves_step c now step).hangups h inside
    exact .inl ⟨g, runs, same⟩
  · rw [grown] at inside
    obtain before | started := List.mem_append.mp inside
    · exact .inl ⟨h, before, rfl⟩
    · exact .inr (numbered h started)

/-- A step of somebody else leaves a disconnection as it is. -/
theorem Takes.hangups {turn : ControlTurn} {taker : Option TaskId} (takes : c.Takes turn taker)
    (runs : h ∈ c.hangups) (other : taker ≠ some h.id) : h ∈ turn.control.hangups := by
  cases takes with
  | still idle => exact idle ▸ runs
  | link _ _ spares => exact spares.hangups ▸ runs
  | @hangup g _ settles =>
      have distinct : h.id ≠ g.id := fun same => other (congrArg some same.symm)
      cases settles with
      | still idle => exact idle ▸ runs
      | onward control =>
          rw [control]
          exact List.mem_map.mpr ⟨h, runs, if_neg distinct⟩
      | done _ control =>
          rw [control]
          exact List.mem_filter.mpr ⟨runs, by simpa using distinct⟩
  | listener _ same => exact same ▸ runs

/-- Whatever happens, a disconnection goes on with its script or completes it, and gives no
other signs. -/
theorem hangup_act (books : c.Consistent) (runs : h ∈ c.hangups)
    (unlinked : ∀ t ∈ c.tasks, t.id ≠ h.id) (action : ControlAction) :
    (∃ next ∈ (c.act action).hangups, next.id = h.id ∧ ∀ connected,
        signsBy h.id (c.signsOf action) ++ next.rest connected = h.rest connected) ∨
      (∀ g ∈ (c.act action).hangups, g.id ≠ h.id) ∧
        ∃ connected, signsBy h.id (c.signsOf action) = h.rest connected := by
  obtain ⟨now, step, rfl⟩ | ⟨silent, new, grown, -⟩ := hangups_request c action
  · have takes := takes_step c now step
    have theirs := takes.signed
    simp only [signsOf, Control.act]
    by_cases own : step.task? = some h.id
    · rw [signsBy_eq_self fun sign inside => (theirs sign inside).trans own]
      generalize step.task? = taker at takes own
      cases takes with
      | still idle => exact .inl ⟨h, idle ▸ runs, rfl, fun connected => by rw [idle]; rfl⟩
      | link linked => exact absurd (Option.some.inj own) (unlinked _ linked)
      | @hangup g under settles =>
          obtain rfl : g = h :=
            List.inj_on_of_nodup_map books.hangupsDistinct under runs (Option.some.inj own)
          cases settles with
          | still idle => exact .inl ⟨g, idle ▸ runs, rfl, fun _ => by rw [idle]; rfl⟩
          | @onward stage control script =>
              left
              refine ⟨{ g with stage := stage }, ?_, rfl, script⟩
              rw [control]
              exact List.mem_map.mpr ⟨g, runs, if_pos rfl⟩
          | done connected control script =>
              right
              refine ⟨?_, connected, script⟩
              rw [control]
              intro other left
              simpa using (List.mem_filter.mp left).2
      | listener => cases own
    · left
      refine ⟨h, takes.hangups runs own, rfl, fun connected => ?_⟩
      rw [signsBy_eq_nil fun sign inside => (theirs sign inside).symm ▸ own]
      rfl
  · left
    refine ⟨h, grown ▸ List.mem_append_left _ runs, rfl, fun connected => ?_⟩
    rw [silent]
    rfl

/-! ## What was started before some moment -/

/-- Who holds the service channel after a step held it before, or is a link that runs. -/
theorem Moves.holder {reports : List Report} (moves : Moves c reports c')
    {holder : ChannelHolder} (held : c'.register.holder = some holder) :
    c.register.holder = some holder ∨ ∃ t ∈ c.tasks, holder.line = t.id := by
  cases moves with
  | inbound runs _ opened | opened runs _ opened =>
      obtain ⟨-, rfl⟩ := openChannel?_some opened
      obtain rfl := Option.some.inj held
      exact .inr ⟨_, runs, rfl⟩
  | channelEnded | lost => exact .inl (held_of_closeChannel held).1
  | accepted socket device =>
      have before : ((c.reopen device).endLink device).register.holder = some holder := held
      rw [register_endLink] at before
      exact .inl before
  | _ => exact .inl held

theorem holder_act {action : ControlAction} {holder : ChannelHolder}
    (held : (c.act action).register.holder = some holder) :
    c.register.holder = some holder ∨ ∃ t ∈ c.tasks, holder.line = t.id := by
  cases action with
  | connect device =>
      left
      cases idle : c.isLinked device with
      | true => rwa [Control.act, connect_linked idle] at held
      | false =>
          rw [Control.act, connect_idle idle] at held
          exact held
  | disconnect device =>
      left
      by_cases marked : device ∈ c.closing
      · rwa [Control.act, disconnect_marked marked] at held
      · rw [Control.act, disconnect_unmarked marked] at held
        have before := (held_of_closeChannel held).1
        rwa [register_endLink] at before
  | send device packet => exact (moves_send c device packet).holder held
  | cleanup => simp [Control.act, cleanup, ChannelRegister.clear] at held
  | listen bound => cases bound <;> exact .inl held
  | step now step => exact (moves_step c now step).holder held

/-- Of what was started under a number below a bound, only disconnections may still run, and
nothing of it holds the service channel. -/
structure Outlived (c : Control) (bound : TaskId) : Prop where
  custody : c.Custody
  known : bound ≤ c.nextTask
  links : ∀ t ∈ c.tasks, bound ≤ t.id
  free : ∀ holder, c.register.holder = some holder → bound ≤ holder.line

namespace Outlived

variable (outlived : c.Outlived bound)
include outlived

theorem act (action : ControlAction) : (c.act action).Outlived bound where
  custody := outlived.custody.act action
  known := Nat.le_trans outlived.known (nextTask_act c action)
  links := by
    intro u runs
    obtain ⟨t, before, same⟩ | new := runs_act ⟨u, runs, rfl⟩
    · exact same ▸ outlived.links t before
    · exact new ▸ outlived.known
  free := by
    intro holder held
    obtain before | ⟨t, runs, same⟩ := holder_act held
    · exact outlived.free holder before
    · exact same ▸ outlived.links t runs

theorem run (actions : List ControlAction) : (c.run actions).Outlived bound := by
  induction actions generalizing c with
  | nil => exact outlived
  | cons action rest ih => exact ih (outlived.act action)

/-- Whoever shows himself under such a number is a disconnection that runs. -/
theorem hangup_of_sign {later : List ControlAction} {sign : Sign} (inside : sign ∈ c.signs later)
    (signed : sign.task? = some id) (old : id < bound) : ∃ h ∈ c.hangups, h.id = id := by
  induction later generalizing c with
  | nil => cases inside
  | cons action rest ih =>
      obtain now | later := List.mem_append.mp inside
      · cases action with
        | step moment step =>
            have takes := takes_step c moment step
            have taker := (takes.signed sign now).symm.trans signed
            obtain ⟨t, runs, own⟩ | ⟨h, runs, own⟩ | ⟨own, -⟩ := takes.runs now
            · have same : t.id = id := Option.some.inj (own.symm.trans taker)
              exact absurd (same ▸ outlived.links t runs) (Nat.not_le_of_lt old)
            · exact ⟨h, runs, Option.some.inj (own.symm.trans taker)⟩
            · rw [own] at taker
              cases taker
        | _ => cases now
      · obtain ⟨h, runs, same⟩ := ih (outlived.act action) later
        obtain ⟨g, before, numbered⟩ | new := mem_hangups_act runs
        · exact ⟨g, before, numbered.trans same⟩
        · have known : bound ≤ id := same ▸ new ▸ outlived.known
          exact absurd known (Nat.not_le_of_lt old)

/-- A disconnection gives the signs that were still to come of it, one after the other, and no
others. -/
theorem signs_prefix (runs : h ∈ c.hangups) (old : h.id < bound) (later : List ControlAction) :
    ∃ connected, signsBy h.id (c.signs later) <+: h.rest connected := by
  induction later generalizing c h with
  | nil => exact ⟨false, List.nil_prefix⟩
  | cons action rest ih =>
      have unlinked : ∀ t ∈ c.tasks, t.id ≠ h.id := by
        intro t linked same
        exact absurd (same ▸ outlived.links t linked) (Nat.not_le_of_lt old)
      obtain ⟨next, goesOn, same, script⟩ | ⟨ended, connected, script⟩ :=
        hangup_act outlived.custody.books runs unlinked action
      · obtain ⟨connected, begun⟩ := ih (outlived.act action) goesOn (same ▸ old)
        refine ⟨connected, ?_⟩
        rw [signs, signsBy_append, ← script connected, List.prefix_append_right_inj, ← same]
        exact begun
      · have quiet : signsBy h.id ((c.act action).signs rest) = [] := by
          apply signsBy_eq_nil
          intro sign inside signed
          obtain ⟨g, left, same⟩ := (outlived.act action).hangup_of_sign inside signed old
          exact ended g left same
        have whole : signsBy h.id (c.signs (action :: rest)) = h.rest connected := by
          rw [signs, signsBy_append, quiet, script, List.append_nil]
        exact ⟨connected, whole ▸ List.prefix_rfl⟩

end Outlived

theorem listener_act (deaf : c.listener = none) {action : ControlAction}
    (other : ∀ bound, action ≠ .listen bound) : (c.act action).listener = none := by
  cases action with
  | connect device =>
      cases idle : c.isLinked device with
      | true => rwa [Control.act, connect_linked idle]
      | false =>
          rw [Control.act, connect_idle idle]
          exact deaf
  | disconnect device =>
      by_cases marked : device ∈ c.closing
      · rwa [Control.act, disconnect_marked marked]
      · rw [Control.act, disconnect_unmarked marked]
        have ended : (c.endLink device).listener = c.listener := by
          unfold endLink
          split <;> rfl
        exact (listener_closeChannel _ device).trans (ended.trans deaf)
  | send device packet =>
      obtain kept | ⟨t, -, s, next, -, -, kept⟩ := send_cases c device packet <;>
        rw [Control.act, kept] <;> exact deaf
  | cleanup => rfl
  | listen bound => exact absurd rfl (other bound)
  | step now step => exact (takes_step c now step).listener_eq_none deaf

/-- A control that does not listen gives no sign of a listener, unless it listens anew. -/
theorem signs_deaf (deaf : c.listener = none) {later : List ControlAction}
    (never : ∀ bound, ControlAction.listen bound ∉ later) :
    ∀ sign ∈ c.signs later, sign.task? ≠ none := by
  induction later generalizing c with
  | nil => simp [signs]
  | cons action rest ih =>
      intro sign inside anonymous
      have other : ∀ bound, action ≠ .listen bound := by
        rintro bound rfl
        exact never bound List.mem_cons_self
      obtain now | later := List.mem_append.mp inside
      · cases action with
        | step moment step =>
            have takes := takes_step c moment step
            have taker := (takes.signed sign now).symm.trans anonymous
            obtain ⟨t, -, own⟩ | ⟨h, -, own⟩ | ⟨-, listens⟩ := takes.runs now
            · exact nomatch own.symm.trans taker
            · exact nomatch own.symm.trans taker
            · exact listens deaf
        | _ => cases now
      · refine ih (listener_act deaf other) (fun bound inside => ?_) sign later anonymous
        exact never bound (List.mem_cons_of_mem _ inside)

/-! ## Giving everything up -/

/-- Whether everything that was started is over: whatever happens from here on, no task with a
number given so far shows itself, nor does a listener unless it is started anew, and none of
these tasks holds the service channel. -/
def Ended (c : Control) : Prop :=
  ∀ later : List ControlAction,
    (∀ sign ∈ c.signs later, ∀ id, sign.task? = some id → c.nextTask ≤ id) ∧
      ((∀ bound, ControlAction.listen bound ∉ later) →
        ∀ sign ∈ c.signs later, sign.task? ≠ none) ∧
      ∀ holder, (c.run later).register.holder = some holder → c.nextTask ≤ holder.line

theorem outlived_cleanup (custody : c.Custody) : c.cleanup.Outlived c.nextTask where
  custody := custody.cleanup
  known := Nat.le_of_eq (Narrows.dropHolderLine c).nextTask.symm
  links := by simp [custody.books.tasks_cleanup]
  free := by simp [cleanup, ChannelRegister.clear]

/-- A disconnection that runs can show itself at once. -/
theorem exists_sign (books : c.Consistent) (runs : h ∈ c.hangups) :
    ∃ step, ∃ sign ∈ (c.step 0 step).signs, sign.task? = some h.id := by
  have found : c.hangup? h.id = some h := by
    unfold hangup?
    obtain ⟨g, found⟩ := Option.isSome_iff_exists.mp
      (List.find?_isSome.mpr ⟨h, runs, by simp⟩ : (c.hangups.find? (·.id == h.id)).isSome)
    have same : g.id = h.id := by simpa using List.find?_some found
    rw [found, List.inj_on_of_nodup_map books.hangupsDistinct
      (List.mem_of_find?_eq_some found) runs same]
  cases stage : h.stage with
  | fresh =>
      refine ⟨.hangup h.id, .report (h.reports .disconnecting), ?_, rfl⟩
      simp [step, onHangup, found, hangup, stage, reportConnection_eq, ControlTurn.signs,
        ControlTurn.update, ControlTurn.ask, ControlTurn.still, HangupTask.reports]
  | calling =>
      refine ⟨.hungUp h.id, .request (.confirm h.id h.device), ?_, rfl⟩
      simp [step, onHangup, found, hungUp, stage, ControlTurn.signs, ControlTurn.update,
        ControlTurn.ask, ControlTurn.still]
  | reading =>
      refine ⟨.settled h.id false, .report (h.reports .disconnected), ?_, rfl⟩
      simp [step, onHangup, found, settled, stage, reportConnection_eq, ControlTurn.signs,
        ControlTurn.update, ControlTurn.still, HangupTask.reports, settledState]

/-- After everything was given up, at any moment of any run, no link runs, nobody listens, no
service channel is held and no socket is kept open. What was started before shows itself no
more, but for the disconnections that were under way: each of them carries out the rest of
its script, or a first part of it. So everything is over exactly if there was none. -/
theorem cleanup_spares_hangups (psm : UInt16) (pollInterval : Nat)
    (past : List ControlAction) :
    let c := (initial psm pollInterval).run past
    let released := c.cleanup
    (released.tasks = [] ∧ released.listener = none ∧ released.register.holder = none ∧
        ∀ socket, released.holdsSocket socket = false) ∧
      (∀ later : List ControlAction,
        (∀ sign ∈ released.signs later, ∀ id, sign.task? = some id → id < released.nextTask →
            ∃ h ∈ c.hangups, h.id = id) ∧
          (∀ h ∈ c.hangups, ∃ connected,
            signsBy h.id (released.signs later) <+: h.rest connected) ∧
          ((∀ bound, ControlAction.listen bound ∉ later) →
            ∀ sign ∈ released.signs later, sign.task? ≠ none) ∧
          ∀ holder, (released.run later).register.holder = some holder →
            released.nextTask ≤ holder.line) ∧
      (released.Ended ↔ c.hangups = []) := by
  intro c released
  have custody : c.Custody := (custody_initial psm pollInterval).run past
  have unlinked := custody.books.tasks_cleanup
  have hangups : released.hangups = c.hangups := (Narrows.dropHolderLine c).hangups
  have outlived : released.Outlived released.nextTask := by
    have bound : released.nextTask = c.nextTask := (Narrows.dropHolderLine c).nextTask
    exact bound ▸ outlived_cleanup custody
  have deaf : released.listener = none := rfl
  refine ⟨⟨unlinked, deaf, rfl, by simp [holdsSocket, released, unlinked]⟩,
    fun later => ⟨?_, ?_, ?_, ?_⟩, ?_, ?_⟩
  · intro sign inside id signed old
    exact hangups ▸ outlived.hangup_of_sign inside signed old
  · intro h runs
    have runs' : h ∈ released.hangups := hangups ▸ runs
    exact outlived.signs_prefix runs' (outlived.custody.books.hangupsKnown h runs') later
  · exact signs_deaf deaf
  · exact (outlived.run later).free
  · intro ended
    by_contra busy
    obtain ⟨h, runs⟩ := List.exists_mem_of_ne_nil _ busy
    have runs' : h ∈ released.hangups := hangups ▸ runs
    obtain ⟨step, sign, given, own⟩ := exists_sign outlived.custody.books runs'
    have inside : sign ∈ released.signs [.step 0 step] := List.mem_append_left _ given
    have later := (ended [.step 0 step]).1 sign inside h.id own
    exact absurd later (Nat.not_le_of_lt (outlived.custody.books.hangupsKnown h runs'))
  · intro idle later
    refine ⟨?_, signs_deaf deaf, (outlived.run later).free⟩
    intro sign inside id signed
    by_contra old
    obtain ⟨h, runs, -⟩ := outlived.hangup_of_sign inside signed (Nat.lt_of_not_le old)
    rw [hangups, idle] at runs
    cases runs

/-- A device is connected and is being disconnected when everything is given up. Its
disconnection reports that it begins, asks the radio, and reports the end. -/
theorem disconnection_outlives_cleanup :
    let peer : Address := .numbered 1
    let released := ((initial 4097 5000).run
      [.connect peer, .step 0 (.start 0), .step 10 (.dialed 0 true), .disconnect peer]).cleanup
    released.signs
        [.step 20 (.hangup 1), .step 30 (.hungUp 1), .step 40 (.settled 1 false)] =
      [.report ⟨some 1, .connection .disconnecting peer⟩, .request (.disconnect 1 peer),
        .request (.confirm 1 peer), .report ⟨some 1, .connection .disconnected peer⟩] ∧
      ¬ released.Ended := by
  intro peer released
  have shown : released.signs
      [.step 20 (.hangup 1), .step 30 (.hungUp 1), .step 40 (.settled 1 false)] =
        [.report ⟨some 1, .connection .disconnecting peer⟩, .request (.disconnect 1 peer),
          .request (.confirm 1 peer), .report ⟨some 1, .connection .disconnected peer⟩] := by
    decide +kernel
  refine ⟨shown, fun ended => ?_⟩
  have inside : Sign.request (.confirm 1 peer) ∈ released.signs
      [.step 20 (.hangup 1), .step 30 (.hungUp 1), .step 40 (.settled 1 false)] := by
    rw [shown]
    simp
  have later : released.nextTask ≤ 1 := (ended _).1 _ inside 1 rfl
  have next : released.nextTask = 2 := by decide +kernel
  exact absurd (next ▸ later) (by decide)

end Control

end AccessoryLink
