import AccessoryLink.Proofs.Control.Hangups

/-!
# Whose reports they are

A report bears the number of the task that made it. Numbers are never used twice and only
grow, so they tell a task that was started before some moment from one that was started
later. Disconnections are started by requests only (`Moves.hangups`). A link that runs
after a step ran before, or has just been accepted; one that was accepted reports its
device connected before anything else that matters (`Moves.descends`).
-/

namespace AccessoryLink

/-- Whether a link was accepted and has not taken its first step. -/
def LinkTask.Awaits (t : LinkTask) : Prop := ∃ socket, t.stage = .fresh (some socket)

namespace Control

variable {c c' : Control} {reports : List Report} {device : Address} {u : LinkTask}

/-! ## Requests -/

/-- No request to disconnect is refused. -/
theorem disconnect_done (c : Control) (device : Address) : (c.disconnect device).1 = .ok () := by
  by_cases marked : device ∈ c.closing
  · rw [disconnect_marked marked]
    rfl
  · rw [disconnect_unmarked marked]
    rfl

theorem nextTask_connect (c : Control) (device : Address) :
    c.nextTask ≤ (c.connect device).2.nextTask := by
  cases idle : c.isLinked device with
  | true => exact Nat.le_of_eq (by rw [connect_linked idle])
  | false =>
      rw [connect_idle idle]
      exact Nat.le_succ _

theorem nextTask_disconnect (c : Control) (device : Address) :
    c.nextTask ≤ (c.disconnect device).2.nextTask := by
  by_cases marked : device ∈ c.closing
  · exact Nat.le_of_eq (by rw [disconnect_marked marked])
  · rw [disconnect_unmarked marked]
    exact Nat.le_succ _

/-! ## Steps of the tasks -/

/-- No number is used twice. -/
theorem Moves.nextTask (moves : Moves c reports c') : c.nextTask ≤ c'.nextTask := by
  cases moves with
  | inbound _ _ opened | opened _ _ opened =>
      obtain ⟨-, rfl⟩ := openChannel?_some opened
      exact Nat.le_of_eq (Narrows.dropHolderLine c).nextTask.symm
  | @channelEnded t s next =>
      exact Nat.le_of_eq
        (Narrows.closeChannel (c.setStage t.id (.serving next)) t.device).nextTask.symm
  | @lost t => exact Nat.le_of_eq (Narrows.closeChannel c t.device).nextTask.symm
  | accepted socket device =>
      have ended := (Narrows.endLink (c.reopen device) device).nextTask
      exact Nat.le_succ_of_le (Nat.le_of_eq ended.symm)
  | _ => exact Nat.le_refl _

theorem nextTask_send (c : Control) (device : Address) (packet : Packet) :
    c.nextTask ≤ (c.send device packet).2.nextTask :=
  (moves_send c device packet).nextTask

/-- No step of a task starts a disconnection. -/
theorem Moves.hangups (moves : Moves c reports c') :
    ∀ h ∈ c'.hangups, ∃ g ∈ c.hangups, g.id = h.id ∧ g.device = h.device := by
  intro h runs
  obtain kept | ⟨device, accepted, -, rfl⟩ | ⟨t, -, ⟨stage, -, rfl⟩ | ⟨connected, -, rfl⟩⟩ :=
    moves.kinds
  · rw [kept.hangups] at runs
    exact ⟨h, runs, rfl, rfl⟩
  · have ended := (Narrows.endLink (c.reopen device) device).hangups
    have runs : h ∈ ((c.reopen device).endLink device).hangups := runs
    rw [ended] at runs
    exact ⟨h, runs, rfl, rfl⟩
  · obtain ⟨g, before, rfl⟩ := List.mem_map.mp runs
    refine ⟨g, before, ?_⟩
    split <;> exact ⟨rfl, rfl⟩
  · exact ⟨h, (List.mem_filter.mp runs).1, rfl, rfl⟩

/-- Every report is one of a task that runs, but for the failures of the listener. -/
theorem Moves.authors (moves : Moves c reports c') :
    ∀ report ∈ reports, (∃ t ∈ c.tasks, report.task = some t.id) ∨
      (∃ h ∈ c.hangups, report.task = some h.id) ∨
      ∃ code text, report.event = .error code text := by
  intro report inside
  have link {t : LinkTask} (runs : t ∈ c.tasks) (own : report.task = some t.id) :
      (∃ t ∈ c.tasks, report.task = some t.id) ∨ (∃ h ∈ c.hangups, report.task = some h.id) ∨
        ∃ code text, report.event = .error code text := .inl ⟨t, runs, own⟩
  cases moves with
  | still | dialing | unserved | served | hangupAsked | accepted => cases inside
  | dialed runs | dialFailed runs | opened runs | openRefused runs | received runs =>
      obtain rfl := List.mem_singleton.mp inside
      exact link runs rfl
  | inbound runs | inboundRefused runs =>
      simp only [List.mem_cons, List.not_mem_nil, or_false] at inside
      obtain rfl | rfl | rfl := inside <;> exact link runs rfl
  | channelEnded runs =>
      rw [eq_of_serviceEnd inside] at link ⊢
      exact link runs rfl
  | lost runs =>
      obtain service | last := List.mem_append.mp inside
      · rw [eq_of_serviceEnd service] at link ⊢
        exact link runs rfl
      · obtain rfl := List.mem_singleton.mp last
        exact link runs rfl
  | hangupStarted runs | settled runs =>
      obtain rfl := List.mem_singleton.mp inside
      exact .inr (.inl ⟨_, runs, rfl⟩)
  | listened _ failures => exact .inr (.inr (failures report inside))

/-- A report that a device is disconnected comes from a link of it that has taken its first
step, or from a disconnection of it. A link may also make it with its first step, but not
without reporting the device connected before. -/
theorem Moves.farewell (moves : Moves c reports c') {front back : List Report}
    {report : Report} (split : reports = front ++ report :: back)
    (event : report.event = .connection .disconnected device) :
    (∃ t ∈ c.tasks, ¬ t.Awaits ∧ t.device = device ∧ report.task = some t.id) ∨
      (∃ h ∈ c.hangups, h.device = device ∧ report.task = some h.id) ∨
      ∃ earlier ∈ front, earlier.event = .connection .connected device := by
  have inside : report ∈ reports := by simp [split]
  have link {t : LinkTask} {stage : LinkStage} (runs : t ∈ c.tasks) (at' : t.stage = stage)
      (other : ∀ socket, stage ≠ .fresh (some socket)) (same : report = t.reports .disconnected) :
      ∃ t ∈ c.tasks, ¬ t.Awaits ∧ t.device = device ∧ report.task = some t.id := by
    subst same
    refine ⟨t, runs, ?_, (StackEvent.connection.inj event).2, rfl⟩
    rintro ⟨socket, fresh⟩
    exact other socket (at'.symm.trans fresh)
  cases moves with
  | still | dialing | unserved | served | hangupAsked | accepted => cases inside
  | dialFailed runs stage | openRefused runs stage =>
      exact .inl (link runs stage (by simp) (List.mem_singleton.mp inside))
  | dialed | opened | received =>
      rw [List.mem_singleton.mp inside] at event
      cases event
  | inbound =>
      simp only [List.mem_cons, List.not_mem_nil, or_false] at inside
      obtain rfl | rfl | rfl := inside <;> cases event
  | @inboundRefused t =>
      obtain _ | ⟨first, _ | ⟨second, front⟩⟩ := front
      · rw [← (List.cons.inj split).1] at event
        cases event
      · rw [← (List.cons.inj (List.cons.inj split).2).1] at event
        cases event
      · obtain ⟨rfl, rest⟩ := List.cons.inj (List.cons.inj split).2
        have last : report ∈ [t.reports .disconnected] := by
          rw [rest]
          exact List.mem_append_right front List.mem_cons_self
        rw [List.mem_singleton.mp last] at event
        obtain ⟨-, rfl⟩ := StackEvent.connection.inj event
        exact .inr (.inr ⟨_, List.mem_cons_of_mem _ List.mem_cons_self, rfl⟩)
  | channelEnded =>
      rw [eq_of_serviceEnd inside] at event
      cases event
  | lost runs stage =>
      obtain service | last := List.mem_append.mp inside
      · rw [eq_of_serviceEnd service] at event
        cases event
      · exact .inl (link runs stage (by simp) (List.mem_singleton.mp last))
  | hangupStarted =>
      rw [List.mem_singleton.mp inside] at event
      cases event
  | settled runs =>
      rw [List.mem_singleton.mp inside] at event ⊢
      exact .inr (.inl ⟨_, runs, (StackEvent.connection.inj event).2, rfl⟩)
  | listened _ failures =>
      obtain ⟨code, text, failure⟩ := failures report inside
      rw [failure] at event
      cases event

/-! ## Which links run -/

/-- What takes no link on keeps those that wait for their first step as they are. -/
def Keeps (c c' : Control) : Prop :=
  ∀ u ∈ c'.tasks, ∃ t ∈ c.tasks, t.id = u.id ∧ t.device = u.device ∧ (t.Awaits → u.Awaits)

theorem keeps_of_subset (fewer : c'.tasks ⊆ c.tasks) : Keeps c c' :=
  fun u runs => ⟨u, fewer runs, rfl, rfl, id⟩

theorem keeps_dropLine (c : Control) (line : Nat) : Keeps c (c.dropLine line) := by
  intro u runs
  obtain ⟨t, before, rfl⟩ := List.mem_map.mp runs
  refine ⟨t, before, ?_⟩
  split
  · rename_i s stage
    have served : ¬ t.Awaits := by
      rintro ⟨socket, fresh⟩
      rw [stage] at fresh
      cases fresh
    split <;> exact ⟨rfl, rfl, fun fresh => absurd fresh served⟩
  · exact ⟨rfl, rfl, id⟩

theorem keeps_dropHolderLine (c : Control) : Keeps c c.dropHolderLine := by
  obtain same | ⟨line, dropped⟩ := dropHolderLine_cases c
  · rw [same]
    exact keeps_of_subset (List.Subset.refl _)
  · rw [dropped]
    exact keeps_dropLine c line

theorem keeps_closeChannel (c : Control) (device : Address) :
    Keeps c (c.closeChannel device).2 := by
  obtain same | ⟨register, closed⟩ := closeChannel_cases c device
  · rw [same]
    exact keeps_of_subset (List.Subset.refl _)
  · rw [closed]
    exact keeps_dropHolderLine c

/-- Where a link that runs after a step comes from: it was accepted, and has not taken its
first step, or it ran before the step. If that was its first, it has reported its device
connected. -/
def Descends (c : Control) (reports : List Report) (u : LinkTask) : Prop :=
  u.Awaits ∨ ∃ t ∈ c.tasks, t.id = u.id ∧ t.device = u.device ∧
    (t.Awaits → ∃ report ∈ reports, report.event = .connection .connected u.device)

theorem Keeps.descends (keeps : Keeps c c') (runs : u ∈ c'.tasks) : c.Descends reports u := by
  obtain ⟨t, before, id, device, kept⟩ := keeps u runs
  by_cases fresh : t.Awaits
  · exact .inl (kept fresh)
  · exact .inr ⟨t, before, id, device, fun again => absurd again fresh⟩

theorem descends_of_mem (before : u ∈ c.tasks) : c.Descends reports u :=
  (keeps_of_subset (List.Subset.refl _)).descends before

/-- A link that has taken its first step goes on. -/
theorem descends_of_started {t : LinkTask} (runs : t ∈ c.tasks) (started : ¬ t.Awaits)
    (id : t.id = u.id) (device : t.device = u.device) : c.Descends reports u :=
  .inr ⟨t, runs, id, device, fun fresh => absurd fresh started⟩

/-- A link is moved on, and the others are as they were. -/
theorem descends_setStage (books : c.Consistent) {t : LinkTask} (runs : t ∈ c.tasks)
    (started : ¬ t.Awaits) {stage : LinkStage} (inside : u ∈ (c.setStage t.id stage).tasks) :
    c.Descends reports u := by
  obtain rfl | ⟨before, -⟩ := books.mem_setStage runs inside
  · exact descends_of_started runs started rfl rfl
  · exact descends_of_mem before

/-- A link has got the service channel and is moved on. -/
theorem descends_openChannel (books : c.Consistent) {t : LinkTask} (runs : t ∈ c.tasks)
    {handle : ChannelHandle} {after : Control}
    (opened : c.openChannel? t.device t.id = some (handle, after)) {stage : LinkStage}
    (inside : u ∈ (after.setStage t.id stage).tasks)
    (told : t.Awaits → ∃ report ∈ reports, report.event = .connection .connected t.device) :
    c.Descends reports u := by
  obtain ⟨-, rfl⟩ := openChannel?_some opened
  obtain ⟨v, middle, rfl⟩ := List.mem_map.mp inside
  obtain ⟨x, before, id, device, kept⟩ := keeps_dropHolderLine c v middle
  split
  · rename_i same
    obtain rfl := books.eq_of_id runs before (id.trans same)
    exact .inr ⟨x, before, id, device, fun fresh => device ▸ told fresh⟩
  · exact (keeps_dropHolderLine c).descends middle

/-- Every link that runs after a step comes from one that ran before, or was accepted. -/
theorem Moves.descends (moves : Moves c reports c') (books : c.Consistent)
    (runs : u ∈ c'.tasks) : c.Descends reports u := by
  have started {t : LinkTask} {stage : LinkStage} (at' : t.stage = stage)
      (other : ∀ socket, stage ≠ .fresh (some socket)) : ¬ t.Awaits := by
    rintro ⟨socket, fresh⟩
    exact other socket (at'.symm.trans fresh)
  cases moves with
  | still | hangupStarted | hangupAsked | settled | listened => exact descends_of_mem runs
  | dialing links stage | dialed links stage | unserved links stage | served links stage
  | received links stage =>
      exact descends_setStage books links (started stage (by simp)) runs
  | dialFailed | openRefused | inboundRefused =>
      exact descends_of_mem (mem_endTask.mp runs).1
  | inbound links stage opened =>
      exact descends_openChannel books links opened runs fun _ =>
        ⟨LinkTask.reports _ .connected, by simp, rfl⟩
  | opened links stage opened =>
      exact descends_openChannel books links opened runs fun fresh =>
        absurd fresh (started stage (by simp))
  | @channelEnded t s next links stage =>
      obtain ⟨v, middle, id, device, kept⟩ :=
        keeps_closeChannel (c.setStage t.id (.serving next)) t.device u runs
      obtain rfl | ⟨before, -⟩ := books.mem_setStage links middle
      · exact descends_of_started links (started stage (by simp)) id device
      · by_cases fresh : v.Awaits
        · exact .inl (kept fresh)
        · exact descends_of_started before fresh id device
  | @lost t => exact (keeps_closeChannel c t.device).descends (mem_endTask.mp runs).1
  | accepted socket device =>
      obtain before | rfl := mem_startLink.mp runs
      · have left := ((books.reopen device).mem_endLink before).1
        exact descends_of_mem left
      · exact .inl ⟨socket, rfl⟩

end Control

end AccessoryLink
