import AccessoryLink.Proofs.Control.Books

/-!
# Disconnections under way

A request to disconnect a device starts a task, unless the device is marked as being
disconnected already. The mark outlives the task: it is removed only when a new link of
the device begins. So what a repeated request may rely on is not the mark itself but the
report that the task makes at its end.

The requests are taken together in `Follows`, and the steps of the tasks have a lemma for
each thing that a disconnection depends on. A task that has aborted a link reports the
device disconnected, whatever the radio says (`Moves.hangs`), and a link reports nothing
of a device that is marked (`Moves.source`).
-/

namespace AccessoryLink

/-- In a list, each `first` has a `second` somewhere behind it. -/
def FollowedBy {α : Type} (first second : α) : List α → Prop
  | [] => True
  | x :: rest => (x = first → second ∈ rest) ∧ FollowedBy first second rest

namespace FollowedBy

variable {α : Type} {first second : α} {l l' : List α}

theorem of_not_mem (absent : first ∉ l) : FollowedBy first second l := by
  induction l with
  | nil => trivial
  | cons x rest ih =>
      obtain ⟨other, later⟩ := not_or.mp (mt List.mem_cons.mpr absent)
      exact ⟨fun same => absurd same.symm other, ih later⟩

theorem append (front : FollowedBy first second l) (back : FollowedBy first second l') :
    FollowedBy first second (l ++ l') := by
  induction l with
  | nil => exact back
  | cons x rest ih =>
      exact ⟨fun same => List.mem_append_left _ (front.1 same), ih front.2⟩

/-- What comes at the end comes behind everything. -/
theorem append_of_mem (absent : first ∉ l') (inside : second ∈ l') :
    FollowedBy first second (l ++ l') := by
  induction l with
  | nil => exact of_not_mem absent
  | cons x rest ih => exact ⟨fun _ => List.mem_append_right _ inside, ih⟩

end FollowedBy

namespace Control

variable {c c' : Control} {device other : Address}

/-- Whether the control has a link of a device filed, or was asked to disconnect it. -/
def Knows (c : Control) (device : Address) : Prop :=
  device ∈ c.closing ∨ (c.links.lookup device).isSome

/-- Whether a disconnection of a device has still to make its last report. -/
def HangsUp (c : Control) (device : Address) : Prop := ∃ h ∈ c.hangups, h.device = device

/-- Whether every disconnection under way has aborted a link. -/
def Aborting (c : Control) : Prop := ∀ h ∈ c.hangups, h.aborted = true

/-- Disconnections, their marks and the links filed are all as before. -/
structure Untouched (c c' : Control) : Prop where
  links : c'.links = c.links
  closing : c'.closing = c.closing
  hangups : c'.hangups = c.hangups

theorem Narrows.untouched (narrows : Narrows c c') : Untouched c c' :=
  ⟨narrows.links, narrows.closing, narrows.hangups⟩

theorem Untouched.knows (same : Untouched c c') (known : c.Knows device) :
    c'.Knows device := by
  rw [Knows, same.closing, same.links]
  exact known

theorem Untouched.hangs (same : Untouched c c') (hangs : c.HangsUp device) :
    c'.HangsUp device := by
  rw [HangsUp, same.hangups]
  exact hangs

theorem Knows.reopen (known : c.Knows other) (distinct : other ≠ device) :
    (c.reopen device).Knows other := by
  obtain marked | filed := known
  · exact .inl (List.mem_filter.mpr ⟨marked, by simpa using distinct⟩)
  · exact .inr filed

/-- A device becomes known with its link. -/
theorem knows_startLink (c : Control) (device : Address) (accepted : Option SocketId) :
    (c.startLink device accepted).Knows device :=
  .inr (by simp [Control.startLink, setLink])

theorem Knows.startLink (known : c.Knows other) (distinct : other ≠ device)
    (accepted : Option SocketId) : (c.startLink device accepted).Knows other := by
  obtain marked | filed := known
  · exact .inl marked
  · right
    show (List.lookup other ((device, c.nextTask) :: c.links.filter (·.1 != device))).isSome
    rw [List.lookup_cons, beq_false_of_ne distinct, lookup_filter_ne distinct]
    exact filed

/-! ## Requests -/

/-- How a request leaves the disconnections. -/
structure Follows (c c' : Control) : Prop where
  knows : ∀ device, c.Knows device → c'.Knows device
  hangs : ∀ device, c.HangsUp device → c'.HangsUp device
  /-- With every new mark there is a task that will make its report. -/
  marks : ∀ device ∈ c'.closing, device ∈ c.closing ∨ c'.HangsUp device
  aborts : c.Aborting → c'.Aborting

theorem Untouched.follows (same : Untouched c c') : Follows c c' where
  knows _ := same.knows
  hangs _ := same.hangs
  marks device marked := .inl (same.closing ▸ marked)
  aborts aborting := by
    rw [Aborting, same.hangups]
    exact aborting

theorem untouched_refl (c : Control) : Untouched c c := ⟨rfl, rfl, rfl⟩

theorem follows_connect (c : Control) (device : Address) :
    Follows c (c.connect device).2 := by
  cases idle : c.isLinked device with
  | true =>
      rw [connect_linked idle]
      exact (untouched_refl c).follows
  | false =>
      rw [connect_idle idle]
      refine ⟨?_, fun _ hangs => hangs, ?_, fun aborting => aborting⟩
      · intro other known
        by_cases same : other = device
        · subst same
          exact knows_startLink _ other none
        · exact (known.reopen same).startLink same none
      · intro other marked
        exact .inl (List.mem_filter.mp marked).1

/-- A request to connect is accepted if no link of the device runs, and starts one. -/
theorem connect_accepted (accepted : (c.connect device).1 = .ok ()) :
    c.isLinked device = false ∧
      (c.connect device).2 = (c.reopen device).startLink device none := by
  cases idle : c.isLinked device with
  | true =>
      rw [connect_linked idle] at accepted
      cases accepted
  | false => exact ⟨rfl, by rw [connect_idle idle]⟩

/-- A device that is being connected is known. -/
theorem knows_connect (accepted : (c.connect device).1 = .ok ()) :
    (c.connect device).2.Knows device := by
  rw [(connect_accepted accepted).2]
  exact knows_startLink _ device none

theorem follows_send (c : Control) (device : Address) (packet : Packet) :
    Follows c (c.send device packet).2 := by
  obtain same | ⟨t, -, s, next, -, -, same⟩ := send_cases c device packet
  · rw [same]
    exact (untouched_refl c).follows
  · rw [same]
    exact Untouched.follows ⟨rfl, rfl, rfl⟩

/-- A disconnection of a device that the control knows aborts its link. -/
theorem follows_disconnect (known : c.Knows device) : Follows c (c.disconnect device).2 := by
  by_cases marked : device ∈ c.closing
  · rw [disconnect_marked marked]
    exact (untouched_refl c).follows
  · rw [disconnect_unmarked marked]
    refine ⟨?_, ?_, ?_, ?_⟩
    · intro other known
      by_cases same : other = device
      · exact .inl (by simp [same])
      · obtain before | filed := known
        · exact .inl (List.mem_append_left _ before)
        · right
          show (List.lookup other (c.links.filter (·.1 != device))).isSome
          rw [lookup_filter_ne same]
          exact filed
    · rintro other ⟨h, runs, same⟩
      exact ⟨h, List.mem_append_left _ runs, same⟩
    · intro other marks
      obtain before | new := List.mem_append.mp marks
      · exact .inl before
      · right
        rw [List.mem_singleton.mp new]
        exact ⟨_, List.mem_append_right _ (List.mem_singleton_self _), rfl⟩
    · intro aborting h runs
      obtain before | new := List.mem_append.mp runs
      · exact aborting h before
      · rw [List.mem_singleton.mp new]
        exact known.resolve_left marked

/-- A request to disconnect a device starts a task, if the device was not marked. -/
theorem hangsUp_disconnect (c : Control) (device : Address) :
    device ∈ c.closing ∨ (c.disconnect device).2.HangsUp device := by
  by_cases marked : device ∈ c.closing
  · exact .inl marked
  · right
    rw [disconnect_unmarked marked]
    exact ⟨_, List.mem_append_right _ (List.mem_singleton_self _), rfl⟩

/-! ## Steps of the tasks -/

variable {reports : List Report}

/-- A step is one of a link, of the listener, or of a disconnection. -/
theorem Moves.kinds (moves : Moves c reports c') :
    Untouched c c' ∨
      (∃ device accepted, reports = [] ∧
        c' = ((c.reopen device).endLink device).startLink device accepted) ∨
      ∃ t ∈ c.hangups,
        (∃ stage, (∀ report ∈ reports, report = t.reports .disconnecting) ∧
          c' = c.setHangupStage t.id stage) ∨
        ∃ connected, reports = [t.reports (settledState t.aborted connected)] ∧
          c' = c.endHangup t.id := by
  cases moves with
  | accepted socket device => exact .inr (.inl ⟨device, some socket, rfl, rfl⟩)
  | hangupStarted runs => exact .inr (.inr ⟨_, runs, .inl ⟨_, by simp, rfl⟩⟩)
  | hangupAsked runs => exact .inr (.inr ⟨_, runs, .inl ⟨_, by simp, rfl⟩⟩)
  | settled runs _ connected => exact .inr (.inr ⟨_, runs, .inr ⟨connected, rfl, rfl⟩⟩)
  | inbound _ _ opened | opened _ _ opened =>
      obtain ⟨-, rfl⟩ := openChannel?_some opened
      have kept := (Narrows.dropHolderLine c).untouched
      exact .inl ⟨kept.links, kept.closing, kept.hangups⟩
  | @channelEnded t s next =>
      have kept :=
        (Narrows.closeChannel (c.setStage t.id (.serving next)) t.device).untouched
      exact .inl ⟨kept.links, kept.closing, kept.hangups⟩
  | @lost t =>
      have kept := (Narrows.closeChannel c t.device).untouched
      exact .inl ⟨kept.links, kept.closing, kept.hangups⟩
  | _ => exact .inl ⟨rfl, rfl, rfl⟩

/-- Only a link that begins removes a mark, and no step of a task sets one. -/
theorem Moves.closing (moves : Moves c reports c') : c'.closing ⊆ c.closing := by
  obtain kept | ⟨device, accepted, -, rfl⟩ | ⟨t, -, ⟨stage, -, rfl⟩ | ⟨connected, -, rfl⟩⟩ :=
    moves.kinds
  · rw [kept.closing]
    exact List.Subset.refl _
  · have ended := (Narrows.endLink (c.reopen device) device).closing
    show ((c.reopen device).endLink device).closing ⊆ c.closing
    rw [ended]
    exact List.filter_sublist.subset
  · exact List.Subset.refl _
  · exact List.Subset.refl _

theorem Moves.knows (moves : Moves c reports c') (known : c.Knows other) :
    c'.Knows other := by
  obtain kept | ⟨device, accepted, -, rfl⟩ | ⟨t, -, ⟨stage, -, rfl⟩ | ⟨connected, -, rfl⟩⟩ :=
    moves.kinds
  · exact kept.knows known
  · by_cases same : other = device
    · subst same
      exact knows_startLink _ other accepted
    · have ended := (Narrows.endLink (c.reopen device) device).untouched
      exact (ended.knows (known.reopen same)).startLink same accepted
  · exact known
  · exact known

theorem Moves.aborting (moves : Moves c reports c') (aborting : c.Aborting) :
    c'.Aborting := by
  obtain kept | ⟨device, accepted, -, rfl⟩ | ⟨t, -, ⟨stage, -, rfl⟩ | ⟨connected, -, rfl⟩⟩ :=
    moves.kinds
  · exact kept.follows.aborts aborting
  · exact (Narrows.endLink (c.reopen device) device).untouched.follows.aborts aborting
  · intro h runs
    obtain ⟨g, before, rfl⟩ := List.mem_map.mp runs
    split
    · exact aborting g before
    · exact aborting g before
  · intro h runs
    exact aborting h (List.mem_filter.mp runs).1

/-- A disconnection goes on, or reports its device disconnected. -/
theorem Moves.hangs (moves : Moves c reports c') (books : c.Consistent)
    (aborting : c.Aborting) (hangs : c.HangsUp device) :
    c'.HangsUp device ∨
      ∃ report ∈ reports, report.event = .connection .disconnected device := by
  obtain kept | ⟨other, accepted, -, rfl⟩ | ⟨t, ends, ⟨stage, -, rfl⟩ | ⟨connected, rfl, rfl⟩⟩
    := moves.kinds
  · exact .inl (kept.hangs hangs)
  · exact .inl ((Narrows.endLink (c.reopen other) other).untouched.hangs hangs)
  · left
    obtain ⟨h, runs, own⟩ := hangs
    refine ⟨_, List.mem_map_of_mem runs, ?_⟩
    split <;> exact own
  · obtain ⟨h, runs, own⟩ := hangs
    by_cases same : h.id = t.id
    · right
      obtain rfl := List.inj_on_of_nodup_map books.hangupsDistinct runs ends same
      refine ⟨_, List.mem_singleton_self _, ?_⟩
      simp [HangupTask.reports, settledState, aborting h runs, own]
    · exact .inl ⟨h, List.mem_filter.mpr ⟨runs, by simpa using same⟩, own⟩

theorem eq_of_serviceEnd {t : LinkTask} {report : Report} (inside : report ∈ c.serviceEnd t) :
    report = ⟨some t.id, .service .disconnected t.device none⟩ := by
  obtain silent | ends := serviceEnd_cases c t
  · rw [silent] at inside
    cases inside
  · rw [ends] at inside
    exact List.mem_singleton.mp inside

/-- A report about the connection of a device comes from a link of it that runs, or from a
disconnection of it. -/
theorem Moves.source (moves : Moves c reports c') {report : Report} (inside : report ∈ reports)
    {state : ConnectionState} (event : report.event = .connection state device) :
    (∃ t ∈ c.tasks, t.device = device) ∨
      ∃ h ∈ c.hangups, state = .disconnecting ∨
        ∃ connected, state = settledState h.aborted connected := by
  cases moves with
  | still | dialing | unserved | served | hangupAsked | accepted => cases inside
  | dialed runs | dialFailed runs | openRefused runs =>
      obtain rfl := List.mem_singleton.mp inside
      cases event
      exact .inl ⟨_, runs, rfl⟩
  | inbound runs | inboundRefused runs =>
      simp only [List.mem_cons, List.not_mem_nil, or_false] at inside
      obtain rfl | rfl | rfl := inside <;> cases event <;> exact .inl ⟨_, runs, rfl⟩
  | opened | received =>
      obtain rfl := List.mem_singleton.mp inside
      cases event
  | channelEnded =>
      obtain rfl := eq_of_serviceEnd inside
      cases event
  | lost runs =>
      obtain service | last := List.mem_append.mp inside
      · obtain rfl := eq_of_serviceEnd service
        cases event
      · obtain rfl := List.mem_singleton.mp last
        cases event
        exact .inl ⟨_, runs, rfl⟩
  | hangupStarted runs =>
      obtain rfl := List.mem_singleton.mp inside
      cases event
      exact .inr ⟨_, runs, .inl rfl⟩
  | settled runs _ connected =>
      obtain rfl := List.mem_singleton.mp inside
      cases event
      exact .inr ⟨_, runs, .inr ⟨connected, rfl⟩⟩
  | listened _ failures =>
      obtain ⟨code, text, failure⟩ := failures report inside
      rw [failure] at event
      cases event

/-- A device that is reported connecting or connected is known, and is not being
disconnected. -/
theorem Moves.announces (moves : Moves c reports c') (books : c.Consistent)
    (aborting : c.Aborting) {report : Report} (inside : report ∈ reports)
    {state : ConnectionState} (event : report.event = .connection state device)
    (up : state = .connecting ∨ state = .connected) :
    c'.Knows device ∧ device ∉ c'.closing := by
  obtain ⟨t, runs, rfl⟩ | ⟨h, runs, other⟩ := moves.source inside event
  · constructor
    · exact moves.knows (.inr (by simp [books.filed t runs]))
    · exact fun marked => books.unmarked t runs (moves.closing marked)
  · have down : state = .disconnecting ∨ state = .disconnected := by
      simpa [settledState, aborting h runs] using other
    obtain rfl | rfl := up <;> simp at down

/-- A link that reports its device connecting reports it connected in the same step. -/
theorem Moves.announced (moves : Moves c reports c') (device : Address) :
    FollowedBy (.stack (.connection .connecting device))
      (.stack (.connection .connected device))
      (reports.map fun report => Message.stack report.event) := by
  cases moves with
  | inbound | inboundRefused => simp +contextual [FollowedBy, LinkTask.reports]
  | @settled t _ _ connected =>
      apply FollowedBy.of_not_mem
      cases t.aborted <;> cases connected <;>
        simp [HangupTask.reports, settledState]
  | @channelEnded t | @lost t =>
      apply FollowedBy.of_not_mem
      obtain ends | ends := serviceEnd_cases c t <;> simp [ends, LinkTask.reports]
  | listened _ failures =>
      apply FollowedBy.of_not_mem
      rintro inside
      obtain ⟨report, reported, same⟩ := List.mem_map.mp inside
      obtain ⟨code, text, failure⟩ := failures report reported
      rw [failure] at same
      cases same
  | _ =>
      apply FollowedBy.of_not_mem
      simp [LinkTask.reports, HangupTask.reports]

end Control

end AccessoryLink
