import Mathlib.Data.List.Nodup
import AccessoryLink.Proofs.Control.Moves

/-!
# The books of the control

The control keeps its books in three places: the task filed for each device, the set of
devices whose disconnection is under way, and the holder of the service channel.
`Consistent` says how they fit together, and the requests and `Moves` keep it.

Most changes end links or move them on, and start none. They are one notion, `Narrows`:
every link that runs afterwards stands for one that ran before. What such a change may
do to the register of the service channel is the only thing to look at then
(`Consistent.narrow`).
-/

namespace AccessoryLink

/-- Whether packets are taken from the service channel. -/
def LinkStage.receives : LinkStage → Bool
  | serving s => s.receiving
  | _ => false

/-- Taking a key out of a list of pairs leaves what is filed under the others. -/
theorem lookup_filter_ne {device other : Address} (distinct : other ≠ device)
    (links : List (Address × TaskId)) :
    (links.filter (·.1 != device)).lookup other = links.lookup other := by
  induction links with
  | nil => rfl
  | cons link rest ih =>
      obtain ⟨key, id⟩ := link
      by_cases same : key = device
      · subst same
        simpa [List.lookup_cons, beq_false_of_ne distinct] using ih
      · by_cases found : other = key
        · simp [same, found]
        · simpa [same, List.lookup_cons, beq_false_of_ne found] using ih

namespace Control

variable {c c' c'' : Control} {t u : LinkTask} {device : Address}

/-- The books of a control fit together. -/
structure Consistent (c : Control) : Prop where
  /-- A link that runs is the one filed for its device. -/
  filed : ∀ t ∈ c.tasks, c.links.lookup t.device = some t.id
  /-- A link that runs is not being disconnected. -/
  unmarked : ∀ t ∈ c.tasks, t.device ∉ c.closing
  known : ∀ t ∈ c.tasks, t.id < c.nextTask
  distinct : (c.tasks.map LinkTask.id).Nodup
  /-- Who takes packets holds the service channel. -/
  receiving : ∀ t ∈ c.tasks, t.stage.receives = true →
    ∃ handle, c.register.holder = some ⟨t.device, handle, t.id⟩
  hangupsKnown : ∀ t ∈ c.hangups, t.id < c.nextTask
  hangupsDistinct : (c.hangups.map HangupTask.id).Nodup

theorem consistent_initial (psm : UInt16) (pollInterval : Nat) :
    (initial psm pollInterval).Consistent := by
  constructor <;> simp [initial]

/-! ## The links that are left -/

@[simp] theorem mem_endTask {id : TaskId} :
    u ∈ (c.endTask id).tasks ↔ u ∈ c.tasks ∧ u.id ≠ id := by
  simp [endTask]

@[simp] theorem map_id_setStage (c : Control) (id : TaskId) (stage : LinkStage) :
    (c.setStage id stage).tasks.map LinkTask.id = c.tasks.map LinkTask.id := by
  simp only [setStage, List.map_map]
  apply List.map_congr_left
  intro t _
  simp only [Function.comp]
  split <;> rfl

@[simp] theorem map_id_dropLine (c : Control) (line : Nat) :
    (c.dropLine line).tasks.map LinkTask.id = c.tasks.map LinkTask.id := by
  simp only [dropLine, List.map_map]
  apply List.map_congr_left
  intro t _
  simp only [Function.comp]
  split
  · split <;> rfl
  · rfl

@[simp] theorem mem_startLink {accepted : Option SocketId} :
    u ∈ (c.startLink device accepted).tasks ↔
      u ∈ c.tasks ∨ u = ⟨c.nextTask, device, .fresh accepted⟩ := by
  simp [startLink]

theorem map_id_setHangupStage (c : Control) (id : TaskId) (stage : HangupStage) :
    (c.setHangupStage id stage).hangups.map HangupTask.id = c.hangups.map HangupTask.id := by
  simp only [setHangupStage, List.map_map]
  apply List.map_congr_left
  intro t _
  simp only [Function.comp]
  split <;> rfl

/-- A change that starts no link, and leaves everything else in the books but the
register. -/
structure Narrows (c c' : Control) : Prop where
  stands : ∀ u ∈ c'.tasks, ∃ t ∈ c.tasks, u.id = t.id ∧ u.device = t.device ∧
    (u.stage.receives = true → t.stage.receives = true)
  ids : (c'.tasks.map LinkTask.id).Sublist (c.tasks.map LinkTask.id)
  links : c'.links = c.links
  closing : c'.closing = c.closing
  hangups : c'.hangups = c.hangups
  nextTask : c'.nextTask = c.nextTask

namespace Narrows

theorem refl (c : Control) : Narrows c c where
  stands u runs := ⟨u, runs, rfl, rfl, id⟩
  ids := .refl _
  links := rfl
  closing := rfl
  hangups := rfl
  nextTask := rfl

theorem trans (first : Narrows c c') (second : Narrows c' c'') : Narrows c c'' where
  stands := by
    intro u runs
    obtain ⟨v, middle, id, device, receives⟩ := second.stands u runs
    obtain ⟨t, before, id', device', receives'⟩ := first.stands v middle
    exact ⟨t, before, id.trans id', device.trans device', receives' ∘ receives⟩
  ids := second.ids.trans first.ids
  links := second.links.trans first.links
  closing := second.closing.trans first.closing
  hangups := second.hangups.trans first.hangups
  nextTask := second.nextTask.trans first.nextTask

theorem endTask (c : Control) (id : TaskId) : Narrows c (c.endTask id) where
  stands u runs := ⟨u, (mem_endTask.mp runs).1, rfl, rfl, fun kept => kept⟩
  ids := List.filter_sublist.map _
  links := rfl
  closing := rfl
  hangups := rfl
  nextTask := rfl

theorem endLink (c : Control) (device : Address) : Narrows c (c.endLink device) := by
  cases filed : c.links.lookup device with
  | none =>
      rw [endLink_missing filed]
      exact refl c
  | some id =>
      rw [endLink_filed filed]
      exact endTask c id

theorem setStage {id : TaskId} {stage : LinkStage}
    (kept : ∀ t ∈ c.tasks, t.id = id → stage.receives = true → t.stage.receives = true) :
    Narrows c (c.setStage id stage) where
  stands := by
    intro u runs
    obtain ⟨t, before, rfl⟩ := List.mem_map.mp runs
    refine ⟨t, before, ?_⟩
    split
    · rename_i same
      exact ⟨rfl, rfl, kept t before same⟩
    · exact ⟨rfl, rfl, fun receives => receives⟩
  ids := by rw [map_id_setStage]
  links := rfl
  closing := rfl
  hangups := rfl
  nextTask := rfl

theorem dropLine (c : Control) (line : Nat) : Narrows c (c.dropLine line) where
  stands := by
    intro u runs
    obtain ⟨t, before, rfl⟩ := List.mem_map.mp runs
    refine ⟨t, before, ?_⟩
    split
    · rename_i s stage
      split
      · exact ⟨rfl, rfl, by simp [stage, LinkStage.receives]⟩
      · exact ⟨rfl, rfl, id⟩
    · exact ⟨rfl, rfl, id⟩
  ids := by rw [map_id_dropLine]
  links := rfl
  closing := rfl
  hangups := rfl
  nextTask := rfl

theorem dropHolderLine (c : Control) : Narrows c c.dropHolderLine := by
  obtain same | ⟨line, dropped⟩ := dropHolderLine_cases c
  · rw [same]
    exact refl c
  · rw [dropped]
    exact dropLine c line

/-- The register is not in what `Narrows` compares. -/
theorem withRegister (narrows : Narrows c c') (register : ChannelRegister) :
    Narrows c { c' with register := register } :=
  ⟨narrows.stands, narrows.ids, narrows.links, narrows.closing, narrows.hangups,
    narrows.nextTask⟩

theorem closeChannel (c : Control) (device : Address) :
    Narrows c (c.closeChannel device).2 := by
  obtain same | ⟨register, closed⟩ := closeChannel_cases c device
  · rw [same]
    exact refl c
  · rw [closed]
    exact (dropHolderLine c).withRegister register

end Narrows

/-- Another device keeps the service channel. -/
theorem holder_closeChannel {holder : ChannelHolder} (held : c.register.holder = some holder)
    (other : holder.device ≠ device) :
    (c.closeChannel device).2.register.holder = some holder := by
  rw [closeChannel_free (by simp [ChannelRegister.isHeldBy, held, other])]
  exact held

/-- The service channel goes only where the register admits it. -/
theorem openChannel?_some {task : TaskId} {handle : ChannelHandle}
    (opened : c.openChannel? device task = some (handle, c')) :
    c.register.admits device = true ∧
      c' = { c.dropHolderLine with
        register := ⟨some ⟨device, c.register.next, task⟩, c.register.next.next⟩ } := by
  unfold openChannel? ChannelRegister.open? at opened
  cases admitted : c.register.admits device with
  | false => simp [admitted] at opened
  | true =>
      simp only [admitted, if_true, Option.some.injEq, Prod.mk.injEq] at opened
      exact ⟨rfl, opened.2.symm⟩

/-- A request to connect a device that is linked is refused. -/
theorem connect_linked (linked : c.isLinked device = true) :
    c.connect device = (.error (.controlRefused .connect), c) := if_pos linked

/-- A request to connect any other device starts a link, and lifts the mark of its
disconnection. -/
theorem connect_idle (idle : c.isLinked device = false) :
    c.connect device = (.done, (c.reopen device).startLink device none) := by
  simp [connect, idle]

/-- While a disconnection is under way, a further request for it does nothing. -/
theorem disconnect_marked (marked : device ∈ c.closing) :
    c.disconnect device = (.done, c) := by
  simp [disconnect, ClosingSet.mark, marked]

/-- The first request to disconnect a device ends its link, takes the service channel from
it, and starts a task. -/
theorem disconnect_unmarked (unmarked : device ∉ c.closing) :
    c.disconnect device = (.done,
      { ((c.endLink device).closeChannel device).2 with
        closing := c.closing ++ [device]
        links := c.links.filter (·.1 != device)
        hangups := c.hangups ++
          [⟨c.nextTask, device, (c.links.lookup device).isSome, .fresh⟩]
        nextTask := c.nextTask + 1 }) := by
  have marks : c.closing.mark device = (true, c.closing ++ [device]) := by
    simp [ClosingSet.mark, unmarked]
  unfold disconnect endLink
  rw [marks]
  cases c.links.lookup device with
  | none =>
      simp only [closeChannel, dropHolderLine]
      rcases c.register.close device with ⟨_ | handle, register⟩
      · rfl
      · cases c.register.holder <;> rfl
  | some id =>
      simp only [closeChannel, dropHolderLine, endTask]
      rcases c.register.close device with ⟨_ | handle, register⟩
      · rfl
      · cases c.register.holder <;> rfl

/-! ## What keeps the books -/

namespace Consistent

variable (books : c.Consistent)
include books

theorem eq_of_id (runs : t ∈ c.tasks) (other : u ∈ c.tasks) (same : u.id = t.id) : u = t :=
  List.inj_on_of_nodup_map books.distinct other runs same

/-- No two links of one device run. -/
theorem eq_of_device (runs : t ∈ c.tasks) (other : u ∈ c.tasks)
    (same : u.device = t.device) : u = t := by
  apply books.eq_of_id runs other
  apply Option.some.inj
  rw [← books.filed u other, ← books.filed t runs, same]

/-- Of the links, only the one that was moved on stands elsewhere. -/
theorem mem_setStage (runs : t ∈ c.tasks) {stage : LinkStage}
    (inside : u ∈ (c.setStage t.id stage).tasks) :
    u = { t with stage := stage } ∨ u ∈ c.tasks ∧ u.id ≠ t.id := by
  obtain ⟨v, other, rfl⟩ := List.mem_map.mp inside
  by_cases same : v.id = t.id
  · left
    obtain rfl := books.eq_of_id runs other same
    exact if_pos rfl
  · right
    rw [if_neg same]
    exact ⟨other, same⟩

/-- Nothing of a device runs after the end of the link filed for it. -/
theorem mem_endLink (inside : u ∈ (c.endLink device).tasks) :
    u ∈ c.tasks ∧ u.device ≠ device := by
  cases filed : c.links.lookup device with
  | none =>
      rw [endLink_missing filed] at inside
      refine ⟨inside, ?_⟩
      rintro rfl
      rw [books.filed u inside] at filed
      cases filed
  | some id =>
      rw [endLink_filed filed] at inside
      obtain ⟨runs, other⟩ := mem_endTask.mp inside
      refine ⟨runs, ?_⟩
      rintro rfl
      exact other (Option.some.inj ((books.filed u runs).symm.trans filed))

/-- A device that is not linked has no link that runs. -/
theorem device_ne (idle : c.isLinked device = false) (runs : u ∈ c.tasks) :
    u.device ≠ device := by
  rintro rfl
  have found : (c.task? u.id).isSome = true := by
    unfold task?
    rw [List.find?_isSome]
    exact ⟨u, runs, by simp⟩
  simp only [isLinked, books.filed u runs, found, Bool.true_eq_false] at idle

/-- What starts no link keeps the books, if a link that still takes packets keeps the
service channel. -/
theorem narrow (narrows : Narrows c c')
    (kept : ∀ u ∈ c'.tasks, u.stage.receives = true → ∀ holder,
      c.register.holder = some holder → holder.device = u.device →
        c'.register.holder = some holder) :
    c'.Consistent where
  filed := by
    intro u runs
    obtain ⟨t, before, id, device, -⟩ := narrows.stands u runs
    rw [narrows.links, id, device]
    exact books.filed t before
  unmarked := by
    intro u runs
    obtain ⟨t, before, -, device, -⟩ := narrows.stands u runs
    rw [narrows.closing, device]
    exact books.unmarked t before
  known := by
    intro u runs
    obtain ⟨t, before, id, -⟩ := narrows.stands u runs
    rw [narrows.nextTask, id]
    exact books.known t before
  distinct := books.distinct.sublist narrows.ids
  receiving := by
    intro u runs receives
    obtain ⟨t, before, id, device, still⟩ := narrows.stands u runs
    obtain ⟨handle, held⟩ := books.receiving t before (still receives)
    refine ⟨handle, ?_⟩
    rw [id, device]
    exact kept u runs receives _ held device.symm
  hangupsKnown := by
    rw [narrows.hangups, narrows.nextTask]
    exact books.hangupsKnown
  hangupsDistinct := by
    rw [narrows.hangups]
    exact books.hangupsDistinct

theorem endTask (id : TaskId) : (c.endTask id).Consistent :=
  books.narrow (.endTask c id) fun _ _ _ _ held _ => held

theorem endLink (device : Address) : (c.endLink device).Consistent :=
  books.narrow (.endLink c device) fun _ _ _ _ held _ => (register_endLink c device).symm ▸ held

theorem setStage {id : TaskId} {stage : LinkStage}
    (kept : ∀ t ∈ c.tasks, t.id = id → stage.receives = true → t.stage.receives = true) :
    (c.setStage id stage).Consistent :=
  books.narrow (.setStage kept) fun _ _ _ _ held _ => held

/-- A link that runs is moved on, without taking packets unless it did before. -/
theorem moveOn (runs : t ∈ c.tasks) {stage : LinkStage}
    (kept : stage.receives = true → t.stage.receives = true) :
    (c.setStage t.id stage).Consistent := by
  apply books.setStage
  intro u other same
  rw [books.eq_of_id runs other same]
  exact kept

theorem closeChannel
    (quiet : ∀ u ∈ c.tasks, u.device = device → u.stage.receives = false) :
    (c.closeChannel device).2.Consistent := by
  have narrows : Narrows c (c.closeChannel device).2 := .closeChannel c device
  apply books.narrow narrows
  intro u runs receives holder held same
  apply holder_closeChannel held
  obtain ⟨t, before, -, own, still⟩ := narrows.stands u runs
  intro closed
  have silent := quiet t before (own.symm.trans (same.symm.trans closed))
  rw [still receives] at silent
  cases silent

/-- A task that holds the service channel may take packets where nobody does. -/
theorem carry {id : TaskId} {handle : ChannelHandle}
    (held : c.register.holder = some ⟨device, handle, id⟩)
    (own : ∀ u ∈ c.tasks, u.id = id → u.device = device)
    (silent : ∀ u ∈ c.tasks, u.stage.receives = false) (stage : LinkStage) :
    (c.setStage id stage).Consistent := by
  have stands : ∀ u ∈ (c.setStage id stage).tasks, ∃ t ∈ c.tasks,
      u.id = t.id ∧ u.device = t.device ∧ (u.stage.receives = true → t.id = id) := by
    intro u runs
    obtain ⟨t, before, rfl⟩ := List.mem_map.mp runs
    refine ⟨t, before, ?_⟩
    split
    · rename_i same
      exact ⟨rfl, rfl, fun _ => same⟩
    · exact ⟨rfl, rfl, by simp [silent t before]⟩
  refine ⟨?_, ?_, ?_, ?_, ?_, books.hangupsKnown, books.hangupsDistinct⟩
  · intro u runs
    obtain ⟨t, before, id, device, -⟩ := stands u runs
    rw [id, device]
    exact books.filed t before
  · intro u runs
    obtain ⟨t, before, -, device, -⟩ := stands u runs
    rw [device]
    exact books.unmarked t before
  · intro u runs
    obtain ⟨t, before, id, -⟩ := stands u runs
    rw [id]
    exact books.known t before
  · rw [map_id_setStage]
    exact books.distinct
  · intro u runs receives
    obtain ⟨t, before, id, device, taker⟩ := stands u runs
    refine ⟨handle, ?_⟩
    rw [id, device, own t before (taker receives), taker receives]
    exact held

/-- The device of a link gets the service channel, from which nobody takes packets then.
-/
theorem openChannel (runs : t ∈ c.tasks) (waits : t.stage.receives = false)
    {handle : ChannelHandle} (opened : c.openChannel? t.device t.id = some (handle, c'))
    (stage : LinkStage) : (c'.setStage t.id stage).Consistent := by
  obtain ⟨admitted, rfl⟩ := openChannel?_some opened
  have silent : ∀ u ∈ c.tasks, u.stage.receives ≠ true := by
    intro u other receives
    obtain ⟨handle, held⟩ := books.receiving u other receives
    have same : u.device = t.device := by
      simpa [ChannelRegister.admits, ChannelRegister.isHeldBy, held] using admitted
    rw [books.eq_of_device runs other same, waits] at receives
    cases receives
  have narrows := (Narrows.dropHolderLine c).withRegister
    ⟨some ⟨t.device, c.register.next, t.id⟩, c.register.next.next⟩
  have quiet : ∀ u ∈ c.dropHolderLine.tasks, u.stage.receives = false := by
    intro u inside
    obtain ⟨v, other, -, -, still⟩ := narrows.stands u inside
    exact Bool.eq_false_iff.mpr fun receives => silent v other (still receives)
  have middle := books.narrow narrows fun u inside receives => by
    rw [quiet u inside] at receives
    cases receives
  refine middle.carry rfl ?_ quiet stage
  intro u inside same
  obtain ⟨v, other, id, device, -⟩ := narrows.stands u inside
  rw [device, books.eq_of_id runs other (id.symm.trans same)]

/-- A new link is filed. No link of its device may run, nor its disconnection. -/
theorem startLink (idle : ∀ u ∈ c.tasks, u.device ≠ device) (unmarked : device ∉ c.closing)
    (accepted : Option SocketId) : (c.startLink device accepted).Consistent where
  filed := by
    intro u runs
    obtain before | rfl := mem_startLink.mp runs
    · show List.lookup u.device ((device, c.nextTask) :: c.links.filter (·.1 != device)) = _
      rw [List.lookup_cons, beq_false_of_ne (idle u before),
        lookup_filter_ne (idle u before)]
      exact books.filed u before
    · simp [Control.startLink, setLink]
  unmarked := by
    intro u runs
    obtain before | rfl := mem_startLink.mp runs
    · exact books.unmarked u before
    · exact unmarked
  known := by
    intro u runs
    obtain before | rfl := mem_startLink.mp runs
    · exact Nat.lt_succ_of_lt (books.known u before)
    · exact Nat.lt_succ_self _
  distinct := by
    simp only [Control.startLink, List.map_append, List.map_cons, List.map_nil]
    rw [← List.concat_eq_append]
    apply books.distinct.concat
    intro used
    obtain ⟨u, before, same⟩ := List.mem_map.mp used
    exact Nat.lt_irrefl _ (same ▸ books.known u before)
  receiving := by
    intro u runs receives
    obtain before | rfl := mem_startLink.mp runs
    · exact books.receiving u before receives
    · cases receives
  hangupsKnown h runs := Nat.lt_succ_of_lt (books.hangupsKnown h runs)
  hangupsDistinct := books.hangupsDistinct

theorem reopen (device : Address) : (c.reopen device).Consistent :=
  ⟨books.filed, fun t runs marked => books.unmarked t runs (List.mem_filter.mp marked).1,
    books.known, books.distinct, books.receiving, books.hangupsKnown, books.hangupsDistinct⟩

/-- Disconnections may be moved on, and end. -/
theorem withHangups (hangups : List HangupTask)
    (ids : (hangups.map HangupTask.id).Sublist (c.hangups.map HangupTask.id)) :
    { c with hangups := hangups }.Consistent := by
  refine ⟨books.filed, books.unmarked, books.known, books.distinct, books.receiving, ?_,
    books.hangupsDistinct.sublist ids⟩
  intro h runs
  obtain ⟨g, before, same⟩ := List.mem_map.mp (ids.subset (List.mem_map_of_mem runs))
  exact same ▸ books.hangupsKnown g before

theorem setHangupStage (id : TaskId) (stage : HangupStage) :
    (c.setHangupStage id stage).Consistent := by
  apply books.withHangups
  have ids := map_id_setHangupStage c id stage
  exact ids ▸ .refl _

/-! ### Steps of the tasks -/

/-- Every step keeps the books. -/
theorem moves {reports : List Report} (moves : Moves c reports c') : c'.Consistent := by
  cases moves with
  | still => exact books
  | dialing runs => exact books.moveOn runs (by simp [LinkStage.receives])
  | dialed runs => exact books.moveOn runs (by simp [LinkStage.receives])
  | dialFailed runs => exact books.endTask _
  | inbound runs stage opened =>
      exact books.openChannel runs (by simp [stage, LinkStage.receives]) opened _
  | inboundRefused runs => exact books.endTask _
  | opened runs stage opened =>
      exact books.openChannel runs (by simp [stage, LinkStage.receives]) opened _
  | openRefused runs => exact books.endTask _
  | unserved runs => exact books.moveOn runs (by simp [LinkStage.receives])
  | served runs stage same =>
      exact books.moveOn runs (by simp [stage, LinkStage.receives, same])
  | received runs stage => exact books.moveOn runs (by simp [stage, LinkStage.receives])
  | @channelEnded t s next runs stage done =>
      have silent : (LinkStage.serving next).receives = false := done
      have middle : (c.setStage t.id (.serving next)).Consistent :=
        books.moveOn runs (by simp [silent])
      apply middle.closeChannel
      intro u inside same
      obtain rfl | ⟨other, distinct⟩ := books.mem_setStage runs inside
      · exact silent
      · exact absurd (congrArg LinkTask.id (books.eq_of_device runs other same)) distinct
  | @lost t s runs stage =>
      have closed : Narrows c (c.closeChannel t.device).2 := .closeChannel c t.device
      apply books.narrow (closed.trans (.endTask _ t.id))
      intro u inside _ holder held same
      apply holder_closeChannel held
      obtain ⟨left, distinct⟩ := mem_endTask.mp inside
      obtain ⟨v, other, id, device, -⟩ := closed.stands u left
      rw [same, device]
      intro again
      exact distinct (id.trans (congrArg LinkTask.id (books.eq_of_device runs other again)))
  | hangupStarted => exact books.setHangupStage _ _
  | hangupAsked => exact books.setHangupStage _ _
  | settled => exact books.withHangups _ (List.filter_sublist.map _)
  | accepted socket device =>
      have reopened := books.reopen device
      apply (reopened.endLink device).startLink
      · intro u inside
        exact (reopened.mem_endLink inside).2
      · rw [(Narrows.endLink (c.reopen device) device).closing]
        simp [Control.reopen, ClosingSet.reopen]
  | listened => exact ⟨books.filed, books.unmarked, books.known, books.distinct,
      books.receiving, books.hangupsKnown, books.hangupsDistinct⟩

/-! ### Requests -/

theorem connect (device : Address) : (c.connect device).2.Consistent := by
  cases idle : c.isLinked device with
  | true =>
      rw [connect_linked idle]
      exact books
  | false =>
      rw [connect_idle idle]
      apply (books.reopen device).startLink
      · intro u runs
        exact books.device_ne idle runs
      · simp [Control.reopen, ClosingSet.reopen]

theorem disconnect (device : Address) : (c.disconnect device).2.Consistent := by
  by_cases marked : device ∈ c.closing
  · rw [disconnect_marked marked]
    exact books
  · rw [disconnect_unmarked marked]
    have ended := books.endLink device
    have gone : ∀ u ∈ (c.endLink device).tasks, u.device ≠ device := fun u runs =>
      (books.mem_endLink runs).2
    have closed : ((c.endLink device).closeChannel device).2.Consistent :=
      ended.closeChannel fun u runs same => absurd same (gone u runs)
    have narrows : Narrows c ((c.endLink device).closeChannel device).2 :=
      (Narrows.endLink c device).trans (.closeChannel _ device)
    have left : ∀ u ∈ ((c.endLink device).closeChannel device).2.tasks, u.device ≠ device := by
      intro u runs
      obtain ⟨v, before, -, own, -⟩ :=
        (Narrows.closeChannel (c.endLink device) device).stands u runs
      exact own ▸ gone v before
    constructor
    · intro u runs
      rw [lookup_filter_ne (left u runs), ← narrows.links]
      exact closed.filed u runs
    · intro u runs marks
      obtain before | new := List.mem_append.mp marks
      · rw [← narrows.closing] at before
        exact closed.unmarked u runs before
      · exact left u runs (List.mem_singleton.mp new)
    · intro u runs
      rw [← narrows.nextTask]
      exact Nat.lt_succ_of_lt (closed.known u runs)
    · exact closed.distinct
    · exact closed.receiving
    · intro h runs
      obtain before | new := List.mem_append.mp runs
      · exact Nat.lt_succ_of_lt (books.hangupsKnown h before)
      · rw [List.mem_singleton.mp new]
        exact Nat.lt_succ_self _
    · simp only [List.map_append, List.map_cons, List.map_nil]
      rw [← List.concat_eq_append]
      apply books.hangupsDistinct.concat
      intro used
      obtain ⟨h, before, same⟩ := List.mem_map.mp used
      exact Nat.lt_irrefl _ (same ▸ books.hangupsKnown h before)

/-- Giving everything up leaves no link. -/
theorem tasks_cleanup : c.cleanup.tasks = [] := by
  apply List.eq_nil_iff_forall_not_mem.mpr
  intro u inside
  obtain ⟨runs, unfiled⟩ := List.mem_filter.mp inside
  obtain ⟨t, before, id, -⟩ := (Narrows.dropHolderLine c).stands u runs
  obtain ⟨front, back, links, -⟩ := List.lookup_eq_some_iff.mp (books.filed t before)
  rw [← (Narrows.dropHolderLine c).links] at links
  simp [links, id] at unfiled

theorem cleanup : c.cleanup.Consistent := by
  have none := books.tasks_cleanup
  have hangups := (Narrows.dropHolderLine c).hangups
  have nextTask := (Narrows.dropHolderLine c).nextTask
  refine ⟨?_, ?_, ?_, ?_, ?_, ?_, ?_⟩
  · simp [none]
  · simp [none]
  · simp [none]
  · simp [none]
  · simp [none]
  · show ∀ t ∈ c.dropHolderLine.hangups, t.id < c.dropHolderLine.nextTask
    rw [hangups, nextTask]
    exact books.hangupsKnown
  · show (c.dropHolderLine.hangups.map HangupTask.id).Nodup
    rw [hangups]
    exact books.hangupsDistinct

theorem send (device : Address) (packet : Packet) : (c.send device packet).2.Consistent :=
  books.moves (moves_send c device packet)

end Consistent

end Control

end AccessoryLink
