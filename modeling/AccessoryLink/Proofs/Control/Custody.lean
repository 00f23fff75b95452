import AccessoryLink.Proofs.Control.Books

/-!
# Who holds the service channel

The service channel must not be left with a device whose link is gone, or no other device
could open it any more. What a step takes away from a link is therefore compared with what
the register says: a link that ends has given the channel up, or never had it
(`LinkStage.bearsChannel`), and a link that takes the place of another one of its device
brings a channel along.

`ControlAction` is everything that may happen to a control, in any order, and
`books_consistent` says what holds of its books at every moment.
-/

namespace AccessoryLink

/-- Whether a link has a service channel: it was accepted with one, or takes packets from
one. -/
def LinkStage.bearsChannel : LinkStage → Bool
  | fresh accepted => accepted.isSome
  | serving s => s.receiving
  | _ => false

/-- What may happen to a control: a request of the machine, or a step of a task or of the
listener at some moment. -/
inductive ControlAction where
  | connect (device : Address)
  | disconnect (device : Address)
  | send (device : Address) (packet : Packet)
  | cleanup
  | listen (bound : Outcome)
  | step (now : Nat) (step : ControlStep)

namespace Control

/-- Lets something happen. -/
def act (c : Control) : ControlAction → Control
  | .connect device => (c.connect device).2
  | .disconnect device => (c.disconnect device).2
  | .send device packet => (c.send device packet).2
  | .cleanup => c.cleanup
  | .listen bound => (c.listen bound).2
  | .step now step => (c.step now step).control

/-- Lets several things happen in a row. -/
def run (c : Control) (actions : List ControlAction) : Control := actions.foldl act c

variable {c c' : Control} {t u : LinkTask} {device other : Address}

/-! ## The links that are filed -/

/-- A number is filed for no device but the one of its task, and only once it was used. -/
structure Filed (c : Control) : Prop where
  known : ∀ link ∈ c.links, link.2 < c.nextTask
  own : ∀ t ∈ c.tasks, ∀ link ∈ c.links, link.2 = t.id → link.1 = t.device

theorem mem_of_lookup {links : List (Address × TaskId)} {id : TaskId}
    (found : links.lookup device = some id) : (device, id) ∈ links := by
  obtain ⟨front, back, rfl, -⟩ := List.lookup_eq_some_iff.mp found
  simp

namespace Filed

variable (filed : c.Filed)
include filed

/-- What starts no link leaves the numbers filed as they are. -/
theorem narrow (narrows : Narrows c c') : c'.Filed where
  known := by
    rw [narrows.links, narrows.nextTask]
    exact filed.known
  own := by
    intro u runs link inside same
    obtain ⟨t, before, id, device, -⟩ := narrows.stands u runs
    rw [narrows.links] at inside
    exact (filed.own t before link inside (same.trans id)).trans device.symm

theorem reopen (device : Address) : (c.reopen device).Filed := ⟨filed.known, filed.own⟩

/-- A new link is filed under a number that was not used before. -/
theorem startLink (books : c.Consistent) (device : Address) (accepted : Option SocketId) :
    (c.startLink device accepted).Filed where
  known := by
    intro link inside
    obtain rfl | before := List.mem_cons.mp inside
    · exact Nat.lt_succ_self _
    · exact Nat.lt_succ_of_lt (filed.known link (List.mem_filter.mp before).1)
  own := by
    intro u runs link inside same
    obtain before | rfl := mem_startLink.mp runs <;>
      obtain rfl | filed' := List.mem_cons.mp inside
    · exact absurd (same ▸ books.known u before) (Nat.lt_irrefl _)
    · exact filed.own u before link (List.mem_filter.mp filed').1 same
    · rfl
    · exact absurd (same ▸ filed.known link (List.mem_filter.mp filed').1) (Nat.lt_irrefl _)

/-- The link of another device does not end with the one filed for a device. -/
theorem mem_endLink (runs : t ∈ c.tasks) (distinct : t.device ≠ device) :
    t ∈ (c.endLink device).tasks := by
  cases found : c.links.lookup device with
  | none =>
      rw [endLink_missing found]
      exact runs
  | some id =>
      rw [endLink_filed found]
      refine mem_endTask.mpr ⟨runs, ?_⟩
      intro same
      exact distinct (filed.own t runs _ (mem_of_lookup found) same.symm).symm

end Filed

/-! ## The links that have a channel -/

/-- Whether a link of a device runs that has a service channel. -/
def Bears (c : Control) (device : Address) : Prop :=
  ∃ t ∈ c.tasks, t.device = device ∧ t.stage.bearsChannel = true

/-- Every link stays, and none loses its channel. -/
def Maintains (c c' : Control) : Prop :=
  ∀ t ∈ c.tasks, ∃ u ∈ c'.tasks, u.id = t.id ∧ u.device = t.device ∧
    (t.stage.bearsChannel = true → u.stage.bearsChannel = true)

theorem Maintains.bears (maintains : Maintains c c') (bears : c.Bears device) :
    c'.Bears device := by
  obtain ⟨t, runs, rfl, has⟩ := bears
  obtain ⟨u, after, -, own, kept⟩ := maintains t runs
  exact ⟨u, after, own, kept has⟩

theorem maintains_refl (c : Control) : Maintains c c := fun t runs => ⟨t, runs, rfl, rfl, id⟩

theorem maintains_setStage {id : TaskId} {stage : LinkStage}
    (kept : ∀ t ∈ c.tasks, t.id = id → t.stage.bearsChannel = true →
      stage.bearsChannel = true) :
    Maintains c (c.setStage id stage) := by
  intro t runs
  refine ⟨_, List.mem_map_of_mem runs, ?_⟩
  split
  · rename_i same
    exact ⟨rfl, rfl, kept t runs same⟩
  · exact ⟨rfl, rfl, fun has => has⟩

theorem maintains_dropLine (c : Control) (line : Nat) : Maintains c (c.dropLine line) := by
  intro t runs
  refine ⟨_, List.mem_map_of_mem runs, ?_⟩
  split
  · rename_i s stage
    split
    · exact ⟨rfl, rfl, by simp [stage, LinkStage.bearsChannel]⟩
    · exact ⟨rfl, rfl, id⟩
  · exact ⟨rfl, rfl, id⟩

theorem maintains_dropHolderLine (c : Control) : Maintains c c.dropHolderLine := by
  obtain same | ⟨line, dropped⟩ := dropHolderLine_cases c
  · rw [same]
    exact maintains_refl c
  · rw [dropped]
    exact maintains_dropLine c line

theorem maintains_closeChannel (c : Control) (device : Address) :
    Maintains c (c.closeChannel device).2 := by
  obtain same | ⟨register, closed⟩ := closeChannel_cases c device
  · rw [same]
    exact maintains_refl c
  · rw [closed]
    exact maintains_dropHolderLine c

/-- A device whose links all lack a channel may lose one of them. -/
theorem Bears.endTask (bears : c.Bears device) {id : TaskId}
    (without : ∀ t ∈ c.tasks, t.id = id → t.device = device →
      t.stage.bearsChannel = false) : (c.endTask id).Bears device := by
  obtain ⟨t, runs, own, has⟩ := bears
  refine ⟨t, mem_endTask.mpr ⟨runs, ?_⟩, own, has⟩
  intro same
  rw [without t runs same own] at has
  cases has

theorem Bears.startLink (bears : c.Bears other) (device : Address)
    (accepted : Option SocketId) : (c.startLink device accepted).Bears other := by
  obtain ⟨t, runs, own, has⟩ := bears
  exact ⟨t, mem_startLink.mpr (.inl runs), own, has⟩

/-- A link that is accepted brings its channel along. -/
theorem bears_accepted (c : Control) (device : Address) (socket : SocketId) :
    (c.startLink device (some socket)).Bears device :=
  ⟨_, mem_startLink.mpr (.inr rfl), rfl, rfl⟩

/-- Whoever holds the channel after a device has given it up held it before, and is another
device. -/
theorem held_of_closeChannel {holder : ChannelHolder}
    (held : (c.closeChannel device).2.register.holder = some holder) :
    c.register.holder = some holder ∧ holder.device ≠ device := by
  cases free : c.register.isHeldBy device with
  | false =>
      rw [closeChannel_free free] at held
      refine ⟨held, ?_⟩
      simpa [ChannelRegister.isHeldBy, show c.register.holder = some holder from held]
        using free
  | true =>
      obtain ⟨handle, closed⟩ := closeChannel_held free
      rw [closed] at held
      cases held

/-! ## Every moment -/

/-- The books fit together, and whoever holds the service channel has a link with one. -/
structure Custody (c : Control) : Prop where
  books : c.Consistent
  filed : c.Filed
  held : ∀ holder, c.register.holder = some holder → c.Bears holder.device

theorem custody_initial (psm : UInt16) (pollInterval : Nat) :
    (initial psm pollInterval).Custody where
  books := consistent_initial psm pollInterval
  filed := ⟨by simp [initial], by simp [initial]⟩
  held := by simp [initial, ChannelRegister.initial]

namespace Custody

variable (custody : c.Custody)
include custody

/-- A link is moved on that had no channel, or has one afterwards. -/
theorem moveOn (runs : t ∈ c.tasks) {stage : LinkStage}
    (fewer : stage.receives = true → t.stage.receives = true)
    (kept : t.stage.bearsChannel = true → stage.bearsChannel = true) :
    (c.setStage t.id stage).Custody where
  books := custody.books.moveOn runs fewer
  filed := by
    apply custody.filed.narrow
    apply Narrows.setStage
    intro u other same
    rwa [custody.books.eq_of_id runs other same]
  held := by
    intro holder held
    refine (maintains_setStage ?_).bears (custody.held holder held)
    intro u other same
    rwa [custody.books.eq_of_id runs other same]

/-- A link ends that has no channel of its own. -/
theorem endTask (runs : t ∈ c.tasks)
    (without : ∀ holder, c.register.holder = some holder → holder.device = t.device →
      t.stage.bearsChannel = false) :
    (c.endTask t.id).Custody where
  books := custody.books.endTask t.id
  filed := custody.filed.narrow (.endTask c t.id)
  held := by
    intro holder held
    apply (custody.held holder held).endTask
    intro u other same own
    obtain rfl := custody.books.eq_of_id runs other same
    exact without holder held own.symm

/-- A link that gets the channel has one. -/
theorem openChannel (runs : t ∈ c.tasks) (waits : t.stage.receives = false)
    {handle : ChannelHandle} (opened : c.openChannel? t.device t.id = some (handle, c'))
    (socket : SocketId) (now : Nat) : (c'.setStage t.id (carrying socket now)).Custody where
  books := custody.books.openChannel runs waits opened _
  filed := by
    obtain ⟨-, rfl⟩ := openChannel?_some opened
    have narrowed := custody.filed.narrow (.dropHolderLine c)
    refine ⟨narrowed.known, ?_⟩
    intro u inside
    obtain ⟨v, other, rfl⟩ := List.mem_map.mp inside
    split <;> exact narrowed.own v other
  held := by
    obtain ⟨-, rfl⟩ := openChannel?_some opened
    intro holder held
    obtain rfl := Option.some.inj held
    obtain ⟨u, inside, same, own, -⟩ := maintains_dropHolderLine c t runs
    refine ⟨_, List.mem_map_of_mem inside, ?_⟩
    rw [if_pos same]
    exact ⟨own, rfl⟩

/-- A link that ends by itself takes the channel along, if its device holds it. -/
theorem lost {s : Serving} (runs : t ∈ c.tasks) (stage : t.stage = .serving s) :
    ((c.closeChannel t.device).2.endTask t.id).Custody where
  books := custody.books.moves (.lost runs stage)
  filed := custody.filed.narrow ((Narrows.closeChannel c t.device).trans (.endTask _ t.id))
  held := by
    intro holder held
    obtain ⟨before, distinct⟩ := held_of_closeChannel held
    have bears := (maintains_closeChannel c t.device).bears (custody.held holder before)
    apply bears.endTask
    intro u inside same own
    obtain ⟨v, other, id, device, -⟩ := (Narrows.closeChannel c t.device).stands u inside
    obtain rfl := custody.books.eq_of_id runs other (id.symm.trans same)
    exact absurd (own.symm.trans device) distinct

/-- A link that takes no packets any more gives the channel up, if its device holds it. -/
theorem channelEnded {s next : Serving} (runs : t ∈ c.tasks) (stage : t.stage = .serving s)
    (done : next.receiving = false) :
    ((c.setStage t.id (.serving next)).closeChannel t.device).2.Custody where
  books := custody.books.moves (.channelEnded runs stage done)
  filed := by
    refine custody.filed.narrow (.trans (.setStage ?_) (.closeChannel _ t.device))
    simp [LinkStage.receives, done]
  held := by
    intro holder held
    obtain ⟨before, distinct⟩ := held_of_closeChannel held
    apply (maintains_closeChannel _ t.device).bears
    obtain ⟨u, other, own, has⟩ := custody.held holder before
    refine ⟨u, List.mem_map.mpr ⟨u, other, if_neg ?_⟩, own, has⟩
    intro same
    obtain rfl := custody.books.eq_of_id runs other same
    exact distinct own.symm

/-- A link that is accepted takes the place of an earlier one, and of its channel. -/
theorem accepted (socket : SocketId) (device : Address) :
    (((c.reopen device).endLink device).startLink device (some socket)).Custody where
  books := custody.books.moves (.accepted socket device)
  filed := by
    have reopened := custody.filed.reopen device
    refine (reopened.narrow (.endLink _ device)).startLink ?_ device _
    exact (custody.books.reopen device).endLink device
  held := by
    intro holder held
    have before : ((c.reopen device).endLink device).register.holder = some holder := held
    rw [register_endLink] at before
    obtain ⟨t, runs, own, has⟩ := custody.held holder before
    by_cases same : holder.device = device
    · rw [same]
      exact bears_accepted _ device socket
    · apply Bears.startLink
      exact ⟨t, (custody.filed.reopen device).mem_endLink runs (own ▸ same), own, has⟩

/-- Nothing that matters is changed. -/
theorem congr (books : c'.Consistent) (tasks : c'.tasks = c.tasks) (links : c'.links = c.links)
    (nextTask : c'.nextTask = c.nextTask) (register : c'.register = c.register) :
    c'.Custody where
  books := books
  filed := by
    refine ⟨?_, ?_⟩
    · rw [links, nextTask]
      exact custody.filed.known
    · rw [tasks, links]
      exact custody.filed.own
  held := by
    rw [register]
    intro holder held
    rw [Bears, tasks]
    exact custody.held holder held

/-- Every step keeps the books. -/
theorem moves {reports : List Report} (moves : Moves c reports c') : c'.Custody := by
  have books := custody.books.moves moves
  -- A link that another device keeps from the channel has no part in it.
  have refused {t : LinkTask} (closed : c.openChannel? t.device t.id = none) :
      ∀ holder, c.register.holder = some holder → holder.device = t.device →
        t.stage.bearsChannel = false := by
    intro holder held own
    simp [openChannel?, ChannelRegister.open?, ChannelRegister.admits,
      ChannelRegister.isHeldBy, held, own] at closed
  cases moves with
  | still => exact custody
  | dialing runs stage =>
      exact custody.moveOn runs (by simp [LinkStage.receives])
        (by simp [stage, LinkStage.bearsChannel])
  | dialed runs stage =>
      exact custody.moveOn runs (by simp [LinkStage.receives])
        (by simp [stage, LinkStage.bearsChannel])
  | dialFailed runs stage =>
      exact custody.endTask runs fun _ _ _ => by simp [stage, LinkStage.bearsChannel]
  | inbound runs stage opened =>
      exact custody.openChannel runs (by simp [stage, LinkStage.receives]) opened _ _
  | inboundRefused runs stage closed => exact custody.endTask runs (refused closed)
  | opened runs stage opened =>
      exact custody.openChannel runs (by simp [stage, LinkStage.receives]) opened _ _
  | openRefused runs stage closed => exact custody.endTask runs (refused closed)
  | unserved runs stage =>
      exact custody.moveOn runs (by simp [LinkStage.receives])
        (by simp [stage, LinkStage.bearsChannel])
  | served runs stage same =>
      exact custody.moveOn runs (by simp [stage, LinkStage.receives, same])
        (by simp [stage, LinkStage.bearsChannel, same])
  | received runs stage =>
      exact custody.moveOn runs (by simp [stage, LinkStage.receives])
        (by simp [stage, LinkStage.bearsChannel])
  | channelEnded runs stage done => exact custody.channelEnded runs stage done
  | lost runs stage => exact custody.lost runs stage
  | hangupStarted | hangupAsked | settled | listened =>
      exact custody.congr books rfl rfl rfl rfl
  | accepted socket device => exact custody.accepted socket device

/-! ### Requests -/

theorem connect (device : Address) : (c.connect device).2.Custody := by
  have books := custody.books.connect device
  cases idle : c.isLinked device with
  | true =>
      rw [connect_linked idle]
      exact custody
  | false =>
      rw [connect_idle idle] at books ⊢
      refine ⟨books, ?_, ?_⟩
      · exact (custody.filed.reopen device).startLink (custody.books.reopen device) device none
      · intro holder held
        exact (custody.held holder held).startLink device none

theorem disconnect (device : Address) : (c.disconnect device).2.Custody := by
  have books := custody.books.disconnect device
  by_cases marked : device ∈ c.closing
  · rw [disconnect_marked marked]
    exact custody
  · rw [disconnect_unmarked marked] at books ⊢
    have narrowed : ((c.endLink device).closeChannel device).2.Filed :=
      custody.filed.narrow ((Narrows.endLink c device).trans (.closeChannel _ device))
    refine ⟨books, ⟨?_, ?_⟩, ?_⟩
    · intro link inside
      exact Nat.lt_succ_of_lt (custody.filed.known link (List.mem_filter.mp inside).1)
    · intro u runs link inside
      apply narrowed.own u runs link
      rw [((Narrows.endLink c device).trans (.closeChannel _ device)).links]
      exact (List.mem_filter.mp inside).1
    · intro holder held
      obtain ⟨before, distinct⟩ := held_of_closeChannel held
      rw [register_endLink] at before
      obtain ⟨t, runs, own, has⟩ := custody.held holder before
      refine (maintains_closeChannel (c.endLink device) device).bears ?_
      exact ⟨t, custody.filed.mem_endLink runs (own ▸ distinct), own, has⟩

theorem send (device : Address) (packet : Packet) : (c.send device packet).2.Custody :=
  custody.moves (moves_send c device packet)

theorem cleanup : c.cleanup.Custody where
  books := custody.books.cleanup
  filed := ⟨by simp [Control.cleanup], by simp [Control.cleanup]⟩
  held := by simp [Control.cleanup, ChannelRegister.clear]

theorem listen (bound : Outcome) : (c.listen bound).2.Custody := by
  cases bound with
  | error _ => exact custody
  | ok _ =>
      have moves : Moves c [] (c.listen (.ok ())).2 := .listened (some .accepting) (by simp)
      exact custody.moves moves

theorem act (action : ControlAction) : (c.act action).Custody := by
  cases action with
  | connect device => exact custody.connect device
  | disconnect device => exact custody.disconnect device
  | send device packet => exact custody.send device packet
  | cleanup => exact custody.cleanup
  | listen bound => exact custody.listen bound
  | step now step => exact custody.moves (moves_step c now step)

theorem run (actions : List ControlAction) : (c.run actions).Custody := by
  induction actions generalizing c with
  | nil => exact custody
  | cons action rest ih => exact ih (custody.act action)

/-- A request to disconnect a device whose link runs is carried out: it ends the link, takes
the service channel from the device, and starts a task. -/
theorem disconnect_linked (runs : t ∈ c.tasks) :
    let after := (c.disconnect t.device).2
    after.hangups = c.hangups ++ [⟨c.nextTask, t.device, true, .fresh⟩] ∧
      (∀ u ∈ after.tasks, u.device ≠ t.device) ∧
      ∀ holder, after.register.holder = some holder → holder.device ≠ t.device := by
  rw [disconnect_unmarked (custody.books.unmarked t runs)]
  refine ⟨?_, ?_, ?_⟩
  · simp [custody.books.filed t runs]
  · intro u inside
    obtain ⟨v, before, -, own, -⟩ :=
      (Narrows.closeChannel (c.endLink t.device) t.device).stands u inside
    rw [own]
    exact (custody.books.mem_endLink before).2
  · intro holder held
    exact (held_of_closeChannel held).2

end Custody

/-- Whatever happens to a control, no two links of a device run; none of them is marked as
being disconnected, so that a request to disconnect its device is carried out; and a device
that holds the service channel has a link that runs and is the one filed for it. -/
theorem books_consistent (psm : UInt16) (pollInterval : Nat) (actions : List ControlAction) :
    let c := (initial psm pollInterval).run actions
    (c.tasks.map LinkTask.device).Nodup ∧
      (∀ t ∈ c.tasks, t.device ∉ c.closing ∧
        let after := (c.disconnect t.device).2
        after.hangups = c.hangups ++ [⟨c.nextTask, t.device, true, .fresh⟩] ∧
          (∀ u ∈ after.tasks, u.device ≠ t.device) ∧
          ∀ holder, after.register.holder = some holder → holder.device ≠ t.device) ∧
      ∀ holder, c.register.holder = some holder →
        ∃ t ∈ c.tasks, t.device = holder.device ∧
          c.links.lookup holder.device = some t.id := by
  intro c
  have custody : c.Custody := (custody_initial psm pollInterval).run actions
  refine ⟨?_, ?_, ?_⟩
  · refine List.Nodup.map_on ?_ (.of_map _ custody.books.distinct)
    intro t runs u other same
    exact (custody.books.eq_of_device runs other same.symm).symm
  · intro t runs
    exact ⟨custody.books.unmarked t runs, custody.disconnect_linked runs⟩
  · intro holder held
    obtain ⟨t, runs, own, -⟩ := custody.held holder held
    exact ⟨t, runs, own, own ▸ custody.books.filed t runs⟩

end Control

end AccessoryLink
