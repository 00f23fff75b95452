import AccessoryLink.Proofs.Control.Turns

/-!
# What the task of a link reports

The task of a link reports a story: that the link is there, what came of its service
channel, and that the link is gone. `Story` lists the complete ones. At every stage of the
task it is clear which part has been told (`LinkStage.Tells`), and every step either moves
the task to a stage that fits what it adds, or ends it with the last report of a complete
story; other tasks can end it only by aborting it (`Tells.act`). What carries this is that
the service drop is reported exactly if the device of the task holds the service channel,
and that is so exactly while packets are expected from it (`Custody.serviceEnd_eq`).
-/

namespace AccessoryLink

/-- How a link task reports that its link is there. -/
def arrival (device : Address) (inbound : Bool) : List StackEvent :=
  match inbound with
  | true => [.connection .connecting device, .connection .connected device]
  | false => [.connection .connected device]

/-- What a link task has reported while its service channel is open. -/
def relaying (device : Address) (inbound : Bool) (handle : ChannelHandle)
    (packets : List Packet) : List StackEvent :=
  arrival device inbound ++
    .service .connected device (some handle) :: packets.map StackEvent.data

/-- The complete stories of a link task, with the packets that it reports. -/
inductive Story (device : Address) : Bool → List Packet → List StackEvent → Prop where
  /-- The radio could not connect the device. -/
  | unreached : Story device false [] [.connection .disconnected device]
  /-- The link came and went without a service channel. -/
  | unserved (inbound : Bool) :
      Story device inbound [] (arrival device inbound ++ [.connection .disconnected device])
  /-- The link had a service channel, and lost it before it went. -/
  | served (inbound : Bool) (handle : ChannelHandle) (packets : List Packet) :
      Story device inbound packets
        (relaying device inbound handle packets ++
          [.service .disconnected device none, .connection .disconnected device])

/-- What a link task has reported when it has come to a stage. -/
inductive LinkStage.Tells (device : Address) :
    Bool → LinkStage → List StackEvent → Prop where
  | fresh (accepted : Option SocketId) : Tells device accepted.isSome (.fresh accepted) []
  | dialing (deadline : Nat) : Tells device false (.dialing deadline) []
  | opening (deadline : Nat) :
      Tells device false (.opening deadline) (arrival device false)
  | relaying {s : Serving} (receives : s.receiving = true) (inbound : Bool)
      (handle : ChannelHandle) (packets : List Packet) :
      Tells device inbound (.serving s) (relaying device inbound handle packets)
  | unserved {s : Serving} (silent : s.receiving = false) (inbound : Bool) :
      Tells device inbound (.serving s) (arrival device inbound)
  | served {s : Serving} (silent : s.receiving = false) (inbound : Bool)
      (handle : ChannelHandle) (packets : List Packet) :
      Tells device inbound (.serving s)
        (relaying device inbound handle packets ++ [.service .disconnected device none])

section Stories

variable {device : Address} {inbound : Bool} {told : List StackEvent}

theorem relaying_concat (handle : ChannelHandle) (packets : List Packet) (packet : Packet) :
    relaying device inbound handle (packets ++ [packet]) =
      relaying device inbound handle packets ++ [.data packet] := by
  simp [relaying]

/-- A story tells of the packets that it is said to tell of, and of no others. -/
theorem Story.packets_eq {packets : List Packet} (story : Story device inbound packets told) :
    told.filterMap StackEvent.packet? = packets := by
  cases story with
  | unreached => rfl
  | unserved => cases inbound <;> rfl
  | served =>
      cases inbound <;>
        simp [relaying, arrival, StackEvent.packet?, List.filterMap_cons, Function.comp_def]

/-- At every stage, a complete story has begun. -/
theorem LinkStage.Tells.begins {stage : LinkStage} (tells : stage.Tells device inbound told) :
    ∃ packets whole, Story device inbound packets whole ∧ told <+: whole := by
  cases tells with
  | fresh | dialing => exact ⟨_, _, .unserved _, List.nil_prefix⟩
  | opening | unserved => exact ⟨_, _, .unserved _, List.prefix_append _ _⟩
  | relaying _ _ handle packets =>
      exact ⟨_, _, .served _ handle packets, List.prefix_append _ _⟩
  | served _ _ handle packets =>
      refine ⟨_, _, .served _ handle packets, [.connection .disconnected device], ?_⟩
      simp

/-- A link whose relay alone changes has told the same. -/
theorem LinkStage.Tells.congr {s next : Serving} (tells : (serving s).Tells device inbound told)
    (same : next.receiving = s.receiving) : (serving next).Tells device inbound told := by
  cases tells with
  | relaying receives _ handle packets => exact .relaying (same.trans receives) _ handle packets
  | unserved silent => exact .unserved (same.trans silent) _
  | served silent _ handle packets => exact .served (same.trans silent) _ handle packets

end Stories

namespace Control

variable {c c' : Control} {id : TaskId} {t : LinkTask} {device : Address} {inbound : Bool}
  {told : List StackEvent} {reports : List Report}

/-- Whether the task of a link runs and has told just what fits its stage. -/
def Tells (c : Control) (id : TaskId) (device : Address) (inbound : Bool)
    (told : List StackEvent) : Prop :=
  ∃ t ∈ c.tasks, t.id = id ∧ t.device = device ∧ t.stage.Tells device inbound told

/-- Where the task of a link may stand after a step: it goes on, or its story is complete
and it has ended. -/
inductive Accounted (c : Control) (id : TaskId) (device : Address) (inbound : Bool)
    (told : List StackEvent) : Prop where
  | running (tells : c.Tells id device inbound told)
  | over {packets : List Packet} (ended : ¬ c.Runs id)
      (story : Story device inbound packets told)

/-! ## What leaves a link alone -/

namespace Tells

theorem congr (tells : c.Tells id device inbound told) (same : c'.tasks = c.tasks) :
    c'.Tells id device inbound told := by
  rw [Tells, same]
  exact tells

/-- A link is moved on to a stage that fits what it has told. -/
theorem setStage_self (tells : c.Tells id device inbound told) {stage : LinkStage}
    {after : List StackEvent} (fits : stage.Tells device inbound after) :
    (c.setStage id stage).Tells id device inbound after := by
  obtain ⟨t, runs, rfl, rfl, -⟩ := tells
  refine ⟨_, List.mem_map_of_mem runs, ?_⟩
  rw [if_pos rfl]
  exact ⟨rfl, rfl, fits⟩

variable (tells : c.Tells id device inbound told)
include tells

theorem runs : c.Runs id := by
  obtain ⟨t, runs, own, -⟩ := tells
  exact ⟨t, runs, own⟩

/-- What has been told is the beginning of a story. -/
theorem begins :
    ∃ packets whole, Story device inbound packets whole ∧ told <+: whole := by
  obtain ⟨t, -, -, rfl, fits⟩ := tells
  exact fits.begins

theorem setStage_of_ne {task : TaskId} (other : task ≠ id) (stage : LinkStage) :
    (c.setStage task stage).Tells id device inbound told := by
  obtain ⟨t, runs, rfl, rest⟩ := tells
  exact ⟨t, List.mem_map.mpr ⟨t, runs, if_neg (Ne.symm other)⟩, rfl, rest⟩

theorem endTask_of_ne {task : TaskId} (other : task ≠ id) :
    (c.endTask task).Tells id device inbound told := by
  obtain ⟨t, runs, rfl, rest⟩ := tells
  exact ⟨t, mem_endTask.mpr ⟨runs, Ne.symm other⟩, rfl, rest⟩

theorem startLink (other : Address) (accepted : Option SocketId) :
    (c.startLink other accepted).Tells id device inbound told := by
  obtain ⟨t, runs, rest⟩ := tells
  exact ⟨t, mem_startLink.mpr (.inl runs), rest⟩

theorem endLink_of_ne (filed : c.Filed) {other : Address} (distinct : other ≠ device) :
    (c.endLink other).Tells id device inbound told := by
  obtain ⟨t, runs, own, rfl, fits⟩ := tells
  exact ⟨t, filed.mem_endLink runs (Ne.symm distinct), own, rfl, fits⟩

theorem dropLine (line : Nat) : (c.dropLine line).Tells id device inbound told := by
  obtain ⟨t, runs, rfl, rfl, fits⟩ := tells
  refine ⟨_, List.mem_map_of_mem runs, ?_⟩
  split
  · rename_i s stage
    split
    · rw [stage] at fits
      exact ⟨rfl, rfl, fits.congr rfl⟩
    · exact ⟨rfl, rfl, fits⟩
  · exact ⟨rfl, rfl, fits⟩

theorem dropHolderLine : c.dropHolderLine.Tells id device inbound told := by
  obtain same | ⟨line, dropped⟩ := dropHolderLine_cases c
  · rw [same]
    exact tells
  · rw [dropped]
    exact tells.dropLine line

theorem closeChannel (other : Address) :
    (c.closeChannel other).2.Tells id device inbound told := by
  obtain same | ⟨register, closed⟩ := closeChannel_cases c other
  · rw [same]
    exact tells
  · rw [closed]
    exact tells.dropHolderLine.congr rfl

theorem openChannel {other : Address} {task : TaskId} {handle : ChannelHandle}
    (opened : c.openChannel? other task = some (handle, c')) :
    c'.Tells id device inbound told := by
  obtain ⟨-, rfl⟩ := openChannel?_some opened
  exact tells.dropHolderLine.congr rfl

/-! ## What moves a link on -/

/-- The stage of a link that runs fits what it has told. -/
theorem fits (books : c.Consistent) (runs : t ∈ c.tasks) (own : t.id = id) :
    t.device = device ∧ t.stage.Tells device inbound told := by
  obtain ⟨u, other, rfl, rest⟩ := tells
  rw [books.eq_of_id other runs own]
  exact rest

/-- Some link is moved on, after what left the link in question alone. If it is this one, the
new stage has to fit what it adds to its story; any other link adds nothing. -/
theorem advance (books : c.Consistent) (runs : t ∈ c.tasks)
    (carried : c'.Tells id device inbound told) (stage : LinkStage)
    (events : List StackEvent)
    (fits : t.stage.Tells t.device inbound told →
      stage.Tells t.device inbound (told ++ events)) :
    (c'.setStage t.id stage).Tells id device inbound
      (told ++ voice id (events.map (Report.mk (some t.id)))) := by
  rw [voice_map]
  by_cases own : t.id = id
  · obtain ⟨rfl, stands⟩ := tells.fits books runs own
    rw [if_pos own, own]
    exact carried.setStage_self (fits stands)
  · rw [if_neg own, List.append_nil]
    exact carried.setStage_of_ne own stage

/-- Some link ends, after what left the link in question alone. If it is this one, what it
adds has to complete its story. -/
theorem finish (books : c.Consistent) (runs : t ∈ c.tasks)
    (carried : c'.Tells id device inbound told) (events : List StackEvent)
    (completes : t.stage.Tells t.device inbound told →
      ∃ packets, Story t.device inbound packets (told ++ events)) :
    (c'.endTask t.id).Accounted id device inbound
      (told ++ voice id (events.map (Report.mk (some t.id)))) := by
  rw [voice_map]
  by_cases own : t.id = id
  · obtain ⟨rfl, stands⟩ := tells.fits books runs own
    obtain ⟨packets, story⟩ := completes stands
    rw [if_pos own, own]
    refine .over ?_ story
    rintro ⟨u, inside, same⟩
    exact (mem_endTask.mp inside).2 same
  · rw [if_neg own, List.append_nil]
    exact .running (carried.endTask_of_ne own)

end Tells

/-- A link that gives the service channel up reports so exactly if packets were expected
from it. -/
theorem Custody.serviceEnd_eq (custody : c.Custody) (runs : t ∈ c.tasks) {s : Serving}
    (stage : t.stage = .serving s) :
    c.serviceEnd t =
      (if s.receiving then [StackEvent.service .disconnected t.device none] else []).map
        (Report.mk (some t.id)) := by
  cases receives : s.receiving with
  | true =>
      obtain ⟨handle, held⟩ := custody.books.receiving t runs (by
        simp [stage, LinkStage.receives, receives])
      simp [serviceEnd, ChannelRegister.isHeldBy, held]
  | false =>
      have free : c.register.isHeldBy t.device = false := by
        rw [Bool.eq_false_iff]
        intro holds
        cases held : c.register.holder with
        | none => simp [ChannelRegister.isHeldBy, held] at holds
        | some holder =>
            have own : holder.device = t.device := by
              simpa [ChannelRegister.isHeldBy, held] using holds
            obtain ⟨u, other, device, bears⟩ := custody.held holder held
            obtain rfl := custody.books.eq_of_device runs other (device.trans own)
            simp [stage, LinkStage.bearsChannel, receives] at bears
      simp [serviceEnd, free]

/-! ## Steps of the tasks -/

/-- Every step of a task keeps account of a link. -/
theorem Tells.moves (tells : c.Tells id device inbound told) (custody : c.Custody)
    (links : ∀ h ∈ c.hangups, h.id ≠ id) (moves : Moves c reports c')
    (started : c'.nextTask = c.nextTask)
    (understood : ∀ report ∈ reports, ∀ code text, report.event ≠ .error code text) :
    c'.Accounted id device inbound (told ++ voice id reports) := by
  have books := custody.books
  have aside (same : c'.tasks = c.tasks) (foreign : voice id reports = []) :
      c'.Accounted id device inbound (told ++ voice id reports) := by
    rw [foreign, List.append_nil]
    exact .running (tells.congr same)
  cases moves with
  | still => exact aside rfl rfl
  | dialing runs stage limit =>
      refine .running (tells.advance books runs tells _ [] ?_)
      rw [stage]
      intro fits
      cases fits
      exact .dialing limit
  | dialed runs stage limit =>
      refine .running (tells.advance books runs tells _ [.connection .connected _] ?_)
      rw [stage]
      intro fits
      cases fits
      exact .opening limit
  | dialFailed runs stage =>
      refine tells.finish books runs tells [.connection .disconnected _] ?_
      rw [stage]
      intro fits
      cases fits
      exact ⟨_, .unreached⟩
  | @inbound t socket handle after runs stage opened now =>
      refine .running (tells.advance books runs (tells.openChannel opened) _
        [.connection .connecting _, .connection .connected _,
          .service .connected _ (some handle)] ?_)
      rw [stage]
      intro fits
      cases fits
      exact .relaying rfl true handle []
  | inboundRefused runs stage held =>
      refine tells.finish books runs tells
        [.connection .connecting _, .connection .connected _, .connection .disconnected _] ?_
      rw [stage]
      intro fits
      cases fits
      exact ⟨_, .unserved true⟩
  | @opened t deadline handle after runs stage opened socket now =>
      refine .running (tells.advance books runs (tells.openChannel opened) _
        [.service .connected _ (some handle)] ?_)
      rw [stage]
      intro fits
      cases fits
      exact .relaying rfl false handle []
  | openRefused runs stage held =>
      refine tells.finish books runs tells [.connection .disconnected _] ?_
      rw [stage]
      intro fits
      cases fits
      exact ⟨_, .unserved false⟩
  | unserved runs stage now =>
      refine .running (tells.advance books runs tells _ [] ?_)
      rw [stage]
      intro fits
      cases fits
      exact .unserved rfl false
  | served runs stage same =>
      refine .running (tells.advance books runs tells _ [] ?_)
      rw [stage, List.append_nil]
      exact fun fits => fits.congr same
  | @received t s socket relay rest packet runs stage receives channel taken =>
      refine .running (tells.advance books runs tells _ [.data packet] ?_)
      rw [stage]
      intro fits
      cases fits with
      | relaying _ _ handle packets =>
          rw [← relaying_concat]
          refine .relaying ?_ _ handle _
          exact receives
      | unserved silent | served silent => simp [receives] at silent
  | @channelEnded t s next runs stage done =>
      -- The drop is told here only if it was not told before.
      rw [custody.serviceEnd_eq runs stage]
      refine .running (Tells.closeChannel (tells.advance books runs tells _ _ ?_) _)
      rw [stage]
      intro fits
      cases fits with
      | relaying receives _ handle packets =>
          rw [if_pos receives]
          exact .served done _ handle packets
      | unserved silent =>
          simpa [silent] using LinkStage.Tells.unserved done _
      | served silent _ handle packets =>
          simpa [silent] using LinkStage.Tells.served done _ handle packets
  | @lost t s runs stage =>
      have ends : c.serviceEnd t ++ [t.reports .disconnected] =
          ((if s.receiving then [StackEvent.service .disconnected t.device none] else []) ++
            [StackEvent.connection .disconnected t.device]).map (Report.mk (some t.id)) := by
        rw [custody.serviceEnd_eq runs stage, List.map_append]
        rfl
      rw [ends]
      refine tells.finish books runs (tells.closeChannel _) _ ?_
      rw [stage]
      intro fits
      cases fits with
      | relaying receives _ handle packets =>
          rw [if_pos receives]
          exact ⟨_, .served _ handle packets⟩
      | unserved silent =>
          refine ⟨[], ?_⟩
          simpa [silent] using Story.unserved _
      | served silent _ handle packets =>
          refine ⟨packets, ?_⟩
          simpa [silent] using Story.served _ handle packets
  | hangupStarted runs | settled runs =>
      refine aside rfl (voice_eq_nil ?_)
      simpa [HangupTask.reports] using links _ runs
  | hangupAsked => exact aside rfl rfl
  | accepted socket other =>
      -- This starts a task, which no step of a task does.
      have ended := (Narrows.endLink (c.reopen other) other).nextTask
      have grown : (c.reopen other |>.endLink other).nextTask + 1 = c.nextTask := started
      rw [ended] at grown
      exact absurd grown (Nat.succ_ne_self _)
  | listened listener failures =>
      refine aside rfl (voice_eq_nil ?_)
      intro report inside
      obtain ⟨code, text, failure⟩ := failures report inside
      exact absurd failure (understood report inside code text)

/-! ## Everything that may happen to a link -/

/-- Whether an action aborts the task of a link of a device, if there is one. -/
def Aborts (c : Control) (device : Address) : ControlAction → Prop
  | .disconnect other => other = device
  | .cleanup => True
  | .step _ (.accepted _ other) => c.listener = some .accepting ∧ other = device
  | _ => False

namespace Tells

variable (tells : c.Tells id device inbound told) (custody : c.Custody) (numbers : c.Numbers id)
include tells custody

/-- A request to disconnect the device of a link aborts it, and no other one. -/
theorem disconnect (other : Address) :
    (c.disconnect other).2.Tells id device inbound told ∨
      (other = device ∧ ¬ (c.disconnect other).2.Runs id) := by
  by_cases own : other = device
  · refine .inr ⟨own, ?_⟩
    subst own
    rintro ⟨u, runs, same⟩
    obtain ⟨t, before, rfl, rfl, -⟩ := tells
    have unmarked := custody.books.unmarked t before
    rw [disconnect_unmarked unmarked] at runs
    obtain ⟨v, left, id, own, -⟩ :=
      (Narrows.closeChannel (c.endLink t.device) t.device).stands u runs
    obtain ⟨was, apart⟩ := custody.books.mem_endLink left
    exact apart (congrArg LinkTask.device
      (custody.books.eq_of_id before was (id.symm.trans same)))
  · left
    by_cases marked : other ∈ c.closing
    · rw [disconnect_marked marked]
      exact tells
    · rw [disconnect_unmarked marked]
      exact ((tells.endLink_of_ne custody.filed own).closeChannel other).congr rfl

/-- A packet that is sent changes nothing but the relay of a link. -/
theorem send (other : Address) (packet : Packet) :
    (c.send other packet).2.Tells id device inbound told := by
  obtain same | ⟨t, runs, s, next, stage, receiving, same⟩ := send_cases c other packet
  · rw [same]
    exact tells
  · have kept := tells.advance custody.books runs tells (.serving next) [] fun fits => by
      rw [stage] at fits
      simpa using fits.congr receiving
    simpa [same] using kept

include numbers

/-- A link that is accepted takes the place of the one of its device, and of no other. -/
theorem accepted (socket : SocketId) (other : Address) :
    (c.accepted socket other).control.Tells id device inbound told ∨
      (c.listener = some .accepting ∧ other = device ∧
        ¬ (c.accepted socket other).control.Runs id) := by
  by_cases listens : c.listener = some .accepting
  · rw [accepted_listening listens]
    by_cases own : other = device
    · refine .inr ⟨listens, own, ?_⟩
      subst own
      rintro ⟨u, runs, rfl⟩
      obtain before | rfl := mem_startLink.mp runs
      · obtain ⟨was, apart⟩ := (custody.books.reopen other).mem_endLink before
        exact apart (tells.fits custody.books was rfl).1
      · have ended := (Narrows.endLink (c.reopen other) other).nextTask
        exact absurd numbers.known (Nat.not_lt.mpr (Nat.le_of_eq ended.symm))
    · left
      have kept : (c.reopen other).Tells id device inbound told := tells.congr rfl
      exact (kept.endLink_of_ne (custody.filed.reopen other) own).startLink other _
  · rw [accepted_deaf listens]
    exact .inl tells

/-- Whatever happens, account is kept of a link, unless it is aborted. -/
theorem act (action : ControlAction) :
    (c.act action).Accounted id device inbound (told ++ c.reported id action) ∨
      (c.Aborts device action ∧ c.reported id action = [] ∧ ¬ (c.act action).Runs id) := by
  have aside {after : Control} (kept : after.Tells id device inbound told) :
      after.Accounted id device inbound (told ++ []) := by
    rw [List.append_nil]
    exact .running kept
  cases action with
  | connect other =>
      left
      apply aside
      cases idle : c.isLinked other with
      | true =>
          simp only [Control.act, connect_linked idle]
          exact tells
      | false =>
          simp only [Control.act, connect_idle idle]
          exact startLink (tells.congr rfl) other none
  | disconnect other =>
      obtain kept | ⟨own, ended⟩ := tells.disconnect custody other
      · exact .inl (aside kept)
      · exact .inr ⟨own, rfl, ended⟩
  | send other packet => exact .inl (aside (tells.send custody other packet))
  | cleanup =>
      refine .inr ⟨trivial, rfl, ?_⟩
      rintro ⟨u, runs, -⟩
      simp [Control.act, custody.books.tasks_cleanup] at runs
  | listen bound =>
      left
      apply aside
      cases bound <;> exact tells
  | step now step =>
      cases taker : step.task? with
      | some task =>
          have own := isOf_step c now taker
          exact .inl (tells.moves custody numbers.link (moves_step c now step) own.nextTask
            fun report inside => (own.reports report inside).2)
      | none =>
          have mute : voice id (c.step now step).reports = [] :=
            voice_step c now (by rw [taker]; simp)
          simp only [reported, mute]
          cases step with
          | accepted socket other =>
              obtain kept | ⟨listens, own, ended⟩ := tells.accepted custody numbers socket other
              · exact .inl (aside kept)
              · exact .inr ⟨⟨listens, own⟩, trivial, ended⟩
          | acceptFailed code message =>
              refine .inl (aside (tells.congr ?_))
              simp only [Control.act, Control.step, acceptFailed]
              split <;> rfl
          | resumed =>
              refine .inl (aside (tells.congr ?_))
              simp only [Control.act, Control.step, resumed]
              split
              · split <;> rfl
              · rfl
          | _ => cases taker

end Tells

/-! ## Runs -/

/-- What starts the task of a link: a request to connect the device, or an inbound channel.
-/
inductive Starts (c : Control) (device : Address) : Bool → ControlAction → Prop where
  | outgoing (idle : c.isLinked device = false) : Starts c device false (.connect device)
  | inbound (listens : c.listener = some .accepting) (now : Nat) (socket : SocketId) :
      Starts c device true (.step now (.accepted socket device))

/-- Everything that a task reports while several things happen, in order. -/
def tale (c : Control) (id : TaskId) : List ControlAction → List StackEvent
  | [] => []
  | action :: rest => c.reported id action ++ (c.act action).tale id rest

/-- The packets that a task takes while several things happen, in order. -/
def haul (c : Control) (id : TaskId) : List ControlAction → List Packet
  | [] => []
  | action :: rest => c.taken id action ++ (c.act action).haul id rest

/-- Whether the task of a link of a device is never aborted while it runs. -/
def Spared (c : Control) (id : TaskId) (device : Address) : List ControlAction → Prop
  | [] => True
  | action :: rest =>
    (c.Runs id → ¬ c.Aborts device action) ∧ (c.act action).Spared id device rest

theorem packets_tale (c : Control) (id : TaskId) (actions : List ControlAction) :
    (c.tale id actions).filterMap StackEvent.packet? = c.haul id actions := by
  induction actions generalizing c with
  | nil => rfl
  | cons action rest ih => simp only [tale, haul, List.filterMap_append, packets_reported, ih]

/-- What has ended reports nothing any more, whatever happens. -/
theorem Numbers.tale_eq_nil (numbers : c.Numbers id) (ended : ¬ c.Runs id)
    (actions : List ControlAction) : c.tale id actions = [] := by
  induction actions generalizing c with
  | nil => rfl
  | cons action rest ih =>
      have still : ¬ (c.act action).Runs id := by
        intro runs
        obtain before | new := runs_act runs
        · exact ended before
        · exact Nat.ne_of_lt numbers.known new
      simp only [tale, numbers.reported_eq_nil ended, ih (numbers.act action) still,
        List.append_nil]

/-- Whatever happens to a link that runs, it tells a story up to some point; and to its end,
if it ends without being aborted. -/
theorem Tells.run (tells : c.Tells id device inbound told) (custody : c.Custody)
    (numbers : c.Numbers id) (actions : List ControlAction) :
    (∃ packets whole, Story device inbound packets whole ∧
        told ++ c.tale id actions <+: whole) ∧
      (c.Spared id device actions → ¬ (c.run actions).Runs id →
        ∃ packets, Story device inbound packets (told ++ c.tale id actions)) := by
  induction actions generalizing c told with
  | nil =>
      simp only [tale, List.append_nil]
      exact ⟨tells.begins, fun _ ended => absurd tells.runs ended⟩
  | cons action rest ih =>
      have numbered := numbers.act action
      obtain (goes | ⟨ended, story⟩) | ⟨aborts, silent, ended⟩ :=
        tells.act custody numbers action
      · obtain ⟨sofar, complete⟩ := ih goes (custody.act action) numbered
        simp only [List.append_assoc] at sofar complete
        exact ⟨sofar, fun spared => complete spared.2⟩
      · -- The story is complete, and nothing comes after it.
        simp only [tale, numbered.tale_eq_nil ended, List.append_nil]
        exact ⟨⟨_, _, story, List.prefix_refl _⟩, fun _ _ => ⟨_, story⟩⟩
      · simp only [tale, numbered.tale_eq_nil ended, silent, List.append_nil]
        exact ⟨tells.begins, fun spared => absurd aborts (spared.1 tells.runs)⟩

/-- The task of a link that starts has told nothing, and has a number of its own. -/
theorem Starts.begins {action : ControlAction} (starts : c.Starts device inbound action)
    (custody : c.Custody) :
    (c.act action).Tells c.nextTask device inbound [] ∧ (c.act action).Numbers c.nextTask := by
  have unused : ∀ h ∈ c.hangups, h.id ≠ c.nextTask := fun h runs =>
    Nat.ne_of_lt (custody.books.hangupsKnown h runs)
  cases starts with
  | outgoing idle =>
      simp only [Control.act, connect_idle idle]
      exact ⟨⟨_, mem_startLink.mpr (.inr rfl), rfl, rfl, .fresh none⟩,
        Nat.lt_succ_self _, unused⟩
  | inbound listens now socket =>
      simp only [Control.act, Control.step, accepted_listening listens]
      have ended := Narrows.endLink (c.reopen device) device
      refine ⟨⟨_, mem_startLink.mpr (.inr rfl), ended.nextTask, rfl, .fresh (some socket)⟩, ?_, ?_⟩
      · exact Nat.lt_succ_of_le (Nat.le_of_eq ended.nextTask.symm)
      · intro h runs
        have before : h ∈ ((c.reopen device).endLink device).hangups := runs
        rw [ended.hangups] at before
        exact unused h before

/-- The task of a link tells a well-formed story, whatever happened before it was started
and whatever happens afterwards. Its reports are at all times the beginning of a complete
story, and the data among them are the packets that it took, in order. If it has ended and
was not aborted, its reports are a complete story. -/
theorem link_story (psm : UInt16) (pollInterval : Nat) (past : List ControlAction)
    {action : ControlAction}
    (starts : ((initial psm pollInterval).run past).Starts device inbound action)
    (actions : List ControlAction) :
    let id := ((initial psm pollInterval).run past).nextTask
    let begun := ((initial psm pollInterval).run past).act action
    begun.Runs id ∧
      (∃ packets whole, Story device inbound packets whole ∧ begun.tale id actions <+: whole) ∧
      (begun.tale id actions).filterMap StackEvent.packet? = begun.haul id actions ∧
      (begun.Spared id device actions → ¬ (begun.run actions).Runs id →
        Story device inbound (begun.haul id actions) (begun.tale id actions)) := by
  intro id begun
  have custody : ((initial psm pollInterval).run past).Custody :=
    (custody_initial psm pollInterval).run past
  obtain ⟨tells, numbers⟩ := starts.begins custody
  obtain ⟨sofar, complete⟩ := tells.run (custody.act action) numbers actions
  have packets := packets_tale begun id actions
  refine ⟨tells.runs, sofar, packets, ?_⟩
  intro spared ended
  obtain ⟨reported, story⟩ := complete spared ended
  have same : begun.haul id actions = reported := packets.symm.trans story.packets_eq
  rw [same]
  exact story

/-- A second device waits for its first step. The first one is connected, opens the service
channel, sends a packet and closes the channel, which the second opens then. When the radio
is asked, the first device is gone. -/
def shortService : List ControlAction :=
  [.step 0 (.start 1), .step 10 (.dialed 1 true), .step 20 (.opened 1 (some 3)),
    .step 30 (.relayed 1 (.read (.packet [7, 8]))), .step 30 (.relayed 1 .deliver),
    .step 40 (.received 1), .step 50 (.relayed 1 (.read .ended)),
    .step 50 (.relayed 1 .deliver), .step 60 (.received 1), .step 70 (.start 0),
    .step 80 (.tick 1), .step 90 (.polled 1 false)]

/-- The first device tells a complete story with its packet. -/
theorem short_service_told :
    let before := (initial 4097 5000).run
      [.listen .done, .step 0 (.accepted 0 (.numbered 2))]
    let begun := before.act (.connect (.numbered 1))
    before.Starts (.numbered 1) false (.connect (.numbered 1)) ∧
      begun.Spared 1 (.numbered 1) shortService ∧ ¬ (begun.run shortService).Runs 1 ∧
        Story (.numbered 1) false [[7, 8]] (begun.tale 1 shortService) := by
  intro before begun
  have starts : before.Starts (.numbered 1) false (.connect (.numbered 1)) :=
    .outgoing (by decide +kernel)
  have spared : begun.Spared 1 (.numbered 1) shortService := by
    simp [shortService, Spared, Aborts]
  have left : (begun.run shortService).tasks.map LinkTask.id = [0] := by decide +kernel
  have ended : ¬ (begun.run shortService).Runs 1 := by
    rintro ⟨t, runs, own⟩
    have listed := List.mem_map_of_mem (f := LinkTask.id) runs
    rw [left, own] at listed
    exact absurd listed (by decide)
  have packets : begun.haul 1 shortService = [[7, 8]] := by decide +kernel
  refine ⟨starts, spared, ended, ?_⟩
  rw [← packets]
  exact (link_story 4097 5000 _ starts shortService).2.2.2 spared ended

end Control

end AccessoryLink
