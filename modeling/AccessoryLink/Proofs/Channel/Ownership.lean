import Mathlib.Algebra.Group.Nat.Defs
import Mathlib.Data.List.Range
import Mathlib.Data.List.Nodup
import AccessoryLink.Channel.Desk

/-!
# The service channel has one owner

Who owns the service channel can be read off what was called and answered: it is the device
of the last opening, unless that device has closed the channel since (`standing`). The
register remembers just this, and `Traced` says so: its holder is the opening that stands, and
its next handle is the number of all openings so far, with one added and wrapped.

Between two calls whoever takes packets from a queue may do with it what he likes, so nothing
is said of queues but what a call does to them.
-/

namespace AccessoryLink

/-- What may happen to a desk: a call of some device, or something that befalls a queue. -/
inductive DeskCall where
  | install (device : Address) (depth : Nat)
  | close (device : Address)
  | send (device : Address) (packet : Packet)
  /-- Whoever takes packets from a queue leaves it like this. -/
  | handle (line : Nat) (queue : PacketQueue)

/-- What a call came to. -/
inductive DeskRecord where
  | opened (opening : ChannelHolder)
  | refused (device : Address)
  | closed (device : Address) (answer : Option ChannelHandle)
  | sent (device : Address) (packet : Packet) (result : Outcome)
  | handled (line : Nat)

/-- The opening that a record is of. -/
def DeskRecord.opening? : DeskRecord → Option ChannelHolder
  | opened opening => some opening
  | _ => none

/-- All openings of a history, in order. -/
def granted (history : List DeskRecord) : List ChannelHolder :=
  history.filterMap DeskRecord.opening?

/-- How a record changes the opening that stands: a new one takes its place, and its device
may close it. -/
def DeskRecord.follow (standing : Option ChannelHolder) : DeskRecord → Option ChannelHolder
  | opened opening => some opening
  | closed device _ => standing.filter (·.device ≠ device)
  | _ => standing

/-- The opening that stands after a history. Its device owns the channel. -/
def standing (history : List DeskRecord) : Option ChannelHolder :=
  history.foldl DeskRecord.follow none

namespace ChannelDesk

/-- Makes a call. -/
def call (desk : ChannelDesk) : DeskCall → DeskRecord × ChannelDesk
  | .install device depth =>
    match desk.install device depth with
    | (some handle, next) => (.opened ⟨device, handle, desk.queues.length⟩, next)
    | (none, next) => (.refused device, next)
  | .close device =>
    match desk.close device with
    | (answer, next) => (.closed device answer, next)
  | .send device packet =>
    match desk.send device packet with
    | (result, next) => (.sent device packet result, next)
  | .handle line queue => (.handled line, { desk with queues := desk.queues.set line queue })

/-- Makes several calls, and keeps a record of each. -/
def run (desk : ChannelDesk) : List DeskCall → List DeskRecord × ChannelDesk
  | [] => ([], desk)
  | call :: rest =>
    let later := (desk.call call).2.run rest
    ((desk.call call).1 :: later.1, later.2)

variable {desk : ChannelDesk} {device : Address} {past : List DeskRecord}
  {opening : ChannelHolder}

/-! ## Histories -/

@[simp] theorem granted_append (past : List DeskRecord) (record : DeskRecord) :
    granted (past ++ [record]) = granted past ++ record.opening?.toList := by
  cases opening : record.opening? <;> simp [granted, opening]

@[simp] theorem standing_append (past : List DeskRecord) (record : DeskRecord) :
    standing (past ++ [record]) = record.follow (standing past) := by
  simp [standing]

/-- The owner of the channel closes it. -/
theorem follow_closed_owned (own : opening.device = device) (answer : Option ChannelHandle) :
    (DeskRecord.closed device answer).follow (some opening) = none := by
  simp [DeskRecord.follow, Option.filter, own]

/-- Nobody else does. -/
theorem follow_closed_other {stands : Option ChannelHolder}
    (other : ∀ holder ∈ stands, holder.device ≠ device) (answer : Option ChannelHandle) :
    (DeskRecord.closed device answer).follow stands = stands := by
  cases stands with
  | none => rfl
  | some holder => simp [DeskRecord.follow, Option.filter, other holder rfl]

/-- The opening that stands is the last one. -/
theorem getLast?_granted (stands : standing past = some opening) :
    (granted past).getLast? = some opening := by
  induction past using List.reverseRecOn generalizing opening with
  | nil => cases stands
  | append_singleton past record ih =>
      rw [standing_append] at stands
      rw [granted_append]
      cases record with
      | opened other =>
          obtain rfl := Option.some.inj stands
          simp [DeskRecord.opening?]
      | closed device answer =>
          have before : standing past = some opening := (Option.filter_eq_some_iff.mp stands).1
          simpa [DeskRecord.opening?] using ih before
      | _ => simpa [DeskRecord.opening?] using ih stands

/-! ## Calls -/

/-- What the register remembers of a history. -/
structure Traced (past : List DeskRecord) (desk : ChannelDesk) : Prop where
  holder : desk.register.holder = standing past
  next : desk.register.next.number = .ofNat ((granted past).length + 1)
  /-- Every opening has a queue of its own. -/
  queues : desk.queues.length = (granted past).length
  lines : (granted past).map ChannelHolder.line = List.range (granted past).length
  handles : (granted past).map (·.handle.number) =
    (List.range' 1 (granted past).length).map UInt32.ofNat

theorem traced_initial : Traced [] initial := by
  constructor <;> rfl

/-- Whether a device may open the channel: it is free, or the device owns it already. -/
theorem admits_iff (r : ChannelRegister) (device : Address) :
    r.admits device = true ↔ ∀ holder ∈ r.holder, holder.device = device := by
  cases held : r.holder <;> simp [ChannelRegister.admits, ChannelRegister.isHeldBy, held]

theorem install_admitted (admitted : desk.register.admits device = true) (depth : Nat) :
    desk.install device depth =
      (some desk.register.next,
        { desk with
          register := ⟨some ⟨device, desk.register.next, desk.queues.length⟩,
            desk.register.next.next⟩
          queues := desk.queues ++ [.ofDepth depth]
          openings := (device, desk.queues.length) :: desk.openings }) := by
  simp [install, ChannelRegister.open?, admitted]

theorem install_refused (held : desk.register.admits device = false) (depth : Nat) :
    desk.install device depth = (none, desk) := by
  simp [install, ChannelRegister.open?, held]

theorem close_owned (held : desk.register.holder = some opening)
    (own : opening.device = device) :
    desk.close device =
      (some opening.handle, { desk with register := { desk.register with holder := none } }) := by
  simp [close, ChannelRegister.close, ChannelRegister.isHeldBy, held, own]

theorem close_other (other : ∀ holder ∈ desk.register.holder, holder.device ≠ device) :
    desk.close device = (none, desk) := by
  cases held : desk.register.holder with
  | none => simp [close, ChannelRegister.close, ChannelRegister.isHeldBy, held]
  | some holder =>
      have distinct := other holder held
      simp [close, ChannelRegister.close, ChannelRegister.isHeldBy, held, distinct]

/-- A packet for the owner is offered to the queue of its opening. -/
theorem send_owned (held : desk.register.holder = some opening)
    (own : opening.device = device) {queue : PacketQueue}
    (found : desk.queues[opening.line]? = some queue) (packet : Packet) :
    desk.send device packet =
      ((queue.offer packet).1,
        { desk with queues := desk.queues.set opening.line (queue.offer packet).2 }) := by
  simp [send, ChannelRegister.line?, ChannelRegister.isHeldBy, held, own, found]

theorem send_other (other : ∀ holder ∈ desk.register.holder, holder.device ≠ device)
    (packet : Packet) : desk.send device packet = (.error .channelClosed, desk) := by
  cases held : desk.register.holder with
  | none => simp [send, ChannelRegister.line?, ChannelRegister.isHeldBy, held]
  | some holder =>
      have distinct := other holder held
      simp [send, ChannelRegister.line?, ChannelRegister.isHeldBy, held, distinct]

/-- Sending opens and closes nothing. -/
theorem send_keeps (desk : ChannelDesk) (device : Address) (packet : Packet) :
    (desk.send device packet).2.register = desk.register ∧
      (desk.send device packet).2.queues.length = desk.queues.length := by
  unfold send
  split
  · exact ⟨rfl, rfl⟩
  · split
    · exact ⟨rfl, rfl⟩
    · exact ⟨rfl, List.length_set⟩

/-- A queue that is not open, or is full, takes nothing. -/
theorem offer_refused {queue : PacketQueue} (packet : Packet)
    (full : ¬ (queue.isOpen = true ∧ queue.packets.length < queue.depth)) :
    ∃ error, queue.offer packet = (.error error, queue) := by
  cases answer : (queue.offer packet).1 with
  | ok =>
      exact absurd (PacketQueue.offer_fst_eq_done_iff.mp answer) full
  | error error => exact ⟨error, Prod.ext answer (PacketQueue.offer_snd_of_error answer)⟩

theorem offer_accepted {queue : PacketQueue} (isOpen : queue.isOpen = true)
    (room : queue.packets.length < queue.depth) (packet : Packet) :
    queue.offer packet = (.done, { queue with packets := queue.packets ++ [packet] }) := by
  simp [PacketQueue.offer, isOpen, room]

namespace Traced

variable (traced : Traced past desk)
include traced

/-- A record that opens nothing, and leaves the right opening standing. -/
theorem record {next : ChannelDesk} (record : DeskRecord) (other : record.opening? = none)
    (holder : next.register.holder = record.follow (standing past))
    (number : next.register.next = desk.register.next)
    (queues : next.queues.length = desk.queues.length) : Traced (past ++ [record]) next := by
  have same : granted (past ++ [record]) = granted past := by simp [other]
  constructor
  · rw [standing_append, holder]
  · rw [same, number, traced.next]
  · rw [same, queues, traced.queues]
  · rw [same, traced.lines]
  · rw [same, traced.handles]

/-- A device opens the channel. -/
theorem install (device : Address) (depth : Nat) :
    Traced (past ++ [(desk.call (.install device depth)).1])
      (desk.call (.install device depth)).2 := by
  cases admitted : desk.register.admits device with
  | false =>
      rw [call, install_refused admitted]
      exact traced.record _ rfl traced.holder rfl rfl
  | true =>
      rw [call, install_admitted admitted]
      constructor
      · rw [standing_append]
        rfl
      · simp [DeskRecord.opening?, ChannelHandle.next, traced.next]
      · simp [DeskRecord.opening?, traced.queues]
      · simp [DeskRecord.opening?, traced.lines, traced.queues, List.range_succ]
      · simp [DeskRecord.opening?, traced.handles, traced.next, List.range'_concat,
          UInt32.add_comm]

/-- A device closes the channel, if it owns it. -/
theorem close (device : Address) :
    Traced (past ++ [(desk.call (.close device)).1]) (desk.call (.close device)).2 := by
  by_cases own : ∃ opening, desk.register.holder = some opening ∧ opening.device = device
  · obtain ⟨opening, held, same⟩ := own
    rw [call, close_owned held same]
    refine traced.record _ rfl ?_ rfl rfl
    rw [← traced.holder, held, follow_closed_owned same]
  · have other (holder) (held : holder ∈ desk.register.holder) : holder.device ≠ device :=
      fun same => own ⟨holder, held, same⟩
    rw [call, close_other other]
    refine traced.record _ rfl ?_ rfl rfl
    rw [← traced.holder, follow_closed_other other]

theorem call (c : DeskCall) : Traced (past ++ [(desk.call c).1]) (desk.call c).2 := by
  cases c with
  | install device depth => exact traced.install device depth
  | close device => exact traced.close device
  | send device packet =>
      obtain ⟨register, queues⟩ := send_keeps desk device packet
      refine traced.record _ rfl ?_ (congrArg ChannelRegister.next register) queues
      exact (congrArg ChannelRegister.holder register).trans traced.holder
  | handle line queue => exact traced.record _ rfl traced.holder rfl List.length_set

theorem run (calls : List DeskCall) :
    Traced (past ++ (desk.run calls).1) (desk.run calls).2 := by
  induction calls generalizing past desk with
  | nil => simpa [ChannelDesk.run] using traced
  | cons c rest ih =>
      have later := ih (traced.call c)
      rw [List.append_assoc] at later
      exact later

end Traced

/-- The queue of the opening that stands is the newest. -/
theorem Traced.line_succ (traced : Traced past desk) (stands : standing past = some opening) :
    opening.line + 1 = desk.queues.length := by
  obtain ⟨front, split⟩ := List.getLast?_eq_some_iff.mp (getLast?_granted stands)
  have lines := traced.lines
  rw [split] at lines
  simp only [List.map_append, List.map_cons, List.map_nil, List.length_append,
    List.length_cons, List.length_nil, List.range_succ] at lines
  have last := (List.append_inj' lines rfl).2
  rw [traced.queues, split, List.length_append, (List.cons.inj last).1]
  rfl

/-! ## Handles -/

/-- Fewer numbers in a row than there are handles are told apart by their handles. -/
theorem nodup_ofNat_range' (start count : Nat) (short : count ≤ 2 ^ 32) :
    ((List.range' start count).map UInt32.ofNat).Nodup := by
  refine List.Nodup.map_on ?_ List.nodup_range'
  intro x first y second same
  have modulo : x % 2 ^ 32 = y % 2 ^ 32 := by
    simpa using congrArg UInt32.toNat same
  rw [List.mem_range'_1] at first second
  omega

/-- Openings in a row have numbers in a row. -/
theorem Traced.handles_part (traced : Traced past desk) {front window back : List ChannelHolder}
    (split : front ++ window ++ back = granted past) :
    window.map (·.handle.number) =
      (List.range' (1 + front.length) window.length).map UInt32.ofNat := by
  have handles := traced.handles
  rw [← split] at handles
  simp only [List.map_append, List.length_append, ← List.range'_append_1] at handles
  have early := (List.append_inj handles (by simp)).1
  exact (List.append_inj early (by simp)).2

theorem Traced.nodup_handles (traced : Traced past desk) {window : List ChannelHolder}
    (part : window <:+: granted past) (short : window.length ≤ 2 ^ 32) :
    (window.map ChannelHolder.handle).Nodup := by
  obtain ⟨front, back, split⟩ := part
  apply List.Nodup.of_map ChannelHandle.number
  rw [List.map_map]
  exact traced.handles_part split ▸ nodup_ofNat_range' _ _ short

/-! ## Every history -/

/-- Whether a packet for a device goes through: the device owns the channel, and the queue of
its opening is open and has room. -/
def Carries (desk : ChannelDesk) (past : List DeskRecord) (device : Address)
    (opening : ChannelHolder) (queue : PacketQueue) : Prop :=
  standing past = some opening ∧ opening.device = device ∧
    desk.queues[opening.line]? = some queue ∧ queue.isOpen = true ∧
    queue.packets.length < queue.depth

/-- A packet that does not go through is put on no queue. -/
theorem Traced.send_refused (traced : Traced past desk) {packet : Packet}
    (blocked : ∀ opening queue, ¬ desk.Carries past device opening queue) :
    ∃ error, desk.send device packet = (.error error, desk) := by
  by_cases own : ∃ opening, standing past = some opening ∧ opening.device = device
  · obtain ⟨opening, stands, same⟩ := own
    have held : desk.register.holder = some opening := traced.holder.trans stands
    have inside : opening.line < desk.queues.length := by
      have newest := traced.line_succ stands
      omega
    have found := List.getElem?_eq_getElem inside
    obtain ⟨error, refused⟩ := offer_refused packet fun room =>
      blocked opening _ ⟨stands, same, found, room⟩
    refine ⟨error, ?_⟩
    rw [send_owned held same found, refused]
    simp
  · refine ⟨.channelClosed, send_other ?_ packet⟩
    intro holder held same
    exact own ⟨holder, traced.holder.symm.trans held, same⟩

/-- The channel has one owner, whatever was called before and whatever has befallen the
queues. The owner is the device of the opening that stands, which is the last of all, with
the newest queue. A device opens the channel exactly if it is free or the device owns it, and
with a new queue; a device that is refused changes nothing. A device frees the channel exactly
if it owns it, and gets the handle of its opening. A packet is put as it is on the queue of
the opening that stands if this is the device's and the queue is open and has room, and on
none otherwise. Among `2 ^ 32` openings in a row no handle is given twice. -/
theorem channel_has_one_owner (calls : List DeskCall) :
    let past := (initial.run calls).1
    let desk := (initial.run calls).2
    (∀ opening, standing past = some opening →
        (granted past).getLast? = some opening ∧ opening.line + 1 = desk.queues.length) ∧
      (∀ device depth,
        if ∀ opening ∈ standing past, opening.device = device then
          ∃ handle next, desk.install device depth = (some handle, next) ∧
            (desk.call (.install device depth)).1 =
              .opened ⟨device, handle, desk.queues.length⟩ ∧
            next.queues = desk.queues ++ [.ofDepth depth]
        else desk.install device depth = (none, desk)) ∧
      (∀ device,
        (∀ opening, standing past = some opening → opening.device = device →
          ∃ next, desk.close device = (some opening.handle, next) ∧
            next.queues = desk.queues ∧
            ∀ other depth, (next.install other depth).1.isSome) ∧
          ((∀ opening, standing past = some opening → opening.device ≠ device) →
            desk.close device = (none, desk))) ∧
      (∀ device packet,
        (∀ opening queue, desk.Carries past device opening queue →
          desk.send device packet =
            (.done,
              { desk with
                queues := desk.queues.set opening.line
                  { queue with packets := queue.packets ++ [packet] } })) ∧
          ((∀ opening queue, ¬ desk.Carries past device opening queue) →
            ∃ error, desk.send device packet = (.error error, desk))) ∧
      ∀ window, window <:+: granted past → window.length ≤ 2 ^ 32 →
        (window.map ChannelHolder.handle).Nodup := by
  intro past desk
  have traced : Traced past desk := traced_initial.run calls
  refine ⟨?_, ?_, ?_, ?_, fun window part short => traced.nodup_handles part short⟩
  · intro opening stands
    exact ⟨getLast?_granted stands, traced.line_succ stands⟩
  · intro device depth
    rw [← traced.holder]
    split
    · rename_i free
      have admitted := install_admitted ((admits_iff desk.register device).mpr free) depth
      exact ⟨desk.register.next, _, admitted, by rw [call, admitted], rfl⟩
    · rename_i held
      apply install_refused
      exact Bool.eq_false_iff.mpr fun admitted => held ((admits_iff _ _).mp admitted)
  · intro device
    constructor
    · intro opening stands own
      refine ⟨_, close_owned (traced.holder.trans stands) own, rfl, ?_⟩
      intro other depth
      rw [install_admitted]
      · rfl
      · rfl
    · intro other
      apply close_other
      rw [traced.holder]
      exact other
  · intro device packet
    refine ⟨?_, traced.send_refused⟩
    rintro opening queue ⟨stands, own, found, isOpen, room⟩
    rw [send_owned (traced.holder.trans stands) own found, offer_accepted isOpen room]

end ChannelDesk

end AccessoryLink
