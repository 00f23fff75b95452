import AccessoryLink.Proofs.Control.Receipts
import AccessoryLink.Proofs.Machine.Admission
import AccessoryLink.Proofs.Station.Steps

/-!
# Whose packets observers get

A link takes packets from the service channel and reports them, the reports wait in the
queue, and the machine passes a packet on if a device is connected when its report is
taken up. Nothing is lost, added or changed on the way, and the order is kept
(`packets_relayed`). But nothing ties the link that took a packet to the device that is
connected: the machine may follow a device whose service channel could not be opened,
while another one, of which it takes no notice, has opened the channel. The packets of
that device then pass for packets of the connected one (`stray_packet_relayed`).
-/

namespace AccessoryLink.Station

open StationWorld

/-- The packets that a step takes from the service channel. -/
def taken (s : Station) : StationStep → List Receipt
  | .task step => s.world.control.receipts step
  | _ => []

/-- The packets that are taken from the service channel on a run, in order. -/
def receipts (s : Station) : List StationStep → List Receipt
  | [] => []
  | step :: rest => s.taken step ++ receipts (Station.step s step).1 rest

/-- The packets whose reports wait in a queue. -/
def waitingPackets (inbox : List Message) : List Packet := inbox.filterMap Message.packet?

/-! ## Every run -/

/-- Every packet that was taken has been heard or waits, until the end; after that, what
waited and what is taken still is lost. -/
structure Relaying (s : Station) (trace : List Effect) (receipts : List Receipt) : Prop where
  passing : Machine.Passing trace s.machine
  done : s.machine.replay = []
  books : s.world.control.Consistent
  order : ∃ lost, receipts.map Receipt.packet =
    (heard trace).map Prod.snd ++ waitingPackets s.inbox ++ lost ∧
      (s.ended = false → lost = [])

theorem relaying_initial (psm : UInt16) (pollInterval : Nat) (directory : Directory)
    (timeout : Nat) : Relaying (initial (.initial psm pollInterval) directory timeout) [] [] where
  passing := Machine.passing_initial
  done := rfl
  books := Control.consistent_initial psm pollInterval
  order := ⟨[], rfl, fun _ => rfl⟩

section Step

variable {s : Station} {trace : List Effect} {past : List Receipt}

/-- What a task takes is queued behind everything else, or lost after the end. -/
theorem Relaying.task (before : Relaying s trace past) (step : ControlStep) :
    Relaying (advanceTask s step).1 trace (past ++ s.world.control.receipts step) := by
  let t := s.world.control.step s.now step
  have books : t.control.Consistent :=
    before.books.moves (Control.moves_step s.world.control s.now step)
  have packets : t.packets = (s.world.control.receipts step).map Receipt.packet :=
    Control.packets_step s.world.control s.now step
  obtain ⟨lost, order, kept⟩ := before.order
  obtain ⟨ended, same⟩ | ⟨active, same⟩ := task_cases s step
  · rw [same]
    refine ⟨before.passing, before.done, books, lost ++ t.packets, ?_, ?_⟩
    · rw [List.map_append, order, packets, List.append_assoc]
    · intro running
      rw [ended] at running
      cases running
  · rw [same]
    have queued : waitingPackets (s.inbox ++ t.reports.map fun report => .stack report.event) =
        waitingPackets s.inbox ++ t.packets := by
      simp only [waitingPackets, List.filterMap_append, List.filterMap_map]
      rfl
    refine ⟨before.passing, before.done, books, [], ?_, fun _ => rfl⟩
    rw [queued, List.map_append, order, packets, kept active]
    simp

/-- The machine takes up the first report, or the expiry of its timer. -/
theorem Relaying.handle (before : Relaying s trace past) {message : Message}
    {rest : List Message}
    (next : s.inbox = message :: rest ∨ rest = s.inbox ∧ ∃ n, message = .timeout n) :
    let result := { s with inbox := rest }.handle surroundings message
    Relaying result.1 (trace ++ result.2) past := by
  intro result
  obtain ⟨lost, order, kept⟩ := before.order
  obtain ⟨passing, heard⟩ : Machine.Passing (trace ++ result.2) result.1.machine ∧
      heard (trace ++ result.2) = heard trace ++
        (message.packet?.map (s.machine.snapshot.connectedDevice?, ·)).toList :=
    before.passing.handle before.done s.deadline s.world message
  refine ⟨passing, Machine.replay_handle _ _ _ _ _,
    Machine.handle_world spares_books before.passing.lawful.legal before.books _, lost, ?_, kept⟩
  have queue : waitingPackets s.inbox = message.packet?.toList ++ waitingPackets rest := by
    obtain queue | ⟨rfl, n, rfl⟩ := next
    · rw [queue, waitingPackets, List.filterMap_cons]
      cases message.packet? <;> rfl
    · rfl
  rw [heard, order, queue]
  show _ = _ ++ waitingPackets rest ++ lost
  cases message.packet? <;> simp

/-- The end leaves nothing in the queue. -/
theorem Relaying.stop (before : Relaying s trace past) (rest : List Message) :
    let result := { s with inbox := rest }.stop surroundings
    Relaying result.1 (trace ++ result.2) past := by
  intro result
  obtain ⟨left, farewell⟩ := Manager.stop_of_done surroundings
    (m := { s with inbox := rest }) before.done
  have silent : ∀ message, .took message ∉ result.2 := fun message =>
    farewell.absent (by simp) (by simp)
  obtain ⟨passing, same⟩ :
      Machine.Passing (trace ++ result.2) { s.machine with timer := none, deferred := [] } ∧
        heard (trace ++ result.2) = heard trace :=
    before.passing.givenUp farewell.silent silent farewell.untold
  obtain ⟨lost, order, -⟩ := before.order
  have after : result.1 = _ := left
  rw [after]
  refine ⟨passing, before.done, before.books.cleanup, waitingPackets s.inbox ++ lost, ?_, ?_⟩
  · rw [same, order]
    simp [waitingPackets]
  · intro running
    cases running

/-- What comes from outside reports no packet. -/
theorem Relaying.elsewhere (before : Relaying s trace past) {step : StationStep}
    (idle : ∀ work, step ≠ .task work) (passive : step ≠ .actor) :
    Relaying (Station.step s step).1 (trace ++ (Station.step s step).2.effects) past := by
  obtain ⟨outside, still⟩ := outside_step s idle passive
  generalize (Station.step s step).1 = after at outside
  rw [still, List.append_nil]
  obtain ⟨listener, control⟩ := outside.control
  obtain ⟨lost, order, kept⟩ := before.order
  have queue : waitingPackets after.inbox = waitingPackets s.inbox := by
    obtain same | ⟨message, asks, queued⟩ := outside.inbox
    · rw [same]
    · have none : message.packet? = .none := by
        cases message with
        | stack event => exact absurd rfl (asks event)
        | _ => rfl
      simp [queued, waitingPackets, none]
  refine ⟨outside.machine ▸ before.passing, outside.machine ▸ before.done, ?_, lost, ?_, ?_⟩
  · have moves : Control.Moves s.world.control []
        { s.world.control with listener := listener } := .listened listener (by simp)
    rw [control]
    exact before.books.moves moves
  · rw [queue]
    exact order
  · rw [outside.ended]
    exact kept

theorem Relaying.actor (before : Relaying s trace past) :
    Relaying (Station.step s .actor).1 (trace ++ (Station.step s .actor).2.effects) past := by
  obtain ⟨same, still⟩ | ⟨-, ⟨message, rest, next, same, effects⟩ |
    ⟨rest, -, same, effects⟩⟩ := actor_cases s
  · rw [same, still, List.append_nil]
    exact before
  · rw [same, effects]
    exact before.handle next
  · rw [same, effects]
    exact before.stop rest

theorem Relaying.step (before : Relaying s trace past) (step : StationStep) :
    Relaying (Station.step s step).1 (trace ++ (Station.step s step).2.effects)
      (past ++ taken s step) := by
  cases step with
  | task work =>
      have after := before.task work
      rw [← List.append_nil trace] at after
      exact after
  | actor => exact (List.append_nil past).symm ▸ before.actor
  | _ => exact (List.append_nil past).symm ▸ before.elsewhere (by simp) (by simp)

end Step

theorem Relaying.run {s : Station} {trace : List Effect} {past : List Receipt}
    (before : Relaying s trace past) (steps : List StationStep) :
    Relaying (run s steps).1 (trace ++ (run s steps).2) (past ++ receipts s steps) := by
  induction steps generalizing s trace past with
  | nil => simpa [receipts] using before
  | cons step rest ih =>
      rw [run_cons, receipts, ← List.append_assoc, ← List.append_assoc]
      exact ih (before.step step)

/-! ## Whose packets they are -/

/-- What observers are to be told of packets: those that are taken up while a device is
connected are packets of the devices they came from. -/
def due (origins : List Receipt) (entries : List (Option Address × Packet)) :
    List (Option Address × Packet) :=
  ((origins.zip entries).filter (·.2.1.isSome)).map fun pair =>
    (some pair.1.device, pair.1.packet)

/-- What one list of packets holds, the other holds at the same place. -/
theorem packet_of_zip {origins : List Receipt} {entries : List (Option Address × Packet)}
    (same : origins.map Receipt.packet = entries.map Prod.snd) :
    ∀ pair ∈ origins.zip entries, pair.1.packet = pair.2.2 := by
  induction origins generalizing entries with
  | nil => simp
  | cons origin rest ih =>
      cases entries with
      | nil => simp
      | cons entry later =>
          obtain ⟨first, others⟩ := List.cons.inj same
          intro pair inside
          obtain rfl | behind := List.mem_cons.mp inside
          · exact first
          · exact ih others pair behind

/-- Observers are told what is due exactly if no packet is taken up while another device
than the one it came from is connected. -/
theorem filter_eq_due_iff {origins : List Receipt} {entries : List (Option Address × Packet)}
    (same : origins.map Receipt.packet = entries.map Prod.snd) :
    entries.filter (·.1.isSome) = due origins entries ↔
      ∀ pair ∈ origins.zip entries, ∀ device, pair.2.1 = some device →
        device = pair.1.device := by
  have lengths : entries.length ≤ origins.length := by
    have lengths := congrArg List.length same
    simp only [List.length_map] at lengths
    exact Nat.le_of_eq lengths.symm
  have all : entries.filter (·.1.isSome) =
      ((origins.zip entries).filter (·.2.1.isSome)).map Prod.snd := by
    conv_lhs => rw [← List.map_snd_zip lengths]
    rw [List.filter_map]
    rfl
  rw [all, due, List.map_inj_left]
  constructor
  · intro told pair inside device connected
    have own := told pair (List.mem_filter.mpr ⟨inside, by simp [connected]⟩)
    rw [← Option.some.injEq, ← connected]
    exact congrArg Prod.fst own
  · intro own pair inside
    obtain ⟨inside, connected⟩ := List.mem_filter.mp inside
    obtain ⟨device, connected⟩ := Option.isSome_iff_exists.mp connected
    have packet := packet_of_zip same pair inside
    obtain rfl := own pair inside device connected
    exact Prod.ext connected packet.symm

/-- On every run, each packet is taken by a link that holds the service channel. The
packets whose reports are taken up are the first of those that were taken, in the same
order and unchanged, and observers are told of each of them that is taken up while a
device is connected. They get it as a packet of that device, which is right exactly if no
other device than the one it came from is connected then. -/
theorem packets_relayed (psm : UInt16) (pollInterval : Nat) (directory : Directory)
    (timeout : Nat) (steps : List StationStep) :
    let start := initial (.initial psm pollInterval) directory timeout
    let trace := (run start steps).2
    (∀ front step rest, steps = front ++ step :: rest →
      let s := (run start front).1
      ∀ receipt ∈ taken s step, ∃ t ∈ s.world.control.tasks,
        t.device = receipt.device ∧ t.ready? = some receipt.packet ∧
          ∃ handle, s.world.control.register.holder = some ⟨t.device, handle, t.id⟩) ∧
      ∃ origins, origins <+: receipts start steps ∧
        origins.map Receipt.packet = (heard trace).map Prod.snd ∧
        relayed trace = (heard trace).filter (·.1.isSome) ∧
        (relayed trace = due origins (heard trace) ↔
          ∀ pair ∈ origins.zip (heard trace), ∀ device, pair.2.1 = some device →
            device = pair.1.device) := by
  intro start trace
  have begin : Relaying start [] [] := relaying_initial psm pollInterval directory timeout
  refine ⟨?_, ?_⟩
  · intro front step rest _ s receipt inside
    have reached := begin.run front
    cases step with
    | task work => exact Control.held_receipt reached.books inside
    | _ => cases inside
  · have reached := begin.run steps
    obtain ⟨lost, order, -⟩ := reached.order
    let origins := (receipts start steps).take (heard trace).length
    have same : origins.map Receipt.packet = (heard trace).map Prod.snd := by
      rw [List.map_take, ← List.nil_append (receipts start steps), order, List.append_assoc]
      simp [trace]
    refine ⟨origins, List.take_prefix _ _, same, reached.passing.prompt, ?_⟩
    have prompt : relayed trace = (heard trace).filter (·.1.isSome) := reached.passing.prompt
    rw [prompt]
    exact filter_eq_due_iff same

/-- The first device is connected, but its service channel cannot be opened. A second one
opens the channel and sends a packet. -/
def stray : List StationStep :=
  [.connect (.numbered 1), .actor, .task (.start 0), .task (.dialed 0 true),
    .task (.opened 0 none), .actor, .listen .done, .task (.accepted 0 (.numbered 2)),
    .task (.start 1), .task (.relayed 1 (.read (.packet [7, 8]))),
    .task (.relayed 1 .deliver), .task (.received 1), .actor, .actor, .actor, .actor]

/-- The packet of the second device passes for one of the first. -/
theorem stray_packet_relayed :
    ¬ ∀ (directory : Directory) (steps : List StationStep) (part : List Effect)
        (packet : Packet) (rest : List Effect),
      let start := initial (.initial 4097 5000) directory 30000
      (run start steps).2 = part ++ .told (.data packet) :: rest →
        ∃ device, (visible part).connectedDevice? = some device ∧
          ⟨device, packet⟩ ∈ receipts start steps := by
  intro own
  let start := initial (.initial 4097 5000) (.ofConfig .default .missing) 30000
  have trace : (run start stray).2 =
      (run start stray).2.take 11 ++ [.told (.data [7, 8])] := by decide +kernel
  have shown : (visible ((run start stray).2.take 11)).connectedDevice? =
      some (.numbered 1) := by decide +kernel
  have origins : receipts start stray = [⟨.numbered 2, [7, 8]⟩] := by decide +kernel
  obtain ⟨device, connected, taken⟩ := own _ stray _ [7, 8] [] trace
  have first : Address.numbered 1 = device := Option.some.inj (shown.symm.trans connected)
  have other : Address.numbered 1 ≠ .numbered 2 := by decide
  have inside : ⟨device, [7, 8]⟩ ∈ receipts start stray := taken
  rw [origins, List.mem_singleton] at inside
  exact other (first.trans (congrArg Receipt.device inside))

end AccessoryLink.Station
