import AccessoryLink.Proofs.Control.Books
import AccessoryLink.Proofs.Machine.Packets

/-!
# Packets that links receive

A link takes packets from the relay of its service channel, one in a step, and reports
each of them as it is. The report does not say whose packet it is; a `Receipt` does.
`packets_step` compares the two, and `held_receipt` says that the link which takes a
packet holds the service channel.
-/

namespace AccessoryLink

/-- A packet that was taken from the service channel, and the device it came from. -/
structure Receipt where
  device : Address
  packet : Packet
  deriving Repr, DecidableEq

/-- The packet that a link has to take next, if it is not asking about its device. -/
def LinkTask.ready? (t : LinkTask) : Option Packet :=
  match t.stage with
  | .serving ⟨some (_, relay), true, false, _⟩ =>
    match relay.receive with
    | (some (.ok packet), _) => some packet
    | _ => none
  | _ => none

/-- The packets that were reported in a turn. -/
def ControlTurn.packets (turn : ControlTurn) : List Packet :=
  turn.reports.filterMap fun report => report.event.packet?

namespace Control

/-- The packets that a step takes from the service channel. -/
def receipts (c : Control) : ControlStep → List Receipt
  | .received id =>
    match c.task? id with
    | some t => (t.ready?.map fun packet => ⟨t.device, packet⟩).toList
    | none => []
  | _ => []

section Turns

open ControlTurn

variable {turn : ControlTurn} {task : TaskId} {device : Address}

@[simp] theorem packets_still (c : Control) : (still c).packets = [] := rfl

@[simp] theorem packets_update (f : Control → Control) :
    (turn.update f).packets = turn.packets := rfl

@[simp] theorem packets_ask (request : RadioRequest) :
    (turn.ask request).packets = turn.packets := rfl

@[simp] theorem packets_serve (channel : Option SocketId) (now : Nat) :
    (turn.serve task channel now).packets = turn.packets := rfl

@[simp] theorem packets_reportConnection (state : ConnectionState) :
    (turn.reportConnection task device state).packets = turn.packets := by
  simp [reportConnection_eq, packets, StackEvent.packet?]

@[simp] theorem packets_reportData (packet : Packet) :
    (turn.reportData task packet).packets = turn.packets ++ [packet] := by
  simp [reportData, packets, RawReport.data, StackEvent.packet?]

@[simp] theorem packets_quit : (turn.quit task device).packets = turn.packets := by
  simp [quit]

@[simp] theorem packets_dropService :
    (turn.dropService task device).packets = turn.packets := by
  rw [dropService_eq]
  split <;> simp [packets, StackEvent.packet?]

@[simp] theorem packets_install (socket : SocketId) (now : Nat) :
    (turn.install task device socket now).packets = turn.packets := by
  cases opened : turn.control.openChannel? device task with
  | none =>
      rw [install_refused opened]
      simp [packets, StackEvent.packet?]
  | some result =>
      rw [install_opened opened]
      simp [packets, StackEvent.packet?]

end Turns

variable {c : Control}

theorem packets_received (t : LinkTask) :
    (c.received t).packets = t.ready?.toList := by
  obtain ⟨id, device, stage⟩ := t
  cases stage with
  | serving s =>
      obtain ⟨_ | ⟨socket, relay⟩, receiving, asking, poll⟩ := s
      · rfl
      · cases asking <;> cases receiving
        · rfl
        · simp only [received, LinkTask.ready?, Bool.not_true, Bool.or_self,
            Bool.false_eq_true, if_false]
          rcases relay.receive with ⟨_ | _ | packet, rest⟩ <;> simp
        · rfl
        · rfl
  | _ => rfl

theorem packets_onTask (id : TaskId) {step : LinkTask → ControlTurn}
    (silent : ∀ t, (step t).packets = []) : (c.onTask id step).packets = [] := by
  unfold onTask
  split
  · exact silent _
  · rfl

theorem packets_onHangup (id : TaskId) {step : HangupTask → ControlTurn}
    (silent : ∀ t, (step t).packets = []) : (c.onHangup id step).packets = [] := by
  unfold onHangup
  split
  · exact silent _
  · rfl

/-- A step reports just the packets that it takes, as they are. -/
theorem packets_step (c : Control) (now : Nat) (step : ControlStep) :
    (c.step now step).packets = (c.receipts step).map Receipt.packet := by
  cases step with
  | received id =>
      simp only [Control.step, receipts, onTask]
      cases c.task? id with
      | none => rfl
      | some t =>
          simp only [packets_received]
          cases t.ready? <;> rfl
  | start | dialed | opened =>
      apply packets_onTask
      intro t
      simp only [start, dialed, opened]
      split <;> simp
  | dialExpired | openExpired | relayed | tick =>
      apply packets_onTask
      intro t
      simp only [dialExpired, openExpired, relayed, tick]
      split
      · split <;> simp
      · simp
  | polled =>
      apply packets_onTask
      intro t
      unfold polled
      split
      · split
        · simp
        · split <;> simp
      · simp
  | hangup | hungUp | settled =>
      apply packets_onHangup
      intro t
      simp only [hangup, hungUp, settled]
      split <;> simp
  | accepted | acceptFailed | resumed =>
      simp only [Control.step, accepted, acceptFailed, resumed]
      split <;> rfl

/-- Who takes a packet runs, and holds the service channel. -/
theorem held_receipt (books : c.Consistent) {step : ControlStep} {receipt : Receipt}
    (taken : receipt ∈ c.receipts step) :
    ∃ t ∈ c.tasks, t.device = receipt.device ∧ t.ready? = some receipt.packet ∧
      ∃ handle, c.register.holder = some ⟨t.device, handle, t.id⟩ := by
  cases step with
  | received id =>
      simp only [receipts] at taken
      split at taken
      · rename_i t found
        obtain ⟨packet, ready, rfl⟩ : ∃ packet, t.ready? = some packet ∧
            ⟨t.device, packet⟩ = receipt := by simpa using taken
        have runs := mem_of_task? found
        refine ⟨t, runs, rfl, ready, books.receiving t runs ?_⟩
        unfold LinkTask.ready? at ready
        split at ready
        · rename_i stage
          simp [stage, LinkStage.receives]
        · cases ready
      · cases taken
  | _ => cases taken

end Control

end AccessoryLink
