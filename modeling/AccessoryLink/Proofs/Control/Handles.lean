import AccessoryLink.Proofs.Control.Authors
import AccessoryLink.Proofs.Control.Custody

/-!
# What is reported of the service channel

Each opening of the service channel has a handle, which is reported. A device that holds
the channel under this handle does not lose it without a trace: it reports that its service
is down, or that the channel was opened again under another handle (`Moves.holds`); or a
request took the channel from it, and then a disconnection is under way, which will report
the device disconnected (`Holds.disconnect`).
-/

namespace AccessoryLink

/-- Whether an event puts an end to what is recorded of the service channel of a device. -/
def StackEvent.Revises (device : Address) : StackEvent → Prop
  | connection .disconnected other => other = device
  | service .disconnected other _ => other = device
  | service .connected other (some _) => other = device
  | _ => False

namespace Control

variable {c c' : Control} {device other : Address} {handle : ChannelHandle}

/-- Whether a device holds the service channel under a handle. -/
def Holds (c : Control) (device : Address) (handle : ChannelHandle) : Prop :=
  ∃ line, c.register.holder = some ⟨device, handle, line⟩

theorem Holds.congr (holds : c.Holds device handle) (same : c'.register = c.register) :
    c'.Holds device handle := by
  rw [Holds, same]
  exact holds

/-- A channel that is closed for one device is kept by any other. -/
theorem Holds.closeChannel (holds : c.Holds device handle) (distinct : device ≠ other) :
    (c.closeChannel other).2.Holds device handle := by
  obtain ⟨line, held⟩ := holds
  exact ⟨line, holder_closeChannel held distinct⟩

/-- A device gets the channel under a new handle. -/
theorem holds_openChannel {task : TaskId}
    (opened : c.openChannel? device task = some (handle, c')) : c'.Holds device handle := by
  obtain ⟨admitted, rfl⟩ := openChannel?_some opened
  refine ⟨task, ?_⟩
  simp [openChannel?, ChannelRegister.open?, admitted] at opened
  rw [opened]

/-- The channel is opened only for the device that holds it, if there is one. -/
theorem Holds.eq_of_openChannel (holds : c.Holds device handle) {task : TaskId}
    {result : ChannelHandle × Control} (opened : c.openChannel? other task = some result) :
    device = other := by
  obtain ⟨line, held⟩ := holds
  obtain ⟨admitted, -⟩ := openChannel?_some opened
  simpa [ChannelRegister.admits, ChannelRegister.isHeldBy, held] using admitted

/-- A link that gives the channel up reports so. -/
theorem Holds.mem_serviceEnd {t : LinkTask} (holds : c.Holds t.device handle) :
    ⟨some t.id, .service .disconnected t.device none⟩ ∈ c.serviceEnd t := by
  obtain ⟨line, held⟩ := holds
  simp [serviceEnd, ChannelRegister.isHeldBy, held]

/-! ## Requests -/

theorem Holds.connect (holds : c.Holds device handle) (other : Address) :
    (c.connect other).2.Holds device handle := by
  cases idle : c.isLinked other with
  | true =>
      rw [connect_linked idle]
      exact holds
  | false =>
      rw [connect_idle idle]
      exact holds

theorem Holds.send (holds : c.Holds device handle) (other : Address) (packet : Packet) :
    (c.send other packet).2.Holds device handle := by
  obtain same | ⟨t, -, s, next, -, -, same⟩ := send_cases c other packet
  · rw [same]
    exact holds
  · rw [same]
    exact holds

/-- A request to disconnect a device takes the channel from it, and starts a task. -/
theorem Holds.disconnect (holds : c.Holds device handle) (other : Address) :
    (c.disconnect other).2.Holds device handle ∨ (c.disconnect other).2.HangsUp device := by
  by_cases marked : other ∈ c.closing
  · rw [disconnect_marked marked]
    exact .inl holds
  · by_cases same : other = device
    · right
      subst same
      exact (hangsUp_disconnect c other).resolve_left marked
    · left
      rw [disconnect_unmarked marked]
      have kept : (c.endLink other).Holds device handle := holds.congr (by simp)
      exact (kept.closeChannel (Ne.symm same)).congr rfl

theorem HangsUp.disconnect (hangs : c.HangsUp device) (other : Address) :
    (c.disconnect other).2.HangsUp device := by
  by_cases marked : other ∈ c.closing
  · rw [disconnect_marked marked]
    exact hangs
  · rw [disconnect_unmarked marked]
    obtain ⟨h, runs, own⟩ := hangs
    exact ⟨h, List.mem_append_left _ runs, own⟩

/-! ## Steps of the tasks -/

variable {reports : List Report}

/-- Who loses the channel in a step reports so. -/
theorem Moves.holds (moves : Moves c reports c') (holds : c.Holds device handle) :
    c'.Holds device handle ∨ ∃ report ∈ reports, report.event.Revises device := by
  cases moves with
  | @inbound t socket opening after runs stage opened =>
      obtain rfl := holds.eq_of_openChannel opened
      exact .inr ⟨⟨some t.id, .service .connected t.device (some opening)⟩, by simp, rfl⟩
  | opened runs stage opened =>
      obtain rfl := holds.eq_of_openChannel opened
      exact .inr ⟨_, List.mem_singleton_self _, rfl⟩
  | @channelEnded t s next runs stage =>
      by_cases own : device = t.device
      · subst own
        exact .inr ⟨_, holds.mem_serviceEnd, rfl⟩
      · exact .inl (Holds.closeChannel (holds.congr rfl) own)
  | @lost t s runs stage =>
      by_cases own : device = t.device
      · subst own
        exact .inr ⟨_, List.mem_append_left _ holds.mem_serviceEnd, rfl⟩
      · exact .inl ((holds.closeChannel own).congr rfl)
  | accepted socket other => exact .inl (holds.congr (register_endLink (c.reopen other) other))
  | _ => exact .inl (holds.congr rfl)

/-- A handle is reported by the device that holds the channel under it. -/
theorem Moves.opens (moves : Moves c reports c') {report : Report} (inside : report ∈ reports)
    (event : report.event = .service .connected device (some handle)) :
    c'.Holds device handle := by
  cases moves with
  | still | dialing | unserved | served | hangupAsked | accepted => cases inside
  | dialed | dialFailed | openRefused | received | hangupStarted | settled =>
      obtain rfl := List.mem_singleton.mp inside
      cases event
  | inboundRefused =>
      simp only [List.mem_cons, List.not_mem_nil, or_false] at inside
      obtain rfl | rfl | rfl := inside <;> cases event
  | inbound runs stage opened =>
      simp only [List.mem_cons, List.not_mem_nil, or_false] at inside
      obtain rfl | rfl | rfl := inside <;> cases event
      exact (holds_openChannel opened).congr rfl
  | opened runs stage opened =>
      obtain rfl := List.mem_singleton.mp inside
      cases event
      exact (holds_openChannel opened).congr rfl
  | channelEnded =>
      rw [eq_of_serviceEnd inside] at event
      cases event
  | lost =>
      obtain service | last := List.mem_append.mp inside
      · rw [eq_of_serviceEnd service] at event
        cases event
      · rw [List.mem_singleton.mp last] at event
        cases event
  | listened _ failures =>
      obtain ⟨code, text, failure⟩ := failures report inside
      rw [failure] at event
      cases event

end Control

end AccessoryLink
