import AccessoryLink.Proofs.Machine.Moments
import AccessoryLink.Proofs.Machine.Observers

/-!
# What becomes of received packets

The report of a packet names no device. Observers are told of the packet if a device is
connected when the report is taken up, and take it for a packet of that device. So a
packet is noted here twice, when its report is taken up (`heard`) and when observers are
told (`relayed`), each time with the device that is connected at that moment.
-/

namespace AccessoryLink

variable {W : Type}

/-- The packet that an event reports. -/
def StackEvent.packet? : StackEvent → Option Packet
  | data packet => some packet
  | _ => none

/-- The packet that a message reports. -/
def Message.packet? : Message → Option Packet
  | stack event => event.packet?
  | _ => none

theorem Message.eq_of_packet? {message : Message} {packet : Packet}
    (reports : message.packet? = some packet) : message = .stack (.data packet) := by
  cases message with
  | stack event => cases event <;> simp_all [packet?, StackEvent.packet?]
  | _ => cases reports

/-- A message that is released reports no packet. -/
theorem Message.Released.packet? {message : Message} (released : message.Released) :
    message.packet? = none := by
  cases released <;> rfl

/-- The packet whose report is taken up. -/
def Effect.heard? : Effect → Option Packet
  | took message => message.packet?
  | _ => none

/-- The packet that observers are told of. -/
def Effect.relayed? : Effect → Option Packet
  | told (.data packet) => some packet
  | _ => none

/-- The packets of some entries of a trace, each with the device that is connected when
the entry is made. -/
def noted (entry : Effect → Option Packet) (s : Snapshot) :
    List Effect → List (Option Address × Packet)
  | [] => []
  | effect :: rest =>
    ((entry effect).map (s.connectedDevice?, ·)).toList ++ noted entry (s.seen effect) rest

/-- The packets whose reports were taken up. -/
def heard (trace : List Effect) : List (Option Address × Packet) :=
  noted Effect.heard? .initial trace

/-- The packets that observers were told of. -/
def relayed (trace : List Effect) : List (Option Address × Packet) :=
  noted Effect.relayed? .initial trace

section Noted

variable (entry : Effect → Option Packet)

theorem noted_append (s : Snapshot) (past next : List Effect) :
    noted entry s (past ++ next) =
      noted entry s past ++ noted entry (past.foldl Snapshot.seen s) next := by
  induction past generalizing s with
  | nil => rfl
  | cons effect rest ih =>
      simp only [List.cons_append, noted, ih, List.append_assoc, List.foldl_cons]

theorem noted_of_silent {trace : List Effect} (silent : ∀ effect ∈ trace, entry effect = none)
    (s : Snapshot) : noted entry s trace = [] := by
  induction trace generalizing s with
  | nil => rfl
  | cons effect rest ih =>
      simp [noted, silent effect List.mem_cons_self,
        ih fun other inside => silent other (List.mem_cons_of_mem _ inside)]

end Noted

/-- Observers were told of just those packets whose reports were taken up while a device
was connected. -/
def RelayedWhileConnected (trace : List Effect) : Prop :=
  relayed trace = (heard trace).filter (·.1.isSome)

namespace Machine

variable {env : Surroundings W} {deadline : Nat} {m : Machine} {w : W} {message : Message}
  {after : Turn W} {past : List Effect}

/-! ## One step -/

/-- The report that a step takes up is its message. -/
theorem Step.hears (step : Step env deadline m w message after) :
    noted Effect.heard? m.snapshot after.effects =
      (message.packet?.map (m.snapshot.connectedDevice?, ·)).toList := by
  obtain ⟨rest, effects, quiet⟩ := step.taken
  have silent : ∀ effect ∈ rest, effect.heard? = none := by
    intro effect inside
    cases effect with
    | took other => exact absurd inside (quiet other)
    | _ => rfl
  rw [effects, noted, noted_of_silent _ silent]
  simp [Effect.heard?]

/-- A step tells of a packet exactly if that is its message and a device is connected. -/
theorem Step.tells_packet (step : Step env deadline m w message after) :
    (∃ packet, message = .stack (.data packet) ∧ m.snapshot.state = .connected ∧
        after.effects = [.took message, .told (.data packet)]) ∨
      (∀ packet, .told (.data packet) ∉ after.effects) ∧
        (message.packet? = none ∨ m.snapshot.state ≠ .connected) := by
  cases step
  case dataRelayed packet up => exact .inl ⟨packet, rfl, up, rfl⟩
  case ignored idle =>
    refine .inr ⟨by simp, ?_⟩
    cases packet : message.packet? with
    | none => exact .inl rfl
    | some bytes =>
        obtain rfl := Message.eq_of_packet? packet
        exact .inr idle
  all_goals exact .inr ⟨by simp, .inl rfl⟩

/-- A packet is passed on at once, if a device is connected. -/
theorem Step.relays (step : Step env deadline m w message after) (legal : m.snapshot.Legal) :
    noted Effect.relayed? m.snapshot after.effects =
      (noted Effect.heard? m.snapshot after.effects).filter (·.1.isSome) := by
  rw [step.hears]
  obtain ⟨packet, rfl, up, effects⟩ | ⟨untold, other⟩ := step.tells_packet
  · obtain ⟨current, service, before⟩ := legal.eq_connected up
    simp [effects, noted, Effect.relayed?, Message.packet?, StackEvent.packet?,
      Snapshot.seen, Snapshot.connectedDevice?, before]
  · rw [noted_of_silent]
    · obtain none | down := other
      · simp [none]
      · cases message.packet? <;> simp [Snapshot.connectedDevice?, down]
    · intro effect inside
      unfold Effect.relayed?
      split
      · exact absurd inside (untold _)
      · rfl

/-! ## One message -/

/-- What is known of the packets in a trace, and of the machine that left it. -/
structure Passing (past : List Effect) (m : Machine) : Prop where
  lawful : Lawful past m
  prompt : RelayedWhileConnected past

theorem passing_initial : Passing [] .initial := ⟨lawful_initial, rfl⟩

/-- A step adds to the packets that were heard what its message reports. -/
theorem Passing.heard_step (before : Passing past m)
    (step : Step env deadline m w message after) :
    heard (past ++ after.effects) =
      heard past ++ (message.packet?.map (m.snapshot.connectedDevice?, ·)).toList := by
  rw [← step.hears, ← before.lawful.shown]
  exact noted_append _ _ _ _

theorem Passing.step (before : Passing past m) (step : Step env deadline m w message after) :
    Passing (past ++ after.effects) after.machine := by
  refine ⟨before.lawful.step step, ?_⟩
  have told := step.relays before.lawful.legal
  rw [← before.lawful.shown] at told
  unfold RelayedWhileConnected relayed heard
  rw [noted_append, noted_append, List.filter_append]
  exact congrArg₂ _ before.prompt told

/-- Handling a message takes up its report and no other. -/
theorem Passing.handle (before : Passing past m) (done : m.replay = []) (deadline : Nat)
    (w : W) (message : Message) :
    let t := Machine.handle env deadline m w message
    Passing (past ++ t.effects) t.machine ∧
      heard (past ++ t.effects) =
        heard past ++ (message.packet?.map (m.snapshot.connectedDevice?, ·)).toList := by
  intro t
  let kept (trace : List Effect) (now : Machine) (_ : W) : Prop :=
    Passing trace now ∧ heard trace =
      heard past ++ (message.packet?.map (m.snapshot.connectedDevice?, ·)).toList
  have ends : kept (past ++ t.effects) t.machine t.world := by
    refine handle_released (P := kept) (fun kept => kept.1.lawful.legal) ?_
      before.lawful.legal done ?_
    · rintro trace now world next after rest released ⟨passing, same⟩ step
      have resumed : Passing trace { now with replay := rest } :=
        ⟨passing.lawful.withReplay rest, passing.prompt⟩
      refine ⟨resumed.step step, ?_⟩
      rw [resumed.heard_step step, released.packet?, same]
      simp
    · intro after first
      exact ⟨before.step first, before.heard_step first⟩
  exact ends

/-- Giving everything up takes up no report. -/
theorem Passing.givenUp (before : Passing past m) {next : List Effect}
    (silent : ∀ s, .wrote s ∉ next) (untaken : ∀ message, .took message ∉ next)
    (untold : ∀ event, .told event ∉ next) :
    Passing (past ++ next) { m with timer := none, deferred := [] } ∧
      heard (past ++ next) = heard past := by
  have unheard : ∀ effect ∈ next, effect.heard? = none := by
    intro effect inside
    cases effect with
    | took message => exact absurd inside (untaken message)
    | _ => rfl
  have unpassed : ∀ effect ∈ next, effect.relayed? = none := by
    intro effect inside
    cases effect with
    | told event => exact absurd inside (untold event)
    | _ => rfl
  have same : heard (past ++ next) = heard past := by
    rw [heard, noted_append, noted_of_silent _ unheard, List.append_nil]
    rfl
  refine ⟨⟨before.lawful.givenUp silent, ?_⟩, same⟩
  rw [RelayedWhileConnected, same, relayed, noted_append, noted_of_silent _ unpassed,
    List.append_nil]
  exact before.prompt

end Machine

end AccessoryLink
