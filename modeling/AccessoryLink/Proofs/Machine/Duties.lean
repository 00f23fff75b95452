import AccessoryLink.Proofs.Machine.Legality

/-!
# What a pending machine waits for

While a device is connecting by itself, or is being disconnected, no timer runs: the
machine waits for a report. The lemmas here say how a step comes to wait in this way, and
that a report which is taken up ends the wait. A device comes to be current only with a
report that it is connected, and it comes to be disconnected only with a call to the
radio, which a command made.
-/

namespace AccessoryLink

/-- A device that is tracked is not disconnected for observers. -/
theorem Snapshot.Legal.connectionOf_ne {s : Snapshot} {device : Address} (legal : s.Legal)
    (tracked : s.roles.current? = some device ∨ s.roles.incoming? = some device ∨
      s.roles.target? = some device) :
    s.connectionOf device ≠ .disconnected := by
  obtain ⟨state, roles, service⟩ := s
  cases state <;> cases roles <;>
    simp_all [Legal, connectionOf, Roles.current?, Roles.target?, Roles.incoming?, Roles.roleOf]
  case pending.handover =>
    obtain rfl | rfl := tracked
    · simp
    · simp [legal.1]

namespace Machine

variable {W : Type} {env : Surroundings W} {deadline : Nat} {m : Machine} {w : W}
  {message : Message} {after : Turn W} {device : Address}

/-- A device is current because it was, and is not reported disconnected, or because it is
reported connected. -/
theorem Step.current_of (step : Step env deadline m w message after)
    (legal : m.snapshot.Legal)
    (role : after.machine.snapshot.roles.current? = some device) :
    (m.snapshot.roles.current? = some device ∧
        message ≠ .stack (.connection .disconnected device)) ∨
      message = .stack (.connection .connected device) := by
  cases step
  case ignored idle =>
    refine .inl ⟨role, ?_⟩
    rintro rfl
    exact legal.connectionOf_ne (.inl role) idle
  case handoverTargetGone current other distinct before =>
    obtain rfl : current = device := by simpa using role
    exact .inl ⟨by simp [before], by simp [Ne.symm distinct]⟩
  all_goals
    simp_all [Roles.current?, armed, deferring, withService]

/-- A device is on its way because it was, and nothing was reported of it, or because it
reports itself connecting. -/
theorem Step.incoming_of (step : Step env deadline m w message after)
    (legal : m.snapshot.Legal)
    (role : after.machine.snapshot.roles.incoming? = some device) :
    (m.snapshot.roles.incoming? = some device ∧
        message ≠ .stack (.connection .disconnected device) ∧
        message ≠ .stack (.connection .connected device)) ∨
      message = .stack (.connection .connecting device) := by
  cases step
  case ignored idle =>
    refine .inl ⟨role, ?_, ?_⟩
    · rintro rfl
      exact legal.connectionOf_ne (.inr (.inl role)) idle
    · rintro rfl
      obtain ⟨current, service, before⟩ := legal.eq_connected idle
      simp [before, Roles.incoming?] at role
  all_goals
    simp_all [Roles.incoming?, armed, deferring, withService]

/-- A device is being disconnected because it was, and nothing was reported of it, or
because a command has the radio asked for it. -/
theorem Step.leaving_of (step : Step env deadline m w message after)
    (legal : m.snapshot.Legal) (pending : after.machine.snapshot.state = .pending)
    (role : after.machine.snapshot.roles.current? = some device) :
    (m.snapshot.state = .pending ∧ m.snapshot.roles.current? = some device ∧
        message ≠ .stack (.connection .disconnected device) ∧
        message ≠ .stack (.connection .connected device)) ∨
      (m.snapshot.roles.current? = some device ∧ (∃ command, message = .command command) ∧
        (env.disconnect w device).2 = after.world) := by
  cases step
  case ignored idle =>
    refine .inl ⟨pending, role, ?_, ?_⟩
    · rintro rfl
      exact legal.connectionOf_ne (.inl role) idle
    · rintro rfl
      have up : m.snapshot.state = .connected := idle
      rw [up] at pending
      cases pending
  case handoverTargetGone current other distinct before =>
    obtain rfl : current = device := by simpa using role
    exact .inl ⟨by simp [before], by simp [before], by simp [Ne.symm distinct], by simp⟩
  all_goals
    simp_all [Roles.current?, armed, deferring, withService]

/-- An attempt is under way because it was, or because the radio has just accepted it. -/
theorem Step.outgoing_of (step : Step env deadline m w message after)
    (role : after.machine.snapshot.roles = .outgoing device) :
    m.snapshot.roles = .outgoing device ∨ env.connect w device = (.ok (), after.world) := by
  cases step
  case resynchronized => cases role
  all_goals
    simp_all [armed, deferring, withService]

/-- An attempt goes on because it did, no report has ended it, and the radio was asked for
nothing, unless it refused to end it; or the radio has just accepted it. -/
theorem Step.attempt_of (step : Step env deadline m w message after)
    (legal : m.snapshot.Legal) (role : after.machine.snapshot.roles = .outgoing device) :
    (m.snapshot.roles = .outgoing device ∧
        message ≠ .stack (.connection .disconnected device) ∧
        (∀ other, message ≠ .stack (.connection .connected other)) ∧
        .called (.connect device) (.ok ()) ∉ after.effects ∧
        (after.world = w ∨ ∃ error, env.disconnect w device = (.error error, after.world))) ∨
      (env.connect w device = (.ok (), after.world) ∧
        .called (.connect device) (.ok ()) ∈ after.effects) := by
  cases step
  case ignored idle =>
    have before : m.snapshot.roles = .outgoing device := role
    refine .inl ⟨before, ?_, ?_, by simp, .inl rfl⟩
    · rintro rfl
      exact legal.connectionOf_ne (.inr (.inr (by simp [before, Roles.target?]))) idle
    · rintro other rfl
      obtain ⟨current, service, connected⟩ := legal.eq_connected idle
      simp [connected] at before
  case resynchronized => cases role
  all_goals
    simp_all [armed, deferring, withService]

/-- A step makes at most one call, and only for a device that has a role or that the
message is about. -/
theorem Step.calls (step : Step env deadline m w message after) :
    after.world = w ∨ (∃ device, (env.connect w device).2 = after.world) ∨
      (∃ device packet, (env.send w device packet).2 = after.world) ∨
      ∃ device, (env.disconnect w device).2 = after.world ∧
        (m.snapshot.roles.current? = some device ∨ m.snapshot.roles = .outgoing device ∨
          message = .stack (.connection .connecting device) ∨
          message = .stack (.connection .connected device)) := by
  cases step
  case connectRefused call | connectStarted call | handoverConnecting call
      | handoverRefused call =>
    exact .inr (.inl ⟨_, congrArg Prod.snd call⟩)
  case sent call => exact .inr (.inr (.inl ⟨_, _, congrArg Prod.snd call⟩))
  case inboundRefused call | linkRefused call =>
    exact .inr (.inr (.inr ⟨_, congrArg Prod.snd call, by simp⟩))
  case attemptCancelled before call | cancelRefused before call
      | handoverDenied before call | handoverStarted before call
      | disconnectDenied before call | disconnectStarted before call =>
    exact .inr (.inr (.inr ⟨_, congrArg Prod.snd call, by simp [before]⟩))
  all_goals exact .inl rfl

end Machine

end AccessoryLink
