import AccessoryLink.Proofs.Machine.Legality

/-!
# How a device becomes current

A device takes the link in one of three ways. It was asked for; or it announced
itself, or turned up connected, while nothing was going on, and was admitted; or it
turned up connected while a transition was pending that had nothing to do with it. In
the last case the machine believes the stack, drops what it was following, and does
not ask whether the device is admitted.

`Asked` and `Admitted` are about one attempt: nobody has been told since that the
device is disconnected.
-/

namespace AccessoryLink

variable {W : Type}

/-- Nobody is told in a trace that a device is disconnected. -/
def Unbroken (device : Address) (trace : List Effect) : Prop :=
  ∀ prev, .told (.connection device .disconnected prev) ∉ trace

/-- A command to connect the device was taken up, and what it began goes on. -/
def Asked (device : Address) (trace : List Effect) : Prop :=
  ∃ before ticket later,
    trace = before ++ .took (.command ⟨.connect, device, ticket⟩) :: later ∧
      Unbroken device later

/-- The device was judged and admitted, and what it began goes on. -/
def Admitted (device : Address) (trace : List Effect) : Prop :=
  ∃ before outgoing later, trace = before ++ .judged device outgoing true :: later ∧
    Unbroken device later

/-- The device is reported connected, which is being handled, while a transition is
pending in which it has no part. -/
def Resynchronizing (device : Address) (trace : List Effect) : Prop :=
  ∃ before told, trace = before ++ .took (.stack (.connection .connected device)) :: told ∧
    (∀ effect ∈ told, ∃ event, effect = .told event) ∧ (visible before).state = .pending ∧
    (visible before).roles.roleOf device = .none

/-- The entry after a part of a trace makes a device current that was not current
before. -/
def BecomesCurrent (trace part : List Effect) (device : Address) : Prop :=
  ∃ s rest, trace = part ++ .wrote s :: rest ∧ s.roles.current? = some device ∧
    (visible part).roles.current? ≠ some device

/-- Whether no request to the radio, whatever it answers, ends a condition. -/
structure Surroundings.Spares (env : Surroundings W) (K : W → Prop) : Prop where
  connect : ∀ {w} device, K w → K (env.connect w device).2
  disconnect : ∀ {w} device, K w → K (env.disconnect w device).2
  send : ∀ {w} device packet, K w → K (env.send w device packet).2

theorem Unbroken.append {device : Address} {past next : List Effect}
    (before : Unbroken device past) (after : Unbroken device next) :
    Unbroken device (past ++ next) := by
  intro prev inside
  obtain early | late := List.mem_append.mp inside
  · exact before prev early
  · exact after prev late

theorem Asked.append {device : Address} {past next : List Effect}
    (asked : Asked device past) (goes : Unbroken device next) :
    Asked device (past ++ next) := by
  obtain ⟨before, ticket, later, rfl, unbroken⟩ := asked
  exact ⟨before, ticket, later ++ next, by simp, unbroken.append goes⟩

theorem Asked.after {device : Address} {next : List Effect} (asked : Asked device next)
    (past : List Effect) : Asked device (past ++ next) := by
  obtain ⟨before, ticket, later, rfl, unbroken⟩ := asked
  exact ⟨past ++ before, ticket, later, by simp, unbroken⟩

theorem Admitted.append {device : Address} {past next : List Effect}
    (admitted : Admitted device past) (goes : Unbroken device next) :
    Admitted device (past ++ next) := by
  obtain ⟨before, outgoing, later, rfl, unbroken⟩ := admitted
  exact ⟨before, outgoing, later ++ next, by simp, unbroken.append goes⟩

theorem Admitted.after {device : Address} {next : List Effect}
    (admitted : Admitted device next) (past : List Effect) :
    Admitted device (past ++ next) := by
  obtain ⟨before, outgoing, later, rfl, unbroken⟩ := admitted
  exact ⟨past ++ before, outgoing, later, by simp, unbroken⟩

namespace Machine

variable {env : Surroundings W} {deadline : Nat} {m : Machine} {w : W} {message : Message}
  {after : Turn W} {device : Address}

/-! ## One step -/

/-- A device is the target because it was, or because it is asked for. -/
theorem Step.target (step : Step env deadline m w message after)
    (role : after.machine.snapshot.roles.target? = some device) :
    (m.snapshot.roles.target? = some device ∧ Unbroken device after.effects) ∨
      Asked device after.effects := by
  cases step
  case connectStarted other ticket w' before call =>
    obtain rfl : other = device := by simpa [armed, Roles.target?] using role
    exact .inr ⟨[], ticket, _, rfl, by simp [Unbroken]⟩
  case handoverStarted current other service ticket w' distinct before call =>
    obtain rfl : other = device := by simpa [Roles.target?] using role
    exact .inr ⟨[], ticket, _, rfl, by simp [Unbroken]⟩
  case handoverConnecting gone next w' distinct before call =>
    obtain rfl : next = device := by simpa [armed, Roles.target?] using role
    exact .inl ⟨by simp [before, Roles.target?], by simp [Unbroken, Ne.symm distinct]⟩
  all_goals
    simp_all [Unbroken, Roles.target?, deferring, withService]

/-- A device is the incoming one because it was, or because it is admitted. -/
theorem Step.incoming (step : Step env deadline m w message after)
    (role : after.machine.snapshot.roles.incoming? = some device) :
    (m.snapshot.roles.incoming? = some device ∧ Unbroken device after.effects) ∨
      Admitted device after.effects := by
  cases step
  case inboundAdmitted other before admitted =>
    obtain rfl : other = device := by simpa [Roles.incoming?] using role
    exact .inr ⟨[_], false, _, rfl, by simp [Unbroken]⟩
  all_goals
    simp_all [Unbroken, Roles.incoming?, armed, deferring, withService]

/-- A device stays current through a trace that never writes anything else. -/
theorem seen_current {trace : List Effect} {s : Snapshot}
    (start : s.roles.current? = some device)
    (kept : ∀ next, .wrote next ∈ trace → next.roles.current? = some device) :
    (trace.foldl Snapshot.seen s).roles.current? = some device := by
  induction trace generalizing s with
  | nil => exact start
  | cons effect rest ih =>
      refine ih ?_ fun next inside => kept next (List.mem_cons_of_mem _ inside)
      cases effect with
      | wrote next => exact kept next List.mem_cons_self
      | _ => exact start

/-- Where everything that is written has one current device, whoever is current was so
before. -/
theorem current_of_steady {part early later : List Effect} {start s : Snapshot}
    {current : Address} (before : start.roles.current? = some current)
    (kept : ∀ next, .wrote next ∈ part → next.roles.current? = some current)
    (reached : part = early ++ .wrote s :: later) (now : s.roles.current? = some device) :
    (early.foldl Snapshot.seen start).roles.current? = some device := by
  have own : s.roles.current? = some current := kept s (by simp [reached])
  obtain rfl : device = current := Option.some.inj (now.symm.trans own)
  apply seen_current before
  intro next inside
  exact kept next (by simp [reached, inside])

/-- A device becomes current only because it was awaited, or was admitted, or is
unexpected. -/
theorem Step.current (step : Step env deadline m w message after) {early rest : List Effect}
    {s : Snapshot} (split : after.effects = early ++ .wrote s :: rest)
    (now : s.roles.current? = some device)
    (new : (early.foldl Snapshot.seen m.snapshot).roles.current? ≠ some device) :
    ((m.snapshot.roles.target? = some device ∨ m.snapshot.roles.incoming? = some device) ∧
        Unbroken device early) ∨
      Admitted device early ∨
      ∃ told, early = .took (.stack (.connection .connected device)) :: told ∧
        (∀ effect ∈ told, ∃ event, effect = .told event) ∧ m.snapshot.state = .pending ∧
        m.snapshot.roles.roleOf device = .none := by
  have written : .wrote s ∈ after.effects := by simp [split]
  -- named are the steps where it matters what stands before the entry that is written
  cases step
  case linkAdmitted other before admitted =>
    obtain ⟨rfl, rfl, rfl⟩ : early = _ ∧ s = _ ∧ rest = _ := by
      simpa [List.cons_eq_append_iff] using split
    obtain rfl : other = device := by simpa using now
    exact .inr (.inl ⟨[_], false, _, rfl, by simp [Unbroken]⟩)
  case resynchronized other pending closed unknown =>
    obtain ⟨later, inside, -⟩ | ⟨between, rfl, last⟩ := entry_of_append split
    · have absent : .wrote s ∈ Effect.took (.stack (.connection .connected other)) ::
          m.snapshot.displacement := by simp [inside]
      simp at absent
    · obtain ⟨rfl, rfl, rfl⟩ : between = _ ∧ s = _ ∧ rest = _ := by
        simpa [List.cons_eq_append_iff] using last
      obtain rfl : other = device := by simpa using now
      refine .inr (.inr ⟨_, rfl, ?_, pending, unknown⟩)
      intro effect inside
      obtain gone | link := List.mem_append.mp inside
      · obtain ⟨_, -, rfl⟩ := mem_displacement.mp gone
        exact ⟨_, rfl⟩
      · exact ⟨_, List.mem_singleton.mp link⟩
  case handoverDone current other distinct before =>
    obtain ⟨rfl, rfl, rfl⟩ : early = _ ∧ s = _ ∧ rest = _ := by
      simpa [List.cons_eq_append_iff] using split
    obtain rfl : other = device := by simpa using now
    exact .inl ⟨.inl (by rw [before]; rfl), by simp [Unbroken, Ne.symm distinct]⟩
  case handoverRefused =>
    obtain rfl | rfl : s = _ ∨ s = _ := by simpa using written
    all_goals cases now
  case handoverStarted before _ | disconnectDenied before _ | disconnectStarted before _ =>
    have same := current_of_steady (Snapshot.current?_of_eq before)
      (by simp [before, or_imp, forall_and]) split now
    exact absurd same new
  case linkLost current service before =>
    obtain ⟨later, inside, -⟩ | ⟨between, -, last⟩ := entry_of_append split
    · have same := current_of_steady (Snapshot.current?_of_eq before) (by simp [before])
        inside now
      exact absurd same new
    · obtain ⟨-, rfl, -⟩ : between = _ ∧ s = _ ∧ rest = _ := by
        simpa [List.cons_eq_append_iff] using last
      cases now
  all_goals
    simp_all [List.cons_eq_append_iff, Unbroken, Roles.current?, Roles.target?,
      Roles.incoming?, Snapshot.seen]

/-! ## Traces -/

/-- Every device that is followed was asked for or admitted, and every device that
became current was so, or the machine took the word of the stack for it. -/
structure Warranted (past : List Effect) (m : Machine) : Prop where
  lawful : Lawful past m
  target : ∀ device, m.snapshot.roles.target? = some device → Asked device past
  incoming : ∀ device, m.snapshot.roles.incoming? = some device → Admitted device past
  current : ∀ part device, BecomesCurrent past part device →
    Asked device part ∨ Admitted device part ∨ Resynchronizing device part

theorem warranted_initial : Warranted [] .initial where
  lawful := lawful_initial
  target := by simp [initial, Roles.target?]
  incoming := by simp [initial, Roles.incoming?]
  current := by simp [BecomesCurrent]

theorem Warranted.step {past : List Effect} (before : Warranted past m)
    (step : Step env deadline m w message after) :
    Warranted (past ++ after.effects) after.machine where
  lawful := before.lawful.step step
  target := by
    intro device role
    obtain ⟨was, goes⟩ | asked := step.target role
    · exact (before.target device was).append goes
    · exact asked.after past
  incoming := by
    intro device role
    obtain ⟨was, goes⟩ | admitted := step.incoming role
    · exact (before.incoming device was).append goes
    · exact admitted.after past
  current := by
    rintro part device ⟨s, rest, split, now, new⟩
    obtain ⟨later, reached, -⟩ | ⟨early, rfl, inside⟩ := entry_of_append split
    · exact before.current part device ⟨s, later, reached, now, new⟩
    · rw [visible_append, before.lawful.shown] at new
      obtain ⟨target | incoming, goes⟩ | admitted | ⟨told, rfl, quiet, pending, unknown⟩ :=
        step.current inside now new
      · exact .inl ((before.target device target).append goes)
      · exact .inr (.inl ((before.incoming device incoming).append goes))
      · exact .inr (.inl (admitted.after past))
      · rw [← before.lawful.shown] at pending unknown
        exact .inr (.inr ⟨past, told, rfl, quiet, pending, unknown⟩)

/-- Nothing in `Warranted` depends on what is left to replay. -/
theorem Warranted.withReplay {past : List Effect} (before : Warranted past m)
    (rest : List Message) :
    Warranted past { m with replay := rest } :=
  ⟨before.lawful.withReplay rest, before.target, before.incoming, before.current⟩

/-- Giving everything up shows nothing and tells nothing. -/
theorem Warranted.givenUp {past next : List Effect} (before : Warranted past m)
    (silent : ∀ s, .wrote s ∉ next) (untold : ∀ event, .told event ∉ next) :
    Warranted (past ++ next) { m with timer := none, deferred := [] } where
  lawful := before.lawful.givenUp silent
  target := by
    intro device role
    apply (before.target device role).append
    intro prev
    exact untold _
  incoming := by
    intro device role
    apply (before.incoming device role).append
    intro prev
    exact untold _
  current := by
    rintro part device ⟨s, rest, split, now, new⟩
    obtain ⟨later, reached, -⟩ | ⟨early, rfl, inside⟩ := entry_of_append split
    · exact before.current part device ⟨s, later, reached, now, new⟩
    · have present : .wrote s ∈ next := by simp [inside]
      exact absurd present (silent s)

/-! ## What the policy was asked -/

/-- A verdict is the answer of the admission policy at that moment. -/
theorem Step.judged (step : Step env deadline m w message after) {outgoing verdict : Bool}
    (judged : .judged device outgoing verdict ∈ after.effects) :
    verdict = env.admits w device outgoing := by
  cases step
  all_goals simp_all

/-- What the radio leaves alone, a step leaves alone. -/
theorem Step.world {K : W → Prop} (spares : env.Spares K)
    (step : Step env deadline m w message after) (before : K w) : K after.world := by
  have through {x : Outcome × W} {answer : Outcome} {w' : W} (call : x = (answer, w'))
      (kept : K x.2) : K w' := by
    rw [call] at kept
    exact kept
  cases step
  case connectRefused call | connectStarted call | handoverConnecting call |
      handoverRefused call =>
    exact through call (spares.connect _ before)
  case sent call => exact through call (spares.send _ _ before)
  case inboundRefused call | linkRefused call | attemptCancelled call |
      cancelRefused call | handoverDenied call | handoverStarted call |
      disconnectDenied call | disconnectStarted call =>
    exact through call (spares.disconnect _ before)
  all_goals exact before

/-- Handling a message leaves alone what the radio leaves alone. -/
theorem handle_world {K : W → Prop} (spares : env.Spares K) (legal : m.snapshot.Legal)
    (before : K w) (message : Message) :
    K (handle env deadline m w message).world := by
  let kept (_ : List Effect) (m : Machine) (w : W) : Prop := m.snapshot.Legal ∧ K w
  let t := handle env deadline m w message
  have ends : kept ([] ++ t.effects) t.machine t.world := by
    refine @handle_invariant _ env deadline kept And.left ?_ [] m w ⟨legal, before⟩ message
    rintro past m w message after rest ⟨legal, before⟩ step
    exact ⟨step.legal legal, step.world spares before⟩
  exact ends.2

end Machine

end AccessoryLink
