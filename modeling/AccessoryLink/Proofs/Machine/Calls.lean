import AccessoryLink.Proofs.Machine.Observers
import AccessoryLink.Proofs.Machine.Timer

/-!
# What the radio is asked for

The radio can serve one link, so every call to it has to fit the link as it stands at that
very moment, in the middle of a message as well: a refused handover, for instance, commits
twice around its call. `Call.Fits` says what each kind of call asks for, in terms of what
readers see, and `Step.callsFit` checks it call by call.

The second half is about two attempts that the radio accepts one after the other. An
attempt holds the only place there is, so the next one needs it to be over; `Ending` lists
the stretches of a trace that end an attempt. Which of them are due to a report from
outside and which to the timer is read off the place where the message is taken up
(`taken_up`): between two messages, or right behind an expiry.
-/

namespace AccessoryLink

variable {W : Type}

/-- Whether a call fits what readers see after some part of a run. -/
def Call.Fits (past : List Effect) : Call → Prop
  | .connect device => ∀ other, (visible past).roles.roleOf other ≠ .none → other = device
  | .send device _ =>
    (visible past).state = .connected ∧ (visible past).roles.current? = some device
  | .disconnect device =>
    ((visible past).state = .connected ∧ (visible past).roles.current? = some device) ∨
      ((visible past).state = .pending ∧ (visible past).roles = .outgoing device) ∨
      ((visible past).roles = .idle ∧
        ∃ outgoing, past.getLast? = some (.judged device outgoing false))
  | .cleanup => False

/-- Whether every call of a trace fits what was seen before it. -/
def CallsFit (past : List Effect) : List Effect → Prop
  | [] => True
  | effect :: rest =>
    (∀ call answer, effect = .called call answer → call.Fits past) ∧
      CallsFit (past ++ [effect]) rest

section CallsFit

variable {past trace rest : List Effect} {effect : Effect}

@[simp] theorem callsFit_nil : CallsFit past [] := trivial

theorem callsFit_cons : CallsFit past (effect :: rest) ↔
    (∀ call answer, effect = .called call answer → call.Fits past) ∧
      CallsFit (past ++ [effect]) rest := Iff.rfl

theorem callsFit_append : CallsFit past (trace ++ rest) ↔
    CallsFit past trace ∧ CallsFit (past ++ trace) rest := by
  induction trace generalizing past with
  | nil => simp
  | cons effect later ih => simp [callsFit_cons, ih, and_assoc]

/-- Where the radio is not called there is nothing to fit. -/
theorem callsFit_of_quiet (quiet : ∀ call answer, .called call answer ∉ trace) :
    CallsFit past trace := by
  induction trace generalizing past with
  | nil => trivial
  | cons effect rest ih =>
      refine ⟨?_, ih fun call answer inside => quiet call answer (List.mem_cons_of_mem _ inside)⟩
      rintro call answer rfl
      exact absurd List.mem_cons_self (quiet call answer)

@[simp] theorem callsFit_reply (ticket : Option Ticket) (result : Outcome) :
    CallsFit past (Effect.reply ticket result) := callsFit_of_quiet (by simp)

@[simp] theorem callsFit_serviceDrop (s : Snapshot) (device : Address) :
    CallsFit past (s.serviceDrop device) := callsFit_of_quiet (by simp)

@[simp] theorem callsFit_serviceReturn (s : Snapshot) (device : Address) :
    CallsFit past (s.serviceReturn device) := callsFit_of_quiet (by simp)

@[simp] theorem callsFit_displacement (s : Snapshot) : CallsFit past s.displacement :=
  callsFit_of_quiet (by simp)

end CallsFit

/-- A stretch of a trace that ends an attempt: from the message that is taken up to the
snapshot that is written. -/
inductive Ending (device : Address) : List Effect → Prop where
  | succeeded : Ending device
      [.took (.stack (.connection .connected device)),
        .told (.connection device .connected .connecting),
        .wrote ⟨.connected, .current device, none⟩]
  /-- Another device is connected, and takes the place. -/
  | displaced {other : Address} (distinct : device ≠ other) : Ending device
      [.took (.stack (.connection .connected other)),
        .told (.connection device .disconnected .connecting),
        .told (.connection other .connected .disconnected),
        .wrote ⟨.connected, .current other, none⟩]
  | failed : Ending device
      [.took (.stack (.connection .disconnected device)),
        .told (.connection device .disconnected .connecting), .wrote .initial]
  | cancelled (ticket : Ticket) : Ending device
      [.took (.command ⟨.disconnect, device, ticket⟩),
        .called (.disconnect device) (.ok ()),
        .told (.connection device .disconnected .connecting), .wrote .initial]

namespace Machine

variable {env : Surroundings W} {deadline : Nat} {m : Machine} {w : W} {message : Message}
  {after : Turn W} {device : Address}

/-! ## One step -/

/-- Every call of a step fits the moment at which it is made. -/
theorem Step.callsFit (step : Step env deadline m w message after) {past : List Effect}
    (shown : visible past = m.snapshot) : CallsFit past after.effects := by
  cases step
  all_goals
    simp_all [callsFit_cons, callsFit_append, Call.Fits, visible_append, Snapshot.seen,
      List.getLast?_append]

/-- An attempt that is on its way goes on, or the whole step is its end. -/
theorem Step.ending (step : Step env deadline m w message after)
    (awaited : m.snapshot = ⟨.pending, .outgoing device, none⟩) :
    (after.machine.snapshot = m.snapshot ∧ attempts after.effects = 0) ∨
      Ending device after.effects := by
  cases step
  case attemptFailed other before =>
    obtain rfl : device = other := by simpa [awaited] using before
    exact .inr .failed
  case attemptConnected other before =>
    obtain rfl : device = other := by simpa [awaited] using before
    exact .inr .succeeded
  case attemptCancelled other ticket w' before call =>
    obtain rfl : device = other := by simpa [awaited] using before
    exact .inr (.cancelled ticket)
  case resynchronized other pending closed unknown =>
    have distinct : device ≠ other := by
      rintro rfl
      simp [awaited] at unknown
    right
    simpa [awaited, Snapshot.displacement, Roles.devices, Roles.current?, Roles.target?,
      Roles.incoming?] using Ending.displaced distinct
  all_goals left
  all_goals simp_all [Effect.opensAttempt, deferring, Snapshot.initial]

/-- A step opens an attempt only while none is on its way, and leaves it on its way. -/
theorem Step.opens (step : Step env deadline m w message after)
    (accepted : .called (.connect device) (.ok ()) ∈ after.effects) :
    (∀ other, m.snapshot ≠ ⟨.pending, .outgoing other, none⟩) ∧
      after.machine.snapshot = ⟨.pending, .outgoing device, none⟩ ∧
      attempts after.effects = 1 := by
  cases step
  all_goals simp_all [Effect.opensAttempt, armed, Snapshot.initial]

/-- A step that is not the expiry of the timer releases nothing but commands. -/
theorem Step.frees (step : Step env deadline m w message after)
    (other : ∀ timer, m.timer = some timer → message ≠ .timeout timer.generation)
    {next : Message} (held : next ∈ after.machine.replay) :
    next ∈ m.replay ∨ ∃ command, next = .command command := by
  obtain before | ⟨command⟩ | ⟨gone⟩ := step.released held
  · exact .inl before
  · exact .inr ⟨command, rfl⟩
  · cases step
    case attemptExpired armed pending awaited => exact absurd rfl (other _ armed)
    all_goals left
    all_goals simp_all [entered, armed, deferring, withService]

/-! ## Attempts one after the other -/

/-- Whether an attempt is over, by what was done since it was accepted. -/
def Over (device : Address) (since : List Effect) : Prop :=
  ∃ early stretch late, since = early ++ stretch ++ late ∧ attempts early = 0 ∧
    Ending device stretch

theorem Over.append {since : List Effect} (ended : Over device since) (next : List Effect) :
    Over device (since ++ next) := by
  obtain ⟨early, stretch, late, rfl, quiet, ending⟩ := ended
  exact ⟨early, stretch, late ++ next, by simp, quiet, ending⟩

/-- Calls fit, and an attempt that was accepted is on its way or over; it is over before
another one is accepted. -/
structure Sequential (past : List Effect) (m : Machine) : Prop where
  lawful : Lawful past m
  fit : CallsFit [] past
  pursued : ∀ before device since, past = before ++ .called (.connect device) (.ok ()) :: since →
    (m.snapshot = ⟨.pending, .outgoing device, none⟩ ∧ attempts since = 0) ∨ Over device since
  apart : ∀ before first between second rest,
    past = before ++ .called (.connect first) (.ok ()) :: between ++
      .called (.connect second) (.ok ()) :: rest → Over first between

theorem sequential_initial : Sequential [] .initial where
  lawful := lawful_initial
  fit := trivial
  pursued := by simp
  apart := by simp

theorem Sequential.step {past : List Effect} (before : Sequential past m)
    (step : Step env deadline m w message after) :
    Sequential (past ++ after.effects) after.machine where
  lawful := before.lawful.step step
  fit := callsFit_append.mpr ⟨before.fit, step.callsFit before.lawful.shown⟩
  pursued := by
    intro earlier device since same
    obtain ⟨later, split, rfl⟩ | ⟨early, rfl, split⟩ := entry_of_append same
    · obtain ⟨awaited, quiet⟩ | ended := before.pursued _ _ _ split
      · obtain ⟨still, none⟩ | ending := step.ending awaited
        · exact .inl ⟨still.trans awaited, by simp [quiet, none]⟩
        · exact .inr ⟨later, after.effects, [], by simp, quiet, ending⟩
      · exact .inr (ended.append _)
    · have accepted : .called (.connect device) (.ok ()) ∈ after.effects := by simp [split]
      obtain ⟨-, awaited, one⟩ := step.opens accepted
      refine .inl ⟨awaited, ?_⟩
      simp only [split, attempts_append, attempts_cons, Effect.opensAttempt] at one
      simp only [if_true] at one
      omega
  apart := by
    intro earlier first between second rest same
    obtain ⟨later, split, -⟩ | ⟨early, first', split⟩ := entry_of_append same
    · exact before.apart _ _ _ _ _ split
    · have accepted : .called (.connect second) (.ok ()) ∈ after.effects := by simp [split]
      obtain ⟨alone, -, one⟩ := step.opens accepted
      obtain ⟨later, split', rfl⟩ | ⟨early', rfl, rfl⟩ := entry_of_append first'.symm
      · obtain ⟨awaited, -⟩ | ended := before.pursued _ _ _ split'
        · exact absurd awaited (alone first)
        · exact ended.append _
      · -- both would have been accepted by one step
        simp only [split, attempts_append, attempts_cons, Effect.opensAttempt] at one
        simp only [if_true] at one
        omega

/-- Nothing in `Sequential` depends on what is left to replay. -/
theorem Sequential.withReplay {past : List Effect} (before : Sequential past m)
    (rest : List Message) : Sequential past { m with replay := rest } :=
  ⟨before.lawful.withReplay rest, before.fit, before.pursued, before.apart⟩

theorem sequential_run (env : Surroundings W) (arrivals : List (Arrival W)) :
    Sequential (run env .initial arrivals).2 (run env .initial arrivals).1 :=
  run_invariant (P := Sequential) (fun before => before.lawful.legal)
    (fun rest before step => (before.withReplay rest).step step) sequential_initial arrivals

/-! ## Where messages come from -/

/-- Whether a message is what comes in after some part of a run. -/
def Arrives (env : Surroundings W) (arrivals : List (Arrival W)) (past : List Effect)
    (message : Message) : Prop :=
  ∃ before arrival rest, arrivals = before ++ arrival :: rest ∧ arrival.message = message ∧
    (run env .initial before).2 = past

/-- A message that is no expiry of the timer is taken up, and then only commands are. -/
theorem handle_takes (legal : m.snapshot.Legal) (done : m.replay = [])
    (other : ∀ timer, m.timer = some timer → message ≠ .timeout timer.generation) :
    ∃ later, (handle env deadline m w message).effects = .took message :: later ∧
      ∀ next, .took next ∈ later → ∃ command, next = .command command := by
  let kept (past : List Effect) (m : Machine) (_ : W) : Prop :=
    m.snapshot.Legal ∧ (∀ next ∈ m.replay, ∃ command, next = .command command) ∧
      ∃ later, past = .took message :: later ∧
        ∀ next, .took next ∈ later → ∃ command, next = .command command
  have taken : Step env deadline m w message _ := step_process legal message
  have begin : kept ([] ++ (process env deadline m w message).effects)
      (process env deadline m w message).machine (process env deadline m w message).world := by
    obtain ⟨later, same, quiet⟩ := taken.taken
    refine ⟨taken.legal legal, ?_, later, same, fun next inside => absurd inside (quiet next)⟩
    intro next held
    exact (taken.frees other held).resolve_left (by simp [done])
  have ends : kept ([] ++ (handle env deadline m w message).effects)
      (handle env deadline m w message).machine (handle env deadline m w message).world := by
    refine replayAll_invariant (P := kept) (fun kept => kept.1) ?_ _ begin
    rintro past m w next rest after held ⟨legal, commands, later, rfl, only⟩ step
    obtain ⟨command, rfl⟩ := commands next (by simp [held])
    obtain ⟨new, same, quiet⟩ := step.taken
    refine ⟨step.legal legal, ?_, later ++ after.effects, rfl, ?_⟩
    · intro next inside
      obtain early | free := step.frees (by simp) inside
      · exact commands next (by simp_all)
      · exact free
    · intro next inside
      obtain early | late := List.mem_append.mp inside
      · exact only next early
      · rw [same] at late
        obtain new | old := List.mem_cons.mp late
        · exact ⟨command, by simpa using new⟩
        · exact absurd old (quiet next)
  exact ends.2.2

/-- What is taken up while a message is handled is the message itself, or a command, or the
report that stands for the expiry of the timer, right behind it. -/
theorem Timed.taken (timed : Timed m) (done : m.replay = []) {next : Message}
    {past rest : List Effect}
    (split : (Machine.handle env deadline m w message).effects = past ++ .took next :: rest) :
    (past = [] ∧ next = message) ∨ (∃ command, next = .command command) ∨
      ∃ timer device, m.timer = some timer ∧ message = .timeout timer.generation ∧
        past = [.took message] ∧ next = .stack (.connection .disconnected device) := by
  have usual {message : Message} {past : List Effect}
      (other : ∀ timer, m.timer = some timer → message ≠ .timeout timer.generation)
      (split : (Machine.handle env deadline m w message).effects = past ++ .took next :: rest) :
      (past = [] ∧ next = message) ∨ ∃ command, next = .command command := by
    obtain ⟨later, same, only⟩ := handle_takes timed.legal done other
    rw [same] at split
    cases past with
    | nil => exact .inl ⟨rfl, (Effect.took.inj (List.cons.inj split).1).symm⟩
    | cons first past =>
        refine .inr (only next ?_)
        rw [(List.cons.inj split).2]
        simp
  by_cases expired : ∃ timer, m.timer = some timer ∧ message = .timeout timer.generation
  · obtain ⟨timer, armed, rfl⟩ := expired
    obtain ⟨target, awaited⟩ := timed.outgoing (by simp [armed])
    rw [handle_expired awaited done armed] at split
    cases past with
    | nil => exact .inl ⟨rfl, (Effect.took.inj (List.cons.inj split).1).symm⟩
    | cons first past =>
        have behind := (List.cons.inj split).2
        obtain ⟨rfl, rfl⟩ | command := usual (by simp) behind
        · refine .inr (.inr ⟨timer, target, armed, rfl, ?_, rfl⟩)
          rw [(List.cons.inj split).1]
        · exact .inr (.inl command)
  · have other (timer : ConnectTimer) (armed : m.timer = some timer) :
        message ≠ .timeout timer.generation := fun same => expired ⟨timer, armed, same⟩
    exact (usual other split).imp_right .inl

/-- The generation of the timer that is armed is the number of attempts so far. -/
theorem timer_counts (env : Surroundings W) (arrivals : List (Arrival W)) {timer : ConnectTimer}
    (armed : (run env .initial arrivals).1.timer = some timer) :
    timer.generation = attempts (run env .initial arrivals).2 := by
  let kept (past : List Effect) (m : Machine) : Prop :=
    m.snapshot.Legal ∧ m.generation = attempts past ∧
      ∀ timer, m.timer = some timer → timer.generation = m.generation
  have ends : kept ([] ++ (run env .initial arrivals).2) (run env .initial arrivals).1 := by
    refine run_invariant (P := kept) (fun kept => kept.1) ?_
      ⟨Snapshot.legal_initial, rfl, by simp [initial]⟩ arrivals
    rintro past m w deadline message after rest ⟨legal, counted, current⟩ step
    refine ⟨step.legal legal, ?_⟩
    obtain ⟨none, same, kept⟩ | ⟨one, next, new⟩ := step.arms
    · rw [attempts_append, none, same]
      exact ⟨counted, fun timer armed => current timer (kept timer armed)⟩
    · rw [attempts_append, one, next, new, ← counted]
      exact ⟨rfl, fun timer armed => by rw [← Option.some.inj armed]⟩
  exact (ends.2.2 timer armed).trans ends.2.1

/-- A message that is taken up has just come in, or it is a command, or it is the report
that stands for the expiry of the timer, right behind it. -/
theorem taken_up (env : Surroundings W) (arrivals : List (Arrival W)) {past rest : List Effect}
    (taken : (run env .initial arrivals).2 = past ++ .took message :: rest) :
    Arrives env arrivals past message ∨ (∃ command, message = .command command) ∨
      ∃ device earlier, message = .stack (.connection .disconnected device) ∧
        past = earlier ++ [.took (.timeout (attempts earlier))] ∧
        Arrives env arrivals earlier (.timeout (attempts earlier)) := by
  induction arrivals using List.reverseRecOn generalizing past rest with
  | nil => simp at taken
  | append_singleton before arrival ih =>
      have timed : Timed (run env .initial before).1 := (passes_run env before).timed timed_initial
      have done : (run env .initial before).1.replay = [] := replay_run env rfl before
      have here : Arrives env (before ++ [arrival]) (run env .initial before).2 arrival.message :=
        ⟨before, arrival, [], rfl, rfl, rfl⟩
      have later {past : List Effect} {message : Message}
          (came : Arrives env before past message) :
          Arrives env (before ++ [arrival]) past message := by
        obtain ⟨first, next, last, split, same, reached⟩ := came
        exact ⟨first, next, last ++ [arrival], by simp [split], same, reached⟩
      rw [run_append] at taken
      simp only [run_cons, run_nil, List.append_nil] at taken
      obtain ⟨middle, split, -⟩ | ⟨early, rfl, split⟩ := entry_of_append taken
      · obtain came | command | ⟨device, earlier, same, behind, came⟩ := ih split
        · exact .inl (later came)
        · exact .inr (.inl command)
        · exact .inr (.inr ⟨device, earlier, same, behind, later came⟩)
      · obtain ⟨rfl, rfl⟩ | command | ⟨timer, device, armed, same, rfl, report⟩ :=
          timed.taken done split
        · rw [List.append_nil]
          exact .inl here
        · exact .inr (.inl command)
        · rw [timer_counts env before armed] at same
          rw [same] at here ⊢
          exact .inr (.inr ⟨device, _, report, rfl, here⟩)

/-! ## Every run -/

/-- How an attempt comes to its end after some part of a run: a report comes in, its timer
expires, or a command cancels it. The timer of an attempt has the number of the attempt as
its generation. -/
inductive Resolution (env : Surroundings W) (arrivals : List (Arrival W)) (past : List Effect)
    (device : Address) : List Effect → Prop where
  | report {state : ConnectionState} {other : Address} {rest : List Effect}
      (came : Arrives env arrivals past (.stack (.connection state other)))
      (ending : Ending device (.took (.stack (.connection state other)) :: rest)) :
      Resolution env arrivals past device (.took (.stack (.connection state other)) :: rest)
  | expiry {rest : List Effect} (came : Arrives env arrivals past (.timeout (attempts past)))
      (ending : Ending device (.took (.stack (.connection .disconnected device)) :: rest)) :
      Resolution env arrivals past device
        (.took (.timeout (attempts past)) ::
          .took (.stack (.connection .disconnected device)) :: rest)
  | cancel {ticket : Ticket} {rest : List Effect}
      (ending : Ending device (.took (.command ⟨.disconnect, device, ticket⟩) :: rest)) :
      Resolution env arrivals past device
        (.took (.command ⟨.disconnect, device, ticket⟩) :: rest)

/-- The end of an attempt that is over has one of three causes. -/
theorem Over.resolution {env : Surroundings W} {arrivals : List (Arrival W)}
    {past since rest : List Effect} (ended : Over device since)
    (split : (run env .initial arrivals).2 =
      past ++ .called (.connect device) (.ok ()) :: (since ++ rest)) :
    ∃ early stretch late, since = early ++ stretch ++ late ∧ attempts early = 0 ∧
      Resolution env arrivals (past ++ .called (.connect device) (.ok ()) :: early) device
        stretch := by
  obtain ⟨early, stretch, late, rfl, quiet, ending⟩ := ended
  have taken {message : Message} {after : List Effect} (begins : stretch = .took message :: after) :
      (run env .initial arrivals).2 = (past ++ .called (.connect device) (.ok ()) :: early) ++
        .took message :: (after ++ late ++ rest) := by
    rw [split, begins]
    simp
  cases id ending with
  | succeeded =>
      obtain came | ⟨command, no⟩ | ⟨gone, earlier, no, -⟩ := taken_up env arrivals (taken rfl)
      · exact ⟨early, _, late, rfl, quiet, .report came ending⟩
      · cases no
      · cases no
  | displaced distinct =>
      obtain came | ⟨command, no⟩ | ⟨gone, earlier, no, -⟩ := taken_up env arrivals (taken rfl)
      · exact ⟨early, _, late, rfl, quiet, .report came ending⟩
      · cases no
      · cases no
  | cancelled ticket => exact ⟨early, _, late, rfl, quiet, .cancel ending⟩
  | failed =>
      obtain came | ⟨command, no⟩ | ⟨gone, earlier, same, behind, came⟩ :=
        taken_up env arrivals (taken rfl)
      · exact ⟨early, _, late, rfl, quiet, .report came ending⟩
      · cases no
      · -- the expiry stands right before the report, and behind the call
        have behind : (past ++ [.called (.connect device) (.ok ())]) ++ early =
            earlier ++ .took (.timeout (attempts earlier)) :: [] := by simpa using behind
        obtain ⟨later, last, none⟩ | ⟨first, rfl, rfl⟩ := entry_of_append behind
        · obtain ⟨rfl, -⟩ := List.append_eq_nil_iff.mp none.symm
          cases (List.append_inj' last rfl).2
        · rw [attempts_append, Nat.add_eq_zero_iff] at quiet
          rw [← List.append_cons] at came
          exact ⟨first, _, late, by simp, quiet.1, .expiry came ending⟩

/-- The calls of every run fit the one link, each at the moment when it is made: a device is
connected only while no other is tracked; a packet goes only to the connected device; and a
device is disconnected only while it is the connected one, while it alone is being connected,
or right after it was refused and while nobody is tracked. Of two attempts that the radio
accepts, the first has come to its end before the second: by a report that came in, by the
expiry of its own timer, or by a command that cancels it. -/
theorem calls_respect_link (env : Surroundings W) (arrivals : List (Arrival W)) :
    (∀ past call answer rest,
        (run env .initial arrivals).2 = past ++ .called call answer :: rest → call.Fits past) ∧
      ∀ past first between second rest,
        (run env .initial arrivals).2 =
            past ++ .called (.connect first) (.ok ()) :: between ++
              .called (.connect second) (.ok ()) :: rest →
          ∃ early stretch late, between = early ++ stretch ++ late ∧ attempts early = 0 ∧
            Resolution env arrivals
              (past ++ .called (.connect first) (.ok ()) :: early) first stretch := by
  have sequential := sequential_run env arrivals
  constructor
  · intro past call answer rest split
    have fit := sequential.fit
    rw [split, callsFit_append] at fit
    exact fit.2.1 call answer rfl
  · intro past first between second rest split
    exact (sequential.apart _ _ _ _ _ split).resolution (by simpa using split)

end Machine

end AccessoryLink
