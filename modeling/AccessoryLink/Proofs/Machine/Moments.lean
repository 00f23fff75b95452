import AccessoryLink.Proofs.Machine.Legality

/-!
# Moments of a run

While a message is handled the machine passes several moments: after the message itself
was processed, and after each one that is replayed behind it. `Passes` lists them all. A
message that comes in stands in the replay alone, and what is processed next is the
first message of the replay, so handling is nothing but a row of equal steps
(`handle_eq_replayAll`).

`Passes` does not tie the surroundings of one step to those of the next: they may change
even in the middle of a message. Every run passes through it (`passes_run`), and what
each of its steps preserves holds at every moment (`Passes.invariant`).

What is replayed behind a message was released by a step, so it is a command or a report
that a device is disconnected. That is all one has to look at to see a message through to
its end (`handle_released`).
-/

namespace AccessoryLink

/-- The messages that may be released. -/
inductive Message.Released : Message → Prop where
  | command (command : Command) : Released (.command command)
  | report (device : Address) : Released (.stack (.connection .disconnected device))

namespace Machine

variable {W : Type} {env : Surroundings W} {start m : Machine} {seen : List Message}
  {trace : List Effect}

/-- The moments that a machine passes, with what it has received and the trace it has
left since it started. -/
inductive Passes (env : Surroundings W) (start : Machine) :
    List Message → List Effect → Machine → Prop where
  | start : Passes env start [] [] start
  | received {seen : List Message} {trace : List Effect} {m : Machine}
      (before : Passes env start seen trace m) (done : m.replay = []) (message : Message) :
      Passes env start (seen ++ [message]) trace { m with replay := [message] }
  | processed {seen : List Message} {trace : List Effect} {m : Machine} {message : Message}
      {rest : List Message} (before : Passes env start seen trace m)
      (held : m.replay = message :: rest) (deadline : Nat) (w : W) :
      Passes env start seen
        (trace ++ (process env deadline { m with replay := rest } w message).effects)
        (process env deadline { m with replay := rest } w message).machine

/-- A message that comes in is the first of a replay that was empty. -/
theorem handle_eq_replayAll (env : Surroundings W) (deadline : Nat) (w : W)
    (done : m.replay = []) (message : Message) :
    handle env deadline m w message =
      replayAll env deadline ⟨{ m with replay := [message] }, w, []⟩ := by
  obtain ⟨snapshot, deferred, replay, timer, generation⟩ := m
  obtain rfl : replay = [] := done
  rw [replayAll, handle]
  rfl

/-- What was done before a replay does not matter to it. -/
theorem replayAll_append (env : Surroundings W) (deadline : Nat) (t : Turn W)
    (past : List Effect) :
    replayAll env deadline { t with effects := past ++ t.effects } =
      { replayAll env deadline t with
        effects := past ++ (replayAll env deadline t).effects } := by
  fun_induction replayAll env deadline t with
  | case1 t done =>
      rw [replayAll]
      split
      · rfl
      · rename_i held
        rw [done] at held
        cases held
  | case2 t message rest held next ih =>
      rw [replayAll]
      split
      · rename_i done
        rw [held] at done
        cases done
      · rename_i other later same
        obtain ⟨rfl, rfl⟩ := List.cons.inj (held.symm.trans same)
        simp only [List.append_assoc]
        exact ih

/-- A replay passes nothing but moments. -/
theorem Passes.replayAll {deadline : Nat} {t : Turn W}
    (before : Passes env start seen (trace ++ t.effects) t.machine) :
    Passes env start seen (trace ++ (replayAll env deadline t).effects)
      (replayAll env deadline t).machine := by
  fun_induction Machine.replayAll env deadline t with
  | case1 t done => exact before
  | case2 t message rest held next ih =>
      apply ih
      rw [← List.append_assoc]
      exact before.processed held deadline t.world

theorem Passes.handle (before : Passes env start seen trace m) (done : m.replay = [])
    (deadline : Nat) (w : W) (message : Message) :
    Passes env start (seen ++ [message])
      (trace ++ (handle env deadline m w message).effects)
      (handle env deadline m w message).machine := by
  rw [handle_eq_replayAll env deadline w done]
  apply Passes.replayAll
  simpa using before.received done message

/-- The end of a run is a moment like any other. -/
theorem Passes.run (before : Passes env start seen trace m) (done : m.replay = [])
    (arrivals : List (Arrival W)) :
    Passes env start (seen ++ arrivals.map Arrival.message)
      (trace ++ (run env m arrivals).2) (run env m arrivals).1 := by
  induction arrivals generalizing seen trace m with
  | nil => simpa using before
  | cons arrival rest ih =>
      rw [run_cons, List.map_cons, ← List.append_assoc, ← List.singleton_append,
        ← List.append_assoc]
      apply ih
      · exact before.handle done arrival.deadline arrival.world arrival.message
      · exact replay_handle env arrival.deadline m arrival.world arrival.message

theorem passes_run (env : Surroundings W) (arrivals : List (Arrival W)) :
    Passes env .initial (arrivals.map Arrival.message) (run env .initial arrivals).2
      (run env .initial arrivals).1 := by
  have begins : Passes env .initial [] [] .initial := .start
  simpa using begins.run rfl arrivals

/-- What holds at the start, and is kept when a message comes in and when one is
processed, holds at every moment. -/
theorem Passes.invariant {P : List Message → List Effect → Machine → Prop}
    (legal : ∀ {seen trace m}, P seen trace m → m.snapshot.Legal)
    (begin : P [] [] start)
    (receive : ∀ {seen trace m} (message : Message), m.replay = [] → P seen trace m →
      P (seen ++ [message]) trace { m with replay := [message] })
    (step : ∀ {seen trace m w deadline message rest after}, m.replay = message :: rest →
      P seen trace m → Step env deadline { m with replay := rest } w message after →
      P seen (trace ++ after.effects) after.machine)
    (passed : Passes env start seen trace m) : P seen trace m := by
  induction passed with
  | start => exact begin
  | received before done message ih => exact receive message done ih
  | @processed seen trace m message rest before held deadline w ih =>
      have lawful : m.snapshot.Legal := legal ih
      apply step held ih
      exact step_process (m := { m with replay := rest }) lawful message

/-! ## What is released -/

variable {deadline : Nat} {w : W} {message : Message}

/-- A step releases nothing but commands, and reports that a device is disconnected. -/
theorem Step.released {after : Turn W} (step : Step env deadline m w message after)
    {next : Message} (held : next ∈ after.machine.replay) :
    next ∈ m.replay ∨ next.Released := by
  have entering : ∀ state roles, next ∈ (m.entered state roles).replay →
      next ∈ m.replay ∨ next.Released := by
    intro state roles inside
    simp only [entered] at inside
    split at inside
    · exact .inl inside
    · obtain waited | before := List.mem_append.mp inside
      · obtain ⟨command, -, rfl⟩ := List.mem_map.mp waited
        exact .inr (.command command)
      · exact .inl before
  cases step
  case attemptExpired target timer armed pending awaited =>
    obtain rfl | before := List.mem_cons.mp held
    · exact .inr (.report target)
    · exact .inl before
  case connectStarted target ticket w' before call =>
    exact entering .pending (.outgoing target) held
  case handoverConnecting gone target w' distinct before call =>
    exact entering .pending (.outgoing target) held
  all_goals first
    | exact .inl held
    | exact entering .disconnected .idle held
    | exact entering .pending _ held
    | exact entering .connected _ held

/-- What the step of a message leads to, and every step of a released message keeps,
holds when the message has been handled. -/
theorem handle_released {P : List Effect → Machine → W → Prop}
    (legal : ∀ {past m w}, P past m w → m.snapshot.Legal)
    (step : ∀ {past m w message after} (rest : List Message), message.Released → P past m w →
      Step env deadline { m with replay := rest } w message after →
      P (past ++ after.effects) after.machine after.world)
    {past : List Effect} (lawful : m.snapshot.Legal) (done : m.replay = [])
    (first : ∀ {after}, Step env deadline m w message after →
      P (past ++ after.effects) after.machine after.world) :
    P (past ++ (handle env deadline m w message).effects)
      (handle env deadline m w message).machine (handle env deadline m w message).world := by
  let kept (past : List Effect) (m : Machine) (w : W) : Prop :=
    P past m w ∧ ∀ next ∈ m.replay, next.Released
  have taken : Step env deadline m w message _ := step_process lawful message
  have begin : kept (past ++ (process env deadline m w message).effects)
      (process env deadline m w message).machine (process env deadline m w message).world := by
    refine ⟨first taken, fun next held => ?_⟩
    exact (taken.released held).resolve_left (by simp [done])
  have ends : kept (past ++ (handle env deadline m w message).effects)
      (handle env deadline m w message).machine (handle env deadline m w message).world := by
    refine replayAll_invariant (P := kept) (fun kept => legal kept.1) ?_ _ begin
    rintro past m w message rest after held ⟨before, released⟩ taken
    refine ⟨step rest (released message (by simp [held])) before taken, ?_⟩
    intro next inside
    obtain later | new := taken.released inside
    · apply released
      rw [held]
      exact List.mem_cons_of_mem _ later
    · exact new
  exact ends.1

end Machine

end AccessoryLink
