import AccessoryLink.Proofs.Machine.Outcomes

/-!
# Runs of the machine

A run handles one message after the other. Nothing ties the surroundings of one
message to those of the next: peers may be paired, forgotten or given another priority
in between, and the radio may answer as it likes. The trace of a run is the
concatenation of the traces of its messages.

Readers do not see the machine, only what was written last. `visible` reads that off a
trace, so what is shown in the middle of a message can be stated too.

`handle_invariant` and `run_invariant` lift what one `Step` preserves. A released
message is processed by a machine whose replay is shorter, which is why a step is
asked for under every replay.
-/

namespace AccessoryLink

variable {W : Type}

/-- The snapshot that readers see after one more entry of the trace. -/
def Snapshot.seen (s : Snapshot) : Effect → Snapshot
  | .wrote next => next
  | _ => s

/-- The snapshot that readers see after a trace of a fresh machine. -/
def visible (trace : List Effect) : Snapshot := trace.foldl Snapshot.seen .initial

@[simp] theorem visible_nil : visible [] = .initial := rfl

theorem visible_append (past next : List Effect) :
    visible (past ++ next) = next.foldl Snapshot.seen (visible past) := List.foldl_append

/-- Nothing new is seen where nothing is written. -/
theorem seen_of_silent {next : List Effect} (silent : ∀ s, .wrote s ∉ next) (s : Snapshot) :
    next.foldl Snapshot.seen s = s := by
  induction next with
  | nil => rfl
  | cons effect rest ih =>
      have later := ih fun s inside => silent s (List.mem_cons_of_mem _ inside)
      cases effect with
      | wrote shown => exact absurd List.mem_cons_self (silent shown)
      | _ => exact later

/-- One message of a run, with the surroundings it finds and the deadline of a timer
that is armed for it. -/
structure Arrival (W : Type) where
  world : W
  deadline : Nat
  message : Message

/-- An entry of two lists in a row stands in the first or in the second. -/
theorem entry_of_append {α : Type} {past next part rest : List α} {entry : α}
    (same : past ++ next = part ++ entry :: rest) :
    (∃ later, past = part ++ entry :: later ∧ rest = later ++ next) ∨
      ∃ early, part = past ++ early ∧ next = early ++ entry :: rest := by
  obtain ⟨early, rfl, split⟩ | ⟨late, rfl, split⟩ := List.append_eq_append_iff.mp same
  · exact .inr ⟨early, rfl, split⟩
  · cases late with
    | nil => exact .inr ⟨[], by simp, by simpa using split.symm⟩
    | cons first late =>
        obtain ⟨rfl, rfl⟩ := List.cons.inj split
        exact .inl ⟨late, rfl, rfl⟩

/-- Whether a trace goes on, after one of its parts, with taking up a message. -/
def PausesAfter (trace past : List Effect) : Prop :=
  ∃ message rest, trace = past ++ .took message :: rest

/-- A message adds one pause, the one before it is taken up. -/
theorem PausesAfter.of_append {past rest part : List Effect} {message : Message}
    (quiet : ∀ other, .took other ∉ rest)
    (pause : PausesAfter (past ++ .took message :: rest) part) :
    PausesAfter past part ∨ part = past := by
  obtain ⟨next, later, same⟩ := pause
  obtain ⟨middle, reached, -⟩ | ⟨early, rfl, split⟩ := entry_of_append same
  · exact .inl ⟨next, middle, reached⟩
  · cases early with
    | nil => exact .inr (List.append_nil past)
    | cons first early =>
        have inside : .took next ∈ rest := by
          rw [(List.cons.inj split).2]
          simp
        exact absurd inside (quiet next)

namespace Machine

/-- Handles messages one after the other, and collects the whole trace. -/
def run (env : Surroundings W) (m : Machine) : List (Arrival W) → Machine × List Effect
  | [] => (m, [])
  | arrival :: rest =>
    let t := handle env arrival.deadline m arrival.world arrival.message
    let later := run env t.machine rest
    (later.1, t.effects ++ later.2)

@[simp] theorem run_nil (env : Surroundings W) (m : Machine) : run env m [] = (m, []) := rfl

theorem run_cons (env : Surroundings W) (m : Machine) (arrival : Arrival W)
    (rest : List (Arrival W)) :
    run env m (arrival :: rest) =
      let t := handle env arrival.deadline m arrival.world arrival.message
      ((run env t.machine rest).1, t.effects ++ (run env t.machine rest).2) := rfl

theorem run_append (env : Surroundings W) (m : Machine) (past next : List (Arrival W)) :
    run env m (past ++ next) =
      let middle := run env m past
      ((run env middle.1 next).1, middle.2 ++ (run env middle.1 next).2) := by
  induction past generalizing m with
  | nil => simp
  | cons arrival rest ih => simp [run_cons, ih]

section Handling

variable {env : Surroundings W} {deadline : Nat}

/-- With nothing to replay, processing a message is all there is to handling it. -/
theorem handle_of_replay_nil {m : Machine} {w : W} {message : Message}
    (done : (process env deadline m w message).machine.replay = []) :
    handle env deadline m w message = process env deadline m w message := by
  rw [handle, replayAll]
  split
  · rfl
  · rename_i held
    rw [done] at held
    cases held

variable {P : List Effect → Machine → W → Prop}

/-- What processing a released message preserves holds when nothing is left to replay.
-/
theorem replayAll_invariant (legal : ∀ {past m w}, P past m w → m.snapshot.Legal)
    (step : ∀ {past m w message rest after}, m.replay = message :: rest → P past m w →
      Step env deadline { m with replay := rest } w message after →
      P (past ++ after.effects) after.machine after.world)
    {past : List Effect} (t : Turn W) (before : P (past ++ t.effects) t.machine t.world) :
    P (past ++ (replayAll env deadline t).effects) (replayAll env deadline t).machine
      (replayAll env deadline t).world := by
  fun_induction replayAll env deadline t with
  | case1 t _ => exact before
  | case2 t message rest held next ih =>
      have lawful : t.machine.snapshot.Legal := legal before
      have taken :
          Step env deadline { t.machine with replay := rest } t.world message next :=
        step_process (m := { t.machine with replay := rest }) lawful message
      apply ih
      rw [← List.append_assoc]
      exact step held before taken

/-- What every step preserves, handling a message preserves. -/
theorem handle_invariant (legal : ∀ {past m w}, P past m w → m.snapshot.Legal)
    (step : ∀ {past m w message after} (rest : List Message), P past m w →
      Step env deadline { m with replay := rest } w message after →
      P (past ++ after.effects) after.machine after.world)
    {past : List Effect} {m : Machine} {w : W} (before : P past m w) (message : Message) :
    P (past ++ (handle env deadline m w message).effects)
      (handle env deadline m w message).machine (handle env deadline m w message).world :=
  replayAll_invariant (P := P) legal (fun _ => step _) (process env deadline m w message)
    (step m.replay before (step_process (legal before) message))

end Handling

/-- What every step preserves, every run preserves. -/
theorem run_invariant {env : Surroundings W} {P : List Effect → Machine → Prop}
    (legal : ∀ {past m}, P past m → m.snapshot.Legal)
    (step : ∀ {past m w deadline message after} (rest : List Message), P past m →
      Step env deadline { m with replay := rest } w message after →
      P (past ++ after.effects) after.machine)
    {past : List Effect} {m : Machine} (before : P past m) (arrivals : List (Arrival W)) :
    P (past ++ (run env m arrivals).2) (run env m arrivals).1 := by
  induction arrivals generalizing past m with
  | nil => simpa using before
  | cons arrival rest ih =>
      rw [run_cons]
      simp only [← List.append_assoc]
      apply ih
      exact handle_invariant (P := fun past m _ => P past m) legal step before
        arrival.message

end Machine

end AccessoryLink
