import AccessoryLink.Proofs.Machine.Moments
import Mathlib.Data.List.Nodup

/-!
# Commands that wait

A command that cannot be carried out while a transition is pending is put off, and may
be released and put off again many times. A command to disconnect the target overtakes
the others and releases them once more. Through all of this no command is lost or
doubled, and those that wait stay in the order in which they came in: what is put off
goes behind everything that was put off earlier and before everything that is still to be
replayed, which is the place it had.

Commands to connect are never overtaken by one another. One is carried out only where
nothing is put off, and then it is the first of those that wait.
-/

namespace AccessoryLink

variable {W : Type}

/-! ## Commands among messages and in a trace -/

/-- The command that a message is. -/
def Message.command? : Message → Option Command
  | .command request => some request
  | _ => none

/-- The commands among some messages, in order. -/
def commands (messages : List Message) : List Command :=
  messages.filterMap Message.command?

@[simp] theorem commands_nil : commands [] = [] := rfl

theorem commands_cons (message : Message) (rest : List Message) :
    commands (message :: rest) = message.command?.toList ++ commands rest := by
  cases same : message.command? <;> simp [commands, same]

@[simp] theorem commands_cons_command (command : Command) (rest : List Message) :
    commands (.command command :: rest) = command :: commands rest := by
  simp [commands_cons, Message.command?]

@[simp] theorem commands_append (first second : List Message) :
    commands (first ++ second) = commands first ++ commands second :=
  List.filterMap_append

@[simp] theorem commands_map (waiting : List Command) :
    commands (waiting.map .command) = waiting := by
  induction waiting with
  | nil => rfl
  | cons command rest ih => simp [ih]

/-- A command is carried out when it is taken up, unless a later entry puts it off. -/
def Effect.carry (done : List Command) : Effect → List Command
  | took (.command command) => done ++ [command]
  | deferred command => if done.getLast? = some command then done.dropLast else done
  | _ => done

/-- The commands that a trace shows carried out, in order. -/
def carriedOut (trace : List Effect) : List Command := trace.foldl Effect.carry []

theorem carriedOut_append (past next : List Effect) :
    carriedOut (past ++ next) = next.foldl Effect.carry (carriedOut past) :=
  List.foldl_append

@[simp] theorem carry_took (done : List Command) (command : Command) :
    Effect.carry done (.took (.command command)) = done ++ [command] := rfl

@[simp] theorem carry_deferred (done : List Command) (command : Command) :
    Effect.carry (done ++ [command]) (.deferred command) = done := by
  simp [Effect.carry]

theorem carry_of_other {message : Message} (other : message.command? = none)
    (done : List Command) : Effect.carry done (.took message) = done := by
  cases message with
  | command command => cases other
  | _ => rfl

/-- Entries about no command leave what is carried out as it is. -/
theorem carried_of_quiet {next : List Effect} (untaken : ∀ message, .took message ∉ next)
    (kept : ∀ command, .deferred command ∉ next) (done : List Command) :
    next.foldl Effect.carry done = done := by
  induction next generalizing done with
  | nil => rfl
  | cons effect rest ih =>
      have same : Effect.carry done effect = done := by
        cases effect with
        | took message => exact absurd List.mem_cons_self (untaken message)
        | deferred command => exact absurd List.mem_cons_self (kept command)
        | _ => rfl
      rw [List.foldl_cons, same]
      apply ih
      · intro message inside
        exact untaken message (List.mem_cons_of_mem _ inside)
      · intro command inside
        exact kept command (List.mem_cons_of_mem _ inside)

@[simp] theorem carried_reply (ticket : Option Ticket) (result : Outcome)
    (done : List Command) : (Effect.reply ticket result).foldl Effect.carry done = done :=
  carried_of_quiet (by simp) (by simp) done

@[simp] theorem carried_displacement (s : Snapshot) (done : List Command) :
    s.displacement.foldl Effect.carry done = done :=
  carried_of_quiet (by simp) (by simp) done

@[simp] theorem carried_serviceDrop (s : Snapshot) (device : Address)
    (done : List Command) : (s.serviceDrop device).foldl Effect.carry done = done :=
  carried_of_quiet (by simp) (by simp) done

@[simp] theorem carried_serviceReturn (s : Snapshot) (device : Address)
    (done : List Command) : (s.serviceReturn device).foldl Effect.carry done = done :=
  carried_of_quiet (by simp) (by simp) done

/-! ## Arrival numbers -/

/-- The message with another ticket, if it is a command. -/
def Message.numbered (n : Ticket) : Message → Message
  | .command request => .command { request with ticket := n }
  | other => other

theorem command?_numbered (n : Ticket) (message : Message) :
    (message.numbered n).command? =
      message.command?.map fun request => { request with ticket := n } := by
  cases message <;> rfl

/-- The same arrivals, where the ticket of each command is its place in the row. -/
def numbered (n : Ticket) : List (Arrival W) → List (Arrival W)
  | [] => []
  | arrival :: rest =>
    { arrival with message := arrival.message.numbered n } :: numbered (n + 1) rest

/-- The commands that come in, in order. -/
def arrived (arrivals : List (Arrival W)) : List Command :=
  commands (arrivals.map Arrival.message)

theorem arrived_numbered_cons (n : Ticket) (arrival : Arrival W)
    (rest : List (Arrival W)) :
    arrived (numbered n (arrival :: rest)) =
      (arrival.message.command?.map fun request => { request with ticket := n }).toList ++
        arrived (numbered (n + 1) rest) := by
  rw [numbered, arrived, List.map_cons, commands_cons, command?_numbered]
  rfl

theorem le_ticket_of_arrived {n : Ticket} {arrivals : List (Arrival W)} :
    ∀ command ∈ arrived (numbered n arrivals), n ≤ command.ticket := by
  induction arrivals generalizing n with
  | nil => simp [arrived, numbered]
  | cons arrival rest ih =>
      intro command inside
      rw [arrived_numbered_cons] at inside
      obtain now | later := List.mem_append.mp inside
      · obtain ⟨request, -, rfl⟩ : ∃ request, arrival.message.command? = some request ∧
            { request with ticket := n } = command := by simpa using now
        exact Nat.le_refl n
      · exact Nat.le_of_succ_le (ih command later)

/-- Commands come in with growing tickets, so no two are alike. -/
theorem arrived_increasing (n : Ticket) (arrivals : List (Arrival W)) :
    (arrived (numbered n arrivals)).Pairwise (·.ticket < ·.ticket) := by
  induction arrivals generalizing n with
  | nil => exact .nil
  | cons arrival rest ih =>
      rw [arrived_numbered_cons]
      cases arrival.message.command? with
      | none => exact ih (n + 1)
      | some request =>
          have later : ∀ command ∈ arrived (numbered (n + 1) rest), n < command.ticket :=
            le_ticket_of_arrived
          exact .cons later (ih (n + 1))

namespace Machine

variable {env : Surroundings W} {deadline : Nat} {m : Machine} {w : W} {message : Message}
  {after : Turn W}

/-- The commands that wait: those put off, and behind them those to be replayed. -/
def waiting (m : Machine) : List Command := m.deferred ++ commands m.replay

/-! ## One step -/

/-- A command is carried out, where a command to connect finds nothing put off; or it is
put off, behind all that is put off and before all that is to be replayed. -/
theorem Step.carriesOrWaits {command : Command}
    (step : Step env deadline m w (.command command) after)
    (settled : m.snapshot.state ≠ .pending → m.deferred = []) (done : List Command) :
    (after.effects.foldl Effect.carry done = done ++ [command] ∧
        after.machine.waiting = m.waiting ∧
        (command.verb = .connect → m.deferred = [])) ∨
      (after.effects.foldl Effect.carry done = done ∧
        after.machine.waiting = m.deferred ++ command :: commands m.replay) := by
  cases step
  case putOff waits => exact .inr (by simp [waiting, deferring])
  case cancelRefused => exact .inr (by simp [Effect.carry, waiting, deferring])
  all_goals left
  case ignored idle =>
    refine ⟨rfl, rfl, ?_⟩
    intro connects
    obtain ⟨verb, device, ticket⟩ := command
    obtain rfl : verb = .connect := connects
    apply settled
    intro pending
    simp only [Ignores, Snapshot.connectionOf, pending] at idle
    split at idle <;> simp_all
  all_goals simp_all [Effect.carry, waiting, entered, armed, Snapshot.initial]

/-- A message that is no command carries out nothing, and what it releases keeps its
place. -/
theorem Step.waits (step : Step env deadline m w message after)
    (other : message.command? = none) (done : List Command) :
    after.effects.foldl Effect.carry done = done ∧
      after.machine.waiting = m.waiting := by
  cases step
  case ignored => exact ⟨carry_of_other other done, rfl⟩
  all_goals simp_all [Effect.carry, waiting, entered, armed, withService, commands_cons,
    Message.command?, Snapshot.initial]

/-! ## Every run -/

/-- Whether a command is one to connect. -/
def connects (command : Command) : Bool := command.verb == .connect

/-- What came in, what was carried out and what waits fit together. -/
structure Orderly (seen : List Message) (trace : List Effect) (m : Machine) : Prop where
  lawful : Lawful trace m
  kept : (carriedOut trace ++ m.waiting).Perm (commands seen)
  order : m.waiting.Sublist (commands seen)
  connects : (carriedOut trace).filter connects ++ m.waiting.filter connects =
    (commands seen).filter connects

variable {seen : List Message} {trace : List Effect} {rest : List Message}

theorem orderly_initial : Orderly [] [] .initial where
  lawful := lawful_initial
  kept := .nil
  order := .slnil
  connects := rfl

/-- A message that comes in waits behind everything else. -/
theorem Orderly.receive (before : Orderly seen trace m) (done : m.replay = [])
    (message : Message) : Orderly (seen ++ [message]) trace { m with replay := [message] } := by
  have waits : ({ m with replay := [message] } : Machine).waiting =
      m.waiting ++ commands [message] := by simp [waiting, done]
  constructor
  · exact before.lawful.withReplay [message]
  · rw [waits, commands_append, ← List.append_assoc]
    exact before.kept.append_right _
  · rw [waits, commands_append]
    exact before.order.append_right _
  · rw [waits, commands_append, List.filter_append, List.filter_append,
      ← List.append_assoc, before.connects]

/-- Where nothing is carried out and the same commands wait, nothing has changed. -/
theorem Orderly.of_same {next : List Effect} (before : Orderly seen trace m)
    (lawful : Lawful (trace ++ next) after.machine)
    (done : next.foldl Effect.carry (carriedOut trace) = carriedOut trace)
    (waits : after.machine.waiting = m.waiting) :
    Orderly seen (trace ++ next) after.machine := by
  rw [← carriedOut_append] at done
  constructor
  · exact lawful
  · rw [done, waits]
    exact before.kept
  · rw [waits]
    exact before.order
  · rw [done, waits]
    exact before.connects

/-- A command is carried out that was the first of those to be replayed. -/
theorem Orderly.of_carried {next : List Effect} {command : Command}
    (before : Orderly seen trace m) (lawful : Lawful (trace ++ next) after.machine)
    (done : next.foldl Effect.carry (carriedOut trace) = carriedOut trace ++ [command])
    (held : m.replay = .command command :: rest)
    (waits : after.machine.waiting = m.deferred ++ commands rest)
    (first : command.verb = .connect → m.deferred = []) :
    Orderly seen (trace ++ next) after.machine := by
  have place : m.waiting = m.deferred ++ command :: commands rest := by
    rw [waiting, held, commands_cons_command]
  have kept := before.kept
  have order := before.order
  have inOrder := before.connects
  rw [place] at kept order inOrder
  rw [← carriedOut_append] at done
  constructor
  · exact lawful
  · rw [done, waits, List.append_assoc, List.singleton_append]
    exact (List.perm_middle.symm.append_left (carriedOut trace)).trans kept
  · rw [waits]
    exact ((List.sublist_cons_self command _).append_left m.deferred).trans order
  · rw [done, waits, ← inOrder]
    cases verb : command.verb with
    | connect => simp [Machine.connects, verb, first verb]
    | disconnect => simp [Machine.connects, verb]

theorem Orderly.step (before : Orderly seen trace m) (held : m.replay = message :: rest)
    (step : Step env deadline { m with replay := rest } w message after) :
    Orderly seen (trace ++ after.effects) after.machine := by
  have lawful := (before.lawful.withReplay rest).step step
  cases same : message.command? with
  | none =>
      obtain ⟨done, waits⟩ := step.waits same (carriedOut trace)
      apply before.of_same lawful done
      rw [waits, waiting, waiting, held, commands_cons, same]
      rfl
  | some command =>
      obtain rfl : message = .command command := by
        cases message <;> simp_all [Message.command?]
      obtain ⟨done, waits, first⟩ | ⟨done, waits⟩ :=
        step.carriesOrWaits before.lawful.settled (carriedOut trace)
      · exact before.of_carried lawful done held waits first
      · apply before.of_same lawful done
        rw [waits, waiting, held, commands_cons_command]

theorem Passes.orderly (passed : Passes env .initial seen trace m) :
    Orderly seen trace m :=
  passed.invariant (P := Orderly) (fun before => before.lawful.legal) orderly_initial
    (fun message done before => before.receive done message)
    (fun held before step => before.step held step)

/-- Commands are neither lost nor doubled, and they keep their order. After every run,
each command that came in was carried out once or waits once, and nothing else was or
does; the commands to connect were carried out in the order in which they came in; and at
every moment of the run those that wait stand in that order. -/
theorem commands_kept_in_order (env : Surroundings W) (arrivals : List (Arrival W)) :
    let came := arrived (numbered 0 arrivals)
    let after := run env .initial (numbered 0 arrivals)
    came.Pairwise (·.ticket < ·.ticket) ∧
      (carriedOut after.2 ++ after.1.deferred).Perm came ∧
      (∀ command ∈ came,
        (carriedOut after.2).count command = 1 ∧ command ∉ after.1.deferred ∨
          command ∉ carriedOut after.2 ∧ after.1.deferred.count command = 1) ∧
      ((carriedOut after.2).filter connects).Pairwise (·.ticket < ·.ticket) ∧
      ∀ seen trace m, seen <+: (numbered 0 arrivals).map Arrival.message →
        Passes env .initial seen trace m → m.waiting.Pairwise (·.ticket < ·.ticket) := by
  intro came after
  have growing : came.Pairwise (·.ticket < ·.ticket) := arrived_increasing 0 arrivals
  have orderly := (passes_run env (numbered 0 arrivals)).orderly
  have rests : after.1.waiting = after.1.deferred := by
    rw [waiting, replay_run env rfl, commands_nil, List.append_nil]
  have kept : (carriedOut after.2 ++ after.1.deferred).Perm came := by
    rw [← rests]
    exact orderly.kept
  refine ⟨growing, kept, ?_, ?_, ?_⟩
  · intro command inside
    have distinct : came.Nodup := growing.imp fun less same => by simp [same] at less
    have once : (carriedOut after.2).count command + after.1.deferred.count command = 1 := by
      rw [← List.count_append, kept.count_eq]
      exact List.nodup_iff_count_eq_one.mp distinct command inside
    rw [← List.count_eq_zero, ← List.count_eq_zero]
    omega
  · have ordered := growing.filter connects
    rw [show came.filter connects = _ from orderly.connects.symm] at ordered
    exact (List.pairwise_append.mp ordered).1
  · intro seen trace m reached passed
    have early : (commands seen).Sublist came := (reached.filterMap Message.command?).sublist
    exact growing.sublist (passed.orderly.order.trans early)

end Machine

end AccessoryLink
