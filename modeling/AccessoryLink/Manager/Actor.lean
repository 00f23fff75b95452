import AccessoryLink.Manager.Basic

/-!
# The link manager: the actor

The actor takes a queued message before an expired timer, and waits when there is neither. It stops
at the marker of a shutdown, or when the queue is empty and nothing can come any more; what stands
behind the marker is dropped, and every send among it is answered.
-/

namespace AccessoryLink.Manager

variable {W : Type}

/-- When a timer armed now expires. -/
def deadline (m : Manager W) : Nat := m.now + m.timeout

/-- Takes over what handling a message made of the machine and its surroundings. -/
def absorb (m : Manager W) (t : Turn W) : Manager W × List Effect :=
  ({ m with machine := t.machine, world := t.world }, t.effects)

/-- Handles one message. -/
def handle (env : Surroundings W) (m : Manager W) (message : Message) : Manager W × List Effect :=
  m.absorb (Machine.handle env m.deadline m.machine m.world message)

/-- The answer to a message that is dropped. -/
def dropped : Message → List Effect
  | .send _ (some ticket) => [.answered ticket (.error .managerShutdown)]
  | _ => []

/-- Stops: closes the queue, drops what is in it and gives the link up. -/
def stop (env : Surroundings W) (m : Manager W) : Manager W × List Effect :=
  let (after, effects) :=
    { m with inbox := [], ended := true }.absorb (Machine.shutdown env m.machine m.world)
  (after, m.inbox.flatMap dropped ++ effects)

/-- The timer that has expired. -/
def expired? (m : Manager W) : Option ConnectTimer :=
  m.machine.timer.filter fun timer => timer.deadline ≤ m.now

/-- One turn of the actor, or nothing if it waits or has stopped. -/
def turn (env : Surroundings W) (m : Manager W) : Option (Manager W × List Effect) :=
  if m.ended then none
  else
    match m.inbox with
    | .shutdown :: rest => some ({ m with inbox := rest }.stop env)
    | message :: rest => some ({ m with inbox := rest }.handle env message)
    | [] =>
      if m.orphaned then some (m.stop env)
      else
        match m.expired? with
        | some timer => some (m.handle env (.timeout timer.generation))
        | none => none

/-- Whether the actor has something to do. -/
def isReady (m : Manager W) : Bool :=
  !m.ended && (!m.inbox.isEmpty || m.orphaned || m.expired?.isSome)

theorem isSome_turn (env : Surroundings W) (m : Manager W) : (m.turn env).isSome = m.isReady := by
  unfold turn isReady
  cases m.ended <;> simp only [Bool.false_eq_true, if_true, if_false, Bool.not_true, Bool.not_false,
    Bool.false_and, Bool.true_and, Option.isSome_none]
  cases m.inbox with
  | cons message rest => cases message <;> rfl
  | nil =>
    cases m.orphaned
    · cases m.expired? <;> rfl
    · rfl

/-- An upper bound of the turns that are still to come. Each message may take what it costs, and
each turn takes one message from the queue, expires a timer or stops. -/
def effort (m : Manager W) : Nat :=
  m.machine.potential + Machine.backlog m.inbox + m.inbox.length + 2

/-- Lets the actor take so many turns, or fewer if it comes to wait. -/
def turns (env : Surroundings W) : Nat → Manager W → Manager W × List Effect
  | 0, m => (m, [])
  | n + 1, m =>
    match m.turn env with
    | none => (m, [])
    | some (m, effects) =>
      let (m, later) := turns env n m
      (m, effects ++ later)

/-- Lets the actor run until it waits. -/
def settle (env : Surroundings W) (m : Manager W) : Manager W × List Effect :=
  turns env m.effort m

/-- When the armed timer expires. -/
def nextDeadline? (m : Manager W) : Option Nat :=
  if m.ended then none else m.machine.timer.map (·.deadline)

/-- Lets time pass up to a moment, where so many timers may expire on the way. -/
def pass (env : Surroundings W) (moment : Nat) : Nat → Manager W → Manager W × List Effect
  | 0, m => (m, [])
  | n + 1, m =>
    let (m, effects) := m.settle env
    let later :=
      match m.nextDeadline? with
      | some deadline =>
        if deadline ≤ moment then pass env moment n { m with now := max m.now deadline }
        else ({ m with now := moment }, [])
      | none => ({ m with now := moment }, [])
    (later.1, effects ++ later.2)

/-- Lets time pass. Every timer that expires meanwhile is handled at its own moment. -/
def advance (env : Surroundings W) (m : Manager W) (ms : Nat) : Manager W × List Effect :=
  pass env (m.now + ms) m.effort m

/-- The result that some effects give to a ticket. -/
def resultOf? (ticket : Ticket) : List Effect → Option Outcome
  | [] => none
  | .answered t result :: rest => if t = ticket then some result else resultOf? ticket rest
  | _ :: rest => resultOf? ticket rest

end AccessoryLink.Manager
