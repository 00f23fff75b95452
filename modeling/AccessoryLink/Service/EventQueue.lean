import AccessoryLink.Service.Signals

/-!
# The queue between events and signals

Events are put into a queue, and one dispatcher takes them out. Putting an event in and waking the
dispatcher are two steps, so the dispatcher may look between them. A wake-up that finds nobody
waiting is kept as a permit, of which there is at most one.
-/

namespace AccessoryLink.Service

/-- Where the dispatcher stands. -/
inductive Dispatcher where
  /-- It is about to look into the queue. -/
  | looking
  /-- It found the queue empty and is about to wait. -/
  | empty
  | waiting
  /-- It took an event out and is sending the signal for it. -/
  | sending (event : Event)
  deriving Repr, DecidableEq

/-- The queue and its dispatcher. -/
structure EventQueue where
  pending : List Event
  permit : Bool
  dispatcher : Dispatcher
  /-- How many events were put in whose wake-up is still to come. -/
  unannounced : Nat
  /-- The events whose signals were sent, oldest first. -/
  dispatched : List Event
  deriving Repr, DecidableEq

namespace EventQueue

/-- The queue before the first event. -/
def initial : EventQueue := ⟨[], false, .looking, 0, []⟩

instance : Inhabited EventQueue := ⟨initial⟩

/-- Puts an event in. -/
def push (q : EventQueue) (event : Event) : EventQueue :=
  { q with pending := q.pending ++ [event], unannounced := q.unannounced + 1 }

/-- Wakes the dispatcher for an event that was put in. -/
def announce (q : EventQueue) : EventQueue :=
  if q.unannounced = 0 then q
  else
    let q := { q with unannounced := q.unannounced - 1 }
    match q.dispatcher with
    | .waiting => { q with dispatcher := .looking }
    | _ => { q with permit := true }

/-- A step of the dispatcher. -/
def dispatch (q : EventQueue) : EventQueue :=
  match q.dispatcher, q.pending with
  | .looking, event :: rest => { q with pending := rest, dispatcher := .sending event }
  | .looking, [] => { q with dispatcher := .empty }
  | .sending event, _ =>
    { q with dispatched := q.dispatched ++ [event], dispatcher := .looking }
  | .empty, _ =>
    if q.permit then { q with permit := false, dispatcher := .looking }
    else { q with dispatcher := .waiting }
  | .waiting, _ => q

/-- Puts an event in and wakes the dispatcher. -/
def emit (q : EventQueue) (event : Event) : EventQueue := (q.push event).announce

/-- So many steps of the dispatcher. -/
def dispatchFor (q : EventQueue) : Nat → EventQueue
  | 0 => q
  | n + 1 => q.dispatch.dispatchFor n

/-- Lets the dispatcher run until it waits. It may be at work on an event, takes every other one out
and sends it, may find the queue empty twice, and may use up a permit between. -/
def drain (q : EventQueue) : EventQueue := q.dispatchFor (2 * q.pending.length + 5)

/-- The signals for some events, in order. -/
def signalsOf (events : List Event) : List Signal :=
  ((events.foldl emit initial).drain.dispatched).map Signal.ofEvent

end EventQueue

end AccessoryLink.Service
