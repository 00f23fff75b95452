import AccessoryLink.Directory.Watch
import Mathlib.Logic.Function.Basic

/-!
# The adapter

What a watcher watches. Devices come and go, and their bonds change; each change is announced as it
happens. A sweep is answered question by question, each answer as things stand at that moment, so
the answers of one sweep may be about different states. Any question may fail to be answered: an
adapter may fail to list its devices, and to read whether a device is paired or what services it
has.
-/

namespace AccessoryLink

/-- What an adapter holds of its devices. -/
structure Adapter where
  /-- The devices that are there. -/
  present : List Address
  paired : Address → Bool
  /-- Whether a device offers the accessory service. -/
  serves : Address → Bool
  nodup_present : present.Nodup

/-- What may change about an adapter. -/
inductive AdapterChange where
  /-- A device comes that is not there yet. -/
  | add (device : Address) (paired serves : Bool)
  | remove (device : Address)
  | pair (device : Address) (paired : Bool)
  | offer (device : Address) (serves : Bool)
  /-- Something else about a device changes. -/
  | touch (device : Address)
  /-- Something about the adapter itself changes. -/
  | adjust
  deriving Repr, DecidableEq

namespace Adapter

/-- An adapter without devices. -/
def empty : Adapter := ⟨[], fun _ => false, fun _ => false, List.nodup_nil⟩

/-- What a sweep reads now if no question fails. Nothing can be read of a device that is not
there. -/
def view (a : Adapter) : BondView where
  devices := some a.present
  paired device := if device ∈ a.present then some (a.paired device) else none
  services device := if device ∈ a.present then .known (a.serves device) else .unreadable

/-- Whether a device is there and paired. -/
def isBonded (a : Adapter) (device : Address) : Bool :=
  decide (device ∈ a.present) && a.paired device

/-- Whether a device is there, paired and offers the accessory service. -/
def isAccessory (a : Adapter) (device : Address) : Bool := a.isBonded device && a.serves device

/-- The adapter after a change. What is said of a device that is not there changes nothing. -/
def change (a : Adapter) : AdapterChange → Adapter
  | .add device paired serves =>
    if there : device ∈ a.present then a
    else
      { present := device :: a.present
        paired := Function.update a.paired device paired
        serves := Function.update a.serves device serves
        nodup_present := List.nodup_cons.2 ⟨there, a.nodup_present⟩ }
  | .remove device =>
    { a with
      present := a.present.filter (· != device)
      nodup_present := a.nodup_present.filter _ }
  | .pair device paired =>
    if device ∈ a.present then { a with paired := Function.update a.paired device paired } else a
  | .offer device serves =>
    if device ∈ a.present then { a with serves := Function.update a.serves device serves } else a
  | .touch _ => a
  | .adjust => a

/-- What is announced of a change: every change that is one. -/
def announces (a : Adapter) : AdapterChange → Option Announcement
  | .add device _ _ => if device ∈ a.present then none else some (.added device)
  | .remove device => if device ∈ a.present then some (.removed device) else none
  | .pair device _ => if device ∈ a.present then some (.changed device .paired) else none
  | .offer device _ => if device ∈ a.present then some (.changed device .services) else none
  | .touch device => if device ∈ a.present then some (.changed device .other) else none
  | .adjust => some .adapterChanged

/-- Whether a list names the devices that are there, in some order. -/
def lists (a : Adapter) (list : List Address) : Bool := list.isPerm a.present

/-- Whether an adapter may give an answer to the question that a sweep asks: the true one, or
none. -/
def replies (a : Adapter) (sweep : Sweep) (answer : SweepAnswer) : Bool :=
  match sweep, answer with
  | .listing, .devices list => list.all a.lists
  | .pairing _ device _, .paired answer => answer == none || answer == a.view.paired device
  | .services _ device _, .services answer =>
    answer == .unreadable || answer == a.view.services device
  | _, _ => true

/-- Whether an adapter may let a watcher take a step. -/
def permits (a : Adapter) (phase : WatchPhase) (s : WatchStep) : Bool :=
  match phase, s with
  | .listing, .listed devices _ => devices.all a.lists
  | .sweeping sweep, .answer answer => a.replies sweep answer
  | _, _ => true

/-- The answer of an adapter that does not fail is one that it may give. -/
theorem replies_view {a : Adapter} {sweep : Sweep} {answer : SweepAnswer}
    (answered : a.view.answer? sweep = some answer) : a.replies sweep answer = true := by
  cases sweep <;> cases answered
  case listing => simp [replies, lists, view, List.isPerm_iff]
  case pairing => simp [replies]
  case services => simp [replies]

end Adapter

end AccessoryLink
