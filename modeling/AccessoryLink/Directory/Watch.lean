import AccessoryLink.Directory.Refresh

/-!
# Watching the adapter

The bonds follow the adapter: a watcher listens to what the adapter announces and refreshes after
every addition, removal or change of a bond, and now and then in any case. It follows announcements
before it first asks for the devices, and a change that comes while it sweeps stays unread until the
sweep is over, so no change is missed.
-/

namespace AccessoryLink

/-- A property of a device. -/
inductive DeviceProperty where
  | paired
  | services
  | other
  deriving Repr, DecidableEq

/-- What an adapter announces. -/
inductive Announcement where
  | added (device : Address)
  | removed (device : Address)
  | changed (device : Address) (property : DeviceProperty)
  /-- A property of the adapter itself has changed. -/
  | adapterChanged
  /-- The adapter is gone, and announces nothing about itself or its devices being there any
  more. -/
  | adapterRemoved
  deriving Repr, DecidableEq

/-- An unread entry of the adapter's stream of events. -/
inductive AdapterEvent where
  | added (device : Address)
  | removed (device : Address)
  | other
  | ended
  deriving Repr, DecidableEq

/-- Where a watcher stands. -/
inductive WatchPhase where
  /-- It is about to ask for the adapter's events. -/
  | opening
  /-- It has asked for the devices, to follow each of them. -/
  | listing
  /-- These devices are still to be followed; then it waits. -/
  | following (devices : List Address)
  | waiting
  /-- A device that was added is to be followed; then it sweeps. -/
  | joining (device : Address)
  | sweeping (sweep : Sweep)
  deriving Repr, DecidableEq

/-- A task that keeps the bonds of a directory. -/
structure Watcher where
  phase : WatchPhase
  /-- The unread events of the adapter; nothing before the stream is open and after it has ended. -/
  stream : Option (List AdapterEvent)
  /-- The devices whose changes are announced to it. -/
  followed : List Address
  /-- The unread changes of those devices. -/
  changes : List (Address × DeviceProperty)
  interval : Nat
  /-- When the next refresh comes in any case. -/
  nextTick : Nat
  deriving Repr, DecidableEq

/-- What happens to a watcher. -/
inductive WatchStep where
  /-- Its request for the adapter's events is granted. -/
  | subscribed
  /-- The devices are listed, or cannot be. -/
  | listed (devices : Option (List Address)) (now : Nat)
  /-- The next device is followed. -/
  | followed (now : Nat)
  /-- It reads an event of the adapter. -/
  | event
  /-- It reads an unread change of a device. Each device has a stream of its own, so it need not be
  the oldest one. -/
  | change (index : Nat)
  /-- The interval is over. -/
  | tick (now : Nat)
  /-- The adapter answers the sweep. -/
  | answer (answer : SweepAnswer)
  deriving Repr, DecidableEq

namespace Watcher

/-- A watcher before its first step. -/
def initial (interval : Nat) : Watcher := ⟨.opening, none, [], [], interval, 0⟩

/-- Adds an event to the adapter's stream, if it is open. -/
def push (w : Watcher) (event : AdapterEvent) : Watcher :=
  { w with stream := w.stream.map (· ++ [event]) }

/-- Delivers what the adapter announces. Changes reach a watcher that follows the device, once for
each time it began to, until the device is removed. -/
def hear (w : Watcher) : Announcement → Watcher
  | .added device => w.push (.added device)
  | .removed device =>
    { w.push (.removed device) with followed := w.followed.filter (· != device) }
  | .changed device property =>
    { w with changes := w.changes ++ List.replicate (w.followed.count device) (device, property) }
  | .adapterChanged => w.push .other
  | .adapterRemoved => w.push .ended

/-- Begins to refresh. -/
def sweep (w : Watcher) : Watcher := { w with phase := .sweeping .listing }

/-- Reads an event. The end of the stream is itself a reason to refresh. -/
def read (w : Watcher) (event : AdapterEvent) (rest : List AdapterEvent) : Watcher :=
  match event with
  | .added device => { w with stream := some rest, phase := .joining device }
  | .removed _ => { w with stream := some rest }.sweep
  | .other => { w with stream := some rest }
  | .ended => { w with stream := none }.sweep

/-- Begins to follow a device. -/
def follow (w : Watcher) (device : Address) : Watcher :=
  { w with followed := w.followed ++ [device] }

/-- The state after the devices of the beginning are followed: the clock starts, and the first
refresh is due at once. -/
def startClock (w : Watcher) (now : Nat) : Watcher := { w with phase := .waiting, nextTick := now }

/-- Goes on to follow some devices. -/
def followAll (w : Watcher) (now : Nat) : List Address → Watcher
  | [] => w.startClock now
  | devices => { w with phase := .following devices }

/-- The next time of refresh after `now`. Times that were missed are passed over. -/
def tickAfter (w : Watcher) (now : Nat) : Nat :=
  w.nextTick + ((now - w.nextTick) / w.interval + 1) * w.interval

/-- Takes a step. One that does not fit the phase changes nothing. -/
def step (w : Watcher) (d : Directory) (s : WatchStep) : Watcher × Directory :=
  match w.phase, s with
  | .opening, .subscribed => ({ w with stream := some [], phase := .listing }, d)
  | .listing, .listed devices now => (w.followAll now (devices.getD []), d)
  | .following (device :: rest), .followed now => ((w.follow device).followAll now rest, d)
  | .joining device, .followed _ => ((w.follow device).sweep, d)
  | .waiting, .event =>
    match w.stream with
    | some (event :: rest) => (w.read event rest, d)
    | _ => (w, d)
  | .waiting, .change index =>
    match w.changes[index]? with
    | some (_, property) =>
      let w := { w with changes := w.changes.eraseIdx index }
      (if property = .other then w else w.sweep, d)
    | none => (w, d)
  | .waiting, .tick now =>
    if w.nextTick ≤ now then ({ w with nextTick := w.tickAfter now }.sweep, d) else (w, d)
  | .sweeping sweep, .answer answer =>
    let sweep := sweep.step answer
    match sweep.conclude d with
    | some (_, d) => ({ w with phase := .waiting }, d)
    | none => ({ w with phase := .sweeping sweep }, d)
  | _, _ => (w, d)

/-- The step that a watcher takes next while the adapter looks like this, if there is one. -/
def next? (w : Watcher) (view : BondView) (now : Nat) : Option WatchStep :=
  match w.phase with
  | .opening => some .subscribed
  | .listing => some (.listed view.devices now)
  | .following _ => some (.followed now)
  | .joining _ => some (.followed now)
  | .waiting =>
    if w.nextTick ≤ now then some (.tick now)
    else if ¬ w.changes.isEmpty then some (.change 0)
    else
      match w.stream with
      | some (_ :: _) => some .event
      | _ => none
  | .sweeping sweep => (view.answer? sweep).map .answer

end Watcher

end AccessoryLink
