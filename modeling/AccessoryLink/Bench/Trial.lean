import AccessoryLink.Bench.Recorder
import AccessoryLink.Manager.Actor

/-!
# A machine on trial

A machine over a recording radio, on a clock that stands still unless it is moved. No timer fires by
itself, and the snapshot can be overwritten.
-/

namespace AccessoryLink.Bench

/-- A machine, its surroundings, and the clock. -/
structure Trial where
  machine : Machine
  world : Recorder
  now : Nat
  /-- How long an attempt to connect may take, in milliseconds. -/
  timeout : Nat

namespace Trial

/-- A fresh machine. -/
def initial (directory : Directory) (timeout : Nat) : Trial :=
  ⟨.initial, .ofDirectory directory, 0, timeout⟩

/-- Takes over what a turn made of the machine. -/
def absorb (t : Trial) (turn : Turn Recorder) : List Effect × Trial :=
  (turn.effects, { t with machine := turn.machine, world := turn.world })

/-- Handles one message. -/
def handle (t : Trial) (message : Message) : List Effect × Trial :=
  t.absorb (Machine.handle Recorder.surroundings (t.now + t.timeout) t.machine t.world message)

/-- Sends a packet and waits for the result; nothing is told if none comes. -/
def send (t : Trial) (packet : Packet) : Option Outcome × List Effect × Trial :=
  match t.handle (.send packet (some 0)) with
  | (effects, t) => (Manager.resultOf? 0 effects, effects, t)

/-- Handles the expiry of the armed timer, if there is one. -/
def fire? (t : Trial) : Option (List Effect × Trial) :=
  t.machine.timer.map fun timer => t.handle (.timeout timer.generation)

/-- Shuts the machine down. -/
def shutdown (t : Trial) : List Effect × Trial :=
  t.absorb (Machine.shutdown Recorder.surroundings t.machine t.world)

/-- Moves the clock. -/
def advance (t : Trial) (ms : Nat) : Trial := { t with now := t.now + ms }

/-- Overwrites the snapshot. -/
def poke (t : Trial) (snapshot : Snapshot) : Trial :=
  { t with machine := { t.machine with snapshot := snapshot } }

end Trial

end AccessoryLink.Bench
