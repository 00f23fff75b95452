import AccessoryLink.Channel.Queue
import AccessoryLink.Channel.Register

/-!
# A channel desk

The register of the service channel together with the queues that were handed in at its openings. A
queue outlives the opening: what was accepted can be taken from it after the channel was closed or
opened anew.
-/

namespace AccessoryLink

/-- The register and the queues of its openings. -/
structure ChannelDesk where
  register : ChannelRegister
  /-- The queue of each successful opening, in order. The number of an opening is its line. -/
  queues : List PacketQueue
  /-- The lines of the openings, with the devices they were for, latest first. -/
  openings : List (Address × Nat)
  closing : ClosingSet
  deriving Repr, DecidableEq

namespace ChannelDesk

/-- A desk before the first opening. -/
def initial : ChannelDesk := ⟨.initial, [], [], []⟩

/-- Opens the channel for a device, with an empty queue of some depth. -/
def install (desk : ChannelDesk) (device : Address) (depth : Nat) :
    Option ChannelHandle × ChannelDesk :=
  let line := desk.queues.length
  match desk.register.open? device line with
  | some (handle, register) =>
    (some handle,
      { desk with
        register := register
        queues := desk.queues ++ [.ofDepth depth]
        openings := (device, line) :: desk.openings })
  | none => (none, desk)

/-- Closes the channel, if the device holds it. -/
def close (desk : ChannelDesk) (device : Address) : Option ChannelHandle × ChannelDesk :=
  match desk.register.close device with
  | (handle, register) => (handle, { desk with register := register })

/-- Offers a packet to the queue of the holder. -/
def send (desk : ChannelDesk) (device : Address) (packet : Packet) : Outcome × ChannelDesk :=
  match desk.register.line? device with
  | none => (.error .channelClosed, desk)
  | some line =>
    match desk.queues[line]? with
    | none => (.error .channelClosed, desk)
    | some queue =>
      match queue.offer packet with
      | (result, queue) => (result, { desk with queues := desk.queues.set line queue })

/-- The line of the latest opening for a device. -/
def latest? (desk : ChannelDesk) (device : Address) : Option Nat := desk.openings.lookup device

/-- Takes everything from the queue of the latest opening for a device. -/
def drain (desk : ChannelDesk) (device : Address) : List Packet × ChannelDesk :=
  match desk.latest? device with
  | none => ([], desk)
  | some line =>
    let queue := desk.queues.getD line default
    (queue.packets, { desk with queues := desk.queues.set line { queue with packets := [] } })

/-- Gives up the queue of the latest opening for a device. The answer says whether it was still
there. -/
def dropQueue (desk : ChannelDesk) (device : Address) : Bool × ChannelDesk :=
  match desk.latest? device with
  | none => (false, desk)
  | some line =>
    let queue := desk.queues.getD line default
    (queue.isOpen, { desk with queues := desk.queues.set line queue.close })

/-- Marks a device as closing. -/
def beginClose (desk : ChannelDesk) (device : Address) : Bool × ChannelDesk :=
  match desk.closing.mark device with
  | (fresh, closing) => (fresh, { desk with closing := closing })

/-- Removes the mark of a device. -/
def reopen (desk : ChannelDesk) (device : Address) : ChannelDesk :=
  { desk with closing := desk.closing.reopen device }

end ChannelDesk

end AccessoryLink
