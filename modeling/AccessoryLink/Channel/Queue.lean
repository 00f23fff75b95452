import AccessoryLink.Error
import AccessoryLink.Message

/-!
# Bounded packet queues

A sender never waits: a packet is accepted, or refused because the queue is full or because nobody
takes packets from it any more.
-/

namespace AccessoryLink

/-- A queue of packets, oldest first. -/
structure PacketQueue where
  depth : Nat
  packets : List Packet
  /-- Whether somebody still takes packets from it. -/
  isOpen : Bool
  deriving Repr, DecidableEq

namespace PacketQueue

/-- An empty queue for so many packets. -/
def ofDepth (depth : Nat) : PacketQueue := ⟨depth, [], true⟩

instance : Inhabited PacketQueue := ⟨ofDepth 0⟩

/-- Offers a packet. A queue that is closed says so, whether or not it is full. -/
def offer (q : PacketQueue) (packet : Packet) : Outcome × PacketQueue :=
  if !q.isOpen then (.error .channelClosed, q)
  else if q.packets.length < q.depth then (.done, { q with packets := q.packets ++ [packet] })
  else (.error (.system .wouldBlock), q)

/-- Stops taking packets; those that wait are lost. -/
def close (q : PacketQueue) : PacketQueue := { q with packets := [], isOpen := false }

/-- A packet is accepted exactly when the queue is open and not full. -/
theorem offer_fst_eq_done_iff {q : PacketQueue} {packet : Packet} :
    (q.offer packet).1 = .done ↔ q.isOpen = true ∧ q.packets.length < q.depth := by
  unfold offer
  cases q.isOpen
  · simp [Outcome.done]
  · by_cases room : q.packets.length < q.depth <;> simp [room, Outcome.done]

/-- A packet that is refused leaves the queue as it was. -/
theorem offer_snd_of_error {q : PacketQueue} {packet : Packet} {e : LinkError}
    (refused : (q.offer packet).1 = .error e) : (q.offer packet).2 = q := by
  unfold offer at refused ⊢
  split
  · rfl
  · split
    · simp_all [Outcome.done]
    · rfl

end PacketQueue

end AccessoryLink
