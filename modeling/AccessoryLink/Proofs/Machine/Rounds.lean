import Mathlib.Data.Nat.Choose.Basic
import AccessoryLink.Machine.Handle

/-!
# Handling a message comes to an end

While anything is left to replay, its first message is processed: that is one round. A round
may put a message back, release others ahead of it or add one, so the replay does not shrink
from round to round. But each round lowers the limit of what can still be replayed, so the rounds
are no more than it says (`Rounds.le_limit`).

Nothing is asked of the machine here: its snapshot need not be legal, and any messages may be
left to replay. Nor is anything asked of the surroundings, which may be others in each round.
-/

namespace AccessoryLink.Machine

variable {W : Type} {m after : Machine} {n : Nat}

/-- A row of rounds. In each of them the first message of the replay is processed, in
surroundings of its own. -/
inductive Rounds : Nat → Machine → Machine → Prop where
  | none (m : Machine) : Rounds 0 m m
  | next {n : Nat} {m after : Machine} {message : Message} {rest : List Message} {W : Type}
      (held : m.replay = message :: rest) (env : Surroundings W) (deadline : Nat) (w : W)
      (later : Rounds n (process env deadline { m with replay := rest } w message).machine
        after) : Rounds (n + 1) m after

/-- The limit counts the pairs of numbers below the potential. -/
theorem limit_eq (m : Machine) : m.limit = m.potential.choose 2 + m.replay.length := by
  have counted (n : Nat) : pairs n = n.choose 2 := by
    induction n with
    | zero => rfl
    | succ n ih => rw [pairs, ih, Nat.choose_succ_succ', Nat.choose_one_right]
  rw [limit, counted]

theorem backlog_le_length (messages : List Message) :
    backlog messages ≤ 3 * messages.length := by
  induction messages with
  | nil => exact Nat.le_refl 0
  | cons message rest ih =>
      have dear : message.cost ≤ 3 := by cases message <;> simp [Message.cost]
      simp only [List.length_cons, backlog_cons]
      omega

/-- There are no more rounds than the limit says. -/
theorem Rounds.le_limit (rounds : Rounds n m after) : n ≤ m.limit := by
  induction rounds with
  | none m => exact Nat.zero_le _
  | next held env deadline w later ih =>
      exact Nat.succ_le_of_lt (Nat.lt_of_le_of_lt ih (limit_process held env deadline w))

/-- The limit grows with the square of the number of messages that wait or are left to
replay. -/
theorem limit_le (m : Machine) : m.limit ≤
    (3 * (m.deferred.length + m.replay.length) + 4).choose 2 + m.replay.length := by
  have left := backlog_le_length m.replay
  have timer := timerCost_le m.timer
  have roles := rolesCost_le m.snapshot.roles
  rw [limit_eq]
  apply Nat.add_le_add_right
  apply Nat.choose_le_choose
  simp only [potential]
  omega

/-- A replay is a row of rounds. -/
theorem rounds_replayAll (env : Surroundings W) (deadline : Nat) (t : Turn W) :
    ∃ n, Rounds n t.machine (replayAll env deadline t).machine := by
  fun_induction replayAll env deadline t with
  | case1 t done => exact ⟨0, .none t.machine⟩
  | case2 t message rest held next ih =>
      obtain ⟨n, rounds⟩ := ih
      exact ⟨n + 1, .next held env deadline t.world rounds⟩

/-- Handling a message always ends. A message that comes in stands in front of whatever is
left to replay, and handling is a row of rounds from there which leaves nothing to replay.
Whatever the machine and its surroundings are, and even if the surroundings change from round
to round, no row of rounds is longer than the number of messages allows; and one that cannot
go on has emptied the replay. -/
theorem handling_ends (env : Surroundings W) (deadline : Nat) (m : Machine) (w : W)
    (message : Message) :
    let start : Machine := { m with replay := message :: m.replay }
    (∃ n, Rounds n start (handle env deadline m w message).machine) ∧
      (handle env deadline m w message).machine.replay = [] ∧
      ∀ n after, Rounds n start after →
        n ≤ (3 * (m.deferred.length + m.replay.length + 1) + 4).choose 2 + m.replay.length + 1 ∧
          ((∀ next, ¬ Rounds 1 after next) → after.replay = []) := by
  intro start
  refine ⟨?_, replay_handle env deadline m w message, ?_⟩
  · obtain ⟨n, rounds⟩ := rounds_replayAll env deadline (process env deadline m w message)
    exact ⟨n + 1, .next rfl env deadline w rounds⟩
  · intro n after rounds
    refine ⟨Nat.le_trans rounds.le_limit (limit_le start), fun stuck => ?_⟩
    cases held : after.replay with
    | nil => rfl
    | cons next rest => exact absurd (.next held env deadline w (.none _)) (stuck _)

end AccessoryLink.Machine
