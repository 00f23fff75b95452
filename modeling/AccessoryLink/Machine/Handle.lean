import AccessoryLink.Machine.Potential

/-!
# Handling a message to the end

Processing one message may release others, which come before anything new, so handling goes on until
nothing is left to replay. It ends because the potential falls, or stays while the replay gets
shorter.
-/

namespace AccessoryLink.Machine

variable {W : Type}

/-- Processes what is to be replayed until nothing is left. -/
def replayAll (env : Surroundings W) (deadline : Nat) (t : Turn W) : Turn W :=
  match _held : t.machine.replay with
  | [] => t
  | message :: rest =>
    let next := process env deadline { t.machine with replay := rest } t.world message
    replayAll env deadline ⟨next.machine, next.world, t.effects ++ next.effects⟩
termination_by t.machine.limit
decreasing_by exact limit_process _held env deadline t.world

/-- Handles one message: processes it, and then everything it released. -/
def handle (env : Surroundings W) (deadline : Nat) (m : Machine) (w : W) (message : Message) :
    Turn W :=
  replayAll env deadline (process env deadline m w message)

/-- Gives everything up: no timer, no waiting command, and no hold on the radio. -/
def shutdown (env : Surroundings W) (m : Machine) (w : W) : Turn W :=
  let t : Turn W := ⟨{ m with timer := none, deferred := [], replay := [] }, w, []⟩
  (m.replay.foldl (fun t message => t.refuse message .managerShutdown) t).cleanup env

/-- Handling stops only when nothing is left to replay. -/
theorem replay_replayAll (env : Surroundings W) (deadline : Nat) (t : Turn W) :
    (replayAll env deadline t).machine.replay = [] := by
  fun_induction replayAll env deadline t with
  | case1 t done => exact done
  | case2 t message rest done next ih => exact ih

theorem replay_handle (env : Surroundings W) (deadline : Nat) (m : Machine) (w : W)
    (message : Message) : (handle env deadline m w message).machine.replay = [] :=
  replay_replayAll env deadline _

end AccessoryLink.Machine
