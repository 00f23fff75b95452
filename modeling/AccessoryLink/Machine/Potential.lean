import AccessoryLink.Machine.Process

/-!
# What a machine still has to do

The potential of a machine counts the messages still to be settled, and what a command may set in
motion: a timer, whose expiry adds a report, or a handover, whose end arms a timer. A message that
is settled lowers the potential; one that is put off keeps it and leaves the replay alone
(`process_potential`). The replay is never longer than the potential, so the two together give a
limit to what can still be replayed (`limit_process`). This holds from any state, also one that no
machine reaches.
-/

namespace AccessoryLink

/-- What a message still to be processed may cost. A command may leave a timer or a handover
behind. -/
def Message.cost : Message → Nat
  | .command _ => 3
  | _ => 1

namespace Machine

/-- What a set of roles may still cost: the end of a handover arms a timer. -/
def rolesCost : Roles → Nat
  | .handover _ _ => 2
  | _ => 0

/-- What a timer may still cost: its expiry adds a report. -/
def timerCost : Option ConnectTimer → Nat
  | some _ => 2
  | none => 0

/-- The cost of all messages of a list. -/
def backlog : List Message → Nat
  | [] => 0
  | message :: rest => message.cost + backlog rest

/-- An upper bound of the messages that are still to be settled. -/
def potential (m : Machine) : Nat :=
  3 * m.deferred.length + backlog m.replay + timerCost m.timer + rolesCost m.snapshot.roles

@[simp] theorem backlog_nil : backlog [] = 0 := rfl

@[simp] theorem backlog_cons (message : Message) (rest : List Message) :
    backlog (message :: rest) = message.cost + backlog rest := rfl

@[simp] theorem backlog_append (a b : List Message) : backlog (a ++ b) = backlog a + backlog b := by
  induction a with
  | nil => simp
  | cons message rest ih => simp [ih, Nat.add_assoc]

@[simp] theorem backlog_commands (commands : List Command) :
    backlog (commands.map .command) = 3 * commands.length := by
  induction commands with
  | nil => rfl
  | cons c rest ih => simp [ih, Message.cost]; omega

theorem timerCost_le (timer : Option ConnectTimer) : timerCost timer ≤ 2 := by
  cases timer <;> simp [timerCost]

theorem rolesCost_le (roles : Roles) : rolesCost roles ≤ 2 := by
  cases roles <;> simp [rolesCost]

theorem one_le_cost (message : Message) : 1 ≤ message.cost := by
  cases message <;> simp [Message.cost]

end Machine

namespace Turn

variable {W : Type}

/-- The potential of the machine at work. -/
def potential (t : Turn W) : Nat := t.machine.potential

@[simp] theorem potential_note (t : Turn W) (e : Effect) : (t.note e).potential = t.potential := rfl

@[simp] theorem potential_tell (t : Turn W) (e : Event) : (t.tell e).potential = t.potential := rfl

@[simp] theorem potential_tellConnection (t : Turn W) (d : Address) (a b : ConnectionState) :
    (t.tellConnection d a b).potential = t.potential := rfl

@[simp] theorem potential_tellService (t : Turn W) (d : Address) (a b : ServiceState) :
    (t.tellService d a b).potential = t.potential := rfl

@[simp] theorem potential_setService (t : Turn W) (c : Option ChannelHandle) :
    (t.setService c).potential = t.potential := rfl

@[simp] theorem potential_reject (t : Turn W) (c : RoleConflict) :
    (t.reject c).potential = t.potential := rfl

@[simp] theorem potential_answer (t : Turn W) (ticket : Option Ticket) (r : Outcome) :
    (t.answer ticket r).potential = t.potential := by
  cases ticket <;> rfl

@[simp] theorem potential_refuse (t : Turn W) (m : Message) (e : LinkError) :
    (t.refuse m e).potential = t.potential := by
  cases m <;> simp [refuse]

@[simp] theorem potential_connect (env : Surroundings W) (t : Turn W) (d : Address) :
    (t.connect env d).2.potential = t.potential := rfl

@[simp] theorem potential_disconnect (env : Surroundings W) (t : Turn W) (d : Address) :
    (t.disconnect env d).2.potential = t.potential := rfl

@[simp] theorem potential_send (env : Surroundings W) (t : Turn W) (d : Address) (p : Packet) :
    (t.send env d p).2.potential = t.potential := rfl

@[simp] theorem potential_judge (env : Surroundings W) (t : Turn W) (d : Address) (o : Bool) :
    (t.judge env d o).2.potential = t.potential := rfl

theorem potential_defer (t : Turn W) (c : Command) :
    (t.defer c).potential = t.potential + 3 ∧
      (t.defer c).machine.replay.length = t.machine.replay.length := by
  simp [defer, potential, Machine.potential, note]; omega

theorem potential_arm (t : Turn W) (deadline : Nat) :
    (t.arm deadline).potential ≤ t.potential + 2 := by
  simp [arm, potential, Machine.potential, Machine.timerCost]; omega

/-- Asking the radio leaves the machine alone, and so what it still has to do. -/
theorem potential_of_asked {A : Type} {asked : A × Turn W} {answer : A} {t u : Turn W}
    (ask : asked = (answer, u)) (same : asked.2.machine = t.machine) :
    u.potential = t.potential := by
  subst ask
  exact congrArg Machine.potential same

/-- Entering a state costs what its roles cost: released commands only move. -/
theorem potential_enter (t : Turn W) (next : MachineState) (roles : Roles) :
    (t.enter next roles).potential + Machine.rolesCost t.snapshot.roles ≤
      t.potential + Machine.rolesCost roles := by
  have timed : Machine.timerCost (if next = .pending then t.machine.timer else none) ≤
      Machine.timerCost t.machine.timer := by
    split <;> simp [Machine.timerCost]
  by_cases same : t.machine.snapshot.state = next <;>
    simp [enter, potential, Machine.potential, note, snapshot, same] <;> omega

/-- A commit costs what the new roles cost and what follows it. -/
theorem potential_commitThen (t : Turn W) (next : MachineState) (roles : Except RoleConflict Roles)
    (proceed : Turn W → Turn W) (bound : Nat) (stay : t.potential ≤ bound)
    (go : ∀ r, roles = .ok r → (proceed (t.enter next r)).potential ≤ bound) :
    (t.commitThen next roles proceed).potential ≤ bound := by
  unfold commitThen
  split
  · simpa using stay
  · rename_i r
    split
    · simpa using stay
    · exact go r rfl

/-- A commit to roles that cost no more than the present ones costs nothing. -/
theorem potential_commit_le (t : Turn W) (next : MachineState) (roles : Except RoleConflict Roles)
    (bound : Nat) (stay : t.potential ≤ bound)
    (cheap : ∀ r, roles = .ok r → Machine.rolesCost r ≤ Machine.rolesCost t.snapshot.roles) :
    (t.commit next roles).potential ≤ bound := by
  refine potential_commitThen t next roles id bound stay fun r made => ?_
  have entered := potential_enter t next r
  have cheaper := cheap r made
  show (t.enter next r).potential ≤ bound
  omega

end Turn

namespace Machine

variable {W : Type}

theorem rolesCost_clear (roles : Roles) (role : Role) :
    rolesCost (roles.clear role) ≤ rolesCost roles := by
  cases roles <;> cases role <;> simp [Roles.clear, rolesCost]

theorem rolesCost_setIncoming {roles r : Roles} {device : Address}
    (made : roles.setIncoming device = .ok r) : rolesCost r = 0 := by
  cases roles <;> simp [Roles.setIncoming] at made
  subst made; rfl

theorem rolesCost_setCurrent {roles r : Roles} {device : Address}
    (made : roles.setCurrent device = .ok r) : rolesCost r = 0 := by
  cases roles <;> simp [Roles.setCurrent] at made
  subst made; rfl

theorem rolesCost_promote {roles r : Roles} {device : Address}
    (made : (roles.promote device).map Prod.fst = .ok r) : rolesCost r = 0 := by
  cases roles <;> simp only [Roles.promote] at made <;> (try split at made) <;>
    simp_all [Except.map] <;> subst_vars <;> rfl

/-- Asking the radio leaves the machine alone. -/
theorem machine_connect (env : Surroundings W) (t : Turn W) (device : Address) :
    (t.connect env device).2.machine = t.machine := rfl

theorem potential_startAttempt (env : Surroundings W) (deadline : Nat) (t : Turn W)
    (device : Address) (idle : t.snapshot.roles = .idle) :
    (startAttempt env deadline t device).potential ≤ t.potential + 2 := by
  unfold startAttempt
  simp only
  split
  · rename_i u asked
    have unmoved : u.machine = t.machine := (congrArg (·.2.machine) asked).symm
    simp [Turn.potential, Turn.tellConnection, Turn.tell, Turn.note, unmoved]
  · rename_i u asked
    have unmoved : u.machine = t.machine := (congrArg (·.2.machine) asked).symm
    have still : u.snapshot.roles = .idle := by rw [Turn.snapshot, unmoved]; exact idle
    have kept : u.potential = t.potential := congrArg Machine.potential unmoved
    refine Turn.potential_commitThen _ _ _ _ _ (by omega) fun r made => ?_
    rw [still] at made
    obtain rfl : Roles.outgoing device = r := by simpa [Roles.setTarget] using made
    have entered := Turn.potential_enter u .pending (.outgoing device)
    have armed := Turn.potential_arm (u.enter .pending (.outgoing device)) deadline
    rw [still] at entered
    simp only [rolesCost] at entered
    omega

theorem potential_inboundConnecting (env : Surroundings W) (t : Turn W) (device : Address) :
    (inboundConnecting env t device).potential ≤ t.potential := by
  unfold inboundConnecting
  split
  · rename_i u asked
    have kept : u.potential = t.potential := Turn.potential_of_asked asked rfl
    refine Turn.potential_commit_le _ _ _ _ (by simp [kept]) fun r made => ?_
    rw [rolesCost_setIncoming made]; exact Nat.zero_le _
  · rename_i u asked
    have kept : u.potential = t.potential := Turn.potential_of_asked asked rfl
    simp [dropPeer, kept]

theorem potential_inboundConnected (env : Surroundings W) (t : Turn W) (device : Address) :
    (inboundConnected env t device).potential ≤ t.potential := by
  unfold inboundConnected
  split
  · rename_i u asked
    have kept : u.potential = t.potential := Turn.potential_of_asked asked rfl
    refine Turn.potential_commit_le _ _ _ _ (by simp [kept]) fun r made => ?_
    rw [rolesCost_setCurrent made]; exact Nat.zero_le _
  · rename_i u asked
    have kept : u.potential = t.potential := Turn.potential_of_asked asked rfl
    simp [dropPeer, kept]

theorem potential_whileDisconnected (env : Surroundings W) (deadline : Nat) (t : Turn W)
    (message : Message) :
    (whileDisconnected env deadline t message).potential < t.potential + message.cost := by
  unfold whileDisconnected
  have one := one_le_cost message
  simp only
  split
  · simp; omega
  · rename_i settled
    have idle : t.snapshot.roles = .idle := Classical.not_not.mp settled
    split
    · have := potential_startAttempt env deadline t ‹_› idle
      simp only [Message.cost]; omega
    · simp; omega
    · have := potential_inboundConnecting env t ‹_›; omega
    · have := potential_inboundConnected env t ‹_›; omega
    · omega

/-- A command to disconnect is settled, or put off behind the others. -/
theorem potential_pendingDisconnect (env : Surroundings W) (t : Turn W) (command : Command) :
    (pendingDisconnect env t command).potential ≤ t.potential ∨
      (pendingDisconnect env t command).potential = t.potential + 3 ∧
        (pendingDisconnect env t command).machine.replay.length = t.machine.replay.length := by
  unfold pendingDisconnect
  simp only
  split
  · split
    · left
      refine Turn.potential_commit_le _ _ _ _ (by simp) fun r made => ?_
      obtain rfl := Except.ok.inj made
      exact rolesCost_clear _ _
    · right; exact Turn.potential_defer t command
  · split
    · split
      · rename_i u asked
        have unmoved : u.machine = t.machine := (congrArg (·.2.machine) asked).symm
        have kept : u.potential = t.potential := congrArg Machine.potential unmoved
        left
        refine Turn.potential_commit_le _ _ _ _ (by simp [kept]) fun r made => ?_
        obtain rfl := Except.ok.inj made
        have : (u.tellConnection command.device .disconnected .connecting).snapshot.roles =
            t.snapshot.roles := by
          simp [Turn.tellConnection, Turn.tell, Turn.note, Turn.snapshot, unmoved]
        rw [this]
        exact rolesCost_clear _ _
      · rename_i u asked
        have unmoved : u.machine = t.machine := (congrArg (·.2.machine) asked).symm
        have kept : u.potential = t.potential := congrArg Machine.potential unmoved
        right
        have := Turn.potential_defer u command
        rw [kept, unmoved] at this
        exact this
    · right; exact Turn.potential_defer t command
  · right; exact Turn.potential_defer t command

theorem potential_pendingTimeout (t : Turn W) (generation : Nat) :
    (pendingTimeout t generation).potential ≤ t.potential := by
  unfold pendingTimeout
  split
  · exact Nat.le_refl _
  · rename_i timer armed
    split
    · exact Nat.le_refl _
    · simp only
      split
      · simp [Turn.potential, Machine.potential, armed, timerCost, Message.cost]
        omega
      · simp [Turn.potential, Machine.potential, armed, timerCost]

theorem potential_currentGone (env : Surroundings W) (deadline : Nat) (t : Turn W)
    (device : Address) (role : t.snapshot.roles.roleOf device = .current) :
    (currentGone env deadline t device).potential ≤ t.potential := by
  unfold currentGone
  simp only
  split
  · refine Turn.potential_commit_le _ _ _ _ (by simp) fun r made => ?_
    obtain rfl := Except.ok.inj made
    exact Nat.le_trans (rolesCost_clear _ _) (rolesCost_clear _ _)
  · rename_i target waits
    refine Turn.potential_commitThen _ _ _ _ _ (by simp) fun r made => ?_
    obtain rfl := Except.ok.inj made
    have costs : rolesCost t.snapshot.roles = 2 ∧
        rolesCost (t.snapshot.roles.clear .current) = 0 := by
      cases now : t.snapshot.roles <;>
        simp [now, Roles.roleOf, Roles.current?, Roles.target?, Roles.incoming?, Roles.clear,
          rolesCost] at role waits ⊢
      split at role <;> simp at role
    have entered := Turn.potential_enter (t.tellConnection device .disconnected .disconnecting)
      .pending (t.snapshot.roles.clear .current)
    simp only [Turn.potential_tellConnection] at entered
    have same : (t.tellConnection device .disconnected .disconnecting).snapshot.roles =
        t.snapshot.roles := rfl
    rw [same, costs.1, costs.2] at entered
    split
    · rename_i u asked
      have armed := Turn.potential_arm u deadline
      rw [Turn.potential_of_asked asked (machine_connect env _ target)] at armed
      simp only [Turn.potential] at entered armed ⊢
      omega
    · rename_i u asked
      have kept := Turn.potential_of_asked asked (machine_connect env _ target)
      refine Turn.potential_commit_le _ _ _ _ ?_ fun r made => ?_
      · rw [Turn.potential_tellConnection]
        omega
      · obtain rfl := Except.ok.inj made
        exact rolesCost_clear _ _

theorem potential_pendingDisconnected (env : Surroundings W) (deadline : Nat) (t : Turn W)
    (device : Address) : (pendingDisconnected env deadline t device).potential ≤ t.potential := by
  unfold pendingDisconnected
  simp only
  split
  · exact potential_currentGone env deadline t device ‹_›
  · refine Turn.potential_commit_le _ _ _ _ (by simp) fun r made => ?_
    obtain rfl := Except.ok.inj made
    exact rolesCost_clear _ _
  · refine Turn.potential_commit_le _ _ _ _ (by simp) fun r made => ?_
    obtain rfl := Except.ok.inj made
    exact rolesCost_clear _ _
  · exact Nat.le_refl _

theorem machine_tellGone (t : Turn W) (devices : List Address) :
    (tellGone t devices).machine = t.machine := by
  induction devices generalizing t with
  | nil => rfl
  | cons d rest ih => exact ih _

theorem potential_pendingConnected (t : Turn W) (device : Address) :
    (pendingConnected t device).potential ≤ t.potential := by
  unfold pendingConnected
  simp only
  split
  · refine Turn.potential_commit_le _ _ _ _ ?_ fun r made => ?_
    · cases t.snapshot.roles.target? <;> simp
    · obtain rfl := Except.ok.inj made
      cases t.snapshot.roles.target? <;> exact rolesCost_clear _ _
  · refine Turn.potential_commit_le _ _ _ _ ?_ fun r made => ?_
    · cases t.snapshot.roles.current? <;> simp
    · rw [rolesCost_promote made]; exact Nat.zero_le _
  · refine Turn.potential_commit_le _ _ _ _ ?_ fun r made => ?_
    · cases t.snapshot.roles.current? <;> simp
    · rw [rolesCost_promote made]; exact Nat.zero_le _
  · refine Turn.potential_commit_le _ _ _ _ ?_ fun r made => ?_
    · exact Nat.le_of_eq (congrArg potential (machine_tellGone t t.snapshot.roles.devices))
    · obtain rfl := Except.ok.inj made; exact Nat.zero_le _

/-- While a transition is pending, a message is settled, or it is a command that is put off. -/
theorem potential_whilePending (env : Surroundings W) (deadline : Nat) (t : Turn W)
    (message : Message) :
    (whilePending env deadline t message).potential < t.potential + message.cost ∨
      (whilePending env deadline t message).potential = t.potential + message.cost ∧
        (whilePending env deadline t message).machine.replay.length =
          t.machine.replay.length := by
  unfold whilePending
  have one := one_le_cost message
  split
  · rename_i command
    split
    · right; exact Turn.potential_defer t command
    · rcases potential_pendingDisconnect env t command with settled | deferred
      · left; simp only [Message.cost]; omega
      · right; exact deferred
  · left; simp; omega
  · left; have := potential_pendingTimeout t ‹_›; omega
  · left; have := potential_pendingDisconnected env deadline t ‹_›; omega
  · left; have := potential_pendingConnected t ‹_›; omega
  · left; omega

@[simp] theorem potential_dropService (t : Turn W) (device : Address) :
    (dropService t device).potential = t.potential := by
  unfold dropService; split <;> simp

theorem roles_dropService (t : Turn W) (device : Address) :
    (dropService t device).snapshot.roles = t.snapshot.roles := by
  unfold dropService; split <;> rfl

theorem potential_startHandover (env : Surroundings W) (t : Turn W) (current device : Address) :
    (startHandover env t current device).potential ≤ t.potential + 2 := by
  unfold startHandover
  simp only
  split
  · rename_i u asked
    have kept : u.potential = t.potential := Turn.potential_of_asked asked rfl
    simp [kept]
  · rename_i u asked
    have kept : u.potential = t.potential := Turn.potential_of_asked asked rfl
    refine Turn.potential_commitThen _ _ _ _ _ (by simp [kept]) fun r _ => ?_
    have entered := Turn.potential_enter
      ((dropService u current).tellConnection current .disconnecting .connected) .pending r
    have bounded := rolesCost_le r
    simp only [Turn.potential_tellConnection, potential_dropService, kept] at entered
    show (Turn.enter _ _ _).potential ≤ _
    omega

theorem potential_startDisconnect (env : Surroundings W) (t : Turn W) (device : Address) :
    (startDisconnect env t device).potential ≤ t.potential := by
  unfold startDisconnect
  simp only
  split
  · rename_i u asked
    have kept : u.potential = t.potential :=
      (Turn.potential_of_asked asked rfl).trans (potential_dropService t device)
    split <;> simp [kept]
  · rename_i u asked
    have kept : u.potential = t.potential :=
      (Turn.potential_of_asked asked rfl).trans (potential_dropService t device)
    refine Turn.potential_commit_le _ _ _ _ (by omega) fun r made => ?_
    obtain rfl := Except.ok.inj made
    exact Nat.le_refl _

@[simp] theorem potential_serviceChanged (t : Turn W) (device : Address) (state : ServiceState)
    (channel : Option ChannelHandle) :
    (serviceChanged t device state channel).potential = t.potential := by
  unfold serviceChanged; split <;> simp

theorem potential_linkLost (t : Turn W) (device : Address) :
    (linkLost t device).potential ≤ t.potential := by
  unfold linkLost
  refine Turn.potential_commit_le _ _ _ _ (by simp) fun r made => ?_
  obtain rfl := Except.ok.inj made
  have : ((dropService t device).tellConnection device .disconnected .connected).snapshot.roles =
      t.snapshot.roles := roles_dropService t device
  rw [this]
  exact rolesCost_clear _ _

theorem potential_whileConnected (env : Surroundings W) (t : Turn W) (message : Message) :
    (whileConnected env t message).potential < t.potential + message.cost := by
  unfold whileConnected
  have one := one_le_cost message
  split
  · simp; omega
  · rename_i current holds
    split
    · split
      · omega
      · have := potential_startHandover env t current ‹_›
        simp only [Message.cost]; omega
    · split
      · have := potential_startDisconnect env t ‹_›; omega
      · omega
    · rename_i packet ticket
      split
      rename_i result u asked
      have kept : u.potential = t.potential := Turn.potential_of_asked asked rfl
      simp [kept]; omega
    · split
      · have := potential_linkLost t ‹_›; omega
      · omega
    · split
      · simp; omega
      · omega
    · simp; omega
    · omega

/-- Processing settles a message and lowers the potential, or puts it off and keeps the replay. -/
theorem process_potential (env : Surroundings W) (deadline : Nat) (m : Machine) (w : W)
    (message : Message) :
    (process env deadline m w message).machine.potential < m.potential + message.cost ∨
      (process env deadline m w message).machine.potential = m.potential + message.cost ∧
        (process env deadline m w message).machine.replay.length = m.replay.length := by
  have one := one_le_cost message
  unfold process
  simp only
  split
  · left; show m.potential < _; omega
  · left; show m.potential < _; omega
  · split
    · left; exact potential_whileDisconnected env deadline _ _
    · exact potential_whilePending env deadline _ _
    · left; exact potential_whileConnected env _ _

/-! ## How long a replay can last -/

section

variable {m m' : Machine} {message : Message} {rest : List Message}

/-- The number of pairs of numbers below `n`. -/
def pairs : Nat → Nat
  | 0 => 0
  | n + 1 => n + pairs n

theorem pairs_lt {k n : Nat} (below : k < n) : k + pairs k ≤ pairs n := by
  induction n with
  | zero => omega
  | succ n ih =>
    obtain rfl | less := Nat.eq_or_lt_of_le (Nat.le_of_lt_succ below)
    · exact Nat.le_refl _
    · exact Nat.le_trans (ih less) (Nat.le_add_left ..)

/-- An upper bound of the messages that are still to be processed, with those that are put off and
released again. -/
def limit (m : Machine) : Nat := pairs m.potential + m.replay.length

theorem length_le_backlog (messages : List Message) : messages.length ≤ backlog messages := by
  induction messages with
  | nil => exact Nat.le_refl 0
  | cons message rest ih =>
    have settled := one_le_cost message
    simp only [List.length_cons, backlog_cons]
    omega

/-- Every message that is left to replay has still to be settled. -/
theorem length_le_potential (m : Machine) : m.replay.length ≤ m.potential := by
  have counted := length_le_backlog m.replay
  simp only [potential]
  omega

/-- A message that is taken from the replay takes its cost along. -/
theorem potential_of_held (held : m.replay = message :: rest) :
    potential { m with replay := rest } + message.cost = m.potential := by
  simp only [potential, held, backlog_cons]
  omega

/-- What has lost potential may have more to replay, but less to go through. -/
theorem limit_lt_of_potential (lower : m'.potential < m.potential) (pos : m.replay ≠ []) :
    m'.limit < m.limit := by
  have short := length_le_potential m'
  have some := List.length_pos_iff.mpr pos
  have grows := pairs_lt lower
  simp only [limit]
  omega

/-- To process a message of the replay lowers the limit. -/
theorem limit_process (held : m.replay = message :: rest) (env : Surroundings W)
    (deadline : Nat) (w : W) :
    (process env deadline { m with replay := rest } w message).machine.limit < m.limit := by
  have cost := potential_of_held held
  obtain settled | ⟨stood, kept⟩ :=
    process_potential env deadline { m with replay := rest } w message
  · exact limit_lt_of_potential (cost ▸ settled) (by simp [held])
  · rw [cost] at stood
    simp only [limit, stood, kept, held, List.length_cons]
    omega

end

end Machine

end AccessoryLink
