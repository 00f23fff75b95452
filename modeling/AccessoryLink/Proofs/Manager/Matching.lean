import AccessoryLink.Manager.Basic
import AccessoryLink.Proofs.Snapshot

/-!
# Devices in given states

The devices that are asked for by their states come from two sources, which overlap as they like:
the bonded accessories, and the devices that the link tracks, up to two of them during a handover.
The answer has each device once (`nodup_known`), whatever the snapshot. Nothing else can be missing
from it: a device without a role is disconnected, so one in any other state is tracked, bonded or
not.
-/

namespace AccessoryLink

namespace Address

variable {known more : List Address} {device : Address}

theorem mem_foldl_adjoin :
    device ∈ more.foldl adjoin known ↔ device ∈ known ∨ device ∈ more := by
  induction more generalizing known with
  | nil => simp
  | cons first rest ih => rw [List.foldl_cons, ih, mem_adjoin, List.mem_cons, or_assoc]

theorem nodup_foldl_adjoin (distinct : known.Nodup) : (more.foldl adjoin known).Nodup := by
  induction more generalizing known with
  | nil => exact distinct
  | cons first rest ih => exact ih (nodup_adjoin distinct first)

end Address

namespace Manager

variable {W : Type} {env : Surroundings W} {m : Manager W} {states : List ConnectionState}
  {device : Address}

theorem mem_devicesMatching :
    device ∈ m.devicesMatching env states ↔
      (device ∈ env.accessories m.world ∨ m.snapshot.roles.roleOf device ≠ .none) ∧
        m.connectionOf device ∈ states := by
  simp only [devicesMatching, List.mem_filter, Address.mem_foldl_adjoin, Roles.mem_devices,
    List.contains_iff_mem]

/-- A device that is not disconnected is tracked. -/
theorem roleOf_of_connectionOf (up : m.connectionOf device ≠ .disconnected) :
    m.snapshot.roles.roleOf device ≠ .none :=
  fun unknown => up (Snapshot.connectionOf_of_roleOf_none unknown)

/-- What is found by states is exact for every snapshot, also for one that the machine would not
reach. It names no device twice, if the bonded accessories are each named once. A device is found
just when it is a bonded accessory or tracked, and its connection is in one of the states. If these
are states of devices that are not disconnected, every device in one of them is found. -/
theorem matching_exact (env : Surroundings W) (m : Manager W) (states : List ConnectionState)
    (distinct : (env.accessories m.world).Nodup) :
    (m.devicesMatching env states).Nodup ∧
      (∀ device, device ∈ m.devicesMatching env states ↔
        m.snapshot.connectionOf device ∈ states ∧
          (device ∈ env.accessories m.world ∨ m.snapshot.roles.roleOf device ≠ .none)) ∧
      (.disconnected ∉ states →
        ∀ device, m.snapshot.connectionOf device ∈ states →
          device ∈ m.devicesMatching env states) := by
  refine ⟨?_, ?_, ?_⟩
  · exact (Address.nodup_foldl_adjoin distinct).filter _
  · intro device
    exact mem_devicesMatching.trans and_comm
  · intro noneDown device wanted
    have up : m.connectionOf device ≠ .disconnected := fun down => noneDown (down ▸ wanted)
    exact mem_devicesMatching.2 ⟨.inr (roleOf_of_connectionOf up), wanted⟩

/-- A radio that does nothing, and three bonded accessories. -/
def threeBonded : Surroundings Unit where
  connect _ _ := (.done, ())
  disconnect _ _ := (.done, ())
  send _ _ _ := (.done, ())
  cleanup _ := ()
  priority _ _ := .on
  bonded _ _ := true
  accessories _ := [.numbered 2, .numbered 3, .numbered 4]
  quiet _ := false

/-- The second of the bonded accessories is to take the place of a device that is not bonded. -/
def handingOver : Manager Unit :=
  { initial () 30000 with
    machine :=
      { Machine.initial with
        snapshot := ⟨.pending, .handover (.numbered 1) (.numbered 3), none⟩ } }

/-- Both devices of a handover are found, the bonded one once. -/
theorem matching_handover :
    handingOver.devicesMatching threeBonded [.connecting, .disconnecting] =
        [.numbered 3, .numbered 1] ∧
      (handingOver.devicesMatching threeBonded [.connecting, .disconnecting]).Nodup ∧
      .numbered 1 ∈ handingOver.devicesMatching threeBonded [.connecting, .disconnecting] := by
  have distinct : (threeBonded.accessories handingOver.world).Nodup := by decide
  obtain ⟨once, -, all⟩ :=
    matching_exact threeBonded handingOver [.connecting, .disconnecting] distinct
  have leaving : handingOver.snapshot.connectionOf (.numbered 1) = .disconnecting := by decide
  refine ⟨by decide, once, all (by decide) (.numbered 1) ?_⟩
  simp [leaving]

end Manager

end AccessoryLink
