import AccessoryLink.Directory.Adapter
import Mathlib.Data.List.Nodup

/-!
# Sweeps at an adapter that changes

A sweep asks about one device after another while the adapter goes on changing, so what it finds may
never have been true of all devices at one time. It is true of each device by itself, though, that
is left alone from the beginning of the sweep to its end, if it could be read whether the device is
paired; where that could not be read (`misses`), the sweep takes the device for an unpaired one.
`Faithful` says so of a sweep that is going on, answers keep it (`Faithful.step`), and so do changes
of other devices (`Faithful.of_alike`). What is not left alone is announced (`change_cases`).
-/

namespace AccessoryLink

/-! ## An adapter that changes -/

namespace Adapter

variable {a b : Adapter} {device : Address}

/-- Whether two states of an adapter are the same as to a device. -/
structure Alike (a b : Adapter) (device : Address) : Prop where
  present : device ∈ b.present ↔ device ∈ a.present
  bonded : b.isBonded device = a.isBonded device
  accessory : b.isAccessory device = a.isAccessory device

theorem alike_of_same (present : device ∈ b.present ↔ device ∈ a.present)
    (paired : b.paired device = a.paired device)
    (serves : b.serves device = a.serves device) : a.Alike b device where
  present := present
  bonded := by simp [isBonded, present, paired]
  accessory := by simp [isAccessory, isBonded, present, paired, serves]

theorem alike_refl (a : Adapter) (device : Address) : a.Alike a device :=
  alike_of_same .rfl rfl rfl

/-- A change leaves a device alone, or an event of that device tells of it. -/
theorem change_cases (a : Adapter) (c : AdapterChange) (device : Address) :
    a.Alike (a.change c) device ∨ a.announces c = some (.added device) ∨
      a.announces c = some (.removed device) ∨
      device ∈ (a.change c).present ∧
        ∃ property, property ≠ .other ∧ a.announces c = some (.changed device property) := by
  cases c with
  | add other paired serves =>
    by_cases there : other ∈ a.present
    · exact .inl (by simpa [change, there] using a.alike_refl device)
    by_cases same : device = other
    · exact .inr (.inl (by simp [announces, same, there]))
    · refine .inl (alike_of_same ?_ ?_ ?_) <;> simp [change, there, same]
  | remove other =>
    by_cases same : device = other
    · subst same
      by_cases there : device ∈ a.present
      · exact .inr (.inr (.inl (by simp [announces, there])))
      · exact .inl (alike_of_same (by simp [change, there]) rfl rfl)
    · exact .inl (alike_of_same (by simp [change, same]) rfl rfl)
  | pair other paired =>
    by_cases there : other ∈ a.present
    · by_cases same : device = other
      · refine .inr (.inr (.inr ⟨?_, .paired, by simp, ?_⟩)) <;>
          simp [change, announces, there, same]
      · refine .inl (alike_of_same ?_ ?_ ?_) <;> simp [change, there, same]
    · exact .inl (by simpa [change, there] using a.alike_refl device)
  | offer other serves =>
    by_cases there : other ∈ a.present
    · by_cases same : device = other
      · refine .inr (.inr (.inr ⟨?_, .services, by simp, ?_⟩)) <;>
          simp [change, announces, there, same]
      · refine .inl (alike_of_same ?_ ?_ ?_) <;> simp [change, there, same]
    · exact .inl (by simpa [change, there] using a.alike_refl device)
  | touch | adjust => exact .inl (a.alike_refl device)

/-- A device that is there was there before the change and is not taken away by it, or is announced
as added. -/
theorem present_change {c : AdapterChange} (there : device ∈ (a.change c).present) :
    a.announces c = some (.added device) ∨
      device ∈ a.present ∧ a.announces c ≠ some (.removed device) := by
  cases c with
  | add other paired serves =>
    by_cases known : other ∈ a.present
    · exact .inr (by simpa [change, announces, known] using there)
    · obtain rfl | before : device = other ∨ device ∈ a.present := by
        simpa [change, known] using there
      · exact .inl (by simp [announces, known])
      · exact .inr ⟨before, by simp [announces, known]⟩
  | remove other =>
    obtain ⟨before, same⟩ : device ∈ a.present ∧ device ≠ other := by simpa [change] using there
    refine .inr ⟨before, ?_⟩
    simp only [announces]
    split <;> simp [same.symm]
  | pair other paired | offer other serves =>
    refine .inr ⟨?_, by simp only [announces]; split <;> simp⟩
    simp only [change] at there
    split at there <;> exact there
  | touch other => exact .inr ⟨there, by simp only [announces]; split <;> simp⟩
  | adjust => exact .inr ⟨there, by simp [announces]⟩

/-- An adapter that is there does not announce that it is gone. -/
theorem announces_ne (a : Adapter) (c : AdapterChange) : a.announces c ≠ some .adapterRemoved := by
  cases c with
  | adjust => simp [announces]
  | _ => simp only [announces]; split <;> simp

theorem present_of_isBonded (bonded : a.isBonded device) : device ∈ a.present := by
  simp only [isBonded, Bool.and_eq_true, decide_eq_true_eq] at bonded
  exact bonded.1

theorem isBonded_of_isAccessory (accessory : a.isAccessory device) : a.isBonded device := by
  simp only [isAccessory, Bool.and_eq_true] at accessory
  exact accessory.1

theorem mem_of_lists {list : List Address} (lists : a.lists list) :
    device ∈ list ↔ device ∈ a.present :=
  (List.isPerm_iff.1 lists).mem_iff

theorem nodup_of_lists {list : List Address} (lists : a.lists list) : list.Nodup :=
  (List.isPerm_iff.1 lists).nodup_iff.2 a.nodup_present

/-- Whether a device is paired is answered truly where it is answered. -/
theorem isBonded_of_replies {found : Bonds} {rest : List Address} {paired : Bool}
    (replied : a.replies (.pairing found device rest) (.paired (some paired))) :
    a.isBonded device = paired := by
  by_cases there : device ∈ a.present
  · have same : paired = a.paired device := by simpa [replies, view, there] using replied
    simp [isBonded, there, same]
  · simp [replies, view, there] at replied

theorem serves_of_replies {found : Bonds} {rest : List Address} {offers : Bool}
    (replied : a.replies (.services found device rest) (.services (.known offers))) :
    a.serves device = offers := by
  by_cases there : device ∈ a.present
  · have same : offers = a.serves device := by simpa [replies, view, there] using replied
    exact same.symm
  · simp [replies, view, there] at replied

end Adapter

/-! ## Sweeps at an adapter that changes -/

/-- Whether bonds have a device as the adapter has it, unless the device is one of those whose
pairing, or whose services, were not read. -/
structure Bonds.Reflect (found : Bonds) (a : Adapter) (device : Address)
    (unpaired unserved : List Address) : Prop where
  paired : device ∈ found.paired ↔ a.isBonded device ∧ device ∉ unpaired
  accessories : device ∈ found.accessories ↔ a.isAccessory device ∧ device ∉ unserved

theorem Bonds.Reflect.of_alike {a b : Adapter} {device : Address} {found : Bonds}
    {unpaired unserved : List Address} (reflect : found.Reflect a device unpaired unserved)
    (alike : a.Alike b device) : found.Reflect b device unpaired unserved where
  paired := alike.bonded ▸ reflect.paired
  accessories := alike.accessory ▸ reflect.accessories

namespace Sweep

variable {a b : Adapter} {device : Address}

/-- The devices of which a sweep could not read whether they are paired, after one more answer. -/
def misses (sweep : Sweep) (answer : SweepAnswer) (missed : List Address) : List Address :=
  match sweep, answer with
  | .listing, _ => []
  | .pairing _ device _, .paired none => missed ++ [device]
  | _, _ => missed

/-- Whether a sweep has found of a device what the adapter holds of it, with these devices
missed. -/
def Faithful (a : Adapter) (device : Address) (missed : List Address) : Sweep → Prop
  | .listing | .failed => True
  | .pairing found asked rest =>
    (missed ++ asked :: rest).Nodup ∧
      found.Reflect a device (missed ++ asked :: rest) (missed ++ asked :: rest)
  | .services found asked rest =>
    (missed ++ asked :: rest).Nodup ∧
      found.Reflect a device (missed ++ rest) (missed ++ asked :: rest) ∧
        (device = asked → a.isBonded device)
  | .done bonds => bonds.Reflect a device missed missed

variable {missed : List Address}

theorem Faithful.of_alike {sweep : Sweep} (faithful : sweep.Faithful a device missed)
    (alike : a.Alike b device) : sweep.Faithful b device missed := by
  cases sweep with
  | listing | failed => trivial
  | pairing => exact ⟨faithful.1, faithful.2.of_alike alike⟩
  | services => exact ⟨faithful.1, faithful.2.1.of_alike alike, alike.bonded ▸ faithful.2.2⟩
  | done => exact Bonds.Reflect.of_alike faithful alike

theorem faithful_next {found : Bonds} {rest : List Address} (distinct : (missed ++ rest).Nodup)
    (reflect : found.Reflect a device (missed ++ rest) (missed ++ rest)) :
    (next found rest).Faithful a device missed := by
  cases rest with
  | nil => simpa [next, Faithful] using reflect
  | cons => exact ⟨distinct, reflect⟩

/-- The device that a sweep asks about is neither missed nor still to be asked about. -/
theorem notMem_of_nodup {asked : Address} {rest : List Address}
    (distinct : (missed ++ asked :: rest).Nodup) : asked ∉ missed ++ rest :=
  (List.nodup_cons.1 (List.nodup_middle.1 distinct)).1

theorem faithful_listed {list : List Address} (lists : a.lists list) :
    (next .none list).Faithful a device [] := by
  have listed : a.isBonded device → device ∈ list := fun bonded =>
    (Adapter.mem_of_lists lists).2 (Adapter.present_of_isBonded bonded)
  refine faithful_next (Adapter.nodup_of_lists lists) ⟨?_, ?_⟩
  · simpa [Bonds.none] using listed
  · simpa [Bonds.none] using listed ∘ Adapter.isBonded_of_isAccessory

section Asked

variable {found : Bonds} {asked : Address} {rest : List Address}

/-- A device that is paired is put to the bonds, and its services are still to be read. -/
theorem Faithful.enter (faithful : (pairing found asked rest).Faithful a device missed)
    (bonded : a.isBonded asked) :
    (services { found with paired := Address.adjoin found.paired asked } asked rest).Faithful
      a device missed := by
  obtain ⟨distinct, reflect⟩ := faithful
  refine ⟨distinct, ⟨?_, reflect.accessories⟩, fun same => same ▸ bonded⟩
  by_cases same : device = asked
  · subst same
    simpa [bonded] using notMem_of_nodup distinct
  · simpa [same] using reflect.paired

/-- A device that is not paired is passed over. -/
theorem Faithful.pass (faithful : (pairing found asked rest).Faithful a device missed)
    (unbonded : a.isBonded asked = false) : (next found rest).Faithful a device missed := by
  obtain ⟨distinct, reflect⟩ := faithful
  refine faithful_next (List.nodup_cons.1 (List.nodup_middle.1 distinct)).2 ?_
  by_cases same : device = asked
  · subst same
    exact ⟨by simpa [unbonded] using reflect.paired,
      by simpa [Adapter.isAccessory, unbonded] using reflect.accessories⟩
  · exact ⟨by simpa [same] using reflect.paired, by simpa [same] using reflect.accessories⟩

/-- A device that cannot be read is no longer one still to be read, but one that was missed. -/
theorem Faithful.miss (faithful : (pairing found asked rest).Faithful a device missed) :
    (next found rest).Faithful a device (missed ++ [asked]) := by
  have moved : missed ++ [asked] ++ rest = missed ++ asked :: rest := by simp
  exact faithful_next (moved ▸ faithful.1) (moved ▸ faithful.2)

theorem Faithful.serve {offers : Bool}
    (faithful : (services found asked rest).Faithful a device missed)
    (served : a.serves asked = offers) :
    (next (if offers then { found with accessories := Address.adjoin found.accessories asked }
      else found) rest).Faithful a device missed := by
  obtain ⟨distinct, reflect, bonded⟩ := faithful
  refine faithful_next (List.nodup_cons.1 (List.nodup_middle.1 distinct)).2 ⟨?_, ?_⟩
  · split <;> exact reflect.paired
  · by_cases same : device = asked
    · subst same
      have apart := notMem_of_nodup distinct
      have fresh : device ∉ found.accessories := by simp [reflect.accessories]
      cases offers <;> simp [Adapter.isAccessory, bonded rfl, served, fresh, apart]
    · cases offers <;> simpa [same] using reflect.accessories

end Asked

/-- An answer that the adapter may give leaves what was found of a device right. -/
theorem Faithful.step {sweep : Sweep} {answer : SweepAnswer}
    (faithful : sweep.Faithful a device missed) (replied : a.replies sweep answer) :
    (sweep.step answer).Faithful a device (sweep.misses answer missed) := by
  fun_cases Sweep.step sweep answer with
  | case1 list => exact faithful_listed replied
  | case2 => trivial
  | case3 found asked rest => exact faithful.enter (Adapter.isBonded_of_replies replied)
  | case4 found asked rest answer unpaired =>
    cases answer with
    | none => exact faithful.miss
    | some paired =>
      have unbonded : paired = false := by simpa using unpaired
      exact faithful.pass ((Adapter.isBonded_of_replies replied).trans unbonded)
  | case5 found asked rest offers => exact faithful.serve (Adapter.serves_of_replies replied)
  | case6 => trivial
  | case7 _ _ _ _ _ unasked =>
    -- an answer to another question leaves the sweep and what it missed as they were
    cases sweep with
    | listing => trivial
    | pairing found asked rest =>
      cases answer with
      | paired answer => exact (unasked found asked rest answer rfl rfl).elim
      | _ => exact faithful
    | _ => exact faithful

theorem Faithful.conclude {sweep : Sweep} {d after : Directory}
    (faithful : sweep.Faithful a device missed)
    (ended : sweep.conclude d = some (.done, after)) :
    after.bonds.Reflect a device missed missed := by
  cases sweep with
  | done bonds =>
    cases ended
    exact faithful
  | _ => simp [Sweep.conclude, Outcome.done] at ended

end Sweep

end AccessoryLink
