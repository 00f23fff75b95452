import AccessoryLink.Directory.History
import Mathlib.Data.List.Forall2
import Mathlib.Data.List.Induction
import Mathlib.Logic.Function.Basic

/-!
# Priorities as a map

The known devices are a list that anybody may have written: in any order, with two entries about one
device, with addresses in any spelling and with texts that are no address. Reading a priority and
setting one search that list apart from each other. Both find the same entry, since what is set is
found again (`lookup?_assign`), also where the entry was only just added: its text reads as the
device. So the list is a map from devices to priorities to whoever calls (`priorityOf_setPriority`),
and of all priorities that are set for a device the last one stands (`priorityOf_setPriorities`).
-/

namespace AccessoryLink

namespace KnownDevice

variable {device other : Address} {priority : Priority} {entry : KnownDevice}
  {entries : List KnownDevice}

theorem isAbout_iff : entry.isAbout device = true ↔ Address.parse? entry.address = some device :=
  beq_iff_eq

@[simp] theorem parse?_fresh : Address.parse? (fresh device priority).address = some device := by
  simp [fresh, Address.parse?, Address.parse_text, Except.toOption]

/-! ## One change -/

/-- What an entry is after a priority was set for a device: as it was, but for the priority if it is
an entry about the device. -/
structure Stays (device : Address) (old now : KnownDevice) : Prop where
  address : now.address = old.address
  name : now.name = old.name
  priority : Address.parse? old.address ≠ some device → now.priority = old.priority

theorem stays_refl (entry : KnownDevice) : Stays device entry entry := ⟨rfl, rfl, fun _ => rfl⟩

/-- Every entry stays at its place, and one at most is added, which is about the device. -/
theorem assign_keeps (device : Address) (priority : Priority) (entries : List KnownDevice) :
    ∃ kept added, assign device priority entries = kept ++ added ∧
      List.Forall₂ (Stays device) entries kept ∧
      (added = [] ∨ ∃ entry, added = [entry] ∧ Address.parse? entry.address = some device) := by
  induction entries with
  | nil => exact ⟨[], [fresh device priority], rfl, .nil, .inr ⟨_, rfl, parse?_fresh⟩⟩
  | cons entry rest ih =>
    rw [assign]
    split
    · next about =>
      have changed : Stays device entry { entry with priority := priority } :=
        ⟨rfl, rfl, fun foreign => absurd (isAbout_iff.1 about) foreign⟩
      have unchanged : List.Forall₂ (Stays device) rest rest :=
        List.forall₂_same.2 fun entry _ => stays_refl entry
      exact ⟨_, [], (List.append_nil _).symm, .cons changed unchanged, .inl rfl⟩
    · obtain ⟨kept, added, same, stays, last⟩ := ih
      refine ⟨entry :: kept, added, ?_, .cons (stays_refl entry) stays, last⟩
      rw [same, List.cons_append]

/-! ## Looking up what was set -/

/-- The priority that the first entry about a device has. -/
def lookup? (entries : List KnownDevice) (device : Address) : Option Priority :=
  (entries.find? fun entry => Address.parse? entry.address = some device).map (·.priority)

theorem lookup?_cons_of_about (about : Address.parse? entry.address = some device) :
    lookup? (entry :: entries) device = some entry.priority := by
  simp [lookup?, about]

theorem lookup?_cons_of_ne (foreign : Address.parse? entry.address ≠ some device) :
    lookup? (entry :: entries) device = lookup? entries device := by
  simp [lookup?, foreign]

/-- What is set for a device is what is found for it, and for no other device does it count. -/
theorem lookup?_assign :
    lookup? (assign device priority entries) other =
      if other = device then some priority else lookup? entries other := by
  induction entries with
  | nil =>
    rw [assign]
    split
    · next same => exact lookup?_cons_of_about (same ▸ parse?_fresh)
    · next apart =>
      exact lookup?_cons_of_ne fun about => apart (Option.some.inj (about.symm.trans parse?_fresh))
  | cons entry rest ih =>
    rw [assign]
    -- the entry that is changed is about `device` still, so it is in nobody else's way
    by_cases about : Address.parse? entry.address = some device
    · rw [if_pos (isAbout_iff.2 about)]
      split
      · next same => exact lookup?_cons_of_about (same ▸ about)
      · next apart =>
        have foreign : Address.parse? entry.address ≠ some other := fun read =>
          apart (Option.some.inj (read.symm.trans about))
        rw [lookup?_cons_of_ne foreign]
        exact lookup?_cons_of_ne foreign
    · rw [if_neg (mt isAbout_iff.1 about)]
      by_cases read : Address.parse? entry.address = some other
      · have apart : other ≠ device := fun same => about (same ▸ read)
        rw [lookup?_cons_of_about read, if_neg apart, lookup?_cons_of_about read]
      · rw [lookup?_cons_of_ne read, ih, lookup?_cons_of_ne read]

end KnownDevice

/-- The last priority that is set for a device. -/
def lastSet? (writes : List (Address × Priority)) (device : Address) : Option Priority :=
  (writes.filter (·.1 = device)).getLast?.map (·.2)

theorem lastSet?_append_singleton (writes : List (Address × Priority))
    (write : Address × Priority) (device : Address) :
    lastSet? (writes ++ [write]) device =
      if device = write.1 then some write.2 else lastSet? writes device := by
  rw [lastSet?, List.filter_append]
  split
  · next same => simp [same]
  · next apart => simp [Ne.symm apart, lastSet?]

namespace Config

variable {c : Config} {device : Address}

theorem priorityOf_eq :
    c.priorityOf device = (KnownDevice.lookup? c.knownDevices device).getD .undefined := by
  have search : KnownDevice.isAbout device =
      fun entry => decide (Address.parse? entry.address = some device) := by
    funext entry
    exact Bool.beq_eq_decide_eq _ _
  rw [priorityOf, knownDevice?, KnownDevice.lookup?, search]
  cases c.knownDevices.find? _ <;> rfl

/-- Seen through its lookup, the configuration is a map, and a priority that is set updates it. -/
theorem priorityOf_setPriority (c : Config) (device : Address) (priority : Priority) :
    (c.setPriority device priority).priorityOf = Function.update c.priorityOf device priority := by
  funext other
  rw [priorityOf_eq, setPriority, KnownDevice.lookup?_assign, Function.update_apply]
  split
  · rfl
  · exact priorityOf_eq.symm

theorem setPriorities_append_singleton (c : Config) (writes : List (Address × Priority))
    (write : Address × Priority) :
    c.setPriorities (writes ++ [write]) = (c.setPriorities writes).setPriority write.1 write.2 :=
  List.foldl_append

/-- What is to be recalled of a device after some priorities were set: the last one that was set for
it, or else the one that the first entry about it had, or else nothing. -/
def recalled (c : Config) (writes : List (Address × Priority)) (device : Address) : Priority :=
  ((lastSet? writes device).or (KnownDevice.lookup? c.knownDevices device)).getD .undefined

theorem priorityOf_setPriorities (c : Config) (writes : List (Address × Priority))
    (device : Address) : (c.setPriorities writes).priorityOf device = c.recalled writes device := by
  -- the last write is the one that counts, so the sequence is taken apart from its end
  induction writes using List.reverseRecOn with
  | nil => exact priorityOf_eq
  | append_singleton writes write ih =>
    rw [setPriorities_append_singleton, priorityOf_setPriority, recalled,
      lastSet?_append_singleton, Function.update_apply]
    split
    · rfl
    · exact ih

end Config

namespace Directory

theorem config_refresh (d : Directory) (listing : Option (List DeviceReading)) :
    (d.refresh listing).2.config = d.config := by
  rw [refresh]
  cases Sweep.listing.hear (SweepAnswer.script listing) <;> rfl

theorem config_act (d : Directory) (event : DirectoryEvent) :
    (d.act event).config = d.config.setPriorities event.write?.toList := by
  cases event with
  | setPriority device priority => exact d.config_setPriority device priority
  | refresh listing => exact d.config_refresh listing
  | disturb file => rfl

/-- What is in memory are the priorities that were set, whatever else happened and whatever became
of the saves. -/
theorem config_run (d : Directory) (events : List DirectoryEvent) :
    (d.run events).config = d.config.setPriorities (events.filterMap (·.write?)) := by
  induction events generalizing d with
  | nil => rfl
  | cons event rest ih =>
    have writes : (event :: rest).filterMap (·.write?) =
        event.write?.toList ++ rest.filterMap (·.write?) := by
      cases event <;> rfl
    rw [run, List.foldl_cons, ← run, ih, config_act, writes, Config.setPriorities,
      Config.setPriorities, Config.setPriorities, List.foldl_append]

end Directory

/-- Priorities are a map over whatever the entries are. After any priorities were set, what is found
of a device is the last one that was set for it, or else the one that the first entry about it had
at the start, or else nothing. Setting one changes that of no other device, and leaves every entry
at its place with its text and name; it adds at most one entry, whose text reads as the device. A
directory gives the same priorities, whatever happens to its bonds and its file in between and
whether or not it can save. -/
theorem priorities_form_map :
    (∀ (c : Config) (writes : List (Address × Priority)) (device : Address),
      (c.setPriorities writes).priorityOf device = c.recalled writes device) ∧
    (∀ (c : Config) (device : Address) (priority : Priority),
      (c.setPriority device priority).priorityOf = Function.update c.priorityOf device priority ∧
      ∃ kept added, (c.setPriority device priority).knownDevices = kept ++ added ∧
        List.Forall₂ (KnownDevice.Stays device) c.knownDevices kept ∧
        (added = [] ∨ ∃ entry, added = [entry] ∧ Address.parse? entry.address = some device)) ∧
    (∀ (d : Directory) (events : List DirectoryEvent),
      (d.run events).config = d.config.setPriorities (events.filterMap (·.write?)) ∧
      ∀ device, (d.run events).priority device =
        d.config.recalled (events.filterMap (·.write?)) device) := by
  refine ⟨Config.priorityOf_setPriorities, fun c device priority => ⟨?_, ?_⟩,
    fun d events => ⟨?_, ?_⟩⟩
  · exact c.priorityOf_setPriority device priority
  · exact KnownDevice.assign_keeps device priority c.knownDevices
  · exact d.config_run events
  · intro device
    rw [Directory.priority, d.config_run]
    exact Config.priorityOf_setPriorities d.config _ device

end AccessoryLink
