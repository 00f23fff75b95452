import AccessoryLink.Proofs.Directory.Sweep
import AccessoryLink.Proofs.Snapshot

/-!
# The bonds follow the adapter

Whatever changes about a device after a sweep has asked about it is announced, stays unread until
the sweep is over, and makes the next one. So once a watcher has read everything and its latest
refresh went well, the bonds are those of the adapter (`bonds_follow_adapter`), but for a paired
device of which that refresh could not read that it is paired: a refresh takes it for unpaired and
goes on.

This stands on the watcher following each device that is there. It follows those that the adapter
lists before the first sweep, and those that are announced later. A listing that fails is not made
up for, and then the change of a device that was there from the beginning is missed
(`unfollowed_change_missed`).
-/

namespace AccessoryLink

/-! ## Steps of the watcher -/

/-- Whether a watcher will come to follow a device without being told of it again. -/
def WatchPhase.Awaits (device : Address) : WatchPhase → Prop
  | .opening | .listing => True
  | .following devices => device ∈ devices
  | .joining other => device = other
  | _ => False

/-- Whether a watcher has not yet come to its first refresh. -/
def WatchPhase.isStarting : WatchPhase → Bool
  | .opening | .listing | .following _ => true
  | _ => false

namespace Watcher

variable {w : Watcher} {device : Address}

@[simp] theorem stream_followAll (w : Watcher) (now : Nat) (devices : List Address) :
    (w.followAll now devices).stream = w.stream := by
  cases devices <;> rfl

@[simp] theorem followed_followAll (w : Watcher) (now : Nat) (devices : List Address) :
    (w.followAll now devices).followed = w.followed := by
  cases devices <;> rfl

theorem awaits_followAll {now : Nat} {devices : List Address} (awaited : device ∈ devices) :
    (w.followAll now devices).phase.Awaits device := by
  cases devices with
  | nil => cases awaited
  | cons => exact awaited

/-- How the refresh went that a step concludes, if it concludes one. -/
def concludes (w : Watcher) (d : Directory) (s : WatchStep) : Option Outcome :=
  match w.phase, s with
  | .sweeping sweep, .answer answer => ((sweep.step answer).conclude d).map (·.1)
  | _, _ => none

/-- The devices of which the sweep could not read whether they are paired, after a step. -/
def misses (w : Watcher) (s : WatchStep) (missed : List Address) : List Address :=
  match w.phase, s with
  | .sweeping sweep, .answer answer => sweep.misses answer missed
  | _, _ => missed

/-- What a step of a watcher does: the watcher and the directory after it, and how the refresh went
that it concludes. -/
inductive Goes (w : Watcher) (d : Directory) :
    WatchStep → Watcher → Directory → Option Outcome → Prop
  | opened (opening : w.phase = .opening) :
    Goes w d .subscribed { w with stream := some [], phase := .listing } d none
  | listed {devices now} (listing : w.phase = .listing) :
    Goes w d (.listed devices now) (w.followAll now (devices.getD [])) d none
  | followed {device rest now} (following : w.phase = .following (device :: rest)) :
    Goes w d (.followed now) ((w.follow device).followAll now rest) d none
  | joined {device now} (joining : w.phase = .joining device) :
    Goes w d (.followed now) (w.follow device).sweep d none
  | read {event rest} (waiting : w.phase = .waiting) (unread : w.stream = some (event :: rest)) :
    Goes w d .event (w.read event rest) d none
  | changed {index device property} (waiting : w.phase = .waiting)
    (unread : w.changes[index]? = some (device, property)) (counts : property ≠ .other) :
    Goes w d (.change index) { w with changes := w.changes.eraseIdx index }.sweep d none
  | ignored {index device} (waiting : w.phase = .waiting)
    (unread : w.changes[index]? = some (device, .other)) :
    Goes w d (.change index) { w with changes := w.changes.eraseIdx index } d none
  | ticked {now} (waiting : w.phase = .waiting) :
    Goes w d (.tick now) { w with nextTick := w.tickAfter now }.sweep d none
  | answered {sweep answer} (sweeping : w.phase = .sweeping sweep)
    (going : (sweep.step answer).conclude d = none) :
    Goes w d (.answer answer) { w with phase := .sweeping (sweep.step answer) } d none
  | concluded {sweep answer outcome after} (sweeping : w.phase = .sweeping sweep)
    (ended : (sweep.step answer).conclude d = some (outcome, after)) :
    Goes w d (.answer answer) { w with phase := .waiting } after (some outcome)
  | idled {s} (idle : ∀ sweep answer, w.phase = .sweeping sweep → s ≠ .answer answer) :
    Goes w d s w d none

theorem goes_step (w : Watcher) (d : Directory) (s : WatchStep) :
    w.Goes d s (w.step d s).1 (w.step d s).2 (w.concludes d s) := by
  fun_cases Watcher.step w d s with
  | case1 opening => simpa only [concludes, opening] using .opened opening
  | case2 devices now listing => simpa only [concludes, listing] using .listed listing
  | case3 device rest now following => simpa only [concludes, following] using .followed following
  | case4 device now joining => simpa only [concludes, joining] using .joined joining
  | case5 waiting event rest unread => simpa only [concludes, waiting] using .read waiting unread
  | case6 waiting => simpa only [concludes, waiting] using .idled (by simp [waiting])
  | case7 index waiting device property unread =>
    simp only [concludes, waiting]
    split
    · next same => exact .ignored waiting (same ▸ unread)
    · next counts => exact .changed waiting unread counts
  | case8 index waiting => simpa only [concludes, waiting] using .idled (by simp [waiting])
  | case9 now waiting due => simpa only [concludes, waiting] using .ticked waiting
  | case10 now waiting => simpa only [concludes, waiting] using .idled (by simp [waiting])
  | case11 sweep answer sweeping _ outcome directory ended =>
    have concluded : w.concludes d (.answer answer) = some outcome := by
      simp only [concludes, sweeping]
      exact congrArg (·.map (·.1)) ended
    exact concluded ▸ .concluded sweeping ended
  | case12 sweep answer sweeping _ going =>
    have unconcluded : w.concludes d (.answer answer) = none := by
      simp only [concludes, sweeping]
      exact congrArg (·.map (·.1)) going
    exact unconcluded ▸ .answered sweeping going
  | case13 s _ _ _ _ _ _ _ other =>
    have unconcluded : w.concludes d s = none := by
      fun_cases concludes w d s with
      | case1 sweep answer sweeping => exact (other sweep answer sweeping rfl).elim
      | case2 => rfl
    exact unconcluded ▸ .idled fun sweep answer sweeping => other sweep answer sweeping

/-! ### What is left to be heard -/

/-- Whether an unread entry tells of a device, so that there will be another refresh. -/
def Stirs (w : Watcher) (device : Address) : Prop :=
  .added device ∈ w.stream.getD [] ∨ .removed device ∈ w.stream.getD [] ∨
    ∃ property, property ≠ .other ∧ (device, property) ∈ w.changes

@[simp] theorem phase_hear (w : Watcher) (said : Announcement) : (w.hear said).phase = w.phase := by
  cases said <;> rfl

theorem stream_hear (w : Watcher) (said : Announcement) :
    ∃ later, (w.hear said).stream = w.stream.map (· ++ later) ∧
      (said ≠ .adapterRemoved → .ended ∉ later) := by
  cases said with
  | changed => exact ⟨[], by simp [hear], by simp⟩
  | _ => exact ⟨_, rfl, by simp⟩

theorem changes_hear (w : Watcher) (said : Announcement) :
    ∃ later, (w.hear said).changes = w.changes ++ later := by
  cases said with
  | changed => exact ⟨_, rfl⟩
  | _ => exact ⟨[], (List.append_nil _).symm⟩

theorem mem_followed_of_hear {said : Announcement} (followed : device ∈ (w.hear said).followed) :
    device ∈ w.followed := by
  cases said with
  | removed => exact (List.mem_filter.1 followed).1
  | _ => exact followed

theorem mem_followed_hear {said : Announcement} (followed : device ∈ w.followed)
    (stays : said ≠ .removed device) : device ∈ (w.hear said).followed := by
  cases said with
  | removed other =>
    have same : device ≠ other := fun same => stays (same ▸ rfl)
    simpa [hear, same] using followed
  | _ => exact followed

theorem Stirs.hear (stirs : w.Stirs device) (said : Announcement) : (w.hear said).Stirs device := by
  obtain ⟨events, stream, -⟩ := w.stream_hear said
  obtain ⟨notes, changes⟩ := w.changes_hear said
  have kept : ∀ event ∈ w.stream.getD [], event ∈ (w.hear said).stream.getD [] := by
    cases opened : w.stream <;> simp +contextual [stream, opened]
  obtain added | removed | ⟨property, counts, unread⟩ := stirs
  · exact .inl (kept _ added)
  · exact .inr (.inl (kept _ removed))
  · exact .inr (.inr ⟨property, counts, changes ▸ List.mem_append_left _ unread⟩)

theorem stirs_added (w : Watcher) (device : Address) (opened : w.stream.isSome) :
    (w.hear (.added device)).Stirs device := by
  obtain ⟨unread, stream⟩ := Option.isSome_iff_exists.1 opened
  exact .inl (by simp [hear, push, stream])

theorem stirs_removed (w : Watcher) (device : Address) (opened : w.stream.isSome) :
    (w.hear (.removed device)).Stirs device := by
  obtain ⟨unread, stream⟩ := Option.isSome_iff_exists.1 opened
  exact .inr (.inl (by simp [hear, push, stream]))

theorem stirs_changed {property : DeviceProperty} (counts : property ≠ .other)
    (followed : device ∈ w.followed) : (w.hear (.changed device property)).Stirs device :=
  .inr (.inr ⟨property, counts, by
    simp [hear, List.mem_replicate, List.count_eq_zero, followed]⟩)

end Watcher

/-! ## Keeping watch -/

/-- A watcher at an adapter, and the directory whose bonds it keeps. -/
structure Vigil where
  adapter : Adapter
  watcher : Watcher
  directory : Directory
  /-- How the latest refresh went that is over. -/
  last : Option Outcome
  /-- The devices of which the refresh that is going on, or else the latest one, could not read
  whether they are paired. -/
  missed : List Address

namespace Vigil

/-- What happens while a watcher keeps watch. -/
inductive Action where
  | change (change : AdapterChange)
  | watch (step : WatchStep)
  deriving DecidableEq

/-- A watcher that is about to begin. -/
def start (interval : Nat) (directory : Directory) (adapter : Adapter) : Vigil :=
  ⟨adapter, .initial interval, directory, none, []⟩

/-- What is the case after something has happened. A step that the adapter does not let the watcher
take is not taken. -/
def act (v : Vigil) : Action → Vigil
  | .change c =>
    { v with
      adapter := v.adapter.change c
      watcher := (v.adapter.announces c).elim v.watcher v.watcher.hear }
  | .watch s =>
    if v.adapter.permits v.watcher.phase s then
      { v with
        watcher := (v.watcher.step v.directory s).1
        directory := (v.watcher.step v.directory s).2
        last := (v.watcher.concludes v.directory s).or v.last
        missed := v.watcher.misses s v.missed }
    else v

/-- What is the case after some things have happened in a row. -/
def run (v : Vigil) (actions : List Action) : Vigil := actions.foldl act v

/-- Whether the watcher has read everything there is to read, and its latest refresh went well. -/
structure AtRest (v : Vigil) : Prop where
  waiting : v.watcher.phase = .waiting
  stream : v.watcher.stream = some []
  changes : v.watcher.changes = []
  last : v.last = some .done

instance (v : Vigil) : Decidable v.AtRest :=
  decidable_of_iff (v.watcher.phase = .waiting ∧ v.watcher.stream = some [] ∧
      v.watcher.changes = [] ∧ v.last = some .done)
    ⟨fun ⟨waiting, stream, changes, last⟩ => ⟨waiting, stream, changes, last⟩,
      fun rest => ⟨rest.waiting, rest.stream, rest.changes, rest.last⟩⟩

/-- Whether the bonds have a device as the adapter has it. -/
structure Agrees (v : Vigil) (device : Address) : Prop where
  bonded : v.directory.isBonded device = v.adapter.isBonded device
  accessory : device ∈ v.directory.accessories ↔ v.adapter.isAccessory device

variable {v : Vigil} {device : Address}

/-- Whether nothing is left to be heard of a device, and any change of it would be heard. -/
structure Settled (v : Vigil) (device : Address) : Prop where
  unstirred : ¬ v.watcher.Stirs device
  followed : device ∈ v.adapter.present → device ∈ v.watcher.followed

/-- What a device of which nothing is left to be heard is known as, to the sweep that is going on or
to the directory. -/
def Stands (v : Vigil) (device : Address) : Prop :=
  match v.watcher.phase with
  | .sweeping sweep => sweep.Faithful v.adapter device v.missed
  | .waiting => v.last = some .done → v.directory.bonds.Reflect v.adapter device v.missed v.missed
  | _ => True

/-- Whether the stream of events is open, with no end in sight. -/
def Listens (v : Vigil) : Prop := ∃ unread, v.watcher.stream = some unread ∧ .ended ∉ unread

/-- What a watcher keeps to. -/
structure Sound (v : Vigil) : Prop where
  listening : v.watcher.phase ≠ .opening → v.Listens
  starting : v.watcher.phase.isStarting → v.last = none
  stands : ∀ device, v.Settled device → v.Stands device

theorem sound_start (interval : Nat) (directory : Directory) (adapter : Adapter) :
    (start interval directory adapter).Sound where
  listening closed := absurd rfl closed
  starting _ := rfl
  stands _ _ := trivial

theorem watcher_change {c : AdapterChange} {said : Announcement}
    (announced : v.adapter.announces c = some said) :
    (v.act (.change c)).watcher = v.watcher.hear said := by
  simp [act, announced]

theorem phase_change (v : Vigil) (c : AdapterChange) :
    (v.act (.change c)).watcher.phase = v.watcher.phase := by
  cases announced : v.adapter.announces c <;> simp [act, announced]

/-- A device of which nothing is left to be heard after a change was such a device before, and the
change left it alone. -/
theorem Settled.of_change {c : AdapterChange} (settled : (v.act (.change c)).Settled device)
    (opened : v.watcher.stream.isSome) :
    v.Settled device ∧ v.adapter.Alike (v.adapter.change c) device := by
  have followed (there : device ∈ (v.adapter.change c).present) : device ∈ v.watcher.followed := by
    have heard := settled.followed there
    cases announced : v.adapter.announces c with
    | none => simpa [act, announced] using heard
    | some said => exact Watcher.mem_followed_of_hear (watcher_change announced ▸ heard)
  -- had the change been one of this device, an event of it would be unread now
  have alike : v.adapter.Alike (v.adapter.change c) device := by
    obtain alike | added | removed | ⟨there, property, counts, changed⟩ :=
      v.adapter.change_cases c device
    · exact alike
    · exact absurd (watcher_change added ▸ v.watcher.stirs_added device opened) settled.unstirred
    · exact absurd (watcher_change removed ▸ v.watcher.stirs_removed device opened)
        settled.unstirred
    · exact absurd (watcher_change changed ▸ Watcher.stirs_changed counts (followed there))
        settled.unstirred
  refine ⟨⟨fun stirs => settled.unstirred ?_, followed ∘ alike.present.2⟩, alike⟩
  cases announced : v.adapter.announces c with
  | none => simpa [act, announced] using stirs
  | some said => exact watcher_change announced ▸ stirs.hear said

/-- A change of the adapter keeps what a watcher keeps to. -/
theorem Sound.change (sound : v.Sound) (c : AdapterChange) : (v.act (.change c)).Sound where
  listening opened := by
    rw [phase_change] at opened
    obtain ⟨unread, stream, lasting⟩ := sound.listening opened
    cases announced : v.adapter.announces c with
    | none => exact ⟨unread, by simp [act, announced, stream], lasting⟩
    | some said =>
      obtain ⟨later, heard, lasts⟩ := v.watcher.stream_hear said
      refine ⟨unread ++ later, by simp [watcher_change announced, heard, stream], ?_⟩
      have there : said ≠ .adapterRemoved := fun gone =>
        v.adapter.announces_ne c (gone ▸ announced)
      simpa [lasting] using lasts there
  starting unfinished := sound.starting (phase_change v c ▸ unfinished)
  stands device settled := by
    by_cases closed : v.watcher.phase = .opening
    · simp [Stands, phase_change, closed]
    obtain ⟨unread, stream, -⟩ := sound.listening closed
    obtain ⟨before, alike⟩ := settled.of_change (by simp [stream])
    have stands := sound.stands device before
    unfold Stands at stands ⊢
    rw [phase_change]
    split
    · next sweep sweeping =>
      simp only [sweeping] at stands
      exact stands.of_alike alike
    · next waiting =>
      simp only [waiting] at stands
      exact fun done => (stands done).of_alike alike
    · trivial

theorem sound_sweep (listens : v.Listens) : Sound { v with watcher := v.watcher.sweep } where
  listening _ := listens
  starting := by simp [Watcher.sweep, WatchPhase.isStarting]
  stands _ _ := trivial

theorem sound_followAll (listens : v.Listens) (unfinished : v.last = none) (now : Nat)
    (devices : List Address) :
    Sound { v with watcher := v.watcher.followAll now devices } := by
  cases devices with
  | nil =>
    refine ⟨fun _ => listens, fun _ => unfinished, fun _ _ done => ?_⟩
    simp [unfinished] at done
  | cons => exact ⟨fun _ => listens, fun _ => unfinished, fun _ _ => trivial⟩

/-- Reading an event keeps it: where no refresh follows, the event was about no device. -/
theorem Sound.read {event : AdapterEvent} {rest : List AdapterEvent} (sound : v.Sound)
    (waiting : v.watcher.phase = .waiting) (unread : v.watcher.stream = some (event :: rest)) :
    Sound { v with watcher := v.watcher.read event rest } := by
  obtain ⟨_, stream, lasting⟩ := sound.listening (by simp [waiting])
  obtain rfl : _ = event :: rest := Option.some.inj (stream.symm.trans unread)
  simp only [List.mem_cons, not_or] at lasting
  have listens : Listens { v with watcher := { v.watcher with stream := some rest } } :=
    ⟨rest, rfl, lasting.2⟩
  cases event with
  | added other =>
    exact ⟨fun _ => listens, by simp [Watcher.read, WatchPhase.isStarting], fun _ _ => trivial⟩
  | removed other => exact sound_sweep listens
  | other =>
    refine ⟨fun _ => listens, by simp [Watcher.read, waiting, WatchPhase.isStarting], ?_⟩
    intro device settled
    have before : v.Settled device :=
      ⟨fun stirs => settled.unstirred (by simpa [Watcher.Stirs, Watcher.read, unread] using stirs),
        settled.followed⟩
    simpa [Stands, waiting, Watcher.read] using sound.stands device before
  | ended => exact absurd rfl lasting.1

/-- Reading a change that does not count keeps it: every other change is still unread. -/
theorem Sound.ignore {index : Nat} {other : Address} (sound : v.Sound)
    (waiting : v.watcher.phase = .waiting)
    (unread : v.watcher.changes[index]? = some (other, .other)) :
    Sound { v with watcher := { v.watcher with changes := v.watcher.changes.eraseIdx index } } := by
  refine ⟨fun _ => sound.listening (by simp [waiting]),
    by simp [waiting, WatchPhase.isStarting], ?_⟩
  intro device settled
  have before : v.Settled device := by
    refine ⟨fun stirs => settled.unstirred (stirs.imp_right (.imp_right ?_)), settled.followed⟩
    rintro ⟨property, counts, note⟩
    obtain ⟨place, noted⟩ := List.mem_iff_getElem?.1 note
    have elsewhere : place ≠ index := fun same => by
      rw [← same, noted] at unread
      cases unread
      exact counts rfl
    exact ⟨property, counts, List.mem_eraseIdx_iff_getElem?.2 ⟨place, elsewhere, noted⟩⟩
  simpa [Stands, waiting] using sound.stands device before

/-- A step of the watcher that is no answer to a sweep keeps it. -/
theorem Sound.move {s : WatchStep} {w : Watcher} {d : Directory} {concluded : Option Outcome}
    (sound : v.Sound)
    (idle : ∀ sweep answer, v.watcher.phase = .sweeping sweep → s ≠ .answer answer)
    (goes : v.watcher.Goes v.directory s w d concluded) :
    Sound { v with watcher := w, directory := d, last := concluded.or v.last } := by
  have listens := sound.listening
  cases goes with
  | opened opening =>
    have unfinished := sound.starting (by simp [opening, WatchPhase.isStarting])
    exact ⟨fun _ => ⟨[], rfl, by simp⟩, fun _ => unfinished, fun _ _ => trivial⟩
  | @listed devices now listing =>
    have unfinished := sound.starting (by simp [listing, WatchPhase.isStarting])
    exact sound_followAll (listens (by simp [listing])) unfinished _ _
  | @followed device rest now following =>
    have unfinished := sound.starting (by simp [following, WatchPhase.isStarting])
    exact sound_followAll (v := { v with watcher := v.watcher.follow device })
      (listens (by simp [following])) unfinished _ _
  | @joined device now joining =>
    exact sound_sweep (v := { v with watcher := v.watcher.follow device })
      (listens (by simp [joining]))
  | read waiting unread => exact sound.read waiting unread
  | @changed index device property waiting unread counts =>
    exact sound_sweep
      (v := { v with watcher := { v.watcher with changes := v.watcher.changes.eraseIdx index } })
      (listens (by simp [waiting]))
  | ignored waiting unread => exact sound.ignore waiting unread
  | @ticked now waiting =>
    exact sound_sweep
      (v := { v with watcher := { v.watcher with nextTick := v.watcher.tickAfter now } })
      (listens (by simp [waiting]))
  | answered sweeping | concluded sweeping => exact absurd rfl (idle _ _ sweeping)
  | idled => exact sound

/-- An answer that the adapter may give to a sweep keeps it. -/
theorem Sound.answer {sweep : Sweep} {answer : SweepAnswer} {w : Watcher} {d : Directory}
    {concluded : Option Outcome} (sound : v.Sound) (sweeping : v.watcher.phase = .sweeping sweep)
    (replied : v.adapter.replies sweep answer)
    (goes : v.watcher.Goes v.directory (.answer answer) w d concluded) :
    Sound { v with
      watcher := w, directory := d, last := concluded.or v.last
      missed := sweep.misses answer v.missed } := by
  have listens := sound.listening (by simp [sweeping])
  have faithful {device : Address} (settled : v.Settled device) :
      (sweep.step answer).Faithful v.adapter device (sweep.misses answer v.missed) := by
    have stands := sound.stands device settled
    simp only [Stands, sweeping] at stands
    exact stands.step replied
  cases goes with
  | answered asked going =>
    obtain rfl := WatchPhase.sweeping.inj (sweeping.symm.trans asked)
    refine ⟨fun _ => listens, by simp [WatchPhase.isStarting], ?_⟩
    intro device settled
    exact faithful ⟨settled.unstirred, settled.followed⟩
  | concluded asked ended =>
    obtain rfl := WatchPhase.sweeping.inj (sweeping.symm.trans asked)
    refine ⟨fun _ => listens, by simp [WatchPhase.isStarting], ?_⟩
    intro device settled done
    obtain rfl := Option.some.inj done
    exact (faithful ⟨settled.unstirred, settled.followed⟩).conclude ended
  | idled idle => exact absurd rfl (idle sweep answer sweeping)

/-- Whether each device that is there is followed, or about to be. -/
def Attended (v : Vigil) : Prop :=
  ∀ device ∈ v.adapter.present, device ∈ v.watcher.followed ∨
    .added device ∈ v.watcher.stream.getD [] ∨ v.watcher.phase.Awaits device

theorem Attended.change (attended : v.Attended) (sound : v.Sound) (c : AdapterChange) :
    (v.act (.change c)).Attended := by
  intro device there
  rw [phase_change]
  by_cases closed : v.watcher.phase = .opening
  · exact .inr (.inr (by simp [closed, WatchPhase.Awaits]))
  obtain ⟨unread, stream, -⟩ := sound.listening closed
  obtain added | ⟨before, stays⟩ := Adapter.present_change there
  · exact .inr (.inl (by simp [watcher_change added, Watcher.hear, Watcher.push, stream]))
  cases announced : v.adapter.announces c with
  | none => simpa [act, announced] using attended device before
  | some said =>
    rw [watcher_change announced]
    obtain ⟨later, heard, -⟩ := v.watcher.stream_hear said
    obtain followed | added | awaited := attended device before
    · exact .inl (Watcher.mem_followed_hear followed fun gone => stays (gone ▸ announced))
    · exact .inr (.inl (by simp_all))
    · exact .inr (.inr awaited)

theorem Attended.goes {s : WatchStep} {w : Watcher} {d : Directory} {concluded : Option Outcome}
    (attended : v.Attended) (sound : v.Sound) (permitted : v.adapter.permits v.watcher.phase s)
    (listed : ∀ now, s ≠ .listed none now) (goes : v.watcher.Goes v.directory s w d concluded) :
    Attended { v with
      watcher := w, directory := d, last := concluded.or v.last
      missed := v.watcher.misses s v.missed } := by
  intro device there
  have before := attended device there
  cases goes with
  | opened opening => exact .inr (.inr trivial)
  | @listed devices now listing =>
    cases devices with
    | none => exact absurd rfl (listed now)
    | some list =>
      simp only [Adapter.permits, listing, Option.all_some] at permitted
      exact .inr (.inr (Watcher.awaits_followAll ((Adapter.mem_of_lists permitted).2 there)))
  | @followed other rest now following =>
    simp only [following, WatchPhase.Awaits, List.mem_cons] at before
    obtain followed | added | rfl | awaited := before
    · exact .inl (by simp [Watcher.follow, followed])
    · exact .inr (.inl (by simpa [Watcher.follow] using added))
    · exact .inl (by simp [Watcher.follow])
    · exact .inr (.inr (Watcher.awaits_followAll awaited))
  | @joined other now joining =>
    simp only [joining, WatchPhase.Awaits] at before
    obtain followed | added | rfl := before
    · exact .inl (by simp [Watcher.follow, Watcher.sweep, followed])
    · exact .inr (.inl added)
    · exact .inl (by simp [Watcher.follow, Watcher.sweep])
  | @read event rest waiting unread =>
    obtain ⟨_, stream, lasting⟩ := sound.listening (by simp [waiting])
    obtain rfl : _ = event :: rest := Option.some.inj (stream.symm.trans unread)
    simp only [waiting, WatchPhase.Awaits, or_false, unread, Option.getD_some,
      List.mem_cons] at before
    obtain followed | rfl | added := before
    · exact .inl (by cases event <;> exact followed)
    · exact .inr (.inr rfl)
    · cases event with
      | ended => simp at lasting
      | _ => exact .inr (.inl added)
  | ignored waiting | changed waiting | ticked waiting =>
    simpa [waiting, WatchPhase.Awaits, Watcher.sweep] using before
  | answered sweeping | concluded sweeping =>
    simpa [sweeping, WatchPhase.Awaits] using before
  | idled => exact before

/-! ### Runs -/

theorem Sound.act (sound : v.Sound) (action : Action) : (v.act action).Sound := by
  cases action with
  | change c => exact sound.change c
  | watch s =>
    have goes := v.watcher.goes_step v.directory s
    by_cases permitted : v.adapter.permits v.watcher.phase s
    · simp only [Vigil.act, if_pos permitted]
      fun_cases Watcher.misses v.watcher s v.missed with
      | case1 sweep answer sweeping =>
        simp only [Adapter.permits, sweeping] at permitted
        exact sound.answer sweeping permitted goes
      | case2 _ idle => exact sound.move idle goes
    · simpa only [Vigil.act, if_neg permitted] using sound

theorem Attended.act {action : Action} (attended : v.Attended) (sound : v.Sound)
    (listed : ∀ now, action ≠ .watch (.listed none now)) : (v.act action).Attended := by
  cases action with
  | change c => exact attended.change sound c
  | watch s =>
    by_cases permitted : v.adapter.permits v.watcher.phase s
    · simpa only [Vigil.act, if_pos permitted] using
        attended.goes sound permitted (fun now same => listed now (same ▸ rfl))
          (v.watcher.goes_step v.directory s)
    · simpa only [Vigil.act, if_neg permitted] using attended

theorem Sound.run (sound : v.Sound) (actions : List Action) : (v.run actions).Sound := by
  induction actions generalizing v with
  | nil => exact sound
  | cons action rest ih => exact ih (sound.act action)

theorem Attended.run {actions : List Action} (attended : v.Attended) (sound : v.Sound)
    (listed : ∀ now, .watch (.listed none now) ∉ actions) : (v.run actions).Attended := by
  induction actions generalizing v with
  | nil => exact attended
  | cons action rest ih =>
    have here (now : Nat) : action ≠ .watch (.listed none now) := fun same =>
      listed now (same ▸ List.mem_cons_self)
    exact ih (attended.act sound here) (sound.act action) fun now later =>
      listed now (List.mem_cons_of_mem _ later)

theorem AtRest.unstirred (rest : v.AtRest) (device : Address) : ¬ v.watcher.Stirs device := by
  simp [Watcher.Stirs, rest.stream, rest.changes]

/-- At rest, the bonds have a settled device as the adapter has it, unless it is paired and was
missed. -/
theorem Sound.agrees_iff (sound : v.Sound) (rest : v.AtRest)
    (followed : device ∈ v.adapter.present → device ∈ v.watcher.followed) :
    v.Agrees device ↔ (device ∈ v.missed → ¬ v.adapter.isBonded device) := by
  have stands := sound.stands device ⟨rest.unstirred device, followed⟩
  simp only [Stands, rest.waiting] at stands
  have reflect := stands rest.last
  have bonded : v.directory.isBonded device ↔ v.adapter.isBonded device ∧ device ∉ v.missed := by
    simpa [Directory.isBonded] using reflect.paired
  constructor
  · intro agrees missed unread
    exact (bonded.1 (agrees.bonded.trans unread)).2 missed
  · intro harmless
    have found (paired : v.adapter.isBonded device) : device ∉ v.missed := fun missed =>
      harmless missed paired
    exact ⟨Bool.eq_iff_iff.2 (bonded.trans (and_iff_left_of_imp found)),
      reflect.accessories.trans
        (and_iff_left_of_imp fun offers => found (Adapter.isBonded_of_isAccessory offers))⟩

theorem Attended.followed (attended : v.Attended) (rest : v.AtRest)
    (there : device ∈ v.adapter.present) : device ∈ v.watcher.followed := by
  simpa [rest.stream, rest.waiting, WatchPhase.Awaits] using attended device there

/-- Where it can always be read whether a device is paired, none is missed. -/
theorem missed_run {actions : List Action} (unmissed : v.missed = [])
    (readable : .watch (.answer (.paired none)) ∉ actions) : (v.run actions).missed = [] := by
  induction actions generalizing v with
  | nil => exact unmissed
  | cons action rest ih =>
    refine ih ?_ fun later => readable (List.mem_cons_of_mem _ later)
    cases action with
    | change c => exact unmissed
    | watch s =>
      have read : s ≠ .answer (.paired none) := fun same =>
        readable (same ▸ List.mem_cons_self)
      have step : v.watcher.misses s v.missed = [] := by
        rw [unmissed]
        fun_cases Watcher.misses v.watcher s [] with
        | case1 sweep answer =>
          fun_cases Sweep.misses sweep answer [] with
          | case1 => rfl
          | case2 => exact absurd rfl read
          | case3 => rfl
        | case2 => rfl
      by_cases permitted : v.adapter.permits v.watcher.phase s
      · simpa only [act, if_pos permitted] using step
      · simpa only [act, if_neg permitted] using unmissed

/-- However devices come, go and change while a watcher keeps watch: at rest the bonds have each
device that is away or followed as the adapter has it, unless it is paired and the latest refresh
could not read that it is. They are those of the adapter if the devices could be listed at the
beginning, and the latest refresh could read of each whether it is paired. -/
theorem bonds_follow_adapter (interval : Nat) (directory : Directory) (adapter : Adapter)
    (actions : List Action) :
    let v := (start interval directory adapter).run actions
    v.AtRest →
      (∀ device, (device ∈ v.adapter.present → device ∈ v.watcher.followed) →
        (v.Agrees device ↔ (device ∈ v.missed → ¬ v.adapter.isBonded device))) ∧
        ((∀ now, .watch (.listed none now) ∉ actions) → v.missed = [] →
          ∀ device, v.Agrees device) := by
  intro v rest
  have start_sound := sound_start interval directory adapter
  have sound : v.Sound := start_sound.run actions
  refine ⟨fun device followed => sound.agrees_iff rest followed, fun listed found device => ?_⟩
  have unopened : (start interval directory adapter).Attended := fun _ _ => .inr (.inr trivial)
  have attended : v.Attended := unopened.run start_sound listed
  exact (sound.agrees_iff rest (attended.followed rest)).2 (by simp [found])

/-- A device that loses its pairing after the sweep has asked for it. The sweep ends with the old
answer, and the change is still unread, so that there is another. -/
def unpairing : List Action :=
  [.watch .subscribed, .watch (.listed (some [.numbered 1]) 0), .watch (.followed 0),
    .watch (.tick 0), .watch (.answer (.devices (some [.numbered 1]))),
    .watch (.answer (.paired (some true))), .change (.pair (.numbered 1) false),
    .watch (.answer (.services (.known true))), .watch (.change 0),
    .watch (.answer (.devices (some [.numbered 1]))), .watch (.answer (.paired (some false)))]

/-- The beginning with one device. -/
def beginning (paired : Bool) : Vigil :=
  start 30000 (.ofConfig .default .missing) (Adapter.empty.change (.add (.numbered 1) paired true))

theorem unpairing_noticed :
    ((beginning true).run unpairing).AtRest ∧
      ((beginning true).run unpairing).Agrees (.numbered 1) := by
  have rest : ((beginning true).run unpairing).AtRest := by decide +kernel
  have listed (now : Nat) : .watch (.listed none now) ∉ unpairing := by simp [unpairing]
  have found : ((beginning true).run unpairing).missed = [] :=
    missed_run rfl (by simp [unpairing])
  exact ⟨rest, (bonds_follow_adapter 30000 _ _ unpairing rest).2 listed found (.numbered 1)⟩

/-- The devices cannot be listed when the watcher begins, and can be afterwards. -/
def unlisted : List Action :=
  [.watch .subscribed, .watch (.listed none 0), .watch (.tick 0),
    .watch (.answer (.devices (some [.numbered 1]))), .watch (.answer (.paired (some false))),
    .change (.pair (.numbered 1) true)]

theorem unfollowed_change_missed :
    ¬ ∀ (interval : Nat) (directory : Directory) (adapter : Adapter) (actions : List Action),
      let v := (start interval directory adapter).run actions
      v.AtRest → v.missed = [] → ∀ device, v.Agrees device := by
  intro agree
  have rest : ((beginning false).run unlisted).AtRest := by decide +kernel
  have found : ((beginning false).run unlisted).missed = [] := missed_run rfl (by simp [unlisted])
  have agrees := agree 30000 _ _ unlisted rest found (.numbered 1)
  have missed : ((beginning false).run unlisted).directory.isBonded (.numbered 1) = false := by
    decide +kernel
  have paired : ((beginning false).run unlisted).adapter.isBonded (.numbered 1) = true := by
    decide +kernel
  exact absurd (missed.symm.trans (agrees.bonded.trans paired)) (by decide)

end Vigil

end AccessoryLink
