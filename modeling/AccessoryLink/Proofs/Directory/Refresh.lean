import AccessoryLink.Directory.History
import AccessoryLink.Directory.Watch

/-!
# Refreshing is all or nothing

A refresh asks the adapter for its devices and then for two properties of each in turn. That a
device is paired may be unreadable, which passes for unpaired; that the services of a paired device
are unreadable ends the refresh, at whatever device that is. What was gathered before is dropped
then, so the bonds are either those of all readings or the old ones (`refresh_cases`).
`hear_readings` carries this: a sweep that goes on from any device with anything found ends with all
that is found from there on, or fails.

The same is true of the two places where sweeps run: a watcher, which takes the answers one at a
time and has its directory as it was until the last of them (`directory_hearAll`), and a sweep that
is asked for and answered at once (`conclude_sweep`).
-/

namespace AccessoryLink

/-! ## Readings -/

theorem ServiceList.ofUuids_eq_known_true {uuids : Option (Option (List Uuid))} :
    ofUuids uuids = .known true ↔ ∃ ids, uuids = some (some ids) ∧ Uuid.accessory ∈ ids := by
  rcases uuids with _ | _ | ids <;> simp [ofUuids]

namespace DeviceReading

/-- Whether a device was read as paired. -/
def IsPaired (reading : DeviceReading) : Prop := reading.paired = some true

/-- Whether the services of a paired device could not be read. -/
def IsBroken (reading : DeviceReading) : Prop := reading.IsPaired ∧ reading.uuids = none

/-- Whether a device was read as paired and as one that offers the accessory service. -/
def IsAccessory (reading : DeviceReading) : Prop :=
  reading.IsPaired ∧ ∃ ids, reading.uuids = some (some ids) ∧ Uuid.accessory ∈ ids

end DeviceReading

namespace Bonds

/-- Bonds with what was read of one more device. -/
def note (found : Bonds) (reading : DeviceReading) : Bonds :=
  if reading.paired = some true then
    { paired := Address.adjoin found.paired reading.device
      accessories :=
        if ServiceList.ofUuids reading.uuids = .known true then
          Address.adjoin found.accessories reading.device
        else found.accessories }
  else found

/-- Bonds that hold what was found before and what some readings tell, with each device once. -/
structure Gathered (found : Bonds) (readings : List DeviceReading) (bonds : Bonds) : Prop where
  paired : ∀ device, device ∈ bonds.paired ↔
    device ∈ found.paired ∨ ∃ reading ∈ readings, reading.device = device ∧ reading.IsPaired
  accessories : ∀ device, device ∈ bonds.accessories ↔
    device ∈ found.accessories ∨ ∃ reading ∈ readings, reading.device = device ∧ reading.IsAccessory
  distinct : found.paired.Nodup ∧ found.accessories.Nodup →
    bonds.paired.Nodup ∧ bonds.accessories.Nodup

variable {found bonds : Bonds} {reading : DeviceReading} {readings : List DeviceReading}

theorem note_of_unpaired (unpaired : ¬ reading.IsPaired) : found.note reading = found :=
  if_neg unpaired

theorem note_of_accessory (accessory : reading.IsAccessory) :
    found.note reading =
      ⟨Address.adjoin found.paired reading.device,
        Address.adjoin found.accessories reading.device⟩ := by
  have paired : reading.paired = some true := accessory.1
  rw [note, if_pos paired, if_pos (ServiceList.ofUuids_eq_known_true.2 accessory.2)]

theorem note_of_paired (paired : reading.paired = some true) (plain : ¬ reading.IsAccessory) :
    found.note reading = { found with paired := Address.adjoin found.paired reading.device } := by
  have absent : ServiceList.ofUuids reading.uuids ≠ .known true := fun offers =>
    plain ⟨paired, ServiceList.ofUuids_eq_known_true.1 offers⟩
  rw [note, if_pos paired, if_neg absent]

theorem gathered_note (found : Bonds) (reading : DeviceReading) :
    Gathered found [reading] (found.note reading) := by
  by_cases paired : reading.IsPaired
  · by_cases accessory : reading.IsAccessory
    · rw [note_of_accessory accessory]
      refine ⟨fun device => ?_, fun device => ?_, fun distinct => ?_⟩
      · simp [paired, eq_comm]
      · simp [accessory, eq_comm]
      · exact ⟨Address.nodup_adjoin distinct.1 _, Address.nodup_adjoin distinct.2 _⟩
    · rw [note_of_paired paired accessory]
      refine ⟨fun device => ?_, fun device => ?_, fun distinct => ?_⟩
      · simp [paired, eq_comm]
      · simp [accessory]
      · exact ⟨Address.nodup_adjoin distinct.1 _, distinct.2⟩
  · rw [note_of_unpaired paired]
    have plain : ¬ reading.IsAccessory := fun accessory => paired accessory.1
    exact ⟨by simp [paired], by simp [plain], id⟩

theorem gathered_foldl (found : Bonds) (readings : List DeviceReading) :
    Gathered found readings (readings.foldl note found) := by
  induction readings generalizing found with
  | nil => exact ⟨by simp, by simp, id⟩
  | cons reading rest ih =>
    have first := gathered_note found reading
    have others := ih (found.note reading)
    refine ⟨fun device => ?_, fun device => ?_,
      fun distinct => others.distinct (first.distinct distinct)⟩
    · rw [List.foldl_cons, others.paired, first.paired]
      simp [or_assoc]
    · rw [List.foldl_cons, others.accessories, first.accessories]
      simp [or_assoc]

/-- A device is among the accessories only if it is paired. -/
def Coherent (bonds : Bonds) : Prop := ∀ device ∈ bonds.accessories, device ∈ bonds.paired

theorem Gathered.coherent (gathered : Gathered .none readings bonds) : bonds.Coherent := by
  intro device accessory
  obtain none | ⟨reading, read, same, served⟩ := (gathered.accessories device).1 accessory
  · cases none
  · exact (gathered.paired device).2 (.inr ⟨reading, read, same, served.1⟩)

end Bonds

/-! ## Sweeps -/

namespace Sweep

@[simp] theorem hear_nil (sweep : Sweep) : sweep.hear [] = sweep := rfl

@[simp] theorem hear_cons (sweep : Sweep) (answer : SweepAnswer) (answers : List SweepAnswer) :
    sweep.hear (answer :: answers) = (sweep.step answer).hear answers := rfl

theorem hear_append (sweep : Sweep) (first rest : List SweepAnswer) :
    sweep.hear (first ++ rest) = (sweep.hear first).hear rest := List.foldl_append

@[simp] theorem hear_failed (answers : List SweepAnswer) : failed.hear answers = failed := by
  induction answers with
  | nil => rfl
  | cons answer rest ih => exact ih

@[simp] theorem hear_done (bonds : Bonds) (answers : List SweepAnswer) :
    (done bonds).hear answers = done bonds := by
  induction answers with
  | nil => rfl
  | cons answer rest ih => exact ih

/-- A sweep at its end stays as it is. -/
theorem hear_of_concluded {sweep : Sweep} {d : Directory} {result : Outcome × Directory}
    (ended : sweep.conclude d = some result) (answers : List SweepAnswer) :
    sweep.hear answers = sweep := by
  cases sweep with
  | done bonds => exact hear_done bonds answers
  | failed => exact hear_failed answers
  | listing | pairing | services => cases ended

/-- What is read of one device ends the sweep, or takes it to the next device. -/
theorem hear_answers (found : Bonds) (reading : DeviceReading) (rest : List Address) :
    (pairing found reading.device rest).hear reading.answers = failed ∧ reading.IsBroken ∨
      (pairing found reading.device rest).hear reading.answers = next (found.note reading) rest ∧
        ¬ reading.IsBroken := by
  obtain ⟨device, paired, uuids⟩ := reading
  match paired, uuids with
  | some true, none => exact .inl ⟨rfl, rfl, rfl⟩
  | some true, some listed =>
    refine .inr ⟨?_, fun broken => by cases broken.2⟩
    by_cases offers : Uuid.accessory ∈ listed.getD [] <;>
      simp [DeviceReading.answers, ServiceList.ofUuids, step, Bonds.note, offers]
  | some false, _ => exact .inr ⟨rfl, fun broken => by cases broken.1⟩
  | none, _ => exact .inr ⟨rfl, fun broken => by cases broken.1⟩

/-- What is read of several devices ends the sweep at some device, or takes it to its end. -/
theorem hear_readings (found : Bonds) (readings : List DeviceReading) :
    (next found (readings.map (·.device))).hear (readings.flatMap (·.answers)) = failed ∧
        (∃ reading ∈ readings, reading.IsBroken) ∨
      (next found (readings.map (·.device))).hear (readings.flatMap (·.answers)) =
          done (readings.foldl Bonds.note found) ∧
        ∀ reading ∈ readings, ¬ reading.IsBroken := by
  induction readings generalizing found with
  | nil => exact .inr ⟨rfl, by simp⟩
  | cons reading rest ih =>
    rw [List.map_cons, List.flatMap_cons, hear_append, next]
    -- a sweep that has failed does not care for what is read of the devices after that
    obtain ⟨ends, broken⟩ | ⟨goes, sound⟩ := hear_answers found reading (rest.map (·.device))
    · rw [ends, hear_failed]
      exact .inl ⟨rfl, reading, List.mem_cons_self, broken⟩
    · rw [goes]
      obtain ⟨ends, other, later, broken⟩ | ⟨ends, all⟩ := ih (found.note reading)
      · exact .inl ⟨ends, other, List.mem_cons_of_mem _ later, broken⟩
      · exact .inr ⟨ends, List.forall_mem_cons.2 ⟨sound, all⟩⟩

/-- Whether a sweep cannot read what it needs: the devices, or the services of a paired one. -/
def Blocked : Option (List DeviceReading) → Prop
  | none => True
  | some readings => ∃ reading ∈ readings, reading.IsBroken

/-- A sweep that is answered in full has failed or is done. -/
theorem hear_script (readings? : Option (List DeviceReading)) :
    listing.hear (SweepAnswer.script readings?) = failed ∧ Blocked readings? ∨
      ∃ readings, readings? = some readings ∧ ¬ Blocked readings? ∧
        listing.hear (SweepAnswer.script readings?) = done (readings.foldl Bonds.note .none) := by
  cases readings? with
  | none => exact .inl ⟨rfl, trivial⟩
  | some readings =>
    obtain ⟨ends, broken⟩ | ⟨ends, sound⟩ := hear_readings .none readings
    · exact .inl ⟨ends, broken⟩
    · exact .inr ⟨readings, rfl, fun ⟨reading, read, broken⟩ => sound reading read broken, ends⟩

end Sweep

namespace Directory

variable {d : Directory}

/-- A refresh comes to an end. -/
theorem conclude_script (d : Directory) (listing : Option (List DeviceReading)) :
    (Sweep.listing.hear (SweepAnswer.script listing)).conclude d = some (d.refresh listing) := by
  obtain ⟨ends, -⟩ | ⟨readings, -, -, ends⟩ := Sweep.hear_script listing <;>
    rw [refresh, ends] <;> rfl

/-- A refresh fails and changes nothing, or replaces the bonds by what all readings tell. -/
theorem refresh_cases (d : Directory) (listing : Option (List DeviceReading)) :
    Sweep.Blocked listing ∧ d.refresh listing = (.error .bluetooth, d) ∨
      ∃ readings bonds, listing = some readings ∧ ¬ Sweep.Blocked listing ∧
        Bonds.Gathered .none readings bonds ∧ d.refresh listing = (.done, d.store bonds) := by
  obtain ⟨ends, broken⟩ | ⟨readings, listed, sound, ends⟩ := Sweep.hear_script listing
  · exact .inl ⟨broken, by rw [refresh, ends]; rfl⟩
  · have gathered := Bonds.gathered_foldl .none readings
    exact .inr ⟨readings, _, listed, sound, gathered, by rw [refresh, ends]; rfl⟩

theorem coherent_act (coherent : d.bonds.Coherent) (event : DirectoryEvent) :
    (d.act event).bonds.Coherent := by
  cases event with
  | setPriority device priority => exact coherent
  | refresh listing =>
    obtain ⟨-, same⟩ | ⟨readings, bonds, -, -, gathered, replaced⟩ := d.refresh_cases listing
    · rw [act, same]
      exact coherent
    · rw [act, replaced]
      exact gathered.coherent
  | disturb file => exact coherent

theorem coherent_run (coherent : d.bonds.Coherent) (events : List DirectoryEvent) :
    (d.run events).bonds.Coherent := by
  induction events generalizing d with
  | nil => exact coherent
  | cons event rest ih => exact ih (coherent_act coherent event)

end Directory

/-! ## Where sweeps run -/

namespace Watcher

/-- A watcher takes up several answers. -/
def hearAll (w : Watcher) (d : Directory) (answers : List SweepAnswer) : Watcher × Directory :=
  answers.foldl (fun x answer => x.1.step x.2 (.answer answer)) (w, d)

/-- A watcher that is not refreshing does not care for answers. -/
theorem hearAll_waiting {w : Watcher} (waiting : w.phase = .waiting) (d : Directory)
    (answers : List SweepAnswer) : w.hearAll d answers = (w, d) := by
  induction answers with
  | nil => rfl
  | cons answer rest ih =>
    have idle : w.step d (.answer answer) = (w, d) := by simp only [step, waiting]
    rw [hearAll, List.foldl_cons, idle]
    exact ih

/-- While a watcher is refreshing its directory stays as it was. -/
theorem hearAll_sweeping (w : Watcher) (d : Directory) (sweep : Sweep)
    (going : sweep.conclude d = none) (answers : List SweepAnswer) :
    ({ w with phase := .sweeping sweep }.hearAll d answers).2 =
      (((sweep.hear answers).conclude d).map (·.2)).getD d := by
  induction answers generalizing sweep with
  | nil => rw [Sweep.hear_nil, going]; rfl
  | cons answer rest ih =>
    rw [Sweep.hear_cons, hearAll, List.foldl_cons, ← hearAll]
    cases ended : (sweep.step answer).conclude d with
    | none =>
      have steps : { w with phase := .sweeping sweep }.step d (.answer answer) =
          ({ w with phase := .sweeping (sweep.step answer) }, d) := by
        simp only [step, ended]
      rw [steps]
      exact ih _ ended
    | some result =>
      have steps : { w with phase := .sweeping sweep }.step d (.answer answer) =
          ({ w with phase := .waiting }, result.2) := by
        simp only [step, ended]
      rw [steps, hearAll_waiting rfl, Sweep.hear_of_concluded ended, ended]
      rfl

/-- Whatever part of the answers a watcher has taken, its directory is the old one or the one after
the whole refresh. -/
theorem directory_hearAll (w : Watcher) (d : Directory) (listing : Option (List DeviceReading))
    (n : Nat) :
    (w.sweep.hearAll d ((SweepAnswer.script listing).take n)).2 = d ∨
      (w.sweep.hearAll d ((SweepAnswer.script listing).take n)).2 = (d.refresh listing).2 := by
  have taken := w.hearAll_sweeping d .listing rfl ((SweepAnswer.script listing).take n)
  rw [sweep, taken]
  cases ended : (Sweep.listing.hear ((SweepAnswer.script listing).take n)).conclude d with
  | none => exact .inl rfl
  | some result =>
    -- the rest of the answers comes too late
    have whole := calc
      Sweep.listing.hear (SweepAnswer.script listing)
      _ = Sweep.listing.hear
            ((SweepAnswer.script listing).take n ++ (SweepAnswer.script listing).drop n) := by
        rw [List.take_append_drop]
      _ = (Sweep.listing.hear ((SweepAnswer.script listing).take n)).hear
            ((SweepAnswer.script listing).drop n) := Sweep.hear_append ..
      _ = Sweep.listing.hear ((SweepAnswer.script listing).take n) :=
        Sweep.hear_of_concluded ended _
    rw [Directory.refresh, whole, ended]
    exact .inr rfl

end Watcher

/-- A reading of services that comes to what is known of them. -/
def ServiceList.reading : ServiceList → Option (Option (List Uuid))
  | .unreadable => none
  | .known true => some (some [.accessory])
  | .known false => some none

@[simp] theorem ServiceList.ofUuids_reading (services : ServiceList) :
    ofUuids services.reading = services := by
  rcases services with _ | offers
  · rfl
  · cases offers <;> rfl

namespace BondView

variable {view : BondView}

/-- What is read of a device while nothing changes. -/
def reading (view : BondView) (device : Address) : DeviceReading :=
  ⟨device, view.paired device, (view.services device).reading⟩

/-- What a whole refresh reads while nothing changes. -/
def readings (view : BondView) : Option (List DeviceReading) :=
  view.devices.map (·.map view.reading)

theorem answers_reading (view : BondView) (device : Address) :
    (view.reading device).answers = .paired (view.paired device) ::
      if view.paired device = some true then [.services (view.services device)] else [] := by
  simp [DeviceReading.answers, reading]

theorem run_pairing (view : BondView) (n : Nat) (found : Bonds) (device : Address)
    (rest : List Address) :
    view.run (n + 1) (.pairing found device rest) =
      view.run n ((Sweep.pairing found device rest).step (.paired (view.paired device))) := rfl

theorem run_services (view : BondView) (n : Nat) (found : Bonds) (device : Address)
    (rest : List Address) :
    view.run (n + 1) (.services found device rest) =
      view.run n ((Sweep.services found device rest).step (.services (view.services device))) := rfl

theorem run_done (view : BondView) (n : Nat) (bonds : Bonds) :
    view.run n (.done bonds) = .done bonds := by cases n <;> rfl

theorem run_failed (view : BondView) (n : Nat) : view.run n .failed = .failed := by cases n <;> rfl

/-- Two questions for each device are enough. -/
theorem run_next (found : Bonds) (devices : List Address) (n : Nat)
    (enough : 2 * devices.length ≤ n) :
    view.run n (Sweep.next found devices) =
      (Sweep.next found devices).hear ((devices.map view.reading).flatMap (·.answers)) := by
  induction devices generalizing found n with
  | nil => exact view.run_done n found
  | cons device rest ih =>
    have more : 2 * rest.length + 2 ≤ n := by simpa [Nat.mul_add] using enough
    obtain ⟨m, rfl⟩ : ∃ m, n = m + 2 := ⟨n - 2, by omega⟩
    rw [Sweep.next, List.map_cons, List.flatMap_cons, Sweep.hear_append, answers_reading,
      Sweep.hear_cons, run_pairing]
    cases view.paired device with
    | none => exact ih found (m + 1) (by omega)
    | some answer =>
      cases answer with
      | false => exact ih found (m + 1) (by omega)
      | true =>
        rw [if_pos rfl, Sweep.hear_cons, Sweep.hear_nil, Sweep.step, run_services]
        cases view.services device with
        | unreadable => simp only [Sweep.step, run_failed, Sweep.hear_failed]
        | known offers => exact ih _ m (by omega)

/-- A sweep that is answered at once is a refresh with the readings of that moment. -/
theorem conclude_sweep (view : BondView) (d : Directory) :
    view.sweep.conclude d = some (d.refresh view.readings) := by
  have heard : view.sweep = Sweep.listing.hear (SweepAnswer.script view.readings) := by
    rw [sweep, run, answer?, readings]
    cases view.devices with
    | none => exact view.run_failed _
    | some devices =>
      have listed : (devices.map view.reading).map (·.device) = devices := by
        simp [reading, Function.comp_def]
      rw [Option.map_some, SweepAnswer.script, listed]
      exact run_next .none devices _ (Nat.le_refl _)
  rw [heard]
  exact d.conclude_script view.readings

end BondView

/-- A refresh is all or nothing, whatever is read of however many devices. It succeeds just when
everything that it needs can be read, and then the bonds are what all readings tell: the devices
that were read as paired, and those of them that were read to offer the accessory service, each of
them once. Otherwise it fails and leaves everything as it was. A watcher that refreshes answer by
answer shows nothing else in between, and a sweep that is answered at once comes to the same. After
any number of refreshes a device is an accessory only if it is paired. -/
theorem refresh_all_or_nothing (d : Directory) (listing : Option (List DeviceReading)) :
    (Sweep.Blocked listing ∧ d.refresh listing = (.error .bluetooth, d) ∨
      ∃ readings bonds, listing = some readings ∧ ¬ Sweep.Blocked listing ∧
        d.refresh listing = (.done, { d with bonds := bonds }) ∧
        bonds.paired.Nodup ∧ bonds.accessories.Nodup ∧
        (∀ device, device ∈ bonds.paired ↔
          ∃ reading ∈ readings, reading.device = device ∧ reading.IsPaired) ∧
        (∀ device, device ∈ bonds.accessories ↔
          ∃ reading ∈ readings, reading.device = device ∧ reading.IsAccessory)) ∧
    (∀ (w : Watcher) (n : Nat),
      (w.sweep.hearAll d ((SweepAnswer.script listing).take n)).2 = d ∨
      (w.sweep.hearAll d ((SweepAnswer.script listing).take n)).2 = (d.refresh listing).2) ∧
    (∀ view : BondView, view.sweep.conclude d = some (d.refresh view.readings)) ∧
    (∀ (config : Config) (file : ConfigFile) (events : List DirectoryEvent),
      ((Directory.ofConfig config file).run events).bonds.Coherent) := by
  refine ⟨?_, fun w n => w.directory_hearAll d listing n, fun view => view.conclude_sweep d,
    fun config file events => ?_⟩
  · obtain failed | ⟨readings, bonds, listed, sound, gathered, replaced⟩ := d.refresh_cases listing
    · exact .inl failed
    · obtain ⟨paired, accessories⟩ := gathered.distinct ⟨List.nodup_nil, List.nodup_nil⟩
      refine .inr ⟨readings, bonds, listed, sound, replaced, paired, accessories, ?_, ?_⟩
      · simpa [Bonds.none] using gathered.paired
      · simpa [Bonds.none] using gathered.accessories
  · have start : (Directory.ofConfig config file).bonds.Coherent := fun device accessory => by
      cases accessory
    exact Directory.coherent_run start events

end AccessoryLink
