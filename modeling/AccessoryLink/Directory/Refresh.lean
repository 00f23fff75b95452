import AccessoryLink.Directory.Basic

/-!
# Refreshing the bonds

The bonds are rebuilt by a sweep over the devices of the adapter. Each answer of the adapter is one
step, so the adapter may change between two of them. A sweep ends with new bonds or fails, and only
then is the directory touched: `Sweep.conclude` replaces both sets or none.
-/

namespace AccessoryLink

/-- What the adapter knows of a device's services. -/
inductive ServiceList where
  /-- The list cannot be read. -/
  | unreadable
  /-- The adapter has a list, in which the accessory service is or is not. An absent list holds
  nothing. -/
  | known (offersAccessory : Bool)
  deriving Repr, DecidableEq

/-- The number that names a service. -/
abbrev Uuid := BitVec 128

/-- The accessory service. -/
def Uuid.accessory : Uuid := 0x00000000decafadedecadeafdecacaff

/-- What reading the services of a device comes to: a failure, or a list that may be absent. -/
def ServiceList.ofUuids : Option (Option (List Uuid)) → ServiceList
  | none => .unreadable
  | some uuids => .known ((uuids.getD []).contains .accessory)

/-- What a sweep reads of a device that is listed. -/
structure DeviceReading where
  device : Address
  /-- Whether it is paired, if that can be read. -/
  paired : Option Bool
  /-- Its services, if they can be read; the list may be absent. -/
  uuids : Option (Option (List Uuid))

/-- Where a sweep stands. -/
inductive Sweep where
  /-- The devices are being listed. -/
  | listing
  /-- It is being read whether the first device is paired; these are left. -/
  | pairing (found : Bonds) (device : Address) (rest : List Address)
  /-- The services of a paired device are being read. -/
  | services (found : Bonds) (device : Address) (rest : List Address)
  | done (bonds : Bonds)
  | failed
  deriving Repr, DecidableEq

/-- An answer of the adapter. -/
inductive SweepAnswer where
  /-- The devices, or nothing if they cannot be listed. -/
  | devices (list : Option (List Address))
  /-- Whether a device is paired, or nothing if that cannot be read. -/
  | paired (answer : Option Bool)
  | services (answer : ServiceList)
  deriving Repr, DecidableEq

namespace Sweep

/-- Goes on to the next device. -/
def next (found : Bonds) : List Address → Sweep
  | [] => done found
  | device :: rest => pairing found device rest

/-- Takes up an answer. An answer to a question that was not asked changes nothing. -/
def step : Sweep → SweepAnswer → Sweep
  | listing, .devices (some list) => next .none list
  | listing, .devices none => failed
  | pairing found device rest, .paired (some true) =>
    services { found with paired := Address.adjoin found.paired device } device rest
  | pairing found _ rest, .paired _ => next found rest
  | services found device rest, .services (.known offers) =>
    next
      (if offers then { found with accessories := Address.adjoin found.accessories device }
        else found)
      rest
  | services _ _ _, .services .unreadable => failed
  | sweep, _ => sweep

/-- The directory after a sweep, and whether the sweep succeeded. -/
def conclude (sweep : Sweep) (d : Directory) : Option (Outcome × Directory) :=
  match sweep with
  | done bonds => some (.done, d.store bonds)
  | failed => some (.error .bluetooth, d)
  | _ => none

/-- Takes up answers one after the other. -/
def hear (sweep : Sweep) (answers : List SweepAnswer) : Sweep := answers.foldl step sweep

end Sweep

/-- What a sweep is answered about a listed device. Its services are asked for if it is paired. -/
def DeviceReading.answers (reading : DeviceReading) : List SweepAnswer :=
  .paired reading.paired ::
    if reading.paired = some true then [.services (.ofUuids reading.uuids)] else []

/-- All that a sweep is answered: that the devices cannot be listed, or a list of them and then what
is read of each. -/
def SweepAnswer.script : Option (List DeviceReading) → List SweepAnswer
  | none => [.devices none]
  | some readings =>
    .devices (some (readings.map (·.device))) :: readings.flatMap DeviceReading.answers

/-- Reads the bonds anew. -/
def Directory.refresh (d : Directory) (listing : Option (List DeviceReading)) :
    Outcome × Directory :=
  ((Sweep.listing.hear (SweepAnswer.script listing)).conclude d).getD (.error .bluetooth, d)

/-- What the adapter answers to a sweep while nothing changes. -/
structure BondView where
  devices : Option (List Address)
  paired : Address → Option Bool
  services : Address → ServiceList

namespace BondView

/-- The answer to the question that a sweep asks. -/
def answer? (view : BondView) : Sweep → Option SweepAnswer
  | .listing => some (.devices view.devices)
  | .pairing _ device _ => some (.paired (view.paired device))
  | .services _ device _ => some (.services (view.services device))
  | _ => none

/-- Answers so many questions of a sweep. -/
def run (view : BondView) : Nat → Sweep → Sweep
  | 0, sweep => sweep
  | n + 1, sweep =>
    match view.answer? sweep with
    | some answer => view.run n (sweep.step answer)
    | none => sweep

/-- The whole sweep: one question for the list, and at most two for each device in it. -/
def sweep (view : BondView) : Sweep :=
  view.run (2 * (view.devices.getD []).length + 1) .listing

end BondView

end AccessoryLink
