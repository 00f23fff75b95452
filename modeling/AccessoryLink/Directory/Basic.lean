import AccessoryLink.Config.Store

/-!
# The peer directory

What is known of peers: the priorities that the configuration holds, and the bonds that the radio
holds. A priority is changed in memory first and then saved, so it counts even where it cannot be
saved.
-/

namespace AccessoryLink

/-- The bonds of an adapter. -/
structure Bonds where
  /-- Every paired device. -/
  paired : List Address
  /-- The paired devices that offer the accessory service. -/
  accessories : List Address
  deriving Repr, DecidableEq

namespace Bonds

/-- No device is paired. -/
def none : Bonds := ⟨[], []⟩

instance : Inhabited Bonds := ⟨none⟩

/-- Bonds with each device named once. -/
def ofLists (paired accessories : List Address) : Bonds :=
  ⟨paired.eraseDups, accessories.eraseDups⟩

end Bonds

/-- What is known of peers, and the file that keeps the configuration. -/
structure Directory where
  config : Config
  file : ConfigFile
  bonds : Bonds

namespace Directory

/-- A directory that knows of no bonds yet. -/
def ofConfig (config : Config) (file : ConfigFile) : Directory := ⟨config, file, .none⟩

instance : Inhabited Directory := ⟨ofConfig .default .missing⟩

/-- The priority of a device. -/
def priority (d : Directory) (device : Address) : Priority := d.config.priorityOf device

/-- Whether a device is paired. -/
def isBonded (d : Directory) (device : Address) : Bool := d.bonds.paired.contains device

/-- The paired devices that offer the accessory service. -/
def accessories (d : Directory) : List Address := d.bonds.accessories

/-- Whether inbound connections are turned away. -/
def isQuiet (d : Directory) : Bool := d.config.quietMode

/-- Replaces both bond sets at once. -/
def store (d : Directory) (bonds : Bonds) : Directory := { d with bonds := bonds }

/-- Records the priority of a device in memory. -/
def record (d : Directory) (device : Address) (priority : Priority) : Directory :=
  { d with config := d.config.setPriority device priority }

/-- Saves a configuration to the file of the directory. -/
def save (d : Directory) (config : Config) : Outcome × Directory :=
  let (result, file) := d.file.save config
  (result, { d with file := file })

/-- Sets the priority of a device, in memory and in the file. -/
def setPriority (d : Directory) (device : Address) (priority : Priority) : Outcome × Directory :=
  let d := d.record device priority
  d.save d.config

@[simp] theorem bonds_store (d : Directory) (bonds : Bonds) : (d.store bonds).bonds = bonds := rfl

@[simp] theorem config_store (d : Directory) (bonds : Bonds) :
    (d.store bonds).config = d.config := rfl

/-- The priority in memory does not depend on whether the save succeeds. -/
@[simp] theorem config_setPriority (d : Directory) (device : Address) (priority : Priority) :
    (d.setPriority device priority).2.config = d.config.setPriority device priority := rfl

end Directory

end AccessoryLink
