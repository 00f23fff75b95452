import AccessoryLink.Directory.Refresh

/-!
# What happens to a directory

Priorities are set, bonds are read anew, and the file changes under the hands of whoever saves; in
any order. A call that sets a priority finds the file, and what saves run into, as it is at that
moment.
-/

namespace AccessoryLink

/-- What may happen to a directory. -/
inductive DirectoryEvent where
  /-- The priority of a device is set, whether or not that can be saved. -/
  | setPriority (device : Address) (priority : Priority)
  /-- The bonds are read anew, and the adapter answers so. -/
  | refresh (listing : Option (List DeviceReading))
  /-- The file, or what saves run into, changes from outside. -/
  | disturb (file : ConfigFile)

/-- The priority that an event sets. -/
def DirectoryEvent.write? : DirectoryEvent → Option (Address × Priority)
  | setPriority device priority => some (device, priority)
  | _ => none

namespace Directory

/-- The directory after an event. -/
def act (d : Directory) : DirectoryEvent → Directory
  | .setPriority device priority => (d.setPriority device priority).2
  | .refresh listing => (d.refresh listing).2
  | .disturb file => { d with file := file }

/-- The directory after some events. -/
def run (d : Directory) (events : List DirectoryEvent) : Directory := events.foldl act d

end Directory

end AccessoryLink
