/-!
# Where the configuration lies

The directory is taken from the environment: a directory of the service itself, then the user's
directory for configurations, then one below the user's home.
-/

namespace AccessoryLink.ConfigSearch

/-- A path below another. Nothing is put between them if the first ends in a slash or is empty. -/
def join (base part : String) : String :=
  if base = "" ∨ base.endsWith "/" then base ++ part else base ++ "/" ++ part

/-- The variables that name a directory, and the part below it that is meant. -/
def sources : List (String × Option String) :=
  [("IAP2_HOME", none), ("XDG_CONFIG_HOME", none), ("HOME", some ".config")]

/-- The directory for configurations: the first variable that is set decides. -/
def directory? (lookup : String → Option String) : Option String :=
  sources.findSome? fun (name, below) =>
    (lookup name).map fun base =>
      match below with
      | some part => join base part
      | none => base

/-- The file in that directory. -/
def file (directory : String) : String := join (join directory "iap2d") "config.toml"

end AccessoryLink.ConfigSearch
