import AccessoryLink.Config.Text
import AccessoryLink.Error

/-!
# The configuration file

A configuration is saved in steps: the directory is made, the text is made and written to a staging
file, and that file takes the place of the old one. Any step may fail. Readers see the old text or
the new one and nothing between. What turns the configuration into a text and back is a parameter
(`saveWith`, `loadWith`); the service uses the codec of the library (`save`, `load`).
-/

namespace AccessoryLink

/-- What keeps a save from being finished. -/
inductive SaveFault where
  /-- The directory cannot be made. -/
  | directory (error : SystemError)
  /-- The staging file cannot be written, and holds this much afterwards. -/
  | staging (error : SystemError) (leftover : Option ByteArray)
  /-- The staging file cannot take the place of the old file. -/
  | renaming (error : SystemError)

/-- The file of a configuration, the staging file beside it, and what saves run into. -/
structure ConfigFile where
  contents : Option ByteArray
  staged : Option ByteArray
  fault : Option SaveFault

namespace ConfigFile

/-- No file, in a place that can be written. -/
def missing : ConfigFile := ⟨none, none, none⟩

/-- No file, in a place below something that is no directory. -/
def unwritable : ConfigFile := ⟨none, none, some (.directory .notADirectory)⟩

/-- A file with these bytes. -/
def ofBytes (bytes : ByteArray) : ConfigFile := { missing with contents := some bytes }

instance : Inhabited ConfigFile := ⟨missing⟩

/-- The text of the file, if it is one. -/
def text? (file : ConfigFile) : Option String := file.contents.bind String.fromUTF8?

/-- Makes the directory of the file. -/
def makeDirectory (file : ConfigFile) : Outcome :=
  match file.fault with
  | some (.directory error) => .error (.system error)
  | _ => .done

/-- Writes the staging file. -/
def stage (file : ConfigFile) (text : String) : Outcome × ConfigFile :=
  match file.fault with
  | some (.staging error leftover) => (.error (.system error), { file with staged := leftover })
  | _ => (.done, { file with staged := some text.toUTF8 })

/-- Puts the staging file in the place of the file. -/
def rename (file : ConfigFile) : Outcome × ConfigFile :=
  match file.fault, file.staged with
  | some (.renaming error), _ => (.error (.system error), file)
  | _, none => (.error (.system .notFound), file)
  | _, some bytes => (.done, { file with contents := some bytes, staged := none })

/-- Saves a text, if one could be made. -/
def saveText (file : ConfigFile) (text : Option String) : Outcome × ConfigFile :=
  match file.makeDirectory with
  | .error e => (.error e, file)
  | .ok _ =>
    match text with
    | none => (.error .configUnwritable, file)
    | some text =>
      match file.stage text with
      | (.error e, file) => (.error e, file)
      | (.ok _, file) => file.rename

/-- Saves a configuration in the text that a codec gives its entries. -/
def saveWith (codec : Toml.Codec) (file : ConfigFile) (config : Config) : Outcome × ConfigFile :=
  file.saveText (codec.write config.entries)

/-- Loads a configuration from the entries that a codec reads. Where there is no file, one is
written with the defaults. -/
def loadWith (codec : Toml.Codec) (file : ConfigFile) : Except LinkError Config × ConfigFile :=
  match file.contents with
  | some bytes =>
    match String.fromUTF8? bytes with
    | none => (.error (.system .invalidData), file)
    | some text =>
      match (codec.read text).bind Config.ofEntries? with
      | some config => (.ok config, file)
      | none => (.error .configSyntax, file)
  | none =>
    match file.saveWith codec .default with
    | (.error e, file) => (.error e, file)
    | (.ok _, file) => (.ok .default, file)

/-- Saves a configuration. -/
def save : ConfigFile → Config → Outcome × ConfigFile := saveWith Toml.codec

/-- Loads a configuration. -/
def load : ConfigFile → Except LinkError Config × ConfigFile := loadWith Toml.codec

theorem fromUTF8?_toUTF8 (text : String) : String.fromUTF8? text.toUTF8 = some text :=
  dif_pos text.isValidUTF8

/-- A file whose text can be read is loaded as what the text says. -/
theorem loadWith_of_contents {codec : Toml.Codec} {file : ConfigFile} {text : String}
    {config : Config} (contents : file.contents = some text.toUTF8)
    (read : (codec.read text).bind Config.ofEntries? = some config) :
    file.loadWith codec = (.ok config, file) := by
  simp only [loadWith, contents, fromUTF8?_toUTF8, read]

/-- Every configuration has a text. -/
theorem save_eq (file : ConfigFile) (config : Config) :
    file.save config = file.saveText (some config.render) :=
  congrArg file.saveText config.write_entries

end ConfigFile

end AccessoryLink
