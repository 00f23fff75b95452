import AccessoryLink.Config.Store
import AccessoryLink.Proofs.Toml.Codec

/-!
# Configurations that are saved and loaded

The text of a configuration is made and read by a codec, of which only its law is relied on: it
keeps tables of strings, truth values, numbers and further tables. The entries of a configuration
are such a table (`storable_entries`), and entries that are the same make the same configuration
again (`ofEntries?_of_same`), in whatever order they stand. A save that ends well leaves that text;
one that fails at any step leaves the file as it was.
-/

namespace AccessoryLink

namespace Config

open Toml

variable {config : Config}

/-! ## Writing -/

/-- Whether the numbers of a configuration are integers of the format. -/
structure NumbersFit (config : Config) : Prop where
  connectTimeout : Value.FitsInteger config.connectTimeoutSecs.toNat
  linkPollInterval : Value.FitsInteger config.linkPollIntervalSecs.toNat

theorem storable_psm (psm : UInt16) : (Value.integer psm.toNat).Storable := by
  have small := psm.toNat_lt
  exact .integer ⟨by omega, by omega⟩

theorem storable_device (device : KnownDevice) :
    (Value.table .header (deviceEntries device)).Storable := by
  refine .table (nodup_of_areKeys (keys_of_isItem (isItem_table device)).1) ?_
  simp only [deviceEntries, List.forall_mem_cons]
  exact ⟨.string _, .string _, .string _, by simp⟩

theorem storable_settings (fit : config.NumbersFit) :
    ∀ entry ∈ config.settings, entry.2.Storable := by
  have timeout := Value.Storable.integer fit.connectTimeout
  have psm := storable_psm config.psm
  have poll := Value.Storable.integer fit.linkPollInterval
  cases adapter : config.adapter <;>
    simp [settings, adapter, adapterEntries, timeout, psm, poll, Value.Storable.boolean,
      Value.Storable.string]

/-- A configuration is a table of strings, truth values, numbers and a list of tables. -/
theorem storable_entries (fit : config.NumbersFit) :
    (Value.table .header config.entries).Storable := by
  refine .table (nodup_of_areKeys config.areKeys_entries) fun entry among => ?_
  obtain setting | last := List.mem_append.mp among
  · exact storable_settings fit entry setting
  · obtain rfl := List.mem_singleton.mp last
    refine .list ?_ ?_ <;> intro item listed <;>
      obtain ⟨device, -, rfl⟩ := List.mem_map.mp listed
    · rfl
    · exact storable_device device

/-! ## Reading -/

theorem stringValue?_of_same {text : String} {value : Value}
    (same : (Value.string text).Same value) : stringValue? value = some text := by
  cases same
  rfl

theorem boolValue?_of_same {truth : Bool} {value : Value}
    (same : (Value.boolean truth).Same value) : boolValue? value = some truth := by
  cases same
  rfl

theorem natValue?_of_same {bound n : Nat} (fits : n < bound) {value : Value}
    (same : (Value.integer n).Same value) : natValue? bound value = some n := by
  cases same
  have small : (n : Int) < bound := Int.ofNat_lt.mpr fits
  simp [natValue?, small]

theorem priorityValue?_of_same {priority : Priority} {value : Value}
    (same : (Value.string priority.name).Same value) : priorityValue? value = some priority := by
  cases same
  exact priority.ofName?_name

/-- A field is read from entries that are the same as those that it was written to. -/
theorem field?_of_same {α : Type} {kind sort : TableKind} {entries back : Entries} {key : String}
    {value : Value} {a : α} {read : Value → Option α} {missing : Option α}
    (same : (Value.table kind entries).Same (.table sort back))
    (present : entries.get? key = some value)
    (reads : ∀ {other}, value.Same other → read other = some a) :
    field? back key read missing = some a := by
  obtain ⟨_, _, here, -, found⟩ := same.table_get?
  cases here
  obtain ⟨other, held, agrees⟩ := found key value present
  simp [field?, held, reads agrees]

theorem deviceValue?_of_same {device : KnownDevice} {value : Value}
    (same : (Value.table .header (deviceEntries device)).Same value) :
    deviceValue? value = some device := by
  obtain ⟨sort, entries, rfl, -⟩ := same.table_get?
  have address : field? entries "address" stringValue? none = some device.address :=
    field?_of_same same rfl stringValue?_of_same
  have name : field? entries "name" stringValue? none = some device.name :=
    field?_of_same same rfl stringValue?_of_same
  have priority : field? entries "priority" priorityValue? (some .undefined) =
      some device.priority := field?_of_same same rfl priorityValue?_of_same
  simp only [deviceValue?, address, name, priority]

theorem devicesValue?_of_same {extensible : Bool} {devices : List KnownDevice} {value : Value}
    (same : (Value.array extensible (deviceTables devices)).Same value) :
    devicesValue? value = some devices := by
  cases same with
  | @array _ growing _ items length all =>
  rw [devicesValue?]
  induction devices generalizing items with
  | nil =>
      obtain rfl : items = [] := List.eq_nil_of_length_eq_zero length.symm
      rfl
  | cons device rest ih =>
      obtain _ | ⟨item, items⟩ := items
      · cases length
      · have first := deviceValue?_of_same (all 0 _ _ rfl rfl)
        have later := ih (Nat.succ.inj length) fun n => all (n + 1)
        simp [List.mapM_cons, first, later]

/-- Every setting stands under its key. -/
theorem get?_entries (config : Config) :
    config.entries.get? "connect_timeout_secs" =
        some (.integer config.connectTimeoutSecs.toNat) ∧
      config.entries.get? "quiet_mode" = some (.boolean config.quietMode) ∧
      config.entries.get? "psm" = some (.integer config.psm.toNat) ∧
      config.entries.get? "adapter" = config.adapter.map .string ∧
      config.entries.get? "link_poll_interval_secs" =
        some (.integer config.linkPollIntervalSecs.toNat) ∧
      config.entries.get? "known_devices" =
        some (.array (!config.knownDevices.isEmpty) (deviceTables config.knownDevices)) := by
  cases adapter : config.adapter <;>
    simp [entries, settings, adapter, adapterEntries, Entries.get?]

/-- An adapter is read as chosen just when one was. -/
theorem adapter_of_same {back : Entries}
    (same : (Value.table .header config.entries).Same (.table .header back)) :
    field? back "adapter" (fun v => (stringValue? v).map some) (some none) =
      some config.adapter := by
  have written := config.get?_entries.2.2.2.1
  cases chosen : config.adapter with
  | none =>
      obtain ⟨_, _, here, absent, -⟩ := same.table_get?
      cases here
      have missing := absent "adapter" (by rw [written, chosen, Option.map_none])
      simp [field?, missing]
  | some name =>
      rw [chosen, Option.map_some] at written
      refine field?_of_same same written fun said => ?_
      rw [stringValue?_of_same said, Option.map_some]

/-- Entries that are the same as those of a configuration make the configuration: each key is found,
and each value fits. -/
theorem ofEntries?_of_same {back : Entries}
    (same : (Value.table .header config.entries).Same (.table .header back)) :
    ofEntries? back = some config := by
  obtain ⟨connect, quiet, number, -, interval, known⟩ := config.get?_entries
  have timeout (missing : Option Nat) :
      field? back "connect_timeout_secs" (natValue? UInt64.size) missing =
        some config.connectTimeoutSecs.toNat :=
    field?_of_same same connect (natValue?_of_same config.connectTimeoutSecs.toNat_lt_size)
  have calm (missing : Option Bool) :
      field? back "quiet_mode" boolValue? missing = some config.quietMode :=
    field?_of_same same quiet boolValue?_of_same
  have psm (missing : Option Nat) :
      field? back "psm" (natValue? UInt16.size) missing = some config.psm.toNat :=
    field?_of_same same number (natValue?_of_same config.psm.toNat_lt_size)
  have poll (missing : Option Nat) :
      field? back "link_poll_interval_secs" (natValue? UInt64.size) missing =
        some config.linkPollIntervalSecs.toNat :=
    field?_of_same same interval (natValue?_of_same config.linkPollIntervalSecs.toNat_lt_size)
  have devices (missing : Option (List KnownDevice)) :
      field? back "known_devices" devicesValue? missing = some config.knownDevices :=
    field?_of_same same known devicesValue?_of_same
  have adapter := adapter_of_same same
  simp only [ofEntries?, default, timeout, calm, psm, poll, devices, adapter]
  simp

/-- A lawful codec keeps every configuration whose numbers fit. -/
theorem read_of_lawful {codec : Codec} (lawful : codec.Lawful) (fit : config.NumbersFit)
    {text : String} (written : codec.write config.entries = some text) :
    (codec.read text).bind ofEntries? = some config := by
  obtain ⟨back, read, same⟩ := lawful config.entries text (storable_entries fit) written
  rw [read, Option.bind_some, ofEntries?_of_same same]

/-- A configuration is read back from its text. -/
theorem read?_render (config : Config) : read? config.render = some config := by
  rw [read?, render, read_codec, read?_write config.isPlainTable_entries, Option.bind_some,
    ofEntries?_of_same (.refl _)]

end Config

/-! ## Saving -/

namespace ConfigFile

variable {codec : Toml.Codec} {file after : ConfigFile} {config : Config} {error : LinkError}

theorem contents_stage (file : ConfigFile) (text : String) :
    (file.stage text).2.contents = file.contents := by
  unfold stage
  split <;> rfl

theorem staged_of_stage {text : String} (written : file.stage text = (.done, after)) :
    after.staged = some text.toUTF8 := by
  unfold stage at written
  split at written <;> cases written
  rfl

theorem contents_rename_of_error (failed : file.rename = (.error error, after)) :
    after.contents = file.contents := by
  unfold rename at failed
  split at failed <;> cases failed <;> rfl

theorem contents_of_rename (renamed : file.rename = (.done, after)) :
    after.contents = file.staged := by
  unfold rename at renamed
  split at renamed <;> cases renamed
  rename_i staged _
  exact staged.symm

/-- Whatever step fails, the file is left as it was. -/
theorem contents_saveText_of_error {text : Option String}
    (failed : file.saveText text = (.error error, after)) : after.contents = file.contents := by
  unfold saveText at failed
  split at failed
  · cases failed
    rfl
  split at failed
  · cases failed
    rfl
  · rename_i made
    have staged := contents_stage file made
    split at failed <;> rename_i step <;> rw [step] at staged
    · cases failed
      exact staged
    · exact (contents_rename_of_error failed).trans staged

/-- A save that ends well had a text, and leaves it in the file. -/
theorem contents_saveText_of_ok {text : Option String}
    (saved : file.saveText text = (.done, after)) :
    ∃ made, text = some made ∧ after.contents = some made.toUTF8 := by
  unfold saveText at saved
  split at saved
  · cases saved
  split at saved
  · cases saved
  · rename_i made
    split at saved <;> rename_i step
    · cases saved
    · exact ⟨made, rfl, (contents_of_rename saved).trans (staged_of_stage step)⟩

/-- A save ends well where there is a text and nothing is in its way. -/
theorem saveText_of_fault_none (clear : file.fault = none) (text : String) :
    ∃ after, file.saveText (some text) = (.done, after) := by
  simp [saveText, makeDirectory, stage, rename, clear, Outcome.done]

/-- What was saved is what is loaded, and loading changes nothing. -/
theorem loadWith_of_saveWith (lawful : codec.Lawful) (fit : config.NumbersFit)
    (saved : file.saveWith codec config = (.done, after)) :
    after.loadWith codec = (.ok config, after) := by
  obtain ⟨text, written, contents⟩ := contents_saveText_of_ok saved
  exact loadWith_of_contents contents (Config.read_of_lawful lawful fit written)

/-- The codec of the library keeps every configuration. -/
theorem load_of_save (saved : file.save config = (.done, after)) :
    after.load = (.ok config, after) := by
  rw [save_eq] at saved
  obtain ⟨text, written, contents⟩ := contents_saveText_of_ok saved
  obtain rfl := Option.some.inj written
  exact loadWith_of_contents contents (Config.read?_render config)

/-- A configuration that was saved with a lawful codec is loaded as an equal one: whatever the
names, address texts and adapter in it, and however many devices it has. A save that does not end
well leaves the file exactly as it was, whichever of its steps failed and whatever the codec; where
nothing is in its way and the codec made a text, it ends well. The codec of the library makes a text
of every configuration, whatever its numbers, and gives the configuration back. -/
theorem save_then_load (codec : Toml.Codec) (file : ConfigFile) (config : Config) :
    (codec.Lawful → config.NumbersFit → ∀ after, file.saveWith codec config = (.done, after) →
        after.loadWith codec = (.ok config, after)) ∧
      (∀ error after, file.saveWith codec config = (.error error, after) →
        after.contents = file.contents) ∧
      (file.fault = none → ∀ text, codec.write config.entries = some text →
        ∃ after, file.saveWith codec config = (.done, after)) ∧
      (file.fault = none → ∃ after, file.save config = (.done, after)) ∧
      ∀ after, file.save config = (.done, after) → after.load = (.ok config, after) := by
  refine ⟨fun lawful fit after saved => ?_, fun error after failed => ?_,
    fun clear text written => ?_, fun clear => ?_, fun after saved => ?_⟩
  · exact loadWith_of_saveWith lawful fit saved
  · exact contents_saveText_of_error failed
  · rw [saveWith, written]
    exact saveText_of_fault_none clear text
  · rw [save_eq]
    exact saveText_of_fault_none clear config.render
  · exact load_of_save saved

/-- A device with quotes and a line break in its name: saved where nothing is in the way, and kept
out where the staging file cannot take the place of the old one. -/
theorem save_then_load_quoted :
    let config : Config := { Config.default with
      adapter := some "hci0"
      knownDevices := [⟨"00:00:00:00:00:0A", "the driver\'s \"car\"\n", .autoConnect⟩] }
    let blocked : ConfigFile := { ofBytes "psm = 1".toUTF8 with
      fault := some (.renaming .permissionDenied) }
    (Toml.codec.Lawful ∧ config.NumbersFit ∧ missing.fault = none ∧
        Toml.codec.write config.entries = some config.render ∧
        ∃ after, missing.saveWith Toml.codec config = (.done, after) ∧
          after.loadWith Toml.codec = (.ok config, after) ∧
          missing.save config = (.done, after) ∧ after.load = (.ok config, after)) ∧
      ∃ after, blocked.saveWith Toml.codec config = (.error (.system .permissionDenied), after) ∧
        after.contents = some "psm = 1".toUTF8 := by
  intro config blocked
  have written := config.write_entries
  have fit : config.NumbersFit := ⟨by decide, by decide⟩
  obtain ⟨kept, -, ends, -, own⟩ := save_then_load Toml.codec missing config
  obtain ⟨after, saved⟩ := ends rfl _ written
  have failed : blocked.saveWith Toml.codec config = (.error (.system .permissionDenied),
      { blocked with staged := some config.render.toUTF8 }) := by
    rw [saveWith, written]
    rfl
  refine ⟨⟨Toml.lawful_codec, fit, rfl, written, after, saved,
    kept Toml.lawful_codec fit after saved, saved, own after saved⟩, _, failed, ?_⟩
  exact (save_then_load Toml.codec blocked config).2.1 _ _ failed

end ConfigFile

end AccessoryLink
