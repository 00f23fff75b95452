import AccessoryLink.Config.Basic
import AccessoryLink.Toml.Document

/-!
# The text of a configuration

A configuration is written as a document of its `entries`, and `ofEntries?` makes a configuration of
the entries of a document. Reading is liberal: a setting that is missing has its default, and a key
that is not known is passed over. A value of a wrong type, or a number that does not fit, makes the
whole document unreadable.
-/

namespace AccessoryLink.Config

open Toml

/-! ## Writing -/

/-- The entries of a known device. -/
def deviceEntries (device : KnownDevice) : Entries :=
  [("address", .string device.address), ("name", .string device.name),
    ("priority", .string device.priority.name)]

/-- The entry for the adapter, if one is chosen. -/
def adapterEntries : Option String → Entries
  | some adapter => [("adapter", .string adapter)]
  | none => []

/-- The settings other than the known devices. -/
def settings (config : Config) : Entries :=
  [("connect_timeout_secs", .integer config.connectTimeoutSecs.toNat),
      ("quiet_mode", .boolean config.quietMode), ("psm", .integer config.psm.toNat)] ++
    adapterEntries config.adapter ++
    [("link_poll_interval_secs", .integer config.linkPollIntervalSecs.toNat)]

/-- The tables of the known devices. -/
def deviceTables (devices : List KnownDevice) : List Value :=
  devices.map fun device => .table .header (deviceEntries device)

/-- The entries of a configuration. -/
def entries (config : Config) : Entries :=
  config.settings ++
    [("known_devices", .array (!config.knownDevices.isEmpty) (deviceTables config.knownDevices))]

/-- The text of a configuration. -/
def render (config : Config) : String := Toml.write config.entries

/-- The keys of a configuration need no quotes, and each stands once. -/
theorem areKeys_entries (config : Config) : areKeys (config.entries.map Prod.fst) = true := by
  cases adapter : config.adapter with
  | none =>
    have keys : config.entries.map Prod.fst =
        ["connect_timeout_secs", "quiet_mode", "psm", "link_poll_interval_secs",
          "known_devices"] := by simp [entries, settings, adapter, adapterEntries]
    rw [keys]
    decide
  | some name =>
    have keys : config.entries.map Prod.fst =
        ["connect_timeout_secs", "quiet_mode", "psm", "adapter", "link_poll_interval_secs",
          "known_devices"] := by simp [entries, settings, adapter, adapterEntries]
    rw [keys]
    decide

theorem isBrief_natCast {n : Nat} (small : n < UInt64.size) :
    (Value.integer n).isBrief = true := by
  have below : (n : Int) < ((1 <<< 128 : Nat) : Int) :=
    Int.ofNat_lt.mpr (Nat.lt_trans small (by decide))
  simp only [Value.isBrief, decide_eq_true_eq]
  exact ⟨Int.natCast_nonneg n, below⟩

theorem isBrief_string (text : String) : (Value.string text).isBrief = true := rfl

theorem settings_written (config : Config) : config.settings.all (·.2.isBrief) = true := by
  have timeout := isBrief_natCast config.connectTimeoutSecs.toNat_lt
  have quiet : (Value.boolean config.quietMode).isBrief = true := rfl
  have psm := isBrief_natCast (Nat.lt_trans config.psm.toNat_lt (by decide))
  have poll := isBrief_natCast config.linkPollIntervalSecs.toNat_lt
  cases adapter : config.adapter <;>
    simp [settings, adapter, adapterEntries, timeout, quiet, psm, poll, isBrief_string]

/-- A known device is a table with a line for each of its entries. -/
theorem isItem_table (device : KnownDevice) :
    (Value.table .header (deviceEntries device)).isItem = true := by
  have keys : areKeys ["address", "name", "priority"] = true := by decide
  simp [Value.isItem, deviceEntries, keys, isBrief_string]

/-- A list of known devices is written on one line if it is empty, and table by table if not. -/
theorem devices_written (devices : List KnownDevice) :
    let value := Value.array (!devices.isEmpty) (deviceTables devices)
    (value.isBrief || value.isListing) = true := by
  cases devices with
  | nil => rfl
  | cons device rest =>
    simp [Value.isListing, deviceTables, isItem_table]

/-- The entries of a configuration are in a form that can be written. -/
theorem isPlainTable_entries (config : Config) : isPlainTable config.entries = true := by
  have brief : config.entries.dropLast.all (·.2.isBrief) = true := by
    rw [entries, List.dropLast_concat]
    exact config.settings_written
  have last := devices_written config.knownDevices
  simp only [isPlainTable, areKeys_entries, brief, Bool.and_self, Bool.true_and]
  simpa [entries] using last

theorem write_entries (config : Config) : Toml.codec.write config.entries = some config.render :=
  if_pos config.isPlainTable_entries

/-! ## Reading -/

/-- A string. -/
def stringValue? : Value → Option String
  | .string text => some text
  | _ => none

/-- A truth value. -/
def boolValue? : Value → Option Bool
  | .boolean value => some value
  | _ => none

/-- A number from zero to below `bound`. -/
def natValue? (bound : Nat) : Value → Option Nat
  | .integer n => if 0 ≤ n ∧ n < bound then some n.toNat else none
  | _ => none

/-- Whether a value is an array or table with nothing in it. -/
def isEmptyValue : Value → Bool
  | .array _ items => items.isEmpty
  | .table _ entries => entries.isEmpty
  | _ => false

/-- A priority: its name, or a table in which the name is the only key and stands for nothing. -/
def priorityValue? : Value → Option Priority
  | .string name => Priority.ofName? name
  | .table _ [(name, content)] => if isEmptyValue content then Priority.ofName? name else none
  | _ => none

/-- The value under a key, read in some way; `missing` where there is none. -/
def field? {α : Type} (entries : Entries) (key : String) (read : Value → Option α)
    (missing : Option α) : Option α :=
  match entries.get? key with
  | some value => read value
  | none => missing

/-- A known device: a table, or an array of its settings in order. -/
def deviceValue? : Value → Option KnownDevice
  | .table _ entries =>
    match field? entries "address" stringValue? none, field? entries "name" stringValue? none,
      field? entries "priority" priorityValue? (some .undefined) with
    | some address, some name, some priority => some ⟨address, name, priority⟩
    | _, _, _ => none
  | .array _ (address :: name :: rest) =>
    match stringValue? address, stringValue? name,
      (match rest with | [] => some .undefined | priority :: _ => priorityValue? priority) with
    | some address, some name, some priority => some ⟨address, name, priority⟩
    | _, _, _ => none
  | _ => none

/-- A list of known devices. -/
def devicesValue? : Value → Option (List KnownDevice)
  | .array _ items => items.mapM deviceValue?
  | _ => none

/-- The configuration that the entries of a document make. -/
def ofEntries? (entries : Entries) : Option Config := do
  let number (bound : Nat) := natValue? bound
  let connectTimeout ← field? entries "connect_timeout_secs" (number UInt64.size)
    (some default.connectTimeoutSecs.toNat)
  let quietMode ← field? entries "quiet_mode" boolValue? (some default.quietMode)
  let psm ← field? entries "psm" (number UInt16.size) (some default.psm.toNat)
  let adapter ← field? entries "adapter" (fun v => (stringValue? v).map some) (some default.adapter)
  let pollInterval ← field? entries "link_poll_interval_secs" (number UInt64.size)
    (some default.linkPollIntervalSecs.toNat)
  let knownDevices ← field? entries "known_devices" devicesValue? (some default.knownDevices)
  return {
    connectTimeoutSecs := UInt64.ofNat connectTimeout
    quietMode := quietMode
    psm := UInt16.ofNat psm
    adapter := adapter
    linkPollIntervalSecs := UInt64.ofNat pollInterval
    knownDevices := knownDevices }

/-- Reads the text of a configuration. -/
def read? (text : String) : Option Config := (Toml.codec.read text).bind ofEntries?

end AccessoryLink.Config
