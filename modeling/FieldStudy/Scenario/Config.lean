import FieldStudy.Json.Decoder

/-!
# Configuration

What a host sets for all runs. Every setting has a default.
-/

namespace FieldStudy

/-- The system that a run takes place on. -/
structure SystemInfo where
  osType : String := ""
  osVersion : String := ""
  deviceModel : String := ""
  deviceManufacturer : String := ""
deriving DecidableEq, Repr

namespace SystemInfo

def decoder : Decoder SystemInfo := fun s => do
  let m ← Decoder.members? ["os_type", "os_version", "device_model", "device_manufacturer"] s
  return ⟨← m.required "os_type" Decoder.string, ← m.required "os_version" Decoder.string,
    ← m.required "device_model" Decoder.string,
    ← m.required "device_manufacturer" Decoder.string⟩

def toJson (i : SystemInfo) : Json :=
  .obj [("os_type", .str i.osType), ("os_version", .str i.osVersion),
    ("device_model", .str i.deviceModel), ("device_manufacturer", .str i.deviceManufacturer)]

end SystemInfo

/-- The application that records. -/
structure AppInfo where
  type : String := "cdc-mobile-app"
  version : String := "0.1.0"
deriving DecidableEq, Repr

namespace AppInfo

def decoder : Decoder AppInfo := fun s => do
  let m ← Decoder.members? ["app_type", "app_version"] s
  return ⟨← m.required "app_type" Decoder.string, ← m.required "app_version" Decoder.string⟩

def toJson (i : AppInfo) : Json :=
  .obj [("app_type", .str i.type), ("app_version", .str i.version)]

end AppInfo

structure Config where
  /-- The folder that holds one folder for each run. -/
  dataRoot : String := "scenarios"
  app : AppInfo := {}
  system : SystemInfo := { osType := "linux" }
  /-- After how many writes a logger appends to its file. -/
  loggerBufferCount : Nat := 10
  /-- The interval of a listener whose sensor has none set, in milliseconds. -/
  reportIntervalMs : Nat := 100
  micSampleRate : Nat := 16000
  micChannels : Nat := 2
  metadataVersion : Nat := 1
deriving DecidableEq, Repr

namespace Config

def fieldNames : List String :=
  ["data_root", "app_info", "system_info", "logger_buffer_count", "default_report_interval_ms",
    "mic_sample_rate", "mic_channels", "metadata_version"]

def decoder : Decoder Config := fun s => do
  let m ← Decoder.members? fieldNames s
  let standard : Config := {}
  return ⟨← m.withDefault "data_root" standard.dataRoot Decoder.string,
    ← m.withDefault "app_info" standard.app AppInfo.decoder,
    ← m.withDefault "system_info" standard.system SystemInfo.decoder,
    ← m.withDefault "logger_buffer_count" standard.loggerBufferCount (Decoder.natural 64),
    ← m.withDefault "default_report_interval_ms" standard.reportIntervalMs (Decoder.natural 64),
    ← m.withDefault "mic_sample_rate" standard.micSampleRate (Decoder.natural 32),
    ← m.withDefault "mic_channels" standard.micChannels (Decoder.natural 16),
    ← m.withDefault "metadata_version" standard.metadataVersion (Decoder.natural 32)⟩

def toJson (c : Config) : Json :=
  .obj [("data_root", .str c.dataRoot), ("app_info", c.app.toJson),
    ("system_info", c.system.toJson), ("logger_buffer_count", .int c.loggerBufferCount),
    ("default_report_interval_ms", .int c.reportIntervalMs),
    ("mic_sample_rate", .int c.micSampleRate), ("mic_channels", .int c.micChannels),
    ("metadata_version", .int c.metadataVersion)]

end Config

end FieldStudy
