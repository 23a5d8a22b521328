import PrintJob.Json.Fields
import PrintJob.Settings.Basic

/-! # Settings as JSON -/

namespace PrintJob

namespace Application

def fieldNames : List String := ["app_name", "app_version", "os_name"]

def toJson (source : Application) : Json :=
  .record
    [("app_name", .text source.name), ("app_version", .text source.version),
      ("os_name", .text source.system)]

def ofJson? (value : Json) : Option Application := do
  let fields ← value.fields? fieldNames 0
  let default : Application := {}
  let name ← fields.read "app_name" Json.toText? (some default.name)
  let version ← fields.read "app_version" Json.toText? (some default.version)
  let system ← fields.read "os_name" Json.toText? (some default.system)
  some { name, version, system }

end Application

namespace Settings

def fieldNames : List String := ["version", "source", "capability_timeout_ms", "debug_dir"]

def toJson (settings : Settings) : Json :=
  .record
    [("version", .nat settings.version.toNat), ("source", settings.source.toJson),
      ("capability_timeout_ms", .nat settings.timeoutMs.toNat),
      ("debug_dir", .ofOption .text settings.debugDir)]

def ofJson? (value : Json) : Option Settings := do
  let fields ← value.fields? fieldNames 0
  let default : Settings := {}
  let version ← fields.read "version" Json.toUInt32? (some default.version)
  let source ← fields.read "source" Application.ofJson? (some default.source)
  let timeoutMs ←
    fields.read "capability_timeout_ms" Json.toUInt64? (some default.timeoutMs)
  let debugDir ← fields.read "debug_dir" (Json.toOption? Json.toText?) (some default.debugDir)
  some { version, source, timeoutMs, debugDir }

end Settings

end PrintJob
