import LinkProbe.Config
import LinkProbe.Json.Printer
import LinkProbe.Json.Record
import LinkProbe.Text.Utf8

/-!
# Configurations as documents

A configuration is an object whose keys are the settings. A setting that is absent keeps its
standard value; a key that is no setting is refused.

* `Config.ofJson`: reads a document.
* `Config.ofFile`: reads the document of a file.
* `Config.toJson`: writes all settings.
-/

namespace LinkProbe

namespace Json

/-- Reads a whole number of sixteen bits. -/
def natural16 : Reader UInt16 := fun rest =>
  (naturalUpTo (UInt16.size - 1) "u16" rest).map fun (value, rest) => (.ofNat value, rest)

/-- Reads a whole number of 64 bits; `wanted` names what it is for. -/
def word64 (wanted : String) : Reader UInt64 := fun rest =>
  (naturalUpTo natural64 wanted rest).map fun (value, rest) => (.ofNat value, rest)

end Json

namespace Config

/-- The settings that a document has given so far. -/
structure Draft where
  host : Option String
  port : Option UInt16
  mode : Option Mode
  intervalMs : Option UInt64
  count : Option (Option UInt64)
  connectTimeoutMs : Option (Option UInt64)
  strictUtf8 : Option Bool
  readBufferSize : Option UInt64

/-- The settings as fields of an object. -/
def fields : List (Json.Field Draft) := [
  .of "host" Draft.host (fun d host => { d with host }) Json.text,
  .of "port" Draft.port (fun d port => { d with port }) Json.natural16,
  .of "mode" Draft.mode (fun d mode => { d with mode }) (Json.variant Mode.spellings),
  .of "interval_ms" Draft.intervalMs (fun d intervalMs => { d with intervalMs })
    (Json.word64 "u64"),
  .of "count" Draft.count (fun d count => { d with count := some count })
    (Json.nullable (Json.word64 "u64")),
  .of "connect_timeout_ms" Draft.connectTimeoutMs
    (fun d timeout => { d with connectTimeoutMs := some timeout })
    (Json.nullable (Json.word64 "u64")),
  .of "strict_utf8" Draft.strictUtf8 (fun d strictUtf8 => { d with strictUtf8 }) Json.boolean,
  .of "read_buffer_size" Draft.readBufferSize (fun d readBufferSize => { d with readBufferSize })
    (Json.word64 "usize")]

/-- The configuration in which the draft's gaps have their standard values. -/
def ofDraft (d : Draft) : Config where
  host := d.host.getD standard.host
  port := d.port.getD standard.port
  mode := d.mode.getD standard.mode
  intervalMs := d.intervalMs.getD standard.intervalMs
  count := d.count.getD standard.count
  connectTimeoutMs := d.connectTimeoutMs.getD standard.connectTimeoutMs
  strictUtf8 := d.strictUtf8.getD standard.strictUtf8
  readBufferSize := d.readBufferSize.getD standard.readBufferSize

/-- A configuration as a record. -/
def record : Json.Record Draft Config where
  name := "ProbeConfig"
  fields := fields
  blank := ⟨none, none, none, none, none, none, none, none⟩
  build d := some (ofDraft d)
  closed := true

/-- Reads a configuration. -/
def ofJson (document : String) : Except ConfigFault Config :=
  (Json.read record.reader document).mapError .malformed

/-- A file that holds bytes which are no text. -/
def notText : IoFailure := .stated .invalidData "stream did not contain valid UTF-8"

/-- Reads the configuration of a file, given what reading the file yields. -/
def ofFile (path : String) (content : Except IoFailure (List UInt8)) : Except ConfigFault Config :=
  match content with
  | .error failure => .error (.unreadable path failure)
  | .ok bytes =>
    match Utf8.decode? bytes with
    | some document => ofJson document
    | none => .error (.unreadable path notText)

/-- A setting that may be absent. -/
def optional (value : Option UInt64) : Json.Value :=
  match value with
  | some value => .natural value.toNat
  | none => .null

/-- All settings as an object. -/
def toJson (c : Config) : Json.Value := .object [
  ("host", .text c.host),
  ("port", .natural c.port.toNat),
  ("mode", .text c.mode.name),
  ("interval_ms", .natural c.intervalMs.toNat),
  ("count", optional c.count),
  ("connect_timeout_ms", optional c.connectTimeoutMs),
  ("strict_utf8", .boolean c.strictUtf8),
  ("read_buffer_size", .natural c.readBufferSize.toNat)]

end Config

end LinkProbe
