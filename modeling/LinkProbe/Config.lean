import LinkProbe.Address.Endpoint
import LinkProbe.IoFailure
import LinkProbe.Json.Fault
import LinkProbe.Mode
import LinkProbe.Text.Blank

/-!
# Configuration

What a session needs to know, and when it makes sense.

* `Config.standard`: the values that stand where nobody says otherwise.
* `Config.validate`: the first thing that is wrong with a configuration.
-/

namespace LinkProbe

/-- The settings of a session. -/
structure Config where
  /-- The name or address of the machine to connect to. -/
  host : String
  port : UInt16
  mode : Mode
  /-- The time between two payloads, in milliseconds. -/
  intervalMs : UInt64
  /-- The number of payloads after which sending stops. -/
  count : Option UInt64
  /-- How long to wait for the connection, in milliseconds. -/
  connectTimeoutMs : Option UInt64
  /-- Bytes that begin no character end the session instead of being replaced. -/
  strictUtf8 : Bool
  /-- The most bytes that are read at once. -/
  readBufferSize : UInt64
deriving DecidableEq, Repr

/-- What is wrong with a configuration. -/
inductive ConfigFault where
  /-- The document is not a configuration. -/
  | malformed (fault : Json.Fault)
  /-- The file with the document cannot be read. -/
  | unreadable (path : String) (failure : IoFailure)
  | blankHost
  | zeroPort
  | zeroInterval
  | zeroTimeout
  | bufferSize
  /-- A fault that is put in words by whoever found it. -/
  | stated (text : String)
deriving DecidableEq, Repr

namespace Config

/-- The largest buffer for one read. -/
def maxReadBufferSize : UInt64 := 1048576

/-- The settings that stand where nobody says otherwise. -/
def standard : Config where
  host := "0.0.0.0"
  port := 8999
  mode := .send
  intervalMs := 1000
  count := none
  connectTimeoutMs := none
  strictUtf8 := false
  readBufferSize := 1024

/-- The name and port that the session connects to. -/
def target (c : Config) : String := targetText c.host c.port

/-- Whether the settings make sense; if not, the first thing that is wrong. -/
def validate (c : Config) : Except ConfigFault Unit :=
  if Text.isBlankText c.host then .error .blankHost
  else if c.port = 0 then .error .zeroPort
  else if c.intervalMs = 0 then .error .zeroInterval
  else if c.connectTimeoutMs = some 0 then .error .zeroTimeout
  else if c.readBufferSize = 0 ∨ maxReadBufferSize < c.readBufferSize then .error .bufferSize
  else .ok ()

end Config

/-- The wording of a fault. -/
def ConfigFault.message : ConfigFault → String
  | .malformed fault => s!"invalid config: {fault.message}"
  | .unreadable path failure => s!"failed to read config file {path}: {failure.message}"
  | .blankHost => "host must not be empty"
  | .zeroPort => "port must be in 1..=65535"
  | .zeroInterval => "interval must be >= 1 ms"
  | .zeroTimeout => "connect timeout must be >= 1 ms"
  | .bufferSize => s!"read buffer size must be in 1..={Config.maxReadBufferSize.toNat}"
  | .stated text => text

end LinkProbe
