import LinkProbe.Config
import LinkProbe.Decoder
import LinkProbe.State

/-!
# Failures of a session

* `ConnectKind.classify`: what the failure of a connection attempt means.
* `Fault.message`: the wording of a failure.
* `Fault.chain`: the wording followed by that of the failure behind it.
-/

namespace LinkProbe

/-- Why there is no connection. -/
inductive ConnectKind where
  /-- No way leads to the machine, or the attempt failed in some other way. -/
  | unreachable
  /-- Nothing listens at the port. -/
  | refused
  /-- No answer came in time. -/
  | timeout
  /-- The name has no address. -/
  | dnsFailure
deriving DecidableEq, Repr

namespace ConnectKind

/-- The words for the kind. -/
def text : ConnectKind → String
  | .unreachable => "unreachable"
  | .refused => "refused"
  | .timeout => "timeout"
  | .dnsFailure => "dns failure"

/-- What the failure of a connection attempt means. -/
def classify (failure : IoFailure) : ConnectKind :=
  match failure.kind with
  | .connectionRefused => .refused
  | .timedOut => .timeout
  | _ => .unreachable

end ConnectKind

/-- A failure that ends a session. -/
inductive Fault where
  | config (fault : ConfigFault)
  | connect (target : String) (kind : ConnectKind) (source : IoFailure)
  | write (source : IoFailure)
  | read (source : IoFailure)
  | decode (malformed : Malformed)
  | transition (before after : State)
  | output (source : IoFailure)
deriving DecidableEq, Repr

namespace Fault

/-- A byte as two hexadecimal digits. -/
def hexByte (b : UInt8) : String :=
  .ofList [Nat.digitChar (b.toNat / 16), Nat.digitChar (b.toNat % 16)]

/-- Bytes as a list in brackets. -/
def hexList (bytes : List UInt8) : String := "[" ++ ", ".intercalate (bytes.map hexByte) ++ "]"

/-- The wording of the failure. -/
def message : Fault → String
  | .config fault => s!"Configuration error: {fault.message}"
  | .connect target kind source => s!"Failed to connect to {target} ({kind.text}): {source.message}"
  | .write source => s!"Write failed: {source.message}"
  | .read source => s!"Read failed: {source.message}"
  | .decode malformed => s!"Invalid UTF-8 at byte {malformed.offset}: {hexList malformed.bytes}"
  | .transition before after =>
    s!"Illegal connection state transition: {before.name} -> {after.name}"
  | .output source => s!"Output error: {source.message}"

/-- The failure of the system behind the failure. -/
def source? : Fault → Option IoFailure
  | .connect _ _ source | .write source | .read source | .output source => some source
  | .config _ | .decode _ | .transition _ _ => none

/-- The wording of the failure and of the one behind it. -/
def chain (f : Fault) : List String := f.message :: f.source?.toList.map IoFailure.message

end Fault

end LinkProbe
