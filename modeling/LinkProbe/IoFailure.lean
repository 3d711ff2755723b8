/-!
# Failures of the system

What the operating system or a sink answers when a read, a write or a connection attempt fails.

* `IoFailure.kind`: the class of a failure, by which a failed connection attempt is judged.
* `IoFailure.message`: its text.
-/

namespace LinkProbe

/-- The class of a failure. -/
inductive IoKind where
  | notFound
  | permissionDenied
  | connectionRefused
  | connectionReset
  | hostUnreachable
  | networkUnreachable
  | connectionAborted
  | notConnected
  | addressInUse
  | addressNotAvailable
  | networkDown
  | brokenPipe
  | alreadyExists
  | wouldBlock
  | notADirectory
  | isADirectory
  | invalidInput
  | invalidData
  | timedOut
  | writeZero
  | storageFull
  | interrupted
  | unsupported
  | unexpectedEnd
  | outOfMemory
  | other
deriving DecidableEq, Repr

/-- The text of a failure of which nothing but the class is known. -/
def IoKind.text : IoKind → String
  | .notFound => "entity not found"
  | .permissionDenied => "permission denied"
  | .connectionRefused => "connection refused"
  | .connectionReset => "connection reset"
  | .hostUnreachable => "host unreachable"
  | .networkUnreachable => "network unreachable"
  | .connectionAborted => "connection aborted"
  | .notConnected => "not connected"
  | .addressInUse => "address in use"
  | .addressNotAvailable => "address not available"
  | .networkDown => "network down"
  | .brokenPipe => "broken pipe"
  | .alreadyExists => "entity already exists"
  | .wouldBlock => "operation would block"
  | .notADirectory => "not a directory"
  | .isADirectory => "is a directory"
  | .invalidInput => "invalid input parameter"
  | .invalidData => "invalid data"
  | .timedOut => "timed out"
  | .writeZero => "write zero"
  | .storageFull => "no storage space"
  | .interrupted => "operation interrupted"
  | .unsupported => "unsupported"
  | .unexpectedEnd => "unexpected end of file"
  | .outOfMemory => "out of memory"
  | .other => "other error"

/-- A failure. -/
inductive IoFailure where
  /-- Only the class is known. -/
  | plain (kind : IoKind)
  /-- The failure comes with a text of its own. -/
  | stated (kind : IoKind) (text : String)
  /-- The operating system answers with a number. -/
  | system (number : Nat)
deriving DecidableEq, Repr

namespace IoFailure

/-- What the operating system's numbers mean. -/
def systemNumbers : List (Nat × IoKind × String) := [
  (1, .permissionDenied, "Operation not permitted"),
  (2, .notFound, "No such file or directory"),
  (4, .interrupted, "Interrupted system call"),
  (11, .wouldBlock, "Resource temporarily unavailable"),
  (13, .permissionDenied, "Permission denied"),
  (20, .notADirectory, "Not a directory"),
  (21, .isADirectory, "Is a directory"),
  (22, .invalidInput, "Invalid argument"),
  (28, .storageFull, "No space left on device"),
  (32, .brokenPipe, "Broken pipe"),
  (98, .addressInUse, "Address already in use"),
  (99, .addressNotAvailable, "Cannot assign requested address"),
  (100, .networkDown, "Network is down"),
  (101, .networkUnreachable, "Network is unreachable"),
  (103, .connectionAborted, "Software caused connection abort"),
  (104, .connectionReset, "Connection reset by peer"),
  (106, .other, "Transport endpoint is already connected"),
  (107, .notConnected, "Transport endpoint is not connected"),
  (110, .timedOut, "Connection timed out"),
  (111, .connectionRefused, "Connection refused"),
  (112, .other, "Host is down"),
  (113, .hostUnreachable, "No route to host"),
  (115, .other, "Operation now in progress")]

/-- The class of the failure. -/
def kind : IoFailure → IoKind
  | .plain kind => kind
  | .stated kind _ => kind
  | .system number => ((systemNumbers.lookup number).map Prod.fst).getD .other

/-- The text of the failure. -/
def message : IoFailure → String
  | .plain kind => kind.text
  | .stated _ text => text
  | .system number =>
    let text := ((systemNumbers.lookup number).map Prod.snd).getD s!"Unknown error {number}"
    s!"{text} (os error {number})"

/-! ## Failures that the probe meets -/

/-- There is no such file. -/
def noSuchFile : IoFailure := .system 2

/-- The path is a directory. -/
def isDirectory : IoFailure := .system 21

/-- The device is full. -/
def noSpace : IoFailure := .system 28

/-- There is no way to the address. -/
def unreachableNetwork : IoFailure := .system 101

/-- The peer has broken the connection off. -/
def resetByPeer : IoFailure := .system 104

/-- Nothing listens at the address. -/
def refused : IoFailure := .system 111

end IoFailure

end LinkProbe
