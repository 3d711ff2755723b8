/-!
# Traffic counters

* `Stats.recordSend`, `Stats.recordChunk`, `Stats.recordReplacements`: what each event adds.
-/

namespace LinkProbe

/-- What has gone over the connection. The program keeps its counters in 64 bits, and no session
goes on until one of them is full: here they have no end. -/
structure Stats where
  messagesSent : Nat
  bytesSent : Nat
  chunksReceived : Nat
  bytesReceived : Nat
  /-- How often U+FFFD stands for received bytes that begin no character. -/
  replacements : Nat
deriving DecidableEq, Repr

namespace Stats

/-- Nothing has gone over the connection. -/
def zero : Stats := ⟨0, 0, 0, 0, 0⟩

/-- Counts a payload of the given size. -/
def recordSend (s : Stats) (bytes : Nat) : Stats :=
  { s with messagesSent := s.messagesSent + 1, bytesSent := s.bytesSent + bytes }

/-- Counts a received chunk of the given size. -/
def recordChunk (s : Stats) (bytes : Nat) : Stats :=
  { s with chunksReceived := s.chunksReceived + 1, bytesReceived := s.bytesReceived + bytes }

/-- Counts replacements. -/
def recordReplacements (s : Stats) (count : Nat) : Stats :=
  { s with replacements := s.replacements + count }

end Stats

end LinkProbe
