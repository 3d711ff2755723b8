import LinkProbe.Mode
import LinkProbe.State
import LinkProbe.Stats

/-!
# Reports

* `Termination`: how a session ends without a failure.
* `Report`: what is known of a session afterwards.
-/

namespace LinkProbe

/-- How a session ends without a failure. -/
inductive Termination where
  /-- All payloads have been sent. -/
  | completed
  /-- The peer has closed the connection. -/
  | peerClosed
  /-- The probe was asked to stop. -/
  | shutdown
deriving DecidableEq, Repr

namespace Termination

/-- The words for the ending. -/
def text : Termination → String
  | .completed => "completed"
  | .peerClosed => "peer closed"
  | .shutdown => "shutdown"

/-- The word for the ending in a document. -/
def name : Termination → String
  | .completed => "completed"
  | .peerClosed => "peer_closed"
  | .shutdown => "shutdown"

/-- The endings by the word for them in a document. -/
def names : List (String × Termination) :=
  [.completed, .peerClosed, .shutdown].map fun t => (t.name, t)

end Termination

/-- The summary of a session. -/
structure Report where
  /-- When the session ended. -/
  timestamp : String
  /-- The name and port that the probe connected to. -/
  target : String
  mode : Mode
  /-- How many whole seconds the session took. -/
  seconds : Nat
  /-- Where the connection stood at the end. -/
  finalState : State
  termination : Termination
  stats : Stats
deriving DecidableEq, Repr

end LinkProbe
