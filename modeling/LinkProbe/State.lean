/-!
# The life of a connection

A connection is not yet begun, being made, usable, or over. It moves forward only, and an attempt
that fails goes straight to the end.

* `State.allows`: the moves.
-/

namespace LinkProbe

/-- Where a connection stands. -/
inductive State where
  /-- Not yet tried. -/
  | init
  /-- Being made. -/
  | connecting
  /-- Usable. -/
  | opened
  /-- Failed, closed by either side, or broken. -/
  | closed
deriving DecidableEq, Repr

namespace State

/-- The word for the state. -/
def name : State → String
  | .init => "init"
  | .connecting => "connecting"
  | .opened => "open"
  | .closed => "closed"

/-- The states by name. -/
def names : List (String × State) :=
  [.init, .connecting, .opened, .closed].map fun s => (s.name, s)

/-- Whether a connection may move from one state to the other. -/
def allows : State → State → Bool
  | .init, .connecting | .connecting, .opened | .connecting, .closed | .opened, .closed => true
  | _, _ => false

/-- No move leads out of the state. -/
def isTerminal (s : State) : Bool := s = .closed

/-- The state after an attempt to move: a move that is not allowed is not made. -/
def attempt (s next : State) : State := if s.allows next then next else s

end State

end LinkProbe
