import LinkProbe.Address.Endpoint
import LinkProbe.Decoder
import LinkProbe.IoFailure
import LinkProbe.Report
import LinkProbe.Text.Quoted

/-!
# What the log tells

* `Event`: what happens in a session.
* `Event.line`: how the log tells it.
-/

namespace LinkProbe

/-- How important a line of the log is. -/
inductive Level where
  | debug
  | info
  | warning
  | error
deriving DecidableEq, Repr

namespace Level

/-- The word for the level. -/
def name : Level → String
  | .debug => "DEBUG"
  | .info => "INFO"
  | .warning => "WARN"
  | .error => "ERROR"

/-- The place of the level among the others, the least important first. -/
def rank : Level → Nat
  | .debug => 0
  | .info => 1
  | .warning => 2
  | .error => 3

/-- Whether a log shows lines of this level if it shows lines from the level `least` on. -/
def shown (least level : Level) : Bool := least.rank ≤ level.rank

end Level

/-- A line of the log. -/
structure LogLine where
  level : Level
  text : String
deriving DecidableEq, Repr

/-- The level and the text. -/
def LogLine.render (l : LogLine) : String := s!"{l.level.name} {l.text}"

/-- What happens in a session. -/
inductive Event where
  /-- The session sets out to connect. -/
  | connecting (target : String)
  /-- The connection moves from one state to the other. -/
  | moved (before after : State)
  /-- An address is tried. -/
  | trying (address : Endpoint)
  /-- The address that was tried is of no use. -/
  | attemptFailed (address : Endpoint) (failure : IoFailure)
  | connected (peer localEnd : Endpoint)
  /-- A read has found the end of what the peer sends. -/
  | peerClosed (peer : Endpoint)
  /-- The probe has closed the connection. -/
  | closed (peer : Endpoint)
  /-- Sending begins. -/
  | sending (intervalMs : Nat) (count : Option Nat)
  | sent (payload : String)
  /-- Sending is over; the next payload would have had the given number. -/
  | senderStopped (next : Nat)
  /-- Receiving begins. -/
  | logging (mode : DecodeMode)
  | received (bytes : Nat)
  /-- The peer has closed the connection within a character. -/
  | unfinished (bytes : Nat)
  /-- The user has interrupted the program. -/
  | interrupted
  /-- The time that the user has set is over. -/
  | timeOver
  /-- The session was asked to stop. -/
  | stopping
  | ended (termination : Termination)
deriving DecidableEq, Repr

namespace Event

/-- How important the event is. -/
def level : Event → Level
  | .moved _ _ | .trying _ | .attemptFailed _ _ | .sent _ | .senderStopped _ | .received _
  | .unfinished _ => .debug
  | .connecting _ | .connected _ _ | .peerClosed _ | .closed _ | .sending _ _ | .logging _
  | .interrupted | .timeOver | .stopping | .ended _ => .info

/-- The event in words. -/
def text : Event → String
  | .connecting target => s!"Connecting to {target}..."
  | .moved before after => s!"Connection state: {before.name} -> {after.name}"
  | .trying address => s!"Connecting to {address.text}..."
  | .attemptFailed address failure => s!"Connect to {address.text} failed: {failure.message}"
  | .connected peer localEnd => s!"Connected to {peer.text} from {localEnd.text}"
  | .peerClosed peer => s!"Peer {peer.text} closed the connection"
  | .closed peer => s!"Connection to {peer.text} closed"
  | .sending intervalMs none => s!"Sending every {intervalMs} ms"
  | .sending intervalMs (some count) => s!"Sending every {intervalMs} ms, {count} messages"
  | .sent payload => s!"Sent {Text.quoted payload}"
  | .senderStopped next => s!"Sender stopped before payload {next}"
  | .logging mode => s!"Logging received data ({mode.label} UTF-8)"
  | .received bytes => s!"Received chunk of {bytes} bytes"
  | .unfinished bytes => s!"Peer closed with {bytes} bytes of an unfinished character"
  | .interrupted => "Interrupted, shutting down..."
  | .timeOver => "Duration reached, shutting down..."
  | .stopping => "Shutdown requested, closing connection..."
  | .ended termination => s!"Session ended: {termination.text}"

/-- The line of the log that tells of the event. -/
def line (e : Event) : LogLine := ⟨e.level, e.text⟩

end Event

end LinkProbe
