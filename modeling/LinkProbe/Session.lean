import LinkProbe.Receiver
import LinkProbe.Sender

/-!
# Sessions

A session opens one connection, sends or receives on it and closes it.

* `Session.runMode`: what is done on the open connection.
* `Session.run`: the session from its configuration to its report.
-/

namespace LinkProbe

/-- When a session is asked to stop. -/
inductive Moment where
  | never
  /-- That many milliseconds after the connection is opened. What is due just then does not
  happen. -/
  | after (milliseconds : Nat)
  /-- The same, but what is due just then still happens. -/
  | past (milliseconds : Nat)
  /-- When the peer has nothing more to send and waits, all it sent having been read. -/
  | drained
  /-- When so many chunks have been received, before the next read. -/
  | received (count : Nat)
  /-- While the payload with this number is being written and so many of its bytes have gone out, if
  it is longer. -/
  | cutting (number bytes : Nat)
deriving DecidableEq, Repr

namespace Moment

/-- Whether the request ends a wait for a peer that is silent. -/
def endsWait : Moment → Bool
  | after _ | past _ | drained => true
  | never | received _ | cutting _ _ => false

/-- The time at which the request comes, when work has waited for it from `elapsedMs` on. -/
def elapsed (elapsedMs : Nat) : Moment → Nat
  | after milliseconds | past milliseconds => milliseconds
  | never | drained | received _ | cutting _ _ => elapsedMs

/-- The number of chunks after which the request comes, if that is when it comes. -/
def chunks : Moment → Option Nat
  | after 0 => some 0
  | received count => some count
  | never | after (_ + 1) | past _ | drained | cutting _ _ => none

/-- What has gone out of the payload that the request cuts off. -/
def begun (number : Nat) : Moment → List UInt8
  | cutting _ bytes => (bytesOf (payload number)).dropLast.take bytes
  | never | after _ | past _ | drained | received _ => []

end Moment

/-- A request to stop. -/
structure Shutdown where
  moment : Moment
  /-- What the log tells when it comes. -/
  notes : List Event
deriving DecidableEq, Repr

/-- A request that does not come. -/
def Shutdown.never : Shutdown := ⟨.never, []⟩

namespace Session

/-- The line that stands for the open connection. -/
def notice : String := "connected"

/-- What a session leaves behind. -/
structure Transcript where
  /-- The report or why there is none, unless the session never ends. -/
  result : Option (Except Fault Report)
  log : Array Event
  sink : Sink
  /-- The connection, if one was opened. -/
  connection : Option Connection

/-- How work on an open connection ends. -/
inductive Outcome where
  | ended (termination : Termination)
  | failed (fault : Fault)
  /-- The session is asked to stop. -/
  | stopped
  /-- Work never ends. -/
  | endless
deriving DecidableEq, Repr

/-- An open connection with what was done on it. -/
structure Work where
  connection : Connection
  sink : Sink
  stats : Stats
  /-- The time since the work began, in milliseconds. -/
  elapsedMs : Nat

namespace Work

/-- The work with one more event in its log. -/
def note (w : Work) (event : Event) : Work := { w with connection := w.connection.note event }

/-- The work after a sender came that far. -/
def withRun (w : Work) (r : Sender.Run) : Work :=
  { w with connection := r.connection, stats := r.stats, elapsedMs := r.elapsedMs }

/-- The work after a receiver came that far. -/
def withDesk (w : Work) (desk : Receiver.Desk) (c : Connection) : Work :=
  { w with connection := c, sink := desk.sink, stats := desk.stats }

end Work

/-- The sender of a session. -/
def senderOf (config : Config) : Sender :=
  .new config.intervalMs.toNat (config.count.map UInt64.toNat)

/-- The receiver of a session. -/
def receiverOf (config : Config) : Receiver :=
  .new (.ofStrict config.strictUtf8) config.readBufferSize.toNat

/-- The log tells that sending begins. -/
def beginSend (config : Config) (w : Work) : Work :=
  w.note (.sending config.intervalMs.toNat (config.count.map UInt64.toNat))

/-- The log tells that receiving begins. -/
def beginReceive (config : Config) (w : Work) : Work :=
  w.note (.logging (.ofStrict config.strictUtf8))

/-- From when on no payload is sent. Nobody reads, so a peer that sends anything never has it all
read, and no chunk is received. -/
def stopSending (moment : Moment) (intervalMs : Nat) (wire : Wire) : Option Nat :=
  match moment with
  | .never => none
  | .after milliseconds => some milliseconds
  | .past milliseconds => some (milliseconds + 1)
  | .drained => if wire.atRest then some 0 else none
  | .received count => if count = 0 then some 0 else none
  | .cutting number _ => some ((number + 1) * intervalMs)

/-- The request to stop comes to a sender, which may be in the middle of a write. Nobody counts what
has gone out of a payload that is not written as a whole. -/
def interrupt (moment : Moment) (r : Sender.Run) : Except Fault Unit × Connection :=
  match moment.begun r.sender.next with
  | [] => (.ok (), r.connection)
  | part =>
    match r.connection.write part with
    | (.ok _, c) => (.ok (), c)
    | (.error fault, c) => (.error fault, c)

/-- What it means for the work that its sender stops. -/
def concludeSend (moment : Moment) (w : Work) : Halt × Sender.Run → Outcome × Work
  | (.completed, r) => (.ended .completed, (w.withRun r).note (.senderStopped r.sender.next))
  | (.failed fault, r) => (.failed fault, (w.withRun r).note (.senderStopped r.sender.next))
  | (.stopped, r) =>
    match interrupt moment r with
    | (.ok (), connection) =>
      (.stopped, { w.withRun r with connection, elapsedMs := moment.elapsed r.elapsedMs })
    | (.error fault, connection) =>
      (.failed fault, { w.withRun r with connection }.note (.senderStopped r.sender.next))
  | (.endless, r) => (.endless, w.withRun r)

/-- Sends the configured payloads. -/
def send (config : Config) (moment : Moment) (w : Work) : Outcome × Work :=
  let w := beginSend config w
  match stopSending moment config.intervalMs.toNat w.connection.wire with
  | some 0 => (.stopped, w)
  | stopAt => concludeSend moment w ((senderOf config).run w.connection w.stats stopAt)

/-- What it means for the work that no more chunks come. If the request to stop comes at a certain
time, the session waits for it. -/
def concludeReceive (moment : Moment) (w : Work) :
    Option Flow × Receiver.Desk × Connection → Outcome × Work
  | (none, desk, c) => (.stopped, w.withDesk desk c)
  | (some .ended, desk, c) => (.ended .peerClosed, w.withDesk desk c)
  | (some (.failed fault), desk, c) => (.failed fault, w.withDesk desk c)
  | (some .waiting, desk, c) =>
    if moment.endsWait then
      (.stopped, { w.withDesk desk c with elapsedMs := moment.elapsed w.elapsedMs })
    else (.endless, w.withDesk desk c)

/-- Writes down what the peer sends, which comes at once. -/
def receive (config : Config) (moment : Moment) (w : Work) : Outcome × Work :=
  let w := beginReceive config w
  concludeReceive moment w
    ((receiverOf config).runWithin moment.chunks w.connection w.sink w.stats)

/-- Sends or receives, as configured. -/
def runMode (config : Config) (moment : Moment) (w : Work) : Outcome × Work :=
  match config.mode with
  | .send => send config moment w
  | .receive => receive config moment w

/-- The report on a session that ended in order. -/
def report (config : Config) (timestamp : String) (termination : Termination) (w : Work) :
    Report where
  timestamp := timestamp
  target := config.target
  mode := config.mode
  seconds := w.elapsedMs / 1000
  finalState := w.connection.state
  termination := termination
  stats := w.stats

/-- Closes the connection after the work on it. -/
def conclude (config : Config) (shutdown : Shutdown) (timestamp : String) :
    Outcome × Work → Transcript
  | (.ended termination, w) => finish termination w
  | (.stopped, w) =>
    let c := w.connection.noteAll (shutdown.notes ++ [.stopping])
    finish .shutdown { w with connection := c }
  | (.failed fault, w) =>
    let c := w.connection.close
    ⟨some (.error fault), c.log, w.sink, some c⟩
  | (.endless, w) => ⟨none, w.connection.log, w.sink, some w.connection⟩
where
  /-- Closes the connection and reports. -/
  finish (termination : Termination) (w : Work) : Transcript :=
    let c := w.connection.close.note (.ended termination)
    let w := { w with connection := c }
    ⟨some (.ok (report config timestamp termination w)), c.log, w.sink, some c⟩

/-- A session: the configuration is checked, the connection opened, the notice written, and then
the work begins. -/
def run (network : Network) (config : Config) (sink : Sink) (shutdown : Shutdown)
    (timestamp : String) : Transcript :=
  match config.validate with
  | .error fault => ⟨some (.error (.config fault)), #[], sink, none⟩
  | .ok () =>
    match Connection.connect network config.host config.port
        (config.connectTimeoutMs.map UInt64.toNat) #[.connecting config.target] with
    | .failed fault log => ⟨some (.error fault), log, sink, none⟩
    | .waiting log => ⟨none, log, sink, none⟩
    | .opened c =>
      match sink.putLine notice with
      | (.error fault, sink) => ⟨some (.error fault), c.log, sink, some c⟩
      | (.ok (), sink) =>
        conclude config shutdown timestamp
          (runMode config shutdown.moment ⟨c, sink, .zero, 0⟩)

end Session

end LinkProbe
