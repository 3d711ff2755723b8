import LinkProbe.CommandLine.Program
import LinkProbe.Session.Task
import Std.Async.DNS
import Std.Async.Signal
import Std.Async.TCP
import Std.Async.Timer
import Std.Time

/-!
# The program on real sockets

Reads and writes sockets, files and the clock, and hands what it finds to the definitions of the
session. Where the work waits, the socket is asked; what it brings goes onto the wire of the
connection, and the work goes on to its next wait.
-/

namespace LinkProbe.Live

open Std.Async
open CommandLine (Arguments Machine Plan Program.prepare Program.finish Program.shown)
open Session (Outcome Progress Task Work)

/-! ## Failures -/

/-- The number of an error of the operating system. -/
def number? : IO.Error → Option UInt32
  | .alreadyExists _ n _ | .invalidArgument _ n _ | .permissionDenied _ n _
  | .resourceExhausted _ n _ | .inappropriateType _ n _ | .noSuchThing _ n _ => some n
  | .otherError n _ | .resourceBusy n _ | .resourceVanished n _ | .unsupportedOperation n _
  | .hardwareFault n _ | .unsatisfiedConstraints n _ | .illegalOperation n _
  | .protocolError n _ | .timeExpired n _ => some n
  | .interrupted _ n _ | .noFileOrDirectory _ n _ => some n
  | .unexpectedEof | .userError _ => none

/-- The failure behind an error; sockets give its number negated. -/
def failure (e : IO.Error) : IoFailure :=
  match number? e with
  | some n => .system (if n.toNat < UInt32.size / 2 then n.toNat else UInt32.size - n.toNat)
  | none => .stated .other e.toString

/-- The result of an action, or its failure. -/
def attempt {α : Type} (action : IO α) : IO (Except IoFailure α) := do
  try return .ok (← action) catch e => return .error (failure e)

/-! ## What the user sees -/

/-- Shows lines of the log. -/
def tell (a : Arguments) (lines : List LogLine) : IO Unit := do
  for line in Program.shown a lines do
    IO.eprintln line.render

/-- Shows what is in the log and in the sink, and leaves both empty, like what has gone over the
wire. -/
def flush (a : Arguments) (w : Work) : IO Work := do
  tell a (w.connection.log.toList.map Event.line)
  let out ← IO.getStdout
  out.putStr w.sink.text
  out.flush
  let wire := { w.connection.wire with sent := #[], written := #[] }
  return { w with connection := { w.connection with wire, log := #[] }, sink := .empty none }

/-! ## Connecting -/

/-- The end of a connection as a socket names it. -/
def socketAddress (e : Endpoint) : Std.Net.SocketAddress :=
  match e.ip with
  | .v4 a => .v4 ⟨⟨#v[a.first, a.second, a.third, a.fourth]⟩, e.port⟩
  | .v6 a => .v6 ⟨⟨⟨a.groups.toArray, by simpa using a.length_groups⟩⟩, e.port⟩

/-- An address as a socket names it. -/
def ipAddress : Std.Net.IPAddr → IpAddress
  | .v4 a => .v4 ⟨a.octets[0], a.octets[1], a.octets[2], a.octets[3]⟩
  | .v6 a => .v6 ⟨a.segments.toList, by simp⟩

/-- The end of a connection that a socket names. -/
def endpoint (a : Std.Net.SocketAddress) : Endpoint :=
  ⟨ipAddress a.ipAddr, match a with | .v4 a => a.port | .v6 a => a.port⟩

/-- The addresses of a host. -/
def resolve (host : String) : IO (Except IoFailure (List IpAddress)) := do
  match Network.lookUp Network.localNames host with
  | .ok addresses => return .ok addresses
  | .error reason =>
    if reason = Network.unknownName then
      let found ← attempt (DNS.getAddrInfo host "").block
      return found.map fun addresses => (addresses.toList.map ipAddress).eraseDups
    else return .error reason

/-- A socket that is connected to an address, unless that takes more than so many milliseconds. -/
def dial (address : Endpoint) (leftMs : Option Nat) : IO (Option TCP.Socket.Client) := do
  let client ← TCP.Socket.Client.mk
  let connect : Async Bool := do
    client.connect (socketAddress address)
    return true
  let inTime ← match leftMs with
    | some leftMs => (Async.race connect (do sleep (.ofNat leftMs); return false)).block
    | none => connect.block
  return if inTime then some client else none

/-- Tries to connect to an address, within so many milliseconds. -/
def reach (address : Endpoint) (leftMs : Option Nat) :
    IO (Reach × Option TCP.Socket.Client) := do
  match ← attempt (dial address leftMs) with
  | .error reason => return (.fails reason, none)
  | .ok none => return (.silent, none)
  | .ok (some client) =>
    match ← attempt (do return (← client.getPeerName, ← client.getSockName)) with
    | .error reason => return (.untold reason, none)
    | .ok (peer, localEnd) =>
      return (.accepts (endpoint peer) (endpoint localEnd) (.plan [] none), some client)

/-- Tries addresses in order, until one does not fail or the time is over. -/
def search (deadline : Option Nat) :
    List Endpoint → IO (List (Endpoint × Reach) × Option TCP.Socket.Client)
  | [] => return ([], none)
  | address :: rest => do
    let now ← IO.monoMsNow
    let (found, client) ← reach address (deadline.map (· - now))
    match found with
    | .fails _ =>
      let (more, client) ← search deadline rest
      return ((address, found) :: more, client)
    | _ => return ([(address, found)], client)

/-- Opens the connection that the configuration asks for. -/
def connect (config : Config) : IO (Attempt × Option TCP.Socket.Client) := do
  let resolved ← resolve config.host
  let timeoutMs := config.connectTimeoutMs.map UInt64.toNat
  let now ← IO.monoMsNow
  let addresses := (resolved.toOption.getD []).map (⟨·, config.port⟩)
  let (found, client) ← search (timeoutMs.map (now + ·)) addresses
  let network : Network :=
    ⟨fun _ => resolved, fun address => (found.lookup address).getD .silent⟩
  return (Connection.connect network config.host config.port timeoutMs #[], client)

/-! ## The session -/

/-- What can stop a session. -/
structure Bell where
  interrupt : Signal.Waiter
  /-- The moment at which the time is over, in milliseconds. -/
  deadline : Option Nat

/-- What ends a wait. -/
inductive Wake where
  /-- The next payload is due. -/
  | due
  | read (bytes : Option ByteArray)
  | stop (event : Event)

/-- Waits for what `awaited` brings, or for a request to stop. -/
def Bell.await (b : Bell) (awaited : Selectable Wake) : Async Wake := do
  let interrupt : Selectable Wake :=
    .case b.interrupt.selector fun _ => return .stop .interrupted
  match b.deadline with
  | none => Selectable.one #[interrupt, awaited]
  | some deadline =>
    let now ← IO.monoMsNow
    let time ← Selector.sleep (.ofNat (deadline - now))
    Selectable.one #[interrupt, .case time fun _ => return .stop .timeOver, awaited]

/-- Waits for what the task waits for. -/
def Bell.awaitTask (b : Bell) (client : TCP.Socket.Client) : Task → Async Wake
  | .sending s => do
    let time ← Selector.sleep (.ofNat s.intervalMs)
    b.await (.case time fun _ => return .due)
  | .receiving r =>
    b.await (.case (client.recvSelector (.ofNat r.capacity)) fun bytes => return .read bytes)

/-- What a socket makes of the payload that is due. -/
def deliver (client : TCP.Socket.Client) (wire : Wire) : Task → IO Wire
  | .sending s => do
    match ← attempt (client.sendAll #[(payload s.next).toUTF8]).block with
    | .ok () => return wire
    | .error reason => return wire.breakOff reason
  | .receiving _ => return wire

/-- What a socket makes of the wire until the task can go on, unless a request to stop comes. -/
def exchange (client : TCP.Socket.Client) (bell : Bell) (task : Task) (wire : Wire) :
    IO (Except Event Wire) := do
  match ← attempt (bell.awaitTask client task).block with
  | .ok (.stop event) => return .error event
  | .ok .due => return .ok (← deliver client wire task)
  | .ok (.read none) => return .ok (wire.conclude .close)
  | .ok (.read (some bytes)) => return .ok (wire.send bytes.toList)
  | .error reason => return .ok (wire.breakOff reason)

/-- Goes on with the work until it is over or is to stop. -/
partial def drive (a : Arguments) (client : TCP.Socket.Client) (bell : Bell) :
    Progress → IO (Outcome × Work × List Event)
  | .finished outcome w => return (outcome, w, [])
  | .awaiting task w => do
    let w ← flush a w
    match ← exchange client bell task w.connection.wire with
    | .error event => return (.stopped, w, [event])
    | .ok wire =>
      drive a client bell (task.resume { w with connection := { w.connection with wire } })

/-- The time of day. -/
def timestamp : IO String := do
  let now ← Std.Time.Timestamp.now
  return (Std.Time.DateTime.ofTimestampWithZone now .UTC).toISO8601String

/-- Holds the session on an open connection. -/
def hold (a : Arguments) (config : Config) (client : TCP.Socket.Client) (c : Connection) :
    IO (Option (Except Fault Report)) := do
  let interrupt ← Signal.Waiter.mk .sigint true
  let start ← IO.monoMsNow
  let deadline := if a.duration = 0 then none else some (start + a.duration * 1000)
  let bell : Bell := ⟨interrupt, deadline⟩
  let (_, sink) := (Sink.empty none).putLine Session.notice
  let (outcome, w, notes) ← drive a client bell (Session.start config ⟨c, sink, .zero, 0⟩)
  let w := { ← flush a w with elapsedMs := (← IO.monoMsNow) - start }
  let t := Session.conclude config ⟨.never, notes⟩ (← timestamp) (outcome, w)
  if t.connection.any (·.wire.shut) then
    discard (attempt client.shutdown.block)
  tell a (t.log.toList.map Event.line)
  return t.result

/-- The session from connecting on. -/
def session (a : Arguments) (config : Config) : IO (Option (Except Fault Report)) := do
  tell a [(Event.connecting config.target).line]
  match ← connect config with
  | (.opened c, some client) => hold a config client c
  | (.opened _, none) => return none
  | (.failed fault log, _) =>
    tell a (log.toList.map Event.line)
    return some (.error fault)
  | (.waiting log, _) =>
    tell a (log.toList.map Event.line)
    return none

/-! ## The program -/

/-- Puts the report where it belongs, and gives the place as it is then. -/
def place (path text : String) : IO Destination := do
  match ← attempt (IO.FS.Handle.mk path .write) with
  | .error reason => return ⟨path, none, some reason, none⟩
  | .ok handle =>
    match ← attempt (do handle.putStr text; handle.flush) with
    | .error reason => return ⟨path, none, none, some reason⟩
    | .ok () => return ⟨path, none, none, none⟩

/-- The program with arguments that make sense. -/
def perform (a : Arguments) : IO UInt32 := do
  let content ← match a.config with
    | some path => attempt ((·.toList) <$> IO.FS.readBinFile path)
    | none => pure (.ok [])
  let machine : Machine :=
    ⟨.unrouted, fun _ => content, fun path => ⟨path, none, none, none⟩, .never, ""⟩
  match Program.prepare machine a with
  | (.error chain, lines) =>
    tell a (lines ++ [CommandLine.Program.failure chain])
    return 1
  | (.ok plan, lines) =>
    tell a lines
    match ← session a plan.config with
    | none => return 1
    | some result =>
      let place ← match result, a.output with
        | .ok report, some path => place path (plan.format.render report)
        | _, _ => pure (machine.destination "")
      let machine := { machine with destination := fun _ => place }
      let (status, lines, _) := Program.finish machine a plan result
      tell a lines
      return .ofNat status

/-- The program. -/
def run (arguments : List String) : IO UInt32 := do
  match Arguments.ofList arguments with
  | .error (.fault fault) =>
    IO.eprintln fault.message
    return 2
  | .error .version =>
    IO.print CommandLine.Program.version
    return 0
  | .error .help =>
    IO.print CommandLine.Program.help
    return 0
  | .ok a => perform a

end LinkProbe.Live
