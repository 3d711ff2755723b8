import LinkProbe.Event
import LinkProbe.Fault
import LinkProbe.Network

/-!
# The connection

* `Connection.connect`: tries the addresses of a host one after the other.
* `Buffer`: what a read is given.
* `Connection.read`, `Connection.write`, `Connection.close`: what can be done with a connection.
* `Connection.toCome_read`: a chunk that was read is the beginning of what was to come.
-/

namespace LinkProbe

/-- A connection that was opened, with the log of all that has happened so far. -/
structure Connection where
  peer : Endpoint
  localEnd : Endpoint
  state : State
  wire : Wire
  log : Array Event
deriving DecidableEq, Repr

/-- What comes of trying to connect; a failure leaves only the log. -/
inductive Attempt where
  | opened (connection : Connection)
  | failed (fault : Fault) (log : Array Event)
  /-- The attempt never ends. -/
  | waiting (log : Array Event)
deriving DecidableEq, Repr

/-- What a read brings. -/
inductive Reading where
  | chunk (bytes : List UInt8)
  /-- The connection is over. -/
  | ended
  | failed (fault : Fault)
  /-- The read never ends. -/
  | waiting
deriving DecidableEq, Repr

/-- What a read is given to put its bytes into: a buffer that is empty and has room for at least
as many bytes as are asked for. A buffer that was made larger keeps its room, and all of it is
used. -/
structure Buffer where
  /-- The number of bytes that are asked for. -/
  capacity : Nat
  /-- The room in the buffer. -/
  spare : Nat
  enough : capacity ≤ spare
deriving DecidableEq, Repr

namespace Buffer

/-- A buffer with room for the bytes that are asked for and no more. -/
def exact (capacity : Nat) : Buffer := ⟨capacity, capacity, Nat.le_refl capacity⟩

instance : Coe Nat Buffer := ⟨exact⟩

@[simp] theorem spare_exact (capacity : Nat) : (exact capacity).spare = capacity := rfl

/-- The most bytes that a read into the buffer returns. -/
def room (b : Buffer) : Nat := Wire.room b.spare

end Buffer

namespace Connection

/-! ## Connecting -/

/-- What comes of trying addresses one after the other. -/
inductive Search where
  | accepted (peer localEnd : Endpoint) (wire : Wire)
  /-- One takes the connection, but its ends cannot be told. -/
  | untold (failure : IoFailure)
  /-- All have failed, the last one like this. -/
  | exhausted (last : IoFailure)
  /-- One gives no answer. -/
  | stuck
deriving DecidableEq, Repr

/-- Tries addresses in order until one takes the connection or gives no answer. -/
def search (network : Network) (last : IoFailure) (log : Array Event) :
    List Endpoint → Search × Array Event
  | [] => (.exhausted last, log)
  | address :: rest =>
    let log := log.push (.trying address)
    match network.reach address with
    | .accepts peer localEnd wire => (.accepted peer localEnd wire, log)
    | .untold failure => (.untold failure, log)
    | .fails failure => search network failure (log.push (.attemptFailed address failure)) rest
    | .silent => (.stuck, log)

/-- A host with no address at all. -/
def noAddresses (host : String) : IoFailure := .stated .notFound s!"{host} resolved to no addresses"

/-- No answer came within the time. -/
def noAnswer (timeoutMs : Nat) : IoFailure :=
  .stated .timedOut s!"no connection after {timeoutMs} ms"

/-- The connection attempt fails. -/
def give (target : String) (kind : ConnectKind) (source : IoFailure) (log : Array Event) :
    Attempt :=
  .failed (.connect target kind source) (log.push (.moved .connecting .closed))

/-- Opens a connection to the host; `log` tells what has happened before. Where the ends of the
connection cannot be told, the attempt fails without a move. -/
def connect (network : Network) (host : String) (port : UInt16) (timeoutMs : Option Nat)
    (log : Array Event) : Attempt :=
  let target := s!"{host}:{port.toNat}"
  let log := log.push (.moved .init .connecting)
  match network.resolve host with
  | .error source => give target .dnsFailure source log
  | .ok [] => give target .dnsFailure (noAddresses host) log
  | .ok addresses =>
    match search network (noAddresses host) log (addresses.map (⟨·, port⟩)) with
    | (.accepted peer localEnd wire, log) =>
      .opened ⟨peer, localEnd, .opened, wire,
        log.push (.moved .connecting .opened) |>.push (.connected peer localEnd)⟩
    | (.untold failure, log) => .failed (.connect target (ConnectKind.classify failure) failure) log
    | (.exhausted last, log) => give target (ConnectKind.classify last) last log
    | (.stuck, log) =>
      match timeoutMs with
      | some timeoutMs => give target .timeout (noAnswer timeoutMs) log
      | none => .waiting log

/-! ## Using the connection -/

/-- The connection with one more event in its log. -/
def note (c : Connection) (event : Event) : Connection := { c with log := c.log.push event }

/-- The connection after it has become useless, if it was not before. -/
def markClosed (c : Connection) : Connection :=
  if c.state.allows .closed then { c.note (.moved c.state .closed) with state := .closed } else c

/-- Reads what comes next into the buffer. -/
def read (c : Connection) (buffer : Buffer) : Reading × Connection :=
  if c.state.isTerminal then (.ended, c)
  else match c.wire.read buffer.spare with
    | (.data bytes, wire) => (.chunk bytes, { c with wire })
    | (.ended, wire) => (.ended, ({ c with wire }.note (.peerClosed c.peer)).markClosed)
    | (.failed failure, wire) => (.failed (.read failure), { c with wire }.markClosed)
    | (.silent, wire) => (.waiting, { c with wire })

/-- A write to a connection that is not open. -/
def notOpen (state : State) : IoFailure := .stated .notConnected s!"connection is {state.name}"

/-- Writes a payload as a whole; the answer is its length. A write that is cut off half way is the
write of what has gone out until then. -/
def write (c : Connection) (payload : List UInt8) : Except Fault Nat × Connection :=
  if c.state ≠ .opened then (.error (.write (notOpen c.state)), c)
  else match c.wire.write payload with
    | (.ok length, wire) => (.ok length, { c with wire })
    | (.error failure, wire) => (.error (.write failure), { c with wire }.markClosed)

/-- Tells the peer that no more will come and closes the connection, unless it is closed. -/
def close (c : Connection) : Connection :=
  if c.state.isTerminal then c
  else { c with wire := c.wire.shutDown }.markClosed.note (.closed c.peer)

/-- How many more payloads can be written, if not all. -/
def writesLeft (c : Connection) : Option Nat :=
  if c.state = .opened then c.wire.writesLeft else some 0

/-! ## What is to come -/

/-- A chunk that was read is the beginning of what was to come. -/
theorem toCome_read {c d : Connection} {buffer : Buffer} {bytes : List UInt8}
    (h : c.read buffer = (.chunk bytes, d)) :
    0 < bytes.length ∧ bytes ++ d.wire.toCome = c.wire.toCome := by
  unfold read at h
  split at h
  · simp at h
  · split at h <;> simp only [Prod.mk.injEq, Reading.chunk.injEq, reduceCtorEq, false_and] at h
    rename_i heq
    obtain ⟨rfl, rfl⟩ := h
    exact ⟨(Wire.length_read heq).1, Wire.toCome_read heq⟩

end Connection

end LinkProbe
