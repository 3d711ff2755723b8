import LinkProbe.Connection
import LinkProbe.Payload

/-!
# Sending at an interval

A sender writes one numbered payload per interval, the first one an interval after it starts, until
it has reached its limit, a write fails or it is asked to stop. Waiting takes exactly the interval,
and nothing else takes time.

* `Sender.tick`: one payload.
* `Sender.run`: payload after payload.
-/

namespace LinkProbe

/-- Someone who sends payloads. -/
structure Sender where
  /-- The time between two payloads, in milliseconds; at least one. -/
  intervalMs : Nat
  /-- The number of the next payload. Like the counters of the traffic it has no end here, as no
  sender comes to 2^64 payloads. -/
  next : Nat
  /-- The number that is not reached, if there is one. -/
  limit : Option Nat
deriving DecidableEq, Repr

/-- Why a sender stops. -/
inductive Halt where
  /-- Its limit is reached. -/
  | completed
  | failed (fault : Fault)
  /-- It was asked to stop. -/
  | stopped
  /-- It never stops. -/
  | endless
deriving DecidableEq, Repr

namespace Sender

/-- A sender that has sent nothing. -/
def new (intervalMs : Nat) (limit : Option Nat) : Sender := ⟨intervalMs, 0, limit⟩

/-- The limit is reached. -/
def isDone (s : Sender) : Bool :=
  match s.limit with
  | some limit => limit ≤ s.next
  | none => false

/-- A sender at work. -/
structure Run where
  sender : Sender
  connection : Connection
  stats : Stats
  /-- The time since it started, in milliseconds. -/
  elapsedMs : Nat
deriving DecidableEq, Repr

/-- Waits for an interval and sends the next payload. -/
def tick (r : Run) : Except Fault Unit × Run :=
  let elapsedMs := r.elapsedMs + r.sender.intervalMs
  let text := payload r.sender.next
  match r.connection.write (bytesOf text) with
  | (.error fault, connection) => (.error fault, { r with connection, elapsedMs })
  | (.ok length, connection) =>
    (.ok (), ⟨{ r.sender with next := r.sender.next + 1 }, connection.note (.sent text),
      r.stats.recordSend length, elapsedMs⟩)

/-- At most `rounds` payloads. A payload that would go out at the time `stopAt` or later is not
sent. -/
def ticks (stopAt : Option Nat) : Nat → Run → Halt × Run
  | 0, r => (.endless, r)
  | rounds + 1, r =>
    if r.sender.isDone then (.completed, r)
    else match stopAt.filter (· ≤ r.elapsedMs + r.sender.intervalMs) with
      | some moment => (.stopped, { r with elapsedMs := moment })
      | none =>
        match tick r with
        | (.error fault, r) => (.failed fault, r)
        | (.ok (), r) => ticks stopAt rounds r

/-- A number of payloads after which the sender has stopped, if it ever does: it cannot pass its
limit, the moment at which it is asked to stop, or the last write that succeeds. -/
def rounds (s : Sender) (c : Connection) (stopAt : Option Nat) : Option Nat :=
  let bounds := [s.limit.map (· - s.next), stopAt.map (· / s.intervalMs), c.writesLeft]
  (bounds.filterMap id).min?.map (· + 1)

/-- Sends until the sender stops; it is asked to at `stopAt`, in milliseconds from now. -/
def run (s : Sender) (c : Connection) (stats : Stats) (stopAt : Option Nat) : Halt × Run :=
  let start : Run := ⟨s, c, stats, 0⟩
  match s.rounds c stopAt with
  | some rounds => ticks stopAt rounds start
  | none => (.endless, start)

end Sender

end LinkProbe
