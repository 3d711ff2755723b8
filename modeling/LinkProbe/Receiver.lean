import LinkProbe.Connection.Chunks
import LinkProbe.Sink

/-!
# Writing down what comes

A receiver decodes the chunks of a connection and puts the text of each on a line of its own.

* `Receiver.take`: one chunk.
* `Receiver.finish`: the end of what comes.
* `Receiver.run`, `Receiver.runAtMost`: all chunks to the end, or some of them.
-/

namespace LinkProbe

/-- Someone who writes down what comes. -/
structure Receiver where
  decoder : Decoder
  /-- The most bytes that are read at once. -/
  capacity : Nat
deriving DecidableEq, Repr

namespace Receiver

/-- A receiver at the start of a stream. -/
def new (mode : DecodeMode) (capacity : Nat) : Receiver := ⟨.new mode, capacity⟩

/-- A receiver at work, apart from the connection. -/
structure Desk where
  decoder : Decoder
  sink : Sink
  stats : Stats
deriving DecidableEq, Repr

/-- Counts the replacements of a decoded text and puts it on a line. -/
def Desk.put (d : Desk) (decoded : Decoded) : Except Fault Unit × Desk :=
  let stats := d.stats.recordReplacements decoded.replacements
  let (result, sink) := d.sink.putLine decoded.text
  (result, { d with sink, stats })

/-- Counts, decodes and writes down a chunk. -/
def Desk.take (d : Desk) (chunk : List UInt8) : Except Fault Unit × Desk :=
  let stats := d.stats.recordChunk chunk.length
  match d.decoder.feed chunk with
  | (.error bad, decoder) => (.error (.decode bad), { d with decoder, stats })
  | (.ok decoded, decoder) => { d with decoder, stats }.put decoded

/-- Writes down what is left at the end. -/
def Desk.finish (d : Desk) : Except Fault Unit × Desk :=
  match d.decoder.finish with
  | (.error bad, decoder) => (.error (.decode bad), { d with decoder })
  | (.ok decoded, decoder) => { d with decoder }.put decoded

/-- The receiver as a consumer of chunks. -/
def consumer : Consumer Desk where
  notes bytes := [.received bytes.length]
  step := Desk.take

/-- What the log tells of a character that was not completed. -/
def leftover (d : Desk) : List Event :=
  if d.decoder.held.isEmpty then [] else [.unfinished d.decoder.held.length]

/-- When the connection is over, what is left is written down. -/
def conclude : Flow × Desk × Connection → Flow × Desk × Connection
  | (.ended, desk, c) =>
    let c := c.noteAll (leftover desk)
    match desk.finish with
    | (.error fault, desk) => (.failed fault, desk, c)
    | (.ok (), desk) => (.ended, desk, c)
  | other => other

/-- Writes down all that comes until the peer closes the connection or something fails. -/
def run (r : Receiver) (c : Connection) (sink : Sink) (stats : Stats) :
    Flow × Desk × Connection :=
  conclude (c.consume consumer r.capacity ⟨r.decoder, sink, stats⟩)

/-- Writes down at most `count` chunks. Without a flow, as many have come and all went well. -/
def runAtMost (r : Receiver) (count : Nat) (c : Connection) (sink : Sink) (stats : Stats) :
    Option Flow × Desk × Connection :=
  match Connection.consumeAtMost consumer r.capacity count c ⟨r.decoder, sink, stats⟩ with
  | (none, desk, c) => (none, desk, c)
  | (some flow, desk, c) =>
    let (flow, desk, c) := conclude (flow, desk, c)
    (some flow, desk, c)

/-- Writes down as many chunks as there may be, which is all of them without a limit. -/
def runWithin (r : Receiver) (limit : Option Nat) (c : Connection) (sink : Sink) (stats : Stats) :
    Option Flow × Desk × Connection :=
  match limit with
  | some count => r.runAtMost count c sink stats
  | none =>
    let (flow, desk, c) := r.run c sink stats
    (some flow, desk, c)

end Receiver

end LinkProbe
