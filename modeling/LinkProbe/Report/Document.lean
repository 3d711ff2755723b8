import LinkProbe.Json.Printer
import LinkProbe.Json.Record
import LinkProbe.Report

/-!
# Reports as documents

A report and its counters are objects in which no field may be missing; other members are passed
over.

* `Report.ofJson`, `Stats.ofJson`: read a document.
* `Report.toJson`, `Stats.toJson`: write all fields.
-/

namespace LinkProbe

namespace Stats

/-- The counters that a document has given so far. -/
structure Draft where
  messagesSent : Option Nat
  bytesSent : Option Nat
  chunksReceived : Option Nat
  bytesReceived : Option Nat
  replacements : Option Nat

/-- Reads a counter. -/
def counter : Json.Reader Nat := Json.naturalUpTo Json.natural64 "u64"

/-- The counters as fields of an object. -/
def fields : List (Json.Field Draft) := [
  .of "messages_sent" Draft.messagesSent (fun d n => { d with messagesSent := some n }) counter,
  .of "bytes_sent" Draft.bytesSent (fun d n => { d with bytesSent := some n }) counter,
  .of "chunks_received" Draft.chunksReceived (fun d n => { d with chunksReceived := some n })
    counter,
  .of "bytes_received" Draft.bytesReceived (fun d n => { d with bytesReceived := some n }) counter,
  .of "replacement_chars" Draft.replacements (fun d n => { d with replacements := some n }) counter]

/-- The counters, if none is missing. -/
def ofDraft? (d : Draft) : Option Stats := do
  return ⟨← d.messagesSent, ← d.bytesSent, ← d.chunksReceived, ← d.bytesReceived,
    ← d.replacements⟩

/-- The counters as a record. -/
def record : Json.Record Draft Stats where
  name := "ProbeStats"
  fields := fields
  blank := ⟨none, none, none, none, none⟩
  build := ofDraft?
  closed := false

/-- Reads counters. -/
def ofJson (document : String) : Except Json.Fault Stats := Json.read record.reader document

/-- The counters as an object. -/
def toJson (s : Stats) : Json.Value := .object [
  ("messages_sent", .natural s.messagesSent),
  ("bytes_sent", .natural s.bytesSent),
  ("chunks_received", .natural s.chunksReceived),
  ("bytes_received", .natural s.bytesReceived),
  ("replacement_chars", .natural s.replacements)]

end Stats

namespace Report

/-- The fields that a document has given so far. -/
structure Draft where
  timestamp : Option String
  target : Option String
  mode : Option Mode
  seconds : Option Nat
  finalState : Option State
  termination : Option Termination
  stats : Option Stats

/-- The fields of a report. -/
def fields : List (Json.Field Draft) := [
  .of "timestamp" Draft.timestamp (fun d text => { d with timestamp := some text }) Json.text,
  .of "target" Draft.target (fun d text => { d with target := some text }) Json.text,
  .of "mode" Draft.mode (fun d mode => { d with mode := some mode })
    (Json.variant Mode.spellings),
  .of "duration_seconds" Draft.seconds (fun d n => { d with seconds := some n }) Stats.counter,
  .of "final_state" Draft.finalState (fun d state => { d with finalState := some state })
    (Json.variant State.names),
  .of "termination" Draft.termination (fun d t => { d with termination := some t })
    (Json.variant Termination.names),
  .of "stats" Draft.stats (fun d stats => { d with stats := some stats }) Stats.record.reader]

/-- The report, if no field is missing. -/
def ofDraft? (d : Draft) : Option Report := do
  return ⟨← d.timestamp, ← d.target, ← d.mode, ← d.seconds, ← d.finalState, ← d.termination,
    ← d.stats⟩

/-- A report as a record. -/
def record : Json.Record Draft Report where
  name := "SessionReport"
  fields := fields
  blank := ⟨none, none, none, none, none, none, none⟩
  build := ofDraft?
  closed := false

/-- Reads a report. -/
def ofJson (document : String) : Except Json.Fault Report := Json.read record.reader document

/-- The report as an object. -/
def toJson (r : Report) : Json.Value := .object [
  ("timestamp", .text r.timestamp),
  ("target", .text r.target),
  ("mode", .text r.mode.name),
  ("duration_seconds", .natural r.seconds),
  ("final_state", .text r.finalState.name),
  ("termination", .text r.termination.name),
  ("stats", r.stats.toJson)]

end Report

end LinkProbe
