import LinkProbe.Report

/-!
# Reports as metrics

A report in the text format of Prometheus: for each number a line of help, a line with its type and
a sample, followed by an empty line.

* `Report.metrics`: the numbers.
* `Report.exposition`: the text.
-/

namespace LinkProbe

/-- What a metric's value does over time. -/
inductive MetricType where
  | counter
  | gauge
deriving DecidableEq, Repr

/-- The word for the type. -/
def MetricType.name : MetricType → String
  | .counter => "counter"
  | .gauge => "gauge"

/-- A number of a report. -/
structure Metric where
  name : String
  help : String
  type : MetricType
  value : Nat

/-- The lines of a metric whose sample bears the labels. -/
def Metric.lines (m : Metric) (labels : String) : String :=
  s!"# HELP {m.name} {m.help}\n" ++ s!"# TYPE {m.name} {m.type.name}\n" ++
    m.name ++ "\x7b" ++ labels ++ "\x7d " ++ s!"{m.value}\n" ++ "\n"

namespace Report

/-- The numbers of a report. -/
def metrics (r : Report) : List Metric := [
  ⟨"tcp_probe_messages_sent_total", "Payloads written in send mode", .counter,
    r.stats.messagesSent⟩,
  ⟨"tcp_probe_bytes_sent_total", "Bytes written in send mode", .counter, r.stats.bytesSent⟩,
  ⟨"tcp_probe_chunks_received_total", "Chunks read in receive mode", .counter,
    r.stats.chunksReceived⟩,
  ⟨"tcp_probe_bytes_received_total", "Bytes read in receive mode", .counter,
    r.stats.bytesReceived⟩,
  ⟨"tcp_probe_replacement_chars_total", "UTF-8 sequences replaced", .counter,
    r.stats.replacements⟩,
  ⟨"tcp_probe_duration_seconds", "Duration of the session", .gauge, r.seconds⟩]

/-- The labels of every sample. The target stands as it is. -/
def labels (r : Report) : String := s!"target=\"{r.target}\",mode=\"{r.mode.name}\""

/-- The report as metrics. -/
def exposition (r : Report) : String := .join (r.metrics.map (·.lines r.labels))

end Report

end LinkProbe
