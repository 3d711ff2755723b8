import LinkProbe.IoFailure
import LinkProbe.Report.Document
import LinkProbe.Report.Metrics
import LinkProbe.Text.Quoted

/-!
# Where a report goes

* `ReportFormat.render`: the text of a report.
* `Destination.put`: puts a text in place of what a file held.
-/

namespace LinkProbe

/-- The form of a written report. -/
inductive ReportFormat where
  | compactJson
  | prettyJson
  | metrics
deriving DecidableEq, Repr

/-- The report in the given form. -/
def ReportFormat.render (format : ReportFormat) (r : Report) : String :=
  match format with
  | .compactJson => Json.compact r.toJson
  | .prettyJson => Json.pretty r.toJson
  | .metrics => r.exposition

/-- A place for a file. -/
structure Destination where
  path : String
  /-- What the file holds, if there is one. -/
  content : Option String
  /-- Why the file cannot be opened for writing. -/
  closedBy : Option IoFailure
  /-- Why nothing can be written to the opened file. -/
  fullBy : Option IoFailure
deriving DecidableEq, Repr

/-- Why a report was not written. -/
inductive ExportFault where
  | create (path : String) (source : IoFailure)
  | write (path : String) (source : IoFailure)
deriving DecidableEq, Repr

/-- What was tried, followed by why it failed. -/
def ExportFault.chain : ExportFault → List String
  | .create path source =>
    [s!"Failed to create output file: {Text.quoted path}", source.message]
  | .write path source =>
    [s!"Failed to write to output file: {Text.quoted path}", source.message]

/-- Puts a text in place of what the file held. Opening it empties it. -/
def Destination.put (d : Destination) (text : String) : Except ExportFault Unit × Destination :=
  match d.closedBy with
  | some source => (.error (.create d.path source), d)
  | none =>
    match d.fullBy with
    | some source => (.error (.write d.path source), { d with content := some "" })
    | none => (.ok (), { d with content := some text })

/-- Writes a report in the given form. -/
def Report.export (r : Report) (format : ReportFormat) (d : Destination) :
    Except ExportFault Unit × Destination :=
  d.put (format.render r)

end LinkProbe
