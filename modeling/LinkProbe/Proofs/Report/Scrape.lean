import LinkProbe.Proofs.Report.Exposition
import LinkProbe.Proofs.Report.RoundTrip

/-!
# What is read from the metrics of a report

The target of a report stands in a label as it is. The metrics are read as what the report says if
nothing in the target has to be escaped, and only then.

* `Report.readings`: what the metrics should be read as.
* `Metric.lines?_join`: the lines of metrics, if their labels are on one line.
* `Report.read?_exposition`: what is read, up to the text in quotes.
* `Report.export_metrics`: when the right thing is read.
-/

namespace LinkProbe

open Exposition

/-! ## What should be read -/

/-- The lines of a metric of the report. -/
def Report.reading (r : Report) (name help type : String) (value : Nat) : List Line := [
  .help name help,
  .type name type,
  .sample name [("target", r.target), ("mode", r.mode.name)] value,
  .empty]

/-- What the metrics of a report should be read as: six samples under its target and mode, each
below its help and its type. -/
def Report.readings (r : Report) : List Line :=
  r.reading "tcp_probe_messages_sent_total" "Payloads written in send mode" "counter"
    r.stats.messagesSent ++
  r.reading "tcp_probe_bytes_sent_total" "Bytes written in send mode" "counter"
    r.stats.bytesSent ++
  r.reading "tcp_probe_chunks_received_total" "Chunks read in receive mode" "counter"
    r.stats.chunksReceived ++
  r.reading "tcp_probe_bytes_received_total" "Bytes read in receive mode" "counter"
    r.stats.bytesReceived ++
  r.reading "tcp_probe_replacement_chars_total" "UTF-8 sequences replaced" "counter"
    r.stats.replacements ++
  r.reading "tcp_probe_duration_seconds" "Duration of the session" "gauge" r.seconds

/-! ## The lines of metrics -/

namespace Metric

variable {m : Metric} {ms : List Metric} {labels : List Char}

/-- The name and the help of the metric fit on a line. -/
structure Sound (m : Metric) : Prop where
  name : isName true m.name.toList = true
  help : skipBlanks m.help.toList = m.help.toList
  feed : '\n' ∉ m.help.toList

def helpLine (m : Metric) : List Char :=
  ['#', ' ', 'H', 'E', 'L', 'P', ' '] ++ (m.name.toList ++ ' ' :: m.help.toList)

def typeLine (m : Metric) : List Char :=
  ['#', ' ', 'T', 'Y', 'P', 'E', ' '] ++ (m.name.toList ++ ' ' :: m.type.name.toList)

def sampleLine (m : Metric) (labels : List Char) : List Char :=
  m.name.toList ++ '\x7b' :: (labels ++ '\x7d' :: ' ' :: Nat.toDigits 10 m.value)

/-- The lines of a metric, the last of which is empty. -/
def lineList (m : Metric) (labels : List Char) : List (List Char) :=
  [m.helpLine, m.typeLine, m.sampleLine labels, []]

theorem toList_lines (m : Metric) (labels : String) :
    (m.lines labels).toList = unlines (m.lineList labels.toList) := by
  have hhelp : "# HELP ".toList = ['#', ' ', 'H', 'E', 'L', 'P', ' '] := rfl
  have htype : "# TYPE ".toList = ['#', ' ', 'T', 'Y', 'P', 'E', ' '] := rfl
  have hspace : " ".toList = [' '] := rfl
  have hfeed : "\n".toList = ['\n'] := rfl
  have hopen : "\x7b".toList = ['\x7b'] := rfl
  have hclose : "\x7d ".toList = ['\x7d', ' '] := rfl
  have hvalue : (toString m.value).toList = Nat.toDigits 10 m.value := Nat.toList_repr
  show ("# HELP " ++ m.name ++ " " ++ m.help ++ "\n" ++
    ("# TYPE " ++ m.name ++ " " ++ m.type.name ++ "\n") ++ m.name ++ "\x7b" ++ labels ++ "\x7d " ++
    (toString m.value ++ "\n") ++ "\n").toList = _
  simp only [String.toList_append, hhelp, htype, hspace, hfeed, hopen, hclose, hvalue, helpLine,
    typeLine, sampleLine, lineList, unlines, List.flatMap_cons, List.flatMap_nil, List.append_assoc,
    List.cons_append, List.nil_append]

/-- The text of metrics consists of the lines of each. -/
theorem toList_join (ms : List Metric) (labels : String) :
    (String.join (ms.map (·.lines labels))).toList =
      unlines (ms.flatMap (·.lineList labels.toList)) := by
  simp only [String.toList_join, List.flatMap_map, toList_lines, unlines, List.flatMap_assoc]

theorem not_feed_of_isName {name : List Char} (h : isName true name = true) : '\n' ∉ name := by
  obtain ⟨c, cs, rfl, hall⟩ := exists_cons_of_isName h
  exact fun hmem => absurd (hall _ hmem) (by decide)

theorem digits_feed (n : Nat) : '\n' ∉ Nat.toDigits 10 n := by
  intro hmem
  have hdigit : Char.isDigit '\n' = true := Nat.isDigit_of_mem_toDigits (by decide) (by decide) hmem
  exact absurd hdigit (by decide)

theorem isName_type (m : Metric) : isName true m.type.name.toList = true := by
  cases m.type <;> decide

/-- No line of a metric is broken if its labels are on one line. -/
theorem Sound.not_feed (h : m.Sound) (hlabels : '\n' ∉ labels) :
    ∀ line ∈ m.lineList labels, '\n' ∉ line := by
  have hname := not_feed_of_isName h.name
  have hhelp := h.feed
  have htype := not_feed_of_isName m.isName_type
  have hdigits := digits_feed m.value
  simp [lineList, helpLine, typeLine, sampleLine, hname, hhelp, htype, hdigits, hlabels]

theorem Sound.readLine_helpLine (h : m.Sound) :
    readLine m.helpLine = some (.help m.name m.help) := by
  rw [helpLine, readLine_help h.name h.help, String.ofList_toList, String.ofList_toList]

theorem Sound.readLine_typeLine (h : m.Sound) :
    readLine m.typeLine = some (.type m.name m.type.name) := by
  rw [typeLine, readLine_type h.name m.isName_type, String.ofList_toList, String.ofList_toList]

end Metric

/-! ## Samples -/

namespace Report

variable {m : Metric} {r : Report} {text rest : List Char}

/-- What stands behind the target in the labels. -/
def afterTarget (r : Report) : List Char :=
  [',', 'm', 'o', 'd', 'e', '=', '"'] ++ (r.mode.name.toList ++ ['"'])

theorem toList_labels (r : Report) : r.labels.toList =
    ['t', 'a', 'r', 'g', 'e', 't'] ++ '=' :: '"' :: (r.target.toList ++ '"' :: r.afterTarget) := by
  have htarget : "target=\"".toList = ['t', 'a', 'r', 'g', 'e', 't', '=', '"'] := rfl
  have hmode : "\",mode=\"".toList = ['"', ',', 'm', 'o', 'd', 'e', '=', '"'] := rfl
  have hquote : "\"".toList = ['"'] := rfl
  show ("target=\"" ++ r.target ++ "\",mode=\"" ++ r.mode.name ++ "\"").toList = _
  simp only [String.toList_append, htarget, hmode, hquote, afterTarget, List.append_assoc,
    List.cons_append, List.nil_append]

/-- What stands behind the target in a sample. -/
def remainder (r : Report) (m : Metric) : List Char :=
  r.afterTarget ++ '\x7d' :: ' ' :: Nat.toDigits 10 m.value

/-- A sample is read from the quotes of the target on. -/
theorem readLine_sampleLine (h : m.Sound) (r : Report) :
    ∃ count, readLine (m.sampleLine r.labels.toList) = (do
      let (text, rest) ← readQuoted (r.target.toList ++ '"' :: r.remainder m)
      let (labels, rest) ← afterLabel (readLabels (count + 1)) rest
      return .sample m.name (("target", .ofList text) :: labels) (← readValue rest)) := by
  have hline : m.sampleLine r.labels.toList = m.name.toList ++ '\x7b' ::
      (['t', 'a', 'r', 'g', 'e', 't'] ++ '=' :: '"' ::
        (r.target.toList ++ '"' :: r.remainder m)) := by
    simp only [Metric.sampleLine, toList_labels, remainder, List.append_assoc, List.cons_append]
  obtain ⟨count, hcount⟩ : ∃ count, (m.sampleLine r.labels.toList).length = count + 2 := by
    rw [hline]
    exact ⟨_, by simp only [List.length_append, List.length_cons]; rfl⟩
  refine ⟨count, ?_⟩
  rw [hline] at hcount ⊢
  rw [readLine_sample h.name, hcount, readLabels_label (by decide), String.ofList_toList]
  simp only [bind_assoc, pure_bind]

/-- The mode is read behind the target. -/
theorem afterLabel_afterTarget (r : Report) (count : Nat) (rest : List Char) :
    afterLabel (readLabels (count + 1)) (r.afterTarget ++ '\x7d' :: rest) =
      some ([("mode", r.mode.name)], rest) := by
  have hname : readQuoted (r.mode.name.toList ++ '"' :: '\x7d' :: rest) =
      some (r.mode.name.toList, '\x7d' :: rest) := by cases r.mode <;> rfl
  have hlabels := @readLabels_label ['m', 'o', 'd', 'e'] count (by decide)
    (r.mode.name.toList ++ '"' :: '\x7d' :: rest)
  have htext : r.afterTarget ++ '\x7d' :: rest = ',' :: (['m', 'o', 'd', 'e'] ++
      '=' :: '"' :: (r.mode.name.toList ++ '"' :: '\x7d' :: rest)) := by
    simp only [afterTarget, List.append_assoc, List.cons_append, List.nil_append]
  have hclose : afterLabel (readLabels count) ('\x7d' :: rest) = some ([], rest) := by
    rw [afterLabel, skipBlanks_cons (by decide)]
    rfl
  rw [htext, afterLabel, skipBlanks_cons (by decide)]
  simp only [hlabels, hname, hclose, Option.bind_eq_bind, Option.bind_some, String.ofList_toList]
  rfl

/-- The right sample is read if the right target is. -/
theorem readLine_of_readQuoted (h : m.Sound)
    (hquoted : readQuoted (r.target.toList ++ '"' :: r.remainder m) = some (text, r.remainder m)) :
    readLine (m.sampleLine r.labels.toList) =
      some (.sample m.name [("target", .ofList text), ("mode", r.mode.name)] m.value) := by
  obtain ⟨count, hline⟩ := readLine_sampleLine h r
  rw [hline, hquoted, remainder]
  simp only [Option.bind_eq_bind, Option.bind_some, afterLabel_afterTarget, readValue_toDigits]
  rfl

/-- The right target is read if the right sample is. -/
theorem readQuoted_of_readLine (h : m.Sound) {name target : String} {value : Nat}
    {labels : List (String × String)}
    (hline : readLine (m.sampleLine r.labels.toList) =
      some (.sample name (("target", target) :: labels) value)) :
    ∃ rest, readQuoted (r.target.toList ++ '"' :: r.remainder m) = some (target.toList, rest) := by
  obtain ⟨count, hread⟩ := readLine_sampleLine h r
  rw [hread] at hline
  simp only [Option.bind_eq_bind, Option.bind_eq_some_iff, Option.pure_def, Option.some.injEq,
    Prod.exists, Line.sample.injEq, List.cons.injEq, Prod.mk.injEq, true_and] at hline
  obtain ⟨text, rest, hquoted, -, -, -, -, -, -, ⟨rfl, -⟩, -⟩ := hline
  exact ⟨rest, by rw [hquoted, String.toList_ofList]⟩

/-! ## Metrics of a report -/

theorem sound_of {name help : String} (h : isName true name.toList = true ∧
    skipBlanks help.toList = help.toList ∧ '\n' ∉ help.toList) (type : MetricType)
    (value : Nat) : Metric.Sound ⟨name, help, type, value⟩ :=
  ⟨h.1, h.2.1, h.2.2⟩

theorem sound_metrics (r : Report) : ∀ m ∈ r.metrics, m.Sound := by
  intro m hm
  simp only [metrics, List.mem_cons, List.not_mem_nil, or_false] at hm
  rcases hm with rfl | rfl | rfl | rfl | rfl | rfl <;> exact sound_of (by decide) _ _

/-- What should be read of a report under another target. -/
theorem readings_under (r : Report) (target : String) :
    ({ r with target } : Report).readings = r.metrics.flatMap fun m => [
      .help m.name m.help,
      .type m.name m.type.name,
      .sample m.name [("target", target), ("mode", r.mode.name)] m.value,
      .empty] := by
  simp only [readings, reading, metrics, List.flatMap_cons, List.flatMap_nil, MetricType.name,
    List.cons_append, List.nil_append]

theorem mapM_flatMap {ms : List Metric} {lines : Metric → List (List Char)}
    {readings : Metric → List Line} (h : ∀ m ∈ ms, (lines m).mapM readLine = some (readings m)) :
    (ms.flatMap lines).mapM readLine = some (ms.flatMap readings) := by
  induction ms with
  | nil => rfl
  | cons m ms ih =>
    rw [List.flatMap_cons, List.flatMap_cons, List.mapM_append, h m List.mem_cons_self,
      ih fun n hn => h n (List.mem_cons_of_mem m hn)]
    rfl

theorem toList_exposition (r : Report) :
    r.exposition.toList = unlines (r.metrics.flatMap (·.lineList r.labels.toList)) :=
  Metric.toList_join r.metrics r.labels

/-- Labels are on one line if the target is. -/
theorem not_feed_labels (h : '\n' ∉ r.target.toList) : '\n' ∉ r.labels.toList := by
  have hmode : '\n' ∉ r.mode.name.toList := by cases r.mode <;> decide
  simp [toList_labels, afterTarget, h, hmode]

/-- The metrics are read as those of the target that its quotes are read as. -/
theorem read?_exposition (hfeed : '\n' ∉ r.target.toList)
    (hquoted : ∀ rest, readQuoted (r.target.toList ++ '"' :: rest) = some (text, rest)) :
    read? r.exposition = some ({ r with target := .ofList text } : Report).readings := by
  have hlines : lines? r.exposition.toList =
      some (r.metrics.flatMap (·.lineList r.labels.toList)) := by
    rw [toList_exposition]
    refine lines?_unlines fun line hline => ?_
    obtain ⟨m, hm, hline⟩ := List.mem_flatMap.mp hline
    exact (r.sound_metrics m hm).not_feed (not_feed_labels hfeed) line hline
  refine read?_eq_some_iff.mpr ⟨_, hlines, ?_⟩
  rw [readings_under]
  refine mapM_flatMap fun m hm => ?_
  have hsound := r.sound_metrics m hm
  have hsample := readLine_of_readQuoted hsound (hquoted (r.remainder m))
  rw [Metric.lineList]
  simp only [List.mapM_cons, List.mapM_nil, hsound.readLine_helpLine, hsound.readLine_typeLine,
    hsample]
  rfl

/-- Nothing has to be escaped in a target that is read as itself. -/
theorem plain_of_read? (h : read? r.exposition = some r.readings) : Plain r.target.toList := by
  obtain ⟨lines, hlines, hread⟩ := read?_eq_some_iff.mp h
  have hlength : lines.length = (r.metrics.flatMap (·.lineList r.labels.toList)).length := by
    rw [← length_of_mapM hread]
    simp [readings, reading, metrics, Metric.lineList]
  rw [toList_exposition] at hlines
  rw [lines?_unlines (not_feed_of_length hlines hlength)] at hlines
  obtain rfl := Option.some.inj hlines
  -- The third line is the first sample.
  simp only [metrics, List.flatMap_cons, Metric.lineList, List.cons_append, readings, reading,
    List.nil_append, mapM_readLine_cons] at hread
  obtain ⟨-, -, hsample, -⟩ := hread
  have hsound := r.sound_metrics _ List.mem_cons_self
  obtain ⟨rest, hquoted⟩ := readQuoted_of_readLine hsound hsample
  exact readQuoted_self_iff.mp ⟨rest, hquoted⟩

theorem read?_exposition_iff (r : Report) :
    read? r.exposition = some r.readings ↔ Plain r.target.toList := by
  constructor
  · exact plain_of_read?
  · intro hplain
    have hfeed : '\n' ∉ r.target.toList := fun hmem => (hplain _ hmem).2.2 rfl
    have hquoted := readQuoted_escaped r.target.toList
    rw [escaped_of_plain hplain] at hquoted
    have hread := read?_exposition hfeed hquoted
    rwa [String.ofList_toList] at hread

theorem read?_exposition_escaped (r : Report) :
    read? ({ r with target := .ofList (escaped r.target.toList) } : Report).exposition =
      some r.readings := by
  have hread := @read?_exposition { r with target := .ofList (escaped r.target.toList) }
    r.target.toList
  simp only [String.toList_ofList, String.ofList_toList] at hread
  exact hread (not_feed_escaped _) (readQuoted_escaped _)

/-- **Metrics are read as what the report says exactly if nothing in its target has to be
escaped.** If the target is escaped first, they always are. -/
theorem export_metrics (r : Report) {d : Destination} (hopen : d.closedBy = none)
    (hroom : d.fullBy = none) :
    ∃ file other,
      r.export .metrics d = (.ok (), { d with content := some file }) ∧
      (read? file = some r.readings ↔
        ∀ c ∈ r.target.toList, c ≠ '\\' ∧ c ≠ '"' ∧ c ≠ '\n') ∧
      ({ r with target := .ofList (escaped r.target.toList) } : Report).export .metrics d =
        (.ok (), { d with content := some other }) ∧
      read? other = some r.readings := by
  refine ⟨r.exposition, _, r.export_of_open _ hopen hroom, r.read?_exposition_iff,
    export_of_open _ _ hopen hroom, r.read?_exposition_escaped⟩

/-- The metrics of a session with an address in brackets are read, in place of an older file. -/
theorem export_metrics_brackets :
    let r : Report := ⟨"12:00", "[::1]:8999", .receive, 7, .closed, .peerClosed, ⟨0, 0, 3, 12, 1⟩⟩
    ∃ file,
      r.export .metrics ⟨"out", some "older", none, none⟩ = (.ok (), ⟨"out", some file, none, none⟩) ∧
      read? file = some r.readings := by
  intro r
  obtain ⟨file, -, hfile, hread, -, -⟩ :=
    r.export_metrics (d := ⟨"out", some "older", none, none⟩) rfl rfl
  have hplain : Plain "[::1]:8999".toList := by decide
  exact ⟨file, hfile, hread.mpr hplain⟩

/-- A quote in the target ends the label too early. -/
theorem quote_spoils_metrics :
    let r : Report := ⟨"12:00", "a\"b:1", .send, 7, .closed, .completed, ⟨3, 24, 0, 0, 0⟩⟩
    ∃ file,
      r.export .metrics ⟨"out", none, none, none⟩ = (.ok (), ⟨"out", some file, none, none⟩) ∧
      read? file ≠ some r.readings := by
  intro r
  refine ⟨r.exposition, r.export_of_open .metrics rfl rfl, fun hread => ?_⟩
  have hplain := r.read?_exposition_iff.mp hread
  exact (hplain '"' (by decide)).2.1 rfl

end Report

end LinkProbe
