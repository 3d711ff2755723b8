import LinkProbe.Proofs.Config.Settings
import LinkProbe.Report.Destination

/-!
# What is written is read back

A document of a report or a configuration says all there is to say: it is read as the report or
configuration that it was written from.

* `Stats.Counted`, `Report.Counted`: the numbers that the readers have room for.
* `Stats.reads_toJson`, `Report.reads_toJson`: the objects are read back field by field.
* `Config.ofJson_compact`: a configuration is read back.
* `Report.export_json`: a report comes back out of a file in either layout.
-/

namespace LinkProbe

open Json

/-! ## Counters -/

/-- The counters fit into 64 bits. -/
structure Stats.Counted (s : Stats) : Prop where
  messagesSent : s.messagesSent < UInt64.size
  bytesSent : s.bytesSent < UInt64.size
  chunksReceived : s.chunksReceived < UInt64.size
  bytesReceived : s.bytesReceived < UInt64.size
  replacements : s.replacements < UInt64.size

theorem Stats.reads_counter {n : Nat} (h : n < UInt64.size) : Reads Stats.counter (.natural n) n :=
  reads_naturalUpTo (Nat.le_refl _) (Nat.le_pred_of_lt h) "u64"

theorem Stats.reads_toJson {s : Stats} (h : s.Counted) : Reads Stats.record.reader s.toJson s := by
  refine Record.reads_object (?_ : Stats.record.Fills _ _ ⟨some s.messagesSent, some s.bytesSent,
    some s.chunksReceived, some s.bytesReceived, some s.replacements⟩) rfl
  apply Record.Fills.cons (Record.takes_of rfl rfl (reads_counter h.messagesSent) rfl)
  apply Record.Fills.cons (Record.takes_of rfl rfl (reads_counter h.bytesSent) rfl)
  apply Record.Fills.cons (Record.takes_of rfl rfl (reads_counter h.chunksReceived) rfl)
  apply Record.Fills.cons (Record.takes_of rfl rfl (reads_counter h.bytesReceived) rfl)
  apply Record.Fills.cons (Record.takes_of rfl rfl (reads_counter h.replacements) rfl)
  exact .nil _

/-! ## Reports -/

/-- The time and the counters fit into 64 bits. -/
structure Report.Counted (r : Report) : Prop where
  seconds : r.seconds < UInt64.size
  stats : r.stats.Counted

/-- The name of a mode is one of its spellings. -/
theorem Mode.lookup_name (mode : Mode) : Mode.spellings.lookup mode.name = some mode := by
  cases mode <;> rfl

theorem State.lookup_name (state : State) : State.names.lookup state.name = some state := by
  cases state <;> rfl

theorem Termination.lookup_name (t : Termination) : Termination.names.lookup t.name = some t := by
  cases t <;> rfl

theorem Report.reads_toJson {r : Report} (h : r.Counted) :
    Reads Report.record.reader r.toJson r := by
  refine Record.reads_object (?_ : Report.record.Fills _ _ ⟨some r.timestamp, some r.target,
    some r.mode, some r.seconds, some r.finalState, some r.termination, some r.stats⟩) rfl
  apply Record.Fills.cons (Record.takes_of rfl rfl (reads_textFor _ r.timestamp) rfl)
  apply Record.Fills.cons (Record.takes_of rfl rfl (reads_textFor _ r.target) rfl)
  apply Record.Fills.cons (Record.takes_of rfl rfl (reads_variant r.mode.lookup_name) rfl)
  apply Record.Fills.cons (Record.takes_of rfl rfl (Stats.reads_counter h.seconds) rfl)
  apply Record.Fills.cons (Record.takes_of rfl rfl (reads_variant r.finalState.lookup_name) rfl)
  apply Record.Fills.cons (Record.takes_of rfl rfl (reads_variant r.termination.lookup_name) rfl)
  apply Record.Fills.cons (Record.takes_of rfl rfl (Stats.reads_toJson h.stats) rfl)
  exact .nil _

/-- A document with the fields of a report is read as that report. -/
theorem Report.ofJson_document {r : Report} {document : String} (h : r.Counted)
    (hdocument : Document r.toJson document) : Report.ofJson document = .ok r :=
  read_of_reads (Report.reads_toJson h) hdocument

/-! ## Configurations -/

namespace Config

theorem setting_count (value : Option UInt64) : Setting ("count", optional value) := by
  cases value with
  | none => exact .noCount
  | some n => exact .count n.toNat_lt

theorem setting_timeout (value : Option UInt64) :
    Setting ("connect_timeout_ms", optional value) := by
  cases value with
  | none => exact .noTimeout
  | some n => exact .timeout n.toNat_lt

/-- The number that was written, if there was one. -/
theorem natural?_optional (value : Option UInt64) :
    (optional value).natural?.map UInt64.ofNat = value := by
  cases value with
  | none => rfl
  | some n => simp [optional, Value.natural?]

/-- The members under which a configuration is written are settings, and their layer replaces
everything that is standard. -/
theorem exists_settings (c : Config) :
    ∃ ms, c.toJson = .object ms ∧ Settings ms ∧ standard.override (.ofMembers ms) = c := by
  refine ⟨_, rfl, ⟨?_, ?_⟩, ?_⟩
  · show ["host", "port", "mode", "interval_ms", "count", "connect_timeout_ms", "strict_utf8",
      "read_buffer_size"].Nodup
    decide
  · have hport : c.port.toNat ≤ 65535 := Nat.le_of_lt_succ c.port.toNat_lt
    have hmode : c.mode.name ∈ ["send", "receive", "recv"] := by cases c.mode <;> decide
    intro m hm
    simp only [List.mem_cons, List.not_mem_nil, or_false] at hm
    rcases hm with rfl | rfl | rfl | rfl | rfl | rfl | rfl | rfl
    · exact .host c.host
    · exact .port hport
    · exact .mode hmode
    · exact .interval c.intervalMs.toNat_lt
    · exact setting_count c.count
    · exact setting_timeout c.connectTimeoutMs
    · exact .strict c.strictUtf8
    · exact .buffer c.readBufferSize.toNat_lt
  · show Config.mk c.host (.ofNat c.port.toNat) ((Mode.spellings.lookup c.mode.name).getD .send)
      (.ofNat c.intervalMs.toNat) (((optional c.count).natural?.map UInt64.ofNat).or none)
      (((optional c.connectTimeoutMs).natural?.map UInt64.ofNat).or none) c.strictUtf8
      (.ofNat c.readBufferSize.toNat) = c
    simp only [c.mode.lookup_name, natural?_optional, UInt16.ofNat_toNat, UInt64.ofNat_toNat,
      Option.getD_some, Option.or_none]

/-- A configuration is read back from its document. -/
theorem ofJson_compact (c : Config) : ofJson (compact c.toJson) = .ok c := by
  obtain ⟨ms, hjson, hsettings, hlayer⟩ := c.exists_settings
  rw [hjson, ofJson_of_settings (document_compact _) hsettings, hlayer]

end Config

/-! ## Files -/

theorem Report.export_of_open (r : Report) (format : ReportFormat) {d : Destination}
    (hopen : d.closedBy = none) (hroom : d.fullBy = none) :
    r.export format d = (.ok (), { d with content := some (format.render r) }) := by
  simp only [Report.export, Destination.put, hopen, hroom]

/-- **What is written is read back.** A report takes the place of what a file held, and in either
layout it is read as the same report; without the white space outside of quotes the layout with
lines is the one without. A configuration comes back from its document as well. -/
theorem Report.export_json :
    (∀ (r : Report) (d : Destination), r.Counted → d.closedBy = none → d.fullBy = none →
      ∃ small large,
        r.export .compactJson d = (.ok (), { d with content := some small }) ∧
        r.export .prettyJson d = (.ok (), { d with content := some large }) ∧
        Report.ofJson small = .ok r ∧ Report.ofJson large = .ok r ∧
        squeeze large.toList = small.toList) ∧
    ∀ c : Config, Config.ofJson (compact c.toJson) = .ok c := by
  refine ⟨fun r d hcounted hopen hroom => ?_, Config.ofJson_compact⟩
  refine ⟨compact r.toJson, pretty r.toJson, r.export_of_open _ hopen hroom,
    r.export_of_open _ hopen hroom, Report.ofJson_document hcounted (document_compact _),
    Report.ofJson_document hcounted (document_pretty _), ?_⟩
  have hsqueeze := squeeze_pretty 0 r.toJson []
  simpa only [compact, pretty, String.toList_ofList, List.append_nil, squeeze] using hsqueeze

/-- A report with quotes, a backslash, a control character and a character outside of the basic
plane, at the limits of the numbers, in place of an older file; and a configuration without a
count. -/
theorem Report.export_json_escapes :
    let r : Report := ⟨"12:00\t", "\"a\\b\" \x01😀:1", .receive, 18446744073709551615, .closed,
      .peerClosed, ⟨18446744073709551615, 0, 1, 18446744073709551615, 0⟩⟩
    r.Counted ∧
    (∃ small large,
      r.export .compactJson ⟨"out", some "older", none, none⟩ =
        (.ok (), ⟨"out", some small, none, none⟩) ∧
      r.export .prettyJson ⟨"out", some "older", none, none⟩ =
        (.ok (), ⟨"out", some large, none, none⟩) ∧
      Report.ofJson small = .ok r ∧ Report.ofJson large = .ok r ∧
      squeeze large.toList = small.toList) ∧
    Config.ofJson (compact Config.standard.toJson) = .ok .standard := by
  intro r
  have hcounted : r.Counted := ⟨by decide, by decide, by decide, by decide, by decide, by decide⟩
  exact ⟨hcounted, Report.export_json.1 r ⟨"out", some "older", none, none⟩ hcounted rfl rfl,
    Report.export_json.2 .standard⟩

end LinkProbe
