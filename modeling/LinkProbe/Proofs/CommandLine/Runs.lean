import LinkProbe.Proofs.CommandLine.Stages

/-!
# What the program leaves behind

The exit status, the errors in the log, what is printed and sent, and the file of the report all
follow from the way in which the program ends.

* `Leaves`: what belongs to a way to end.
* `leaves_refused`: a stage before the session fails.
* `leaves_hold`: the session is held.
* `leaves_perform`: either of the two.
* `runs_through_stages`: the whole program, from its command line on.
-/

namespace LinkProbe.CommandLine

open Arguments
open Program (failure shown)

/-- What the log tells as an error. -/
def errors (log : Array LogLine) : List LogLine := log.toList.filter (·.level = .error)

/-- What the program leaves behind when it ends in the given way. -/
structure Leaves (machine : Machine) (a : Arguments) (conclusion : Conclusion) (r : Result) :
    Prop where
  status : r.status = conclusion.status
  errors : errors r.log = conclusion.errors
  usage : r.usage = none
  /-- Before the session nothing is opened, printed or written. -/
  early : conclusion.IsEarly → r.connection = none ∧ r.output = "" ∧ r.written = none
  /-- The connection and the output are those of the session. -/
  session : ∀ file plan, Ready machine a file plan →
    r.connection = (session machine a plan.config).connection ∧
    r.output = (session machine a plan.config).sink.text
  /-- A place is written to exactly if the session returns a report that is asked for. -/
  written : ∀ place, r.written = some place ↔ ∃ file plan report path,
    Ready machine a file plan ∧
    (CommandLine.session machine a plan.config).result = some (.ok report) ∧
    a.output = some path ∧ place = (report.export plan.format (machine.destination path)).2
  /-- Where the report is written, the place holds it and nothing else. -/
  whole : ∀ report path, conclusion = .done report → a.output = some path → ∃ file plan,
    Ready machine a file plan ∧ r.written =
      some { machine.destination path with content := some (plan.format.render report) }

variable {machine : Machine} {a : Arguments} {file : Config.Draft} {plan : Plan}
  {conclusion : Conclusion} {stage : Stage} {chain : List String} {lines more : List LogLine}

/-! ## The log -/

/-- No line is an error. -/
def Quiet (lines : List LogLine) : Prop := ∀ line ∈ lines, line.level ≠ .error

theorem Quiet.append (h : Quiet lines) (hmore : Quiet more) : Quiet (lines ++ more) :=
  List.forall_mem_append.mpr ⟨h, hmore⟩

/-- Errors are shown at every level of the log. -/
theorem errors_shown (a : Arguments) (lines : List LogLine) :
    errors (shown a lines) = lines.filter (·.level = .error) := by
  rw [errors, shown, List.toList_toArray, List.filter_filter]
  refine List.filter_congr fun line _ => ?_
  cases hlevel : line.level <;> cases a.verbose <;> simp [Level.shown, Level.rank]

theorem errors_quiet (a : Arguments) (h : Quiet lines) : errors (shown a lines) = [] := by
  rw [errors_shown, List.filter_eq_nil_iff]
  exact fun line hline => by simpa using h line hline

theorem errors_failure (a : Arguments) (h : Quiet lines) (chain : List String) :
    errors (shown a (lines ++ [failure chain])) = [⟨.error, ": ".intercalate chain⟩] := by
  rw [errors_shown, List.filter_append, ← errors_shown a lines, errors_quiet a h]
  rfl

theorem quiet_base (machine : Machine) (a : Arguments) : Quiet (Program.base machine a).2 := by
  rw [Program.base]
  split <;> simp [Quiet, Program.info]

theorem quiet_preamble (config : Config) (a : Arguments) : Quiet (Program.preamble config a) := by
  rw [Program.preamble]
  split <;> simp [Quiet, Program.info]

theorem quiet_events (events : Array Event) : Quiet (events.toList.map Event.line) := by
  intro line hline
  obtain ⟨event, -, rfl⟩ := List.mem_map.mp hline
  cases event <;> simp [Event.line, Event.level]

theorem quiet_summary (report : Report) : Quiet (Program.summary report) := by
  rw [Program.summary, Program.counters.eq_def]
  split <;> simp [Quiet, Program.info, Program.rule]

/-! ## What is left behind -/

/-- A stage before the session that fails ends the preparation. -/
theorem prepare_refused (h : Refused machine a stage chain) :
    ∃ lines, Quiet lines ∧ Program.prepare machine a = (.error chain, lines) := by
  have hquiet := quiet_base machine a
  have hbase := base_eq_map machine a
  rcases hpair : Program.base machine a with ⟨config, lines⟩
  rw [hpair] at hquiet hbase
  cases h with
  | format hformat =>
    refine ⟨[], List.forall_mem_nil _, ?_⟩
    rw [Program.prepare, format_of_not_recognised hformat]
  | file hformat hfile =>
    refine ⟨lines, hquiet, ?_⟩
    simp only [Program.prepare, format_of_recognised hformat, hpair, hbase, hfile]
    rfl
  | check hformat hfile hcheck =>
    refine ⟨lines, hquiet, ?_⟩
    simp only [Program.prepare, format_of_recognised hformat, hpair, hbase, hfile, Except.map,
      bind, Except.bind, Program.checked, hcheck]

theorem prepare_ready (h : Ready machine a file plan) :
    ∃ lines, Quiet lines ∧ Program.prepare machine a = (.ok plan, lines) := by
  have hquiet := quiet_base machine a
  have hbase := base_eq_map machine a
  rcases hpair : Program.base machine a with ⟨config, lines⟩
  rw [hpair] at hquiet hbase
  obtain ⟨hformat, hloaded, hmerged, hvalid⟩ := h
  refine ⟨lines ++ Program.preamble plan.config a, hquiet.append (quiet_preamble plan.config a), ?_⟩
  simp only [Program.prepare, format_of_recognised hformat, hpair, hbase, hloaded, Except.map,
    bind, Except.bind, Program.checked, ← hmerged, hvalid]

theorem perform_refused (h : Refused machine a stage chain) : ∃ lines, Quiet lines ∧
    Program.perform machine a =
      ⟨some 1, "", shown a (lines ++ [failure chain]), none, none, none⟩ := by
  obtain ⟨lines, hquiet, hprepare⟩ := prepare_refused h
  exact ⟨lines, hquiet, by rw [Program.perform, hprepare]⟩

theorem perform_ready (h : Ready machine a file plan) : ∃ lines, Quiet lines ∧
    Program.perform machine a = Program.hold machine a plan lines := by
  obtain ⟨lines, hquiet, hprepare⟩ := prepare_ready h
  exact ⟨lines, hquiet, by rw [Program.perform, hprepare]⟩

/-- Where a stage before the session fails, nothing is opened, printed or written. -/
theorem leaves_refused (h : Refused machine a stage chain) :
    Leaves machine a (.failed stage chain) (Program.perform machine a) := by
  obtain ⟨lines, hquiet, hperform⟩ := perform_refused h
  rw [hperform]
  constructor
  case status => rfl
  case errors => exact errors_failure a hquiet chain
  case usage => rfl
  case early => exact fun _ => ⟨rfl, rfl, rfl⟩
  case session => exact fun file plan hready => absurd h hready.not_refused
  case written =>
    intro place
    constructor
    · intro hplace
      cases hplace
    · rintro ⟨file, plan, _, _, hready, -⟩
      exact absurd h hready.not_refused
  case whole =>
    intro report path hdone
    cases hdone

/-- A place that takes the text holds nothing else. -/
theorem put_of_ok {d : Destination} {text : String} (h : (d.put text).1 = .ok ()) :
    (d.put text).2 = { d with content := some text } := by
  rw [Destination.put] at h ⊢
  split at h
  · cases h
  · split at h
    · cases h
    · rfl

/-- What is left behind from the session on. -/
theorem leaves_held {status : Option Nat} {place : Option Destination}
    (hready : Ready machine a file plan) (h : Concluded machine a plan conclusion)
    (hstatus : status = conclusion.status) (herrors : errors (shown a lines) = conclusion.errors)
    (hplace : ∀ written, place = some written ↔ ∃ report path,
      (session machine a plan.config).result = some (.ok report) ∧ a.output = some path ∧
      written = (report.export plan.format (machine.destination path)).2) :
    Leaves machine a conclusion ⟨status, (session machine a plan.config).sink.text, shown a lines,
      none, place, (session machine a plan.config).connection⟩ := by
  constructor
  case status => exact hstatus
  case errors => exact herrors
  case usage => rfl
  case early =>
    intro hearly
    cases h <;> simp [Conclusion.IsEarly] at hearly
  case session =>
    intro _ _ hready'
    obtain rfl := hready.unique hready'
    exact ⟨rfl, rfl⟩
  case written =>
    intro written
    rw [hplace]
    constructor
    · rintro ⟨report, path, hreport⟩
      exact ⟨file, plan, report, path, hready, hreport⟩
    · rintro ⟨_, _, report, path, hready', hreport⟩
      obtain rfl := hready.unique hready'
      exact ⟨report, path, hreport⟩
  case whole =>
    intro report path hdone hpath
    subst hdone
    cases h with
    | done hsession hreport =>
      refine ⟨file, plan, hready, ?_⟩
      rw [hplace, ← put_of_ok (hreport path hpath)]
      exact ⟨report, path, hsession, hpath, rfl⟩

/-- What the log tells of the session. -/
def sessionLines (machine : Machine) (a : Arguments) (config : Config) : List LogLine :=
  (session machine a config).log.toList.map Event.line

theorem hold_of_none (h : (session machine a plan.config).result = none) (lines : List LogLine) :
    Program.hold machine a plan lines = ⟨none, (session machine a plan.config).sink.text,
      shown a (lines ++ sessionLines machine a plan.config), none, none,
      (session machine a plan.config).connection⟩ := by
  rw [session] at h
  simp only [Program.hold, h]
  rfl

theorem hold_of_some {result : Except Fault Report} {status : Nat} {place : Option Destination}
    (h : (session machine a plan.config).result = some result)
    (hfinish : Program.finish machine a plan result = (status, more, place))
    (lines : List LogLine) :
    Program.hold machine a plan lines = ⟨some status, (session machine a plan.config).sink.text,
      shown a (lines ++ sessionLines machine a plan.config ++ more), none, place,
      (session machine a plan.config).connection⟩ := by
  rw [session] at h
  simp only [Program.hold, h, hfinish]
  rfl

/-- What the program leaves behind once the session is held. -/
theorem leaves_hold (hready : Ready machine a file plan) (h : Concluded machine a plan conclusion)
    (hquiet : Quiet lines) : Leaves machine a conclusion (Program.hold machine a plan lines) := by
  have hlines : Quiet (lines ++ sessionLines machine a plan.config) :=
    hquiet.append (quiet_events _)
  cases h with
  | failed hsession =>
    rw [hold_of_some hsession rfl]
    exact leaves_held hready (.failed hsession) rfl (errors_failure a hlines _)
      (by simp [hsession])
  | endless hsession =>
    rw [hold_of_none hsession]
    exact leaves_held hready (.endless hsession) rfl (errors_quiet a hlines) (by simp [hsession])
  | @unwritten report path fault hsession hpath hreport =>
    rcases hexport : report.export plan.format (machine.destination path) with ⟨written, place⟩
    have hwritten : written = .error fault := by rw [← hreport, hexport]
    have hfinish : Program.finish machine a plan (.ok report) =
        (1, [failure fault.chain], some place) := by
      simp only [Program.finish, Program.deliver, hpath, hexport, hwritten]
    rw [hold_of_some hsession hfinish]
    exact leaves_held hready (.unwritten hsession hpath hreport) rfl
      (errors_failure a hlines _) (by simp [hsession, hpath, hexport, eq_comm])
  | @done report hsession hreport =>
    cases hpath : a.output with
    | none =>
      have hfinish : Program.finish machine a plan (.ok report) =
          (0, Program.summary report, none) := by
        simp only [Program.finish, Program.deliver, hpath]
      rw [hold_of_some hsession hfinish]
      exact leaves_held hready (.done hsession hreport) rfl
        (errors_quiet a (hlines.append (quiet_summary report))) (by simp [hpath])
    | some path =>
      rcases hexport : report.export plan.format (machine.destination path) with ⟨written, place⟩
      have hwritten : written = .ok () := by rw [← hreport path hpath, hexport]
      have hfinish : Program.finish machine a plan (.ok report) =
          (0, Program.info s!"Report written to {Text.quoted path}" :: Program.summary report,
            some place) := by
        simp only [Program.finish, Program.deliver, hpath, hexport, hwritten]
      rw [hold_of_some hsession hfinish]
      refine leaves_held hready (.done hsession hreport) rfl
        (errors_quiet a (hlines.append ?_)) (by simp [hsession, hpath, hexport, eq_comm])
      exact List.forall_mem_cons.mpr ⟨by simp [Program.info], quiet_summary report⟩

/-- **What the program leaves behind is that of its conclusion.** -/
theorem leaves_perform (h : Ends machine a conclusion) :
    Leaves machine a conclusion (Program.perform machine a) := by
  cases h with
  | refused h => exact leaves_refused h
  | held hready h =>
    obtain ⟨lines, hquiet, hperform⟩ := perform_ready hready
    rw [hperform]
    exact leaves_hold hready h hquiet

/-! ## The command line -/

/-- Where a stage before the session fails, only the configuration file matters. -/
theorem perform_eq_of_refused {other : Machine} (h : Refused machine a stage chain)
    (hcontent : other.contentOf = machine.contentOf) :
    Program.perform other a = Program.perform machine a := by
  obtain ⟨lines, -, hprepare⟩ := prepare_refused h
  have hother : Program.prepare other a = Program.prepare machine a := by
    simp only [Program.prepare, Program.base, hcontent]
  rw [Program.perform, Program.perform, hother, hprepare]

/-- **The program goes through its stages up to the first that fails**, on any machine and with any
command line that is read. Each setting is what its flag gives, else what the file gives, else the
standard; the session is held with these settings; and what is left behind is what belongs to the
one way in which the program ends. -/
theorem runs_through_stages (machine : Machine) {arguments : List String} {a : Arguments}
    (accepted : Arguments.ofList arguments = .ok a) :
    (∃ uses, Spells arguments uses) ∧
    (∀ uses, Spells arguments uses → a.MadeOf uses ∧
      ∀ file plan, Ready machine a file plan → Merged uses file plan.config) ∧
    (∀ path bytes document ms file, a.config = some path →
      machine.contentOf path = .ok bytes → Utf8.decode? bytes = some document →
      (∀ m ∈ ms, m.2.IsScalar) → Json.Document (.object ms) document →
      loaded machine a = .ok file → Config.Settings ms ∧ file = .ofMembers ms) ∧
    ∃ conclusion, Ends machine a conclusion ∧ (∀ other, Ends machine a other → other = conclusion) ∧
      Leaves machine a conclusion (Program.run machine arguments) ∧
      (conclusion.IsEarly → ∀ other : Machine, other.contentOf = machine.contentOf →
        Program.run other arguments = Program.run machine arguments) := by
  have hrun : ∀ machine, Program.run machine arguments = Program.perform machine a := by
    intro machine
    rw [Program.run, accepted]
  refine ⟨exists_spells accepted, fun uses hspells => ?_, ?_, ?_⟩
  · have hmade := madeOf_of_spells accepted hspells
    refine ⟨hmade, fun file plan hready => ?_⟩
    rw [hready.merged]
    exact merged_override hmade file
  · intro path bytes document ms file hpath hcontent hdecode hscalar hdocument hloaded
    exact loaded_object hpath hcontent hdecode hscalar hdocument hloaded
  · obtain ⟨conclusion, hends⟩ := exists_ends machine a
    refine ⟨conclusion, hends, fun other hother => hother.unique hends, ?_, ?_⟩
    · rw [hrun]
      exact leaves_perform hends
    · intro hearly other hcontent
      rw [hrun, hrun]
      cases hends with
      | refused h => exact perform_eq_of_refused h hcontent
      | held _ h => cases h <;> simp [Conclusion.IsEarly] at hearly

/-- A port from the command line, a mode from the file and a standard interval; the peer sends
three bytes and closes, and the report replaces what its file held. -/
theorem runs_through_stages_layered : ∃ (a : Arguments) (plan : Plan) (report : Report),
    let members := [("mode", Json.Value.text "recv"), ("port", .natural 7000)]
    let network : Network :=
      ⟨fun _ => .ok [.v4 .loopback], fun address =>
        .accepts address address (.plan [[0x61, 0xC3], [0xA9]] (some .close))⟩
    let machine : Machine := ⟨network, fun _ => .ok (Json.compact (.object members)).toUTF8.toList,
      fun path => ⟨path, some "old", none, none⟩, false, ""⟩
    let arguments := ["-vp", "9000", "--config=probe.json", "-o", "out.prom", "--format=PROM"]
    let r := Program.run machine arguments
    Arguments.ofList arguments = .ok a ∧ r.status = some 0 ∧
      Numeral ['9', '0', '0', '0'] plan.config.port.toNat ∧ plan.config.mode = .receive ∧
      plan.config.intervalMs = 1000 ∧
      r.output = (session machine a plan.config).sink.text ∧
      r.written = some ⟨"out.prom", some (ReportFormat.metrics.render report), none, none⟩ := by
  let members := [("mode", Json.Value.text "recv"), ("port", .natural 7000)]
  let network : Network :=
    ⟨fun _ => .ok [.v4 .loopback], fun address =>
      .accepts address address (.plan [[0x61, 0xC3], [0xA9]] (some .close))⟩
  let machine : Machine := ⟨network, fun _ => .ok (Json.compact (.object members)).toUTF8.toList,
    fun path => ⟨path, some "old", none, none⟩, false, ""⟩
  let arguments := ["-vp", "9000", "--config=probe.json", "-o", "out.prom", "--format=PROM"]
  let a : Arguments := ⟨some "probe.json", { Overrides.none with port := some 9000 }, 0,
    some "out.prom", "PROM", true⟩
  have haccepted : Arguments.ofList arguments = .ok a := rfl
  have hspells : Spells arguments ([(.verbose, "true")] ++ (.port, "9000") ::
      ([(.config, "probe.json")] ++ ([] ++ (.output, "out.prom") ::
        ([(.format, "PROM")] ++ [])))) := by
    refine .valued rfl (.letters (.bare rfl rfl (by decide) (.waiting rfl rfl))) (by simp [IsValue])
      (.flags rfl (@Names.equals .config "probe.json".toList (by decide)) ?_)
    exact .valued rfl (.letters (.waiting rfl rfl)) (by simp [IsValue])
      (.flags rfl (@Names.equals .format "PROM".toList (by decide)) .nil)
  obtain ⟨-, hsettings, hfile, conclusion, -, -, hleaves, -⟩ :=
    runs_through_stages machine haccepted
  have hstatus : (Program.run machine arguments).status = some 0 := by decide +kernel
  obtain ⟨report, rfl⟩ : ∃ report, conclusion = .done report := by
    rw [hleaves.status] at hstatus
    cases conclusion with
    | done report => exact ⟨report, rfl⟩
    | failed _ _ | endless => cases hstatus
  obtain ⟨file, plan, hready, hwritten⟩ := hleaves.whole report "out.prom" rfl rfl
  have hmerged := (hsettings _ hspells).2 file plan hready
  obtain ⟨-, rfl⟩ := hfile "probe.json" _ (Json.compact (.object members)) members file rfl rfl
    (by decide +kernel) (by simp [members, Json.Value.IsScalar]) (Json.document_compact _)
    hready.loaded
  have hformat : plan.format = .metrics :=
    recognised_unique hready.format (show Recognised "PROM" .metrics from .inr (by decide +kernel))
  refine ⟨a, plan, report, haccepted, hstatus, hmerged.port.1 "9000" (by simp), ?_, ?_, ?_, ?_⟩
  · exact hmerged.mode.2 (by simp)
  · exact hmerged.intervalMs.2 (by simp)
  · exact (hleaves.session _ plan hready).2
  · rw [hwritten, hformat]

end LinkProbe.CommandLine
