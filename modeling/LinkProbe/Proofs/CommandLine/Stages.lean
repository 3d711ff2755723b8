import LinkProbe.Proofs.CommandLine.Layers

/-!
# The stages of the program

The form of the report is recognised, the configuration file read, the configuration checked, the
session held and the report written. The first stage that fails ends the program.

* `Ready`: the stages before the session succeed.
* `Refused`: one of them fails.
* `Concluded`: how the program ends from the session on.
* `Ends`: how the program ends.
* `exists_ends`, `Ends.unique`: the program ends in one way.
-/

namespace LinkProbe.CommandLine

open Arguments
open Session (Transcript)

/-- A stage that can fail. -/
inductive Stage where
  /-- The form of the report is recognised. -/
  | format
  /-- The configuration file is read. -/
  | file
  /-- The configuration in force is checked. -/
  | check
  | session
  /-- The report is written. -/
  | report
deriving DecidableEq, Repr

/-- How the program ends. -/
inductive Conclusion where
  /-- Every stage succeeds. -/
  | done (report : Report)
  /-- The stage is the first to fail; the chain tells why. -/
  | failed (stage : Stage) (chain : List String)
  /-- The session never ends. -/
  | endless

namespace Conclusion

/-- The exit status: zero if every stage succeeds, one if one fails. -/
def status : Conclusion → Option Nat
  | done _ => some 0
  | failed _ _ => some 1
  | endless => none

/-- What the log tells as an error: why the first stage that fails does so, on one line. -/
def errors : Conclusion → List LogLine
  | failed _ chain => [⟨.error, ": ".intercalate chain⟩]
  | done _ | endless => []

/-- A stage before the session fails. -/
def IsEarly : Conclusion → Prop
  | failed stage _ => stage = .format ∨ stage = .file ∨ stage = .check
  | done _ | endless => False

end Conclusion

/-- The name, in capitals or not, is one of the form's. -/
def Recognised (name : String) : ReportFormat → Prop
  | .prettyJson => Text.lowerCase name = "json"
  | .metrics => Text.lowerCase name = "prometheus" ∨ Text.lowerCase name = "prom"
  | .compactJson => False

/-- The session with a configuration; what it prints is all that the program prints. -/
def session (machine : Machine) (a : Arguments) (config : Config) : Transcript :=
  Session.run machine.network config (.empty none)
    (Program.shutdown config.mode a.duration machine.interrupted) machine.timestamp

/-- The stages before the session succeed, and the plan is what they come to. -/
structure Ready (machine : Machine) (a : Arguments) (file : Config.Draft) (plan : Plan) :
    Prop where
  format : Recognised a.format plan.format
  loaded : loaded machine a = .ok file
  merged : plan.config = (Config.ofDraft file).override a.settings
  valid : plan.config.validate = .ok ()

/-- The stage is the first to fail, and comes before the session. -/
inductive Refused (machine : Machine) (a : Arguments) : Stage → List String → Prop
  | format (hformat : ∀ format, ¬ Recognised a.format format) :
    Refused machine a .format
      [s!"Unsupported format: {a.format}. Use json or prometheus"]
  | file {format : ReportFormat} {fault : ConfigFault}
    (hformat : Recognised a.format format) (hfile : loaded machine a = .error fault) :
    Refused machine a .file (Fault.config fault).chain
  | check {format : ReportFormat} {file : Config.Draft} {fault : ConfigFault}
    (hformat : Recognised a.format format) (hfile : loaded machine a = .ok file)
    (hcheck : ((Config.ofDraft file).override a.settings).validate = .error fault) :
    Refused machine a .check (Fault.config fault).chain

/-- How the program ends from the session on. -/
inductive Concluded (machine : Machine) (a : Arguments) (plan : Plan) : Conclusion → Prop
  | failed {fault : Fault}
    (hsession : (session machine a plan.config).result = some (.error fault)) :
    Concluded machine a plan
      (.failed .session (s!"Probe of {plan.config.target} failed" :: fault.chain))
  | endless (hsession : (session machine a plan.config).result = none) :
    Concluded machine a plan .endless
  | unwritten {report : Report} {path : String} {fault : ExportFault}
    (hsession : (session machine a plan.config).result = some (.ok report))
    (hpath : a.output = some path)
    (hreport : (report.export plan.format (machine.destination path)).1 = .error fault) :
    Concluded machine a plan (.failed .report fault.chain)
  | done {report : Report}
    (hsession : (session machine a plan.config).result = some (.ok report))
    (hreport : ∀ path, a.output = some path →
      (report.export plan.format (machine.destination path)).1 = .ok ()) :
    Concluded machine a plan (.done report)

/-- How the program ends. -/
inductive Ends (machine : Machine) (a : Arguments) : Conclusion → Prop
  | refused {stage : Stage} {chain : List String} (h : Refused machine a stage chain) :
    Ends machine a (.failed stage chain)
  | held {file : Config.Draft} {plan : Plan} {conclusion : Conclusion}
    (hready : Ready machine a file plan) (h : Concluded machine a plan conclusion) :
    Ends machine a conclusion

variable {machine : Machine} {a : Arguments} {file file' : Config.Draft} {plan plan' : Plan}
  {conclusion other : Conclusion} {stage stage' : Stage} {chain chain' : List String}

/-! ## The form of the report -/

theorem format_of_recognised {name : String} {format : ReportFormat} (h : Recognised name format) :
    Program.format name = .ok format := by
  rw [Program.format]
  cases format with
  | compactJson => exact absurd h id
  | prettyJson =>
    rw [show Text.lowerCase name = "json" from h]
    rfl
  | metrics =>
    rcases h with h | h <;> rw [h] <;> rfl

theorem format_of_not_recognised {name : String} (h : ∀ format, ¬ Recognised name format) :
    Program.format name = .error [s!"Unsupported format: {name}. Use json or prometheus"] := by
  have hjson : Text.lowerCase name ≠ "json" := h .prettyJson
  have hnone : Program.formats.lookup (Text.lowerCase name) = none := by
    have hmetrics := not_or.mp (h .metrics)
    simp [Program.formats, List.lookup_cons, beq_false_of_ne hjson, beq_false_of_ne hmetrics.1,
      beq_false_of_ne hmetrics.2]
  rw [Program.format, hnone]

/-- A name is one of one form at most. -/
theorem recognised_unique {name : String} {format format' : ReportFormat}
    (h : Recognised name format) (h' : Recognised name format') : format = format' :=
  Except.ok.inj ((format_of_recognised h).symm.trans (format_of_recognised h'))

/-! ## The ways to end -/

/-- Either a stage before the session fails or the session is held. -/
theorem refused_or_ready (machine : Machine) (a : Arguments) :
    (∃ stage chain, Refused machine a stage chain) ∨ ∃ file plan, Ready machine a file plan := by
  by_cases hformat : ∃ format, Recognised a.format format
  · obtain ⟨format, hformat⟩ := hformat
    cases hfile : loaded machine a with
    | error fault => exact .inl ⟨_, _, .file hformat hfile⟩
    | ok file =>
      cases hcheck : ((Config.ofDraft file).override a.settings).validate with
      | error fault => exact .inl ⟨_, _, .check hformat hfile hcheck⟩
      | ok => exact .inr ⟨file, ⟨_, format⟩, hformat, hfile, rfl, hcheck⟩
  · exact .inl ⟨_, _, .format fun format h => hformat ⟨format, h⟩⟩

theorem exists_concluded (machine : Machine) (a : Arguments) (plan : Plan) :
    ∃ conclusion, Concluded machine a plan conclusion := by
  rcases hsession : (session machine a plan.config).result with _ | fault | report
  · exact ⟨_, .endless hsession⟩
  · exact ⟨_, .failed hsession⟩
  · by_cases hreport : ∀ path, a.output = some path →
        (report.export plan.format (machine.destination path)).1 = .ok ()
    · exact ⟨_, .done hsession hreport⟩
    · simp only [Classical.not_forall] at hreport
      obtain ⟨path, hpath, hreport⟩ := hreport
      cases hexport : (report.export plan.format (machine.destination path)).1 with
      | error fault => exact ⟨_, .unwritten hsession hpath hexport⟩
      | ok => exact absurd hexport hreport

/-- The program ends in some way. -/
theorem exists_ends (machine : Machine) (a : Arguments) :
    ∃ conclusion, Ends machine a conclusion := by
  rcases refused_or_ready machine a with ⟨stage, chain, h⟩ | ⟨file, plan, hready⟩
  · exact ⟨_, .refused h⟩
  · obtain ⟨conclusion, h⟩ := exists_concluded machine a plan
    exact ⟨conclusion, .held hready h⟩

theorem Ready.not_refused (h : Ready machine a file plan) : ¬ Refused machine a stage chain := by
  obtain ⟨hformat, hloaded, hmerged, hvalid⟩ := h
  rintro (h | ⟨-, h⟩ | ⟨-, hfile, h⟩)
  · exact h plan.format hformat
  · cases hloaded.symm.trans h
  · obtain rfl := Except.ok.inj (hloaded.symm.trans hfile)
    cases (hmerged ▸ hvalid).symm.trans h

/-- The stages before the session come to one plan. -/
theorem Ready.unique (h : Ready machine a file plan) (h' : Ready machine a file' plan') :
    plan = plan' := by
  obtain ⟨hformat, hloaded, hmerged, -⟩ := h
  obtain ⟨hformat', hloaded', hmerged', -⟩ := h'
  obtain rfl := Except.ok.inj (hloaded.symm.trans hloaded')
  have hconfig : plan.config = plan'.config := hmerged.trans hmerged'.symm
  have hform : plan.format = plan'.format := recognised_unique hformat hformat'
  cases plan
  cases plan'
  rw [Plan.mk.injEq]
  exact ⟨hconfig, hform⟩

theorem Refused.unique (h : Refused machine a stage chain) (h' : Refused machine a stage' chain') :
    stage = stage' ∧ chain = chain' := by
  cases h <;> cases h' <;> simp_all

theorem Concluded.unique (h : Concluded machine a plan conclusion)
    (h' : Concluded machine a plan other) : conclusion = other := by
  cases h <;> cases h' <;> simp_all

/-- The program ends in one way. -/
theorem Ends.unique (h : Ends machine a conclusion) (h' : Ends machine a other) :
    conclusion = other := by
  cases h with
  | refused h =>
    cases h' with
    | refused h' =>
      obtain ⟨rfl, rfl⟩ := h.unique h'
      rfl
    | held hready => exact absurd h hready.not_refused
  | held hready h =>
    cases h' with
    | refused h' => exact absurd h' hready.not_refused
    | held hready' h' =>
      obtain rfl := hready.unique hready'
      exact h.unique h'

end LinkProbe.CommandLine
