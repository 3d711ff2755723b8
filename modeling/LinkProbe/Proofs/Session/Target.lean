import LinkProbe.CommandLine.Program
import LinkProbe.Proofs.Address.Canonical
import LinkProbe.Proofs.Connection.Attempts
import LinkProbe.Proofs.Session.Course
import LinkProbe.Proofs.Session.Receiving

/-!
# What a failure to connect names

A session goes by the name `Config.target` in its log and in its report. A connection that cannot
be made goes by the host and the port as they were given, which is the same name unless the host is
an address with colons.

* `targetText_eq_iff`: when the two names are the same.
* `Session.failed_target`: what the failure of a session names.
-/

namespace LinkProbe

/-! ## Names -/

theorem toList_plainTarget (host : String) (port : UInt16) :
    (plainTarget host port).toList = host.toList ++ ':' :: Nat.toDigits 10 port.toNat := by
  show (host ++ ":" ++ toString port.toNat).toList = _
  simp

/-- The two names of a machine are the same unless the host is an address with colons, which does
not begin with a bracket. -/
theorem targetText_eq_iff (host : String) (port : UInt16) :
    plainTarget host port = targetText host port ↔
      ∀ address, IpAddress.parse? host ≠ some (.v6 address) := by
  constructor
  · intro heq address hparse
    have hspells := IpAddress.parse?_eq_v6_iff.mp hparse
    have hbracket : '[' ∉ host.toList :=
      hspells.notMem (by decide) (by decide) (by decide) (by decide)
    have htext := congrArg String.toList heq
    rw [toList_plainTarget, toList_targetText, shownHost_of_spells hspells] at htext
    have hhost := List.append_cancel_right htext
    rw [hhost] at hbracket
    exact hbracket List.mem_cons_self
  · intro h
    rw [targetText_of_other fun address hspells =>
      h address (IpAddress.parse?_eq_v6_iff.mpr hspells)]
    rfl

/-! ## Sessions -/

namespace Session

open CommandLine (Machine Arguments Program.finish)

variable {network : Network} {config : Config} {sink : Sink} {shutdown : Shutdown}
  {timestamp : String} {fault : Fault} {r : Report}

theorem target_conclude {worked : Outcome × Work}
    (h : (conclude config shutdown timestamp worked).result = some (.ok r)) :
    r.target = config.target := by
  obtain ⟨_ | _ | _ | _, w⟩ := worked <;> cases h <;> rfl

theorem connection_conclude (config : Config) (shutdown : Shutdown) (timestamp : String)
    (worked : Outcome × Work) :
    (conclude config shutdown timestamp worked).connection ≠ none := by
  obtain ⟨_ | _ | _ | _, w⟩ := worked <;> exact Option.some_ne_none _

/-- A report is under the target of the configuration. -/
theorem target_of_report (h : (run network config sink shutdown timestamp).result = some (.ok r)) :
    r.target = config.target := by
  have hcourse := course_run network config sink shutdown timestamp
  generalize run network config sink shutdown timestamp = t at h hcourse
  cases hcourse with
  | invalid _ | failed _ _ | waiting _ _ | unnoticed _ _ _ => cases h
  | worked _ _ _ => exact target_conclude h

/-- A session with a valid configuration that leaves an error and no connection has failed to
connect. -/
theorem dial_of_failed (hvalid : config.validate = .ok ())
    (hresult : (run network config sink shutdown timestamp).result = some (.error fault))
    (hnone : (run network config sink shutdown timestamp).connection = none) :
    dial network config = .failed fault (run network config sink shutdown timestamp).log := by
  have hcourse := course_run network config sink shutdown timestamp
  generalize run network config sink shutdown timestamp = t at hresult hnone hcourse ⊢
  cases hcourse with
  | invalid refused =>
    rw [hvalid] at refused
    cases refused
  | failed _ failed =>
    cases hresult
    exact failed
  | waiting _ _ => cases hresult
  | unnoticed _ _ _ => cases hnone
  | worked _ _ _ => exact absurd hnone (connection_conclude _ _ _ _)

/-- **A failure to connect names the host and the port as they were given**, whatever stands in the
way. That is the name under which the session is announced, reported and said to have failed, unless
the host is an address with colons. -/
theorem failed_target (hvalid : config.validate = .ok ()) (network : Network) (sink : Sink)
    (shutdown : Shutdown) (timestamp : String) :
    let t := run network config sink shutdown timestamp
    let target := s!"{config.host}:{config.port.toNat}"
    let obstacle := Connection.Obstacle network config.host config.port
      (config.connectTimeoutMs.map UInt64.toNat)
    (∀ fault, t.result = some (.error fault) → t.connection = none →
      ∃ kind source, obstacle kind source ∧ fault = .connect target kind source) ∧
    (∀ kind source, obstacle kind source →
      t.result = some (.error (.connect target kind source)) ∧ t.connection = none ∧
      (∃ events, t.log.toList = .connecting config.target :: events) ∧
      Fault.message (.connect target kind source) =
        s!"Failed to connect to {target} ({kind.text}): {source.message}" ∧
      ∀ machine a format,
        Program.finish machine a ⟨config, format⟩ (.error (.connect target kind source)) =
          (1, [⟨.error, ": ".intercalate (s!"Probe of {config.target} failed" ::
            Fault.chain (.connect target kind source))⟩], none)) ∧
    (∀ r, t.result = some (.ok r) → r.target = config.target) ∧
    (target = config.target ↔ ∀ address, IpAddress.parse? config.host ≠ some (.v6 address)) := by
  refine ⟨fun fault hresult hnone => ?_, fun kind source hobstacle => ?_, fun r => target_of_report,
    targetText_eq_iff config.host config.port⟩
  · obtain ⟨⟨kind, source, rfl, hobstacle⟩, -⟩ :=
      Connection.connect_failed (dial_of_failed hvalid hresult hnone)
    exact ⟨kind, source, hobstacle, rfl⟩
  · obtain ⟨log, hdial⟩ := Connection.connect_of_obstacle hobstacle #[.connecting config.target]
    have hrun : run network config sink shutdown timestamp = _ :=
      (Course.failed hvalid hdial).run_eq
    obtain ⟨-, ⟨events, hlog⟩, -⟩ := Connection.connect_failed hdial
    rw [hrun]
    exact ⟨rfl, rfl, ⟨events, hlog⟩, rfl, fun _ _ _ => rfl⟩

/-- A machine that does not answer in time goes by one name. -/
theorem failed_target_late :
    let network : Network := ⟨fun _ => .ok [.v4 .loopback], fun _ => .silent⟩
    let config := { Config.standard with host := "localhost", connectTimeoutMs := some 5 }
    (run network config (.empty none) .never "").result =
      some (.error (.connect config.target .timeout (Connection.noAnswer 5))) := by
  intro network config
  have hvalid : config.validate = .ok () := Config.validate_eq_ok.mpr (by decide)
  have hhost : IpAddress.parse? config.host = none := by decide
  obtain ⟨-, hfails, -, hname⟩ := failed_target hvalid network (.empty none) .never ""
  have hips : [IpAddress.v4 .loopback].map (⟨·, config.port⟩) =
      [] ++ (⟨.v4 .loopback, 8999⟩ : Endpoint) :: [] := rfl
  have hlate : Connection.Obstacle network config.host config.port (some 5) .timeout
      (Connection.noAnswer 5) := .late rfl hips (by simp [Connection.AllFail]) rfl rfl
  rw [← hname.mpr fun address => by simp [hhost]]
  exact (hfails _ _ hlate).1

/-- An address with colons fails without the brackets that its session goes by. -/
theorem failed_without_brackets :
    let config := { Config.standard with host := "::ffff:127.0.0.1" }
    config.validate = .ok () ∧
    (run .unrouted config (.empty none) .never "").result =
      some (.error (.connect "::ffff:127.0.0.1:8999" .unreachable .unreachableNetwork)) ∧
    config.target = "[::ffff:127.0.0.1]:8999" :=
  ⟨rfl, rfl, by decide⟩

end Session

end LinkProbe
