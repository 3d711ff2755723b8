import LinkProbe.Session

/-!
# The ways a session can go

* `Session.dial`: the attempt of a session to connect.
* `Session.Course`: what a session leaves behind, by how far it comes.
* `Session.course_run`: every session takes one of these ways.
* `Session.Course.run_eq`: what a session leaves behind is known from its way.
-/

namespace LinkProbe.Session

/-- The attempt of a session to connect. -/
def dial (network : Network) (config : Config) : Attempt :=
  Connection.connect network config.host config.port (config.connectTimeoutMs.map UInt64.toNat)
    #[.connecting config.target]

variable {network : Network} {config : Config} {sink : Sink} {shutdown : Shutdown}
  {timestamp : String}

/-- What a session leaves behind, by how far it comes. -/
inductive Course (network : Network) (config : Config) (sink : Sink) (shutdown : Shutdown)
    (timestamp : String) : Transcript → Prop
  | invalid {fault : ConfigFault} (refused : config.validate = .error fault) :
      Course network config sink shutdown timestamp
        ⟨some (.error (.config fault)), #[], sink, none⟩
  | failed {fault : Fault} {log : Array Event} (valid : config.validate = .ok ())
      (failed : dial network config = .failed fault log) :
      Course network config sink shutdown timestamp ⟨some (.error fault), log, sink, none⟩
  /-- The attempt to connect never ends. -/
  | waiting {log : Array Event} (valid : config.validate = .ok ())
      (waiting : dial network config = .waiting log) :
      Course network config sink shutdown timestamp ⟨none, log, sink, none⟩
  /-- The connection is opened, but the sink does not take the notice. -/
  | unnoticed {c : Connection} {fault : Fault} {sink' : Sink} (valid : config.validate = .ok ())
      (opened : dial network config = .opened c)
      (refused : sink.putLine notice = (.error fault, sink')) :
      Course network config sink shutdown timestamp ⟨some (.error fault), c.log, sink', some c⟩
  | worked {c : Connection} {sink' : Sink} (valid : config.validate = .ok ())
      (opened : dial network config = .opened c) (noticed : sink.putLine notice = (.ok (), sink')) :
      Course network config sink shutdown timestamp
        (conclude config shutdown timestamp (runMode config shutdown.moment ⟨c, sink', .zero, 0⟩))

/-- Every session takes one of the ways. -/
theorem course_run (network : Network) (config : Config) (sink : Sink) (shutdown : Shutdown)
    (timestamp : String) : Course network config sink shutdown timestamp
      (run network config sink shutdown timestamp) := by
  rw [run]
  cases hvalid : config.validate with
  | error fault => exact .invalid hvalid
  | ok =>
    dsimp only
    cases hdial : dial network config <;> rw [dial] at hdial <;> rw [hdial]
    · rename_i c
      rcases hput : sink.putLine notice with ⟨fault | _, sink'⟩
      · exact .unnoticed hvalid hdial hput
      · exact .worked hvalid hdial hput
    · exact .failed hvalid hdial
    · exact .waiting hvalid hdial

/-- What a session leaves behind is known from its way. -/
theorem Course.run_eq {t : Transcript} (h : Course network config sink shutdown timestamp t) :
    run network config sink shutdown timestamp = t := by
  cases h with
  | invalid refused => simp only [run, refused]
  | failed valid failed =>
    rw [dial] at failed
    simp only [run, valid, failed]
  | waiting valid waiting =>
    rw [dial] at waiting
    simp only [run, valid, waiting]
  | unnoticed valid opened refused =>
    rw [dial] at opened
    simp only [run, valid, opened, refused]
  | worked valid opened noticed =>
    rw [dial] at opened
    simp only [run, valid, opened, noticed]

/-- A session whose sink takes everything comes to its work, with the notice written. -/
theorem run_noticed {c : Connection} (hvalid : config.validate = .ok ())
    (hopened : dial network config = .opened c) (shutdown : Shutdown) (timestamp : String) :
    run network config (.empty none) shutdown timestamp =
      conclude config shutdown timestamp
        (runMode config shutdown.moment ⟨c, ⟨#[notice, "\n"], none⟩, .zero, 0⟩) :=
  (Course.worked hvalid hopened rfl).run_eq

end LinkProbe.Session
