import LinkProbe.Proofs.Connection.Moves
import LinkProbe.Proofs.Session.Coherence
import LinkProbe.Proofs.Session.Course

/-!
# Sessions and the end of their connections

A session that comes to its work closes its connection when the work is over, in whatever way. One
that cannot write the notice leaves the connection it has just opened as it is.

* `Session.tells_runMode`: the log of the work tells of no move but the end of the connection.
* `Session.closed_conclude`: after the work the connection is closed, which the log tells of once.
* `Session.closes_after_notice`: what the log of a session tells of its connection.
* `Session.notice_refused_leaves_open`: the session that does not close its connection.
-/

namespace LinkProbe

/-- A connection is over after it was closed, which its log tells of once. -/
theorem Connection.Tells.closed {c : Connection} {before : List (State × State)}
    (h : c.Tells before) :
    c.close.state = .closed ∧ movesOf c.close.log = before ++ [(.opened, .closed)] := by
  have hclosed := Connection.state_close_usable h.usable
  have hmoves := h.close.moves
  rw [if_pos hclosed] at hmoves
  exact ⟨hclosed, hmoves⟩

namespace Session

variable {network : Network} {config : Config} {sink : Sink} {shutdown : Shutdown}
  {timestamp : String} {moment : Moment} {w after : Work} {outcome : Outcome}
  {before : List (State × State)}

/-! ## Work -/

theorem tells_send (config : Config) (moment : Moment)
    (h : w.connection.Tells before) : (send config moment w).2.connection.Tells before := by
  have hstart : (beginSend config w).connection.Tells before := h.note rfl
  have hran {halt : Halt} {r : Sender.Run} (hrun : sendRun config moment w = (halt, r)) :
      r.connection.Tells before := by
    have hworked := Connection.tells_perform hstart (.send (senderOf config)
      (beginSend config w).stats (stopSending moment config.intervalMs.toNat
        (beginSend config w).connection.wire))
    rwa [Connection.perform, show (senderOf config).run _ _ _ = _ from hrun] at hworked
  have hsending := sending_send config moment w
  generalize send config moment w = result at hsending ⊢
  cases hsending with
  | atOnce _ => exact hstart
  | @ran halt r hrun _ =>
    refine (hran hrun).noteAll fun event hevent => ?_
    cases halt with
    | completed | failed _ => rw [List.mem_singleton.mp hevent]; rfl
    | stopped | endless => cases hevent
  | @cut r _ _ hrun _ hwrite =>
    have hcut := (hran hrun).write (moment.begun r.sender.next)
    rwa [hwrite] at hcut
  | @failed r _ _ hrun _ hwrite =>
    have hcut := (hran hrun).write (moment.begun r.sender.next)
    rw [hwrite] at hcut
    exact hcut.note rfl

theorem tells_receive (config : Config) (moment : Moment)
    (h : w.connection.Tells before) : (receive config moment w).2.connection.Tells before := by
  have hstart : (beginReceive config w).connection.Tells before := h.note rfl
  have hreceiving := receiving_receive config moment w
  generalize receive config moment w = result at hreceiving ⊢
  cases hreceiving with
  | cut _ htakes => exact hstart.takes (by simp [Receiver.consumer, Event.move?]) htakes
  | ran hrun =>
    have hworked := Connection.tells_perform hstart (.receive (receiverOf config) w.sink w.stats)
    rwa [Connection.perform, hrun] at hworked

/-- The log of the work tells of no move but the end of the connection. -/
theorem tells_runMode (config : Config) (moment : Moment)
    (h : w.connection.Tells before) : (runMode config moment w).2.connection.Tells before := by
  rw [runMode]
  split
  · exact tells_send config moment h
  · exact tells_receive config moment h

/-! ## After the work -/

/-- A session without a result is one whose work never ends. -/
theorem result_conclude : (conclude config shutdown timestamp (outcome, after)).result = none ↔
    outcome = .endless := by
  cases outcome <;> simp [conclude, conclude.finish]

/-- The transcript leaves a closed connection, whose log tells of that after these moves. -/
def Transcript.ClosedAfter (t : Transcript) (before : List (State × State)) : Prop :=
  ∃ c, t.connection = some c ∧ t.log = c.log ∧ c.state = .closed ∧
    movesOf c.log = before ++ [(.opened, .closed)]

theorem closed_finish (config : Config) (timestamp : String) (termination : Termination)
    (h : w.connection.Tells before) :
    (conclude.finish config timestamp termination w).ClosedAfter before := by
  obtain ⟨hclosed, hmoves⟩ := h.closed
  refine ⟨_, rfl, rfl, hclosed, ?_⟩
  show movesOf (w.connection.close.log.push _) = _
  rw [movesOf_push, hmoves]
  exact List.append_nil _

/-- After work that is over the connection is closed, which the log tells of once. -/
theorem closed_conclude (config : Config) (timestamp : String)
    (hquiet : ∀ event ∈ shutdown.notes, event.move? = none) (hover : outcome ≠ .endless)
    (h : after.connection.Tells before) :
    (conclude config shutdown timestamp (outcome, after)).ClosedAfter before := by
  cases outcome with
  | ended termination => exact closed_finish config timestamp termination h
  | stopped =>
    refine closed_finish config timestamp .shutdown (h.noteAll fun event hevent => ?_)
    rcases List.mem_append.mp hevent with hnote | hstopping
    · exact hquiet event hnote
    · rw [List.mem_singleton.mp hstopping]
      rfl
  | failed fault => exact ⟨_, rfl, rfl, h.closed⟩
  | endless => exact absurd rfl hover

/-! ## The whole session -/

/-- The line about a connection that is being made. -/
def beginning : LogLine := ⟨.debug, "Connection state: init -> connecting"⟩

/-- The line about a connection that was made. -/
def opening : LogLine := ⟨.debug, "Connection state: connecting -> open"⟩

/-- The line about a connection that could not be made. -/
def failing : LogLine := ⟨.debug, "Connection state: connecting -> closed"⟩

/-- The line about the end of a connection that was made. -/
def closing : LogLine := ⟨.debug, "Connection state: open -> closed"⟩

/-- The attempt to connect comes to a connection whose ends cannot be told. -/
def Untold (network : Network) (config : Config) : Prop :=
  ∃ failure, Connection.Untold network config.host config.port failure

/-- A connection that could not be made is told of, unless it was made and its ends could not be
told. -/
theorem lines_of_failed {fault : Fault} {log : Array Event}
    (h : dial network config = .failed fault log) :
    (¬ Untold network config → stateLines log = [beginning, failing]) ∧
      (Untold network config → stateLines log = [beginning]) := by
  refine ⟨fun hnot => ?_, fun ⟨failure, huntold⟩ => ?_⟩
  · obtain ⟨-, -, hmoves⟩ := Connection.connect_failed h
    rw [stateLines_eq, hmoves fun failure huntold => hnot ⟨failure, huntold⟩]
    rfl
  · obtain ⟨log', hconnect, hmoves⟩ := Connection.connect_of_untold huntold
      (config.connectTimeoutMs.map UInt64.toNat) #[.connecting config.target]
    cases hconnect.symm.trans h
    rw [stateLines_eq, hmoves]
    rfl

theorem moves_of_opened {c : Connection} (h : dial network config = .opened c) :
    c.state = .opened ∧ movesOf c.log = [(.init, .connecting), (.connecting, .opened)] :=
  ⟨Connection.state_connect h, (Connection.connect_opened h).2.2⟩

/-- **A session that comes to its work closes its connection**, with a report or a failure, and its
log tells of that once. If it cannot connect, the log tells of that and of no open connection. But
if the sink does not take the notice, the connection stays open, and if the ends of a connection
cannot be told, the log does not tell that it is given up. -/
theorem closes_after_notice (hquiet : ∀ event ∈ shutdown.notes, event.move? = none)
    (hreturns : (run network config sink shutdown timestamp).result ≠ none) :
    let t := run network config sink shutdown timestamp
    (∀ fault, config.validate = .error fault → stateLines t.log = [] ∧ t.connection = none) ∧
    (∀ fault log, config.validate = .ok () → dial network config = .failed fault log →
      t.connection = none ∧ (¬ Untold network config → stateLines t.log = [beginning, failing]) ∧
      (Untold network config → stateLines t.log = [beginning])) ∧
    (∀ c, config.validate = .ok () → dial network config = .opened c →
      (sink.putLine notice).1 = .ok () → stateLines t.log = [beginning, opening, closing] ∧
        ∃ d, t.connection = some d ∧ d.state = .closed) ∧
    (∀ c fault, config.validate = .ok () → dial network config = .opened c →
      (sink.putLine notice).1 = .error fault → stateLines t.log = [beginning, opening] ∧
        t.result = some (.error fault) ∧ t.connection = some c ∧ c.state = .opened) := by
  intro t
  have hcourse : Course network config sink shutdown timestamp t := course_run ..
  have hreturns' : t.result ≠ none := hreturns
  generalize t = t at hcourse hreturns' ⊢
  cases hcourse with
  | invalid hinvalid => simp [hinvalid, stateLines]
  | failed hvalid hdial =>
    obtain ⟨hfailing, huntold⟩ := lines_of_failed hdial
    simpa [hvalid, hdial] using ⟨hfailing, huntold⟩
  | waiting hvalid hdial => exact absurd rfl hreturns'
  | @unnoticed c fault sink' hvalid hdial hput =>
    obtain ⟨hstate, hmoves⟩ := moves_of_opened hdial
    have hlines : stateLines c.log = [beginning, opening] := by
      rw [stateLines_eq, hmoves]
      rfl
    simp [hvalid, hdial, hput, hlines, hstate]
  | @worked c sink' hvalid hdial hput =>
    obtain ⟨hstate, hmoves⟩ := moves_of_opened hdial
    have htells : c.Tells (movesOf c.log) := ⟨.inl hstate, by simp [hstate]⟩
    rcases hwork : runMode config shutdown.moment ⟨c, sink', .zero, 0⟩ with ⟨outcome, after⟩
    have hafter : after.connection.Tells (movesOf c.log) := by
      have hworked := @tells_runMode ⟨c, sink', .zero, 0⟩ _ config shutdown.moment htells
      rwa [hwork] at hworked
    rw [hwork] at hreturns'
    obtain ⟨d, hd, hlog, hclosed, hall⟩ := closed_conclude config timestamp hquiet
      (mt result_conclude.mpr hreturns') hafter
    have hlines : stateLines d.log = [beginning, opening, closing] := by
      rw [stateLines_eq, hall, hmoves]
      rfl
    simp [hvalid, hdial, hput, hd, hlog, hlines, hclosed]

/-- A session that sends one payload closes its connection. -/
theorem closes_after_notice_completed :
    let network : Network := ⟨fun _ => .ok [.v4 .loopback], fun address =>
      .accepts address address (.plan [] none)⟩
    let t := run network { Config.standard with count := some 1 } (.empty (some 1)) .never ""
    stateLines t.log = [beginning, opening, closing] ∧
      ∃ d, t.connection = some d ∧ d.state = .closed := by
  intro network t
  have hreturns : t.result.isSome = true := by decide +kernel
  obtain ⟨-, -, hworked, -⟩ := @closes_after_notice network
    { Config.standard with count := some 1 } (.empty (some 1)) .never ""
    (fun _ hmem => absurd hmem List.not_mem_nil) (Option.isSome_iff_ne_none.mp hreturns)
  exact hworked _ (Config.validate_eq_ok.mpr (by decide)) rfl rfl

/-- **A session that does not close its connection**: the sink has no room for the notice. -/
theorem notice_refused_leaves_open :
    let network : Network := ⟨fun _ => .ok [.v4 .loopback], fun address =>
      .accepts address address (.plan [] none)⟩
    let t := run network Config.standard (.empty (some 0)) .never ""
    t.result = some (.error (.output Sink.full)) ∧ opening ∈ stateLines t.log ∧
      closing ∉ stateLines t.log ∧ t.connection.map Connection.state = some .opened := by
  exact ⟨rfl, by decide +kernel, by decide +kernel, rfl⟩

end Session

end LinkProbe
