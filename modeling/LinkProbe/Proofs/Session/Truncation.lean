import LinkProbe.Proofs.Receiver.Lockstep
import LinkProbe.Proofs.Session.Coherence
import LinkProbe.Proofs.Session.Course

/-!
# Sessions whose sinks have room for some lines

A session whose sink has room for some lines goes in step with the same session on a sink that takes
everything, until a piece is refused. Then it has failed, and it prints nothing more.

* `Session.send_sink`: sending leaves the sink alone.
* `Session.runMode_limited`: work whose sink has room for some lines.
* `Session.run_limited`: a session like this, step by step.
* `Session.output_cut_at_refusal`: what it prints and what comes of it.
-/

namespace LinkProbe.Session

open Sink (endsOf Fits RefusedAt Truncates full)

variable {network : Network} {config : Config} {sink : Sink} {shutdown : Shutdown}
  {timestamp : String} {w after : Work} {outcome : Outcome} {parts : List (List UInt8)}
  {ending : Option Ending} {n k : Nat}

/-! ## Work -/

/-- What the work would be if its sink had room for `n` line ends. -/
def Work.limited (w : Work) (n : Nat) : Work := { w with sink := w.sink.limited n }

/-- What becomes of work when the sink has room for `n` line ends. -/
def Limits (n : Nat) (whole cut : Outcome × Work) : Prop :=
  Truncates n whole.2.sink (cut = (whole.1, whole.2.limited n)) fun left =>
    ∃ w, cut = (.failed (.output full), w) ∧ w.sink = left

theorem concludeSend_sink (moment : Moment) (w : Work) (sink : Sink) (run : Halt × Sender.Run) :
    concludeSend moment { w with sink } run =
      ((concludeSend moment w run).1, { (concludeSend moment w run).2 with sink }) := by
  obtain ⟨halt, r⟩ := run
  cases halt with
  | completed | failed _ | endless => rfl
  | stopped =>
    rw [concludeSend, concludeSend]
    rcases interrupt moment r with ⟨_ | _, _⟩ <;> rfl

/-- Sending leaves the sink alone, and does the same whatever the sink is. -/
theorem send_sink (config : Config) (moment : Moment) (w : Work) (sink : Sink) :
    send config moment { w with sink } =
      ((send config moment w).1, { (send config moment w).2 with sink }) := by
  have hbegin : beginSend config { w with sink } = { beginSend config w with sink } := rfl
  simp only [send, hbegin]
  split
  · rfl
  · exact concludeSend_sink moment (beginSend config w) sink _

theorem sink_send (config : Config) (moment : Moment) (w : Work) :
    (send config moment w).2.sink = w.sink :=
  congrArg (fun result => result.2.sink) (send_sink config moment w w.sink)

theorem send_limited (config : Config) (moment : Moment) (hfits : Fits n w.sink.accepted.toList) :
    Limits n (send config moment w) (send config moment (w.limited n)) := by
  refine .inl ⟨by rwa [sink_send], ?_⟩
  rw [Work.limited, send_sink, Work.limited, sink_send]

theorem sink_concludeReceive (moment : Moment) (w : Work)
    (run : Option Flow × Receiver.Desk × Connection) :
    (concludeReceive moment w run).2.sink = run.2.1.sink := by
  obtain ⟨_ | _ | _ | _, desk, d⟩ := run
  case none | ended | failed => rfl
  case waiting => cases moment <;> rfl

theorem concludeReceive_limited (moment : Moment) (w : Work) (flow : Option Flow)
    (desk : Receiver.Desk) (d : Connection) :
    concludeReceive moment (w.limited n) (flow, desk.limited n, d) =
      ((concludeReceive moment w (flow, desk, d)).1,
        (concludeReceive moment w (flow, desk, d)).2.limited n) := by
  rcases flow with _ | _ | _ | _
  case none | ended | failed => rfl
  case waiting => cases moment <;> rfl

theorem receive_limited (config : Config) (moment : Moment) (hroom : w.sink.room = none)
    (hfits : Fits n w.sink.accepted.toList) :
    Limits n (receive config moment w) (receive config moment (w.limited n)) := by
  rw [receive, receive, Limits, sink_concludeReceive]
  refine (Receiver.runWithin_limited hroom hfits (receiverOf config) moment.chunks
    (beginReceive config w).connection w.stats).imp (fun hsame => ?_) ?_
  · exact (congrArg (concludeReceive moment _) hsame).trans (concludeReceive_limited moment ..)
  · rintro left ⟨l, e, hrefused, rfl⟩
    exact ⟨_, congrArg (concludeReceive moment _) hrefused, rfl⟩

/-- Work whose sink has room for some lines goes on as if it took everything, until a piece is
refused. -/
theorem runMode_limited (config : Config) (moment : Moment) (hroom : w.sink.room = none)
    (hfits : Fits n w.sink.accepted.toList) :
    Limits n (runMode config moment w) (runMode config moment (w.limited n)) := by
  rw [runMode, runMode]
  split
  · exact send_limited config moment hfits
  · exact receive_limited config moment hroom hfits

/-- Work does not take back what was printed. -/
theorem grows_runMode (config : Config) (moment : Moment) (hroom : w.sink.room = none) :
    w.sink.accepted.toList <+: (runMode config moment w).2.sink.accepted.toList := by
  rw [runMode]
  split
  · exact ⟨[], by rw [sink_send, List.append_nil]⟩
  · rw [receive, sink_concludeReceive]
    exact Receiver.grows_runWithin hroom (receiverOf config) moment.chunks _ _

/-! ## The whole session -/

/-- What the transcript would be if the sink had room for `n` line ends. -/
def Transcript.limited (t : Transcript) (n : Nat) : Transcript :=
  { t with sink := t.sink.limited n }

/-- The end of the work leaves the sink alone. -/
theorem sink_conclude (config : Config) (shutdown : Shutdown) (timestamp : String)
    (work : Outcome × Work) :
    (conclude config shutdown timestamp work).sink = work.2.sink := by
  obtain ⟨outcome, w⟩ := work
  cases outcome <;> rfl

theorem conclude_limited (config : Config) (shutdown : Shutdown) (timestamp : String) :
    conclude config shutdown timestamp (outcome, w.limited n) =
      (conclude config shutdown timestamp (outcome, w)).limited n := by
  cases outcome <;> rfl

/-- A session whose sink has room for some lines goes on as if it took everything, until a piece is
refused. -/
theorem run_limited (network : Network) (config : Config) (shutdown : Shutdown)
    (timestamp : String) (hroom : sink.room = none) (hfits : Fits n sink.accepted.toList) :
    let whole := run network config sink shutdown timestamp
    let cut := run network config (sink.limited n) shutdown timestamp
    Truncates n whole.sink (cut = whole.limited n) fun left =>
      cut.result = some (.error (.output full)) ∧ cut.sink = left := by
  intro whole cut
  have hcourse : Course network config sink shutdown timestamp whole := course_run ..
  generalize whole = whole at hcourse ⊢
  cases hcourse with
  | invalid refused => exact .inl ⟨hfits, (Course.invalid refused).run_eq⟩
  | failed valid failed => exact .inl ⟨hfits, (Course.failed valid failed).run_eq⟩
  | waiting valid waiting => exact .inl ⟨hfits, (Course.waiting valid waiting).run_eq⟩
  | unnoticed _ _ refused =>
    rw [Sink.putLine_unlimited hroom] at refused
    cases refused
  | @worked c sink' valid opened noticed =>
    have hnotice := Sink.putLine_limited hroom hfits notice
    rw [noticed] at hnotice
    rw [Sink.putLine_unlimited hroom] at noticed
    have hroom' : sink'.room = none := by cases noticed; rfl
    let start : Work := ⟨c, sink', .zero, 0⟩
    rw [sink_conclude]
    refine hnotice.bind (@grows_runMode start config shutdown.moment hroom')
      (fun hfits' htaken => ?_) fun left hrefused => ?_
    · have hcut : cut = conclude config shutdown timestamp
          (runMode config shutdown.moment (start.limited n)) :=
        (Course.worked valid opened htaken).run_eq
      refine (@runMode_limited start n config shutdown.moment hroom' hfits').imp
        (fun hsame => ?_) ?_
      · rw [hcut, hsame, conclude_limited]
      · rintro left ⟨w, hrefused, rfl⟩
        rw [hcut, hrefused]
        exact ⟨rfl, rfl⟩
    · have hcut : cut = _ := (Course.unnoticed valid opened hrefused).run_eq
      rw [hcut]
      exact ⟨rfl, rfl⟩

/-- A session that prints anything has opened its connection and printed the notice first. -/
theorem notice_first
    (hprints : (run network config (.empty none) shutdown timestamp).sink.accepted.toList ≠ []) :
    config.validate = .ok () ∧ ∃ c more, dial network config = .opened c ∧
      (run network config (.empty none) shutdown timestamp).sink.accepted.toList =
        notice :: "\n" :: more := by
  have hcourse := course_run network config (.empty none) shutdown timestamp
  generalize run network config (.empty none) shutdown timestamp = whole at hcourse hprints ⊢
  cases hcourse with
  | invalid _ | failed _ _ | waiting _ _ => exact absurd rfl hprints
  | unnoticed _ _ refused =>
    rw [Sink.putLine_unlimited rfl] at refused
    cases refused
  | @worked c sink' valid opened noticed =>
    obtain rfl : sink' = ⟨#[notice, "\n"], none⟩ := by cases noticed; rfl
    obtain ⟨more, hmore⟩ := @grows_runMode ⟨c, ⟨#[notice, "\n"], none⟩, .zero, 0⟩ config
      shutdown.moment rfl
    refine ⟨valid, c, more, opened, ?_⟩
    rw [sink_conclude, ← hmore]
    rfl

/-- **A sink with room for some lines cuts the output of a session and changes nothing before.** If
everything the session prints on a sink without a limit fits, nothing else changes either. Otherwise
it fails with the first piece that does not, and has printed what comes before. Without room for the
notice, the peer receives nothing. -/
theorem output_cut_at_refusal (hpeer : ∀ address peer localEnd wire,
      network.reach address = .accepts peer localEnd wire → wire = .plan parts ending) (n : Nat) :
    let whole := run network config (.empty none) shutdown timestamp
    let cut := run network config (.empty (some n)) shutdown timestamp
    let pieces := whole.sink.accepted.toList
    (Fits n pieces → cut.result = whole.result ∧ cut.log = whole.log ∧
      cut.connection = whole.connection ∧ cut.sink.accepted = whole.sink.accepted) ∧
    (¬ Fits n pieces → pieces.take 2 = [notice, "\n"] ∧ ∃ k, RefusedAt n pieces k ∧
      cut.result = some (.error (.output full)) ∧ cut.sink.accepted.toList = pieces.take k ∧
      cut.sink.text.toList <+: whole.sink.text.toList ∧ n ≤ Sink.lineEnds cut.sink.text ∧
      (k < 2 → ∃ c, cut.connection = some c ∧ c.wire.written.toList = [])) := by
  intro whole cut pieces
  have hlimited : Truncates n whole.sink (cut = whole.limited n) fun left =>
      cut.result = some (.error (.output full)) ∧ cut.sink = left :=
    @run_limited (.empty none) n network config shutdown timestamp rfl Sink.fits_nil
  rcases hlimited with ⟨hfits, hcut⟩ | ⟨k, left, hk, ⟨hfull, rfl⟩, hcut⟩
  · refine ⟨fun _ => ?_, fun hnot => absurd hfits hnot⟩
    rw [hcut]
    exact ⟨rfl, rfl, rfl, rfl⟩
  · refine ⟨fun hfits => absurd hfits hk.not_fits, fun _ => ?_⟩
    obtain ⟨hvalid, c, more, hopened, hpieces⟩ :=
      notice_first (List.ne_nil_of_length_pos (Nat.zero_lt_of_lt hk.lt))
    refine ⟨by rw [show pieces = _ from hpieces]; rfl, k, hk, hfull, hcut, ?_, ?_, fun hnotice => ?_⟩
    · have hwhole : whole.sink.text = cut.sink.text ++ .join (pieces.drop k) := by
        rw [Sink.text, Sink.text, hcut, ← String.join_append, List.take_append_drop]
      rw [hwhole, String.toList_append]
      exact List.prefix_append _ _
    · rw [Sink.text, Sink.lineEnds_join, hcut]
      exact hk.late
    · -- There is no line end before the notice or in it, so there is no room at all.
      have hlate := hk.late
      rw [hpieces] at hlate
      obtain rfl : n = 0 := by
        rcases k with _ | _ | k
        · exact Nat.le_zero.mp hlate
        · exact Nat.le_zero.mp hlate
        · omega
      have hrun : cut = _ := (Course.unnoticed hvalid hopened rfl).run_eq
      obtain ⟨address, hreach⟩ := Connection.reach_connect hopened
      refine ⟨c, by rw [hrun], ?_⟩
      rw [hpeer address _ _ _ hreach]
      exact (Wire.accounts_plan parts ending).outbound.written.symm

/-- The line end in the received text counts, so that the one after the text does not fit. -/
theorem output_cut_at_refusal_after_text :
    let network : Network := ⟨fun _ => .ok [.v4 .loopback], fun address =>
      .accepts address address (.plan [[0x61, 0x0A, 0x62], [0x63]] (some .close))⟩
    let cut := run network { Config.standard with mode := .receive } (.empty (some 2)) .never ""
    cut.result = some (.error (.output full)) ∧
      cut.sink.accepted.toList = ["connected", "\n", "a\nb"] := by
  intro network cut
  let whole := run network { Config.standard with mode := .receive } (.empty none) .never ""
  have hpieces : whole.sink.accepted.toList = ["connected", "\n", "a\nb", "\n", "c", "\n"] := by
    decide +kernel
  have hthird : RefusedAt 2 whole.sink.accepted.toList 3 := by
    rw [hpieces]
    exact ⟨by decide, by decide, by decide⟩
  obtain ⟨-, k, hk, hfull, hcut, -⟩ := (@output_cut_at_refusal network
    { Config.standard with mode := .receive } .never "" [[0x61, 0x0A, 0x62], [0x63]] (some .close)
    (fun _ _ _ _ hreach => by cases hreach; rfl) 2).2 hthird.not_fits
  obtain rfl := hk.unique hthird
  exact ⟨hfull, hcut.trans (by rw [hpieces]; rfl)⟩

end LinkProbe.Session
