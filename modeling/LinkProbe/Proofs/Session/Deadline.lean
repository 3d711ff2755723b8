import LinkProbe.Proofs.Sender.Pace
import LinkProbe.Proofs.Session.Coherence
import LinkProbe.Proofs.Session.Course

/-!
# Sending against a deadline

A session that sends is asked to stop between two payloads. It has then sent what its interval
allows, or its whole count.

* `Wire.writesLeft_plan`: a peer that does not break the connection off takes all that is written.
* `Sender.run_until`: how far a sender comes that is asked to stop between two payloads.
* `Session.ReportsSent`: a report on so many payloads, which the peer has received.
* `Session.stops_between_payloads`: every such session.
-/

namespace LinkProbe

theorem Wire.writesLeft_settle {w : Wire} (hwhole : w.ending ≠ some .reset) :
    w.settle.writesLeft = w.writesLeft := by
  unfold settle
  split
  · split
    · rfl
    · split
      · rename_i ending hending
        cases ending with
        | close => rfl
        | reset => exact absurd hending hwhole
      · rfl
  · rfl

/-- A peer that does not break the connection off takes all that is written. -/
theorem Wire.writesLeft_plan (parts : List (List UInt8)) {ending : Option Ending}
    (hwhole : ending ≠ some .reset) : (plan parts ending).writesLeft = none :=
  writesLeft_settle hwhole

namespace Sender

variable {interval moment count : Nat} {limit : Option Nat} {c : Connection} {stats : Stats}
  {halt : Halt} {after : Run}

/-- **A new sender that is asked to stop between two payloads** sends its whole count, if the last
of these goes out before, and otherwise every payload whose time has come. -/
theorem run_until (hinterval : 0 < interval) (hleft : c.writesLeft = none)
    (hbetween : ¬ interval ∣ moment)
    (hrun : (new interval limit).run c stats (some moment) = (halt, after))
    (hsender : after.sender = ⟨interval, count, limit⟩) :
    (limit = some count ∧ count * interval < moment ∧ halt = .completed ∧
      after.elapsedMs = count * interval) ∨
    ((∀ n, limit = some n → moment < n * interval) ∧ count = moment / interval ∧
      halt = .stopped ∧ after.elapsedMs = moment) := by
  have hhalts := @halts (some moment) (new interval limit) c stats hinterval (.inr (.inl nofun))
  have hworks := (new interval limit).works_run c stats (some moment)
  rw [hrun] at hhalts hworks
  have hpaced : Run.Paced _ _ count _ _ :=
    hworks.paced (by rw [hsender]; exact (Nat.zero_add count).symm)
  have hearly : count * interval < moment := by
    cases count with
    | zero =>
      have hpos : moment ≠ 0 := fun hzero => hbetween (hzero ▸ Nat.dvd_zero interval)
      omega
    | succ count =>
      have hlast : 0 + (count + 1) * interval < moment := hpaced.early (Nat.succ_pos count) _ rfl
      omega
  cases halt with
  | completed =>
    obtain ⟨hdone, htime⟩ := hpaced.ends
    rw [hsender] at hdone
    cases limit with
    | none => cases hdone
    | some n =>
      have hle : n ≤ count := by simpa [isDone] using hdone
      have hlimit := hworks.next_le_limit (rfl : _ = some n) (Nat.zero_le n)
      rw [hsender] at hlimit
      obtain rfl : count = n := Nat.le_antisymm hlimit hle
      exact .inl ⟨rfl, hearly, rfl, htime.trans (Nat.zero_add _)⟩
  | stopped =>
    obtain ⟨hgoing, hasked, hlate⟩ := hpaced.ends
    obtain rfl : moment = after.elapsedMs := Option.some.inj hasked
    have hnext : after.elapsedMs < (count + 1) * interval := by
      have hle : after.elapsedMs ≤ 0 + (count + 1) * interval := hlate
      have hne : after.elapsedMs ≠ (count + 1) * interval :=
        fun heq => hbetween (heq ▸ Nat.dvd_mul_left interval _)
      omega
    refine .inr ⟨fun n hn => ?_, ?_, rfl, rfl⟩
    · have hmore : count < n := by
        have hbelow := not_isDone (by rw [hsender]; exact hn) hgoing
        rwa [hsender] at hbelow
      exact Nat.lt_of_lt_of_le hnext (Nat.mul_le_mul_right interval hmore)
    · exact (Nat.div_eq_of_lt_le (Nat.le_of_lt hearly) hnext).symm
  | failed fault =>
    have hsome : c.writesLeft = some count := hpaced.ends.1
    rw [hleft] at hsome
    cases hsome
  | endless => exact absurd rfl hhalts

end Sender

namespace Session

variable {network : Network} {config : Config} {c : Connection} {shutdown : Shutdown}
  {timestamp : String} {parts : List (List UInt8)} {ending : Option Ending} {moment : Nat}

/-- The session reports that it has sent the first `count` payloads and ended like this after that
time, and that is what the peer has received. -/
structure ReportsSent (config : Config) (timestamp : String) (t : Transcript)
    (termination : Termination) (count elapsedMs : Nat) : Prop where
  result : t.result = some (.ok ⟨timestamp, config.target, .send, elapsedMs / 1000, .closed,
    termination, ⟨count, (payloadsFrom 0 count).flatten.length, 0, 0, 0⟩⟩)
  received : ∃ d, t.connection = some d ∧ d.wire.written.toList = (payloadsFrom 0 count).flatten

theorem reportsSent_finish {termination : Termination} {count elapsedMs : Nat} {w : Work}
    (hmode : config.mode = .send) (htime : w.elapsedMs = elapsedMs)
    (husable : w.connection.state = .opened ∨ w.connection.state = .closed)
    (hstats : w.stats = Stats.zero.addPayloads (payloadsFrom 0 count))
    (hwritten : w.connection.wire.written.toList = (payloadsFrom 0 count).flatten) :
    ReportsSent config timestamp (conclude.finish config timestamp termination w) termination count
      elapsedMs := by
  subst htime
  constructor
  · have hclosed := Connection.state_close_usable husable
    simp [conclude.finish, report, Connection.note, hmode, hclosed, hstats, Stats.addPayloads,
      Stats.zero]
  · refine ⟨_, rfl, ?_⟩
    rw [← hwritten, ← w.connection.written_close]
    rfl

/-- What comes of sending until between two payloads. -/
theorem reportsSent_send (timestamp : String) (hmode : config.mode = .send)
    (hinterval : 0 < config.intervalMs.toNat) (hstate : c.state = .opened)
    (hpeer : c.wire = .plan parts ending) (hwhole : ending ≠ some .reset)
    (hmoment : shutdown.moment = .after moment) (hbetween : ¬ config.intervalMs.toNat ∣ moment)
    (sink : Sink) :
    let interval := config.intervalMs.toNat
    let t := conclude config shutdown timestamp (send config shutdown.moment ⟨c, sink, .zero, 0⟩)
    t.sink = sink ∧
      ((∃ n, config.count.map UInt64.toNat = some n ∧ n * interval < moment ∧
          ReportsSent config timestamp t .completed n (n * interval)) ∨
        ((∀ n, config.count.map UInt64.toNat = some n → moment < n * interval) ∧
          ReportsSent config timestamp t .shutdown (moment / interval) moment)) := by
  intro interval t
  let w : Work := ⟨c, sink, .zero, 0⟩
  let start := (beginSend config w).connection
  have hstop : stopSending shutdown.moment interval start.wire = some moment := by rw [hmoment]; rfl
  have hspares : shutdown.moment.SparesWrites := by rw [hmoment]; exact nofun
  have hleft : start.writesLeft = none := by
    have hwire : start.wire = .plan parts ending := hpeer
    rw [Connection.writesLeft, hwire, Wire.writesLeft_plan parts hwhole]
    exact if_pos hstate
  rcases send_of_spares config w hspares with ⟨hnow, -⟩ | ⟨halt, r, hsent, hsend⟩
  · cases hstop.symm.trans hnow
    exact absurd (Nat.dvd_zero _) hbetween
  · simp only [t, show send config shutdown.moment ⟨c, sink, .zero, 0⟩ = _ from hsend]
    have hrun : (senderOf config).run start .zero (some moment) = (halt, r) := hstop ▸ hsent
    obtain ⟨count, _, _, hrun', hsender, hstats, hwritten, husable, -⟩ :=
      run_sender_new (c := start) hstate hpeer interval (config.count.map UInt64.toNat) .zero
        (some moment)
    cases hrun.symm.trans hrun'
    have hend := Sender.run_until hinterval hleft hbetween hrun hsender
    rcases hend with ⟨hcount, hbefore, rfl, htime⟩ | ⟨hmore, rfl, rfl, -⟩
    · refine ⟨rfl, .inl ⟨count, hcount, hbefore, ?_⟩⟩
      exact reportsSent_finish hmode htime husable hstats hwritten
    · refine ⟨rfl, .inr ⟨hmore, ?_⟩⟩
      refine reportsSent_finish hmode ?_ ?_ hstats ?_
      · rw [hmoment]
        rfl
      · rwa [Connection.state_noteAll]
      · rwa [Connection.wire_noteAll]

/-- **A session that sends and is asked to stop between two payloads** reports on its whole count,
if the last of these goes out before, and otherwise on every payload whose time has come. It has
printed the notice only. -/
theorem stops_between_payloads (hvalid : config.validate = .ok ()) (hmode : config.mode = .send)
    (hopened : dial network config = .opened c) (hpeer : c.wire = .plan parts ending)
    (hwhole : ending ≠ some .reset) (hmoment : shutdown.moment = .after moment)
    (hbetween : ¬ config.intervalMs.toNat ∣ moment) :
    let interval := config.intervalMs.toNat
    let t := run network config (.empty none) shutdown timestamp
    (∀ n, config.count = some n → n.toNat * interval < moment →
      ReportsSent config timestamp t .completed n.toNat (n.toNat * interval)) ∧
    ((¬ ∃ n, config.count = some n ∧ n.toNat * interval < moment) →
      ReportsSent config timestamp t .shutdown (moment / interval) moment) ∧
    t.sink.text = "connected\n" := by
  intro interval t
  have hinterval : 0 < interval := by
    obtain ⟨-, -, hne, -⟩ := Config.validate_eq_ok.mp hvalid
    exact Nat.pos_of_ne_zero (by simpa [← UInt64.toNat_inj] using hne)
  have hrun : t = conclude config shutdown timestamp
      (send config shutdown.moment ⟨c, ⟨#[notice, "\n"], none⟩, .zero, 0⟩) := by
    simp only [t, run_noticed hvalid hopened, runMode, hmode]
  obtain ⟨hsink, hsent⟩ := reportsSent_send timestamp hmode hinterval
    (Connection.state_connect hopened) hpeer hwhole hmoment hbetween ⟨#[notice, "\n"], none⟩
  rw [← hrun] at hsink hsent
  refine ⟨fun n hn hbefore => ?_, fun hlate => ?_, by rw [hsink]; rfl⟩
  · rcases hsent with ⟨m, hm, -, hreports⟩ | ⟨hmore, -⟩
    · rw [hn] at hm
      cases hm
      exact hreports
    · exact absurd (hmore n.toNat (by rw [hn, Option.map_some])) (Nat.lt_asymm hbefore)
  · rcases hsent with ⟨m, hm, hbefore, -⟩ | ⟨-, hreports⟩
    · obtain ⟨n, hn, rfl⟩ := Option.map_eq_some_iff.mp hm
      exact absurd ⟨n, hn, hbefore⟩ hlate
    · exact hreports

/-- At the third second and a half the fourth payload has not gone out. -/
theorem stops_between_payloads_after_three :
    let network : Network := ⟨fun _ => .ok [.v4 .loopback], fun address =>
      .accepts address address (.plan [[0x61]] (some .close))⟩
    let session (count : Option UInt64) :=
      run network { Config.standard with count } (.empty none) ⟨.after 3500, []⟩ ""
    ReportsSent { Config.standard with count := some 3 } "" (session (some 3)) .completed 3 3000 ∧
      ReportsSent { Config.standard with count := some 4 } "" (session (some 4)) .shutdown 3 3500 := by
  intro network session
  have hvalid : Config.standard.validate = .ok () := Config.validate_eq_ok.mpr (by decide)
  have hbetween : ¬ Config.standard.intervalMs.toNat ∣ 3500 := by decide
  have hsession (count : Option UInt64) := @stops_between_payloads network
    { Config.standard with count } _ ⟨.after 3500, []⟩ "" [[0x61]] (some .close) 3500
    hvalid rfl rfl rfl nofun rfl hbetween
  refine ⟨(hsession (some 3)).1 3 rfl (by decide), (hsession (some 4)).2.1 ?_⟩
  rintro ⟨n, hn, hbefore⟩
  cases hn
  revert hbefore
  decide

end Session

end LinkProbe
