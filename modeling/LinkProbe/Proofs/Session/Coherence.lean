import LinkProbe.Proofs.Connection.Delivery
import LinkProbe.Proofs.Receiver.Counts
import LinkProbe.Proofs.Session.Course
import LinkProbe.Proofs.Session.Receiving

/-!
# Reports that fit together

What a report says of a session agrees with its configuration, with the plan of the peer, with the
request to stop and with what the peer has received, however the session went.

* `Session.HasSent`, `Session.HasReceived`: what work in each mode has done when it is over.
* `Session.hasSent_send`, `Session.hasReceived_receive`: all work is like this.
* `Report.Coherent`: what is asked of a report.
* `Session.report_coherent`: every report is coherent.
-/

namespace LinkProbe

/-! ## Work and its end -/

namespace Connection

/-- A connection that is open or over is so after a deed. -/
theorem usable_perform {c : Connection} (h : c.state = .opened ∨ c.state = .closed) (deed : Deed) :
    (c.perform deed).state = .opened ∨ (c.perform deed).state = .closed := by
  rcases h with hopened | hclosed
  · rw [state_perform hopened]
    split
    · exact .inr rfl
    · exact .inl rfl
  · exact .inr (state_perform_closed hclosed deed)

theorem state_close_usable {c : Connection} (h : c.state = .opened ∨ c.state = .closed) :
    c.close.state = .closed := by
  rcases h with hopened | hclosed
  · exact state_close hopened
  · rw [close_closed hclosed, hclosed]

theorem written_close (c : Connection) : c.close.wire.written = c.wire.written := by
  rw [wire_close]
  split <;> rfl

/-- A payload that is written comes behind what was written before. -/
theorem written_write_ok {c d : Connection} {payload : List UInt8} {length : Nat}
    (h : c.write payload = (.ok length, d)) :
    d.wire.written.toList = c.wire.written.toList ++ payload := by
  rw [write] at h
  split at h
  · cases h
  · rcases c.wire.write_cases payload with ⟨failure, hwrite⟩ | ⟨accepts, hwrite⟩ <;>
      rw [hwrite] at h <;> cases h
    simp

theorem written_write_error {c d : Connection} {payload : List UInt8} {fault : Fault}
    (h : c.write payload = (.error fault, d)) : d.wire.written = c.wire.written := by
  rw [write] at h
  split at h
  · cases h
    rfl
  · rcases c.wire.write_cases payload with ⟨failure, hwrite⟩ | ⟨accepts, hwrite⟩ <;>
      rw [hwrite] at h <;> cases h
    rw [wire_markClosed]

/-- Reads write nothing. -/
theorem Takes.written {σ : Type} {consumer : Consumer σ} {capacity : Nat} {c d : Connection}
    {s t : σ} {chunks : List (List UInt8)} (h : Takes consumer capacity c s chunks d t) :
    d.wire.written = c.wire.written := by
  induction h with
  | none => rfl
  | @chunk c _ _ _ _ _ bytes _ hread _ _ ih =>
    obtain ⟨-, wire, hdata, rfl⟩ := read_chunk hread
    have hkept := (c.wire.written_read capacity).1
    rw [Buffer.spare_exact] at hdata
    rw [hdata] at hkept
    rw [ih, wire_noteAll, hkept]

end Connection

namespace Session

variable {network : Network} {config : Config} {sink : Sink} {shutdown : Shutdown}
  {timestamp : String} {moment : Moment} {w after : Work} {outcome : Outcome}
  {parts : List (List UInt8)} {ending : Option Ending}

/-! ## Sending -/

/-- What work in send mode has done when it is over, with so many payloads and, if the write of the
next one was cut off, with a part of that. -/
structure HasSent (config : Config) (moment : Moment) (count : Nat) (part : List UInt8)
    (outcome : Outcome) (after : Work) : Prop where
  stats : after.stats = Stats.zero.addPayloads (payloadsFrom 0 count)
  written : after.connection.wire.written.toList = (payloadsFrom 0 count).flatten ++ part
  begun : part = [] ∨ part = moment.begun count
  count_le : ∀ limit, config.count = some limit → count ≤ limit.toNat
  usable : after.connection.state = .opened ∨ after.connection.state = .closed
  ended : ∀ termination, outcome = .ended termination →
    termination = .completed ∧ config.count.map UInt64.toNat = some count
  stopped : outcome = .stopped → moment ≠ .never

/-- A new sender on a new connection writes the first payloads, and nothing else. -/
theorem run_sender_new {c : Connection} (hstate : c.state = .opened)
    (hwire : c.wire = .plan parts ending) (intervalMs : Nat) (limit : Option Nat) (stats : Stats)
    (stopAt : Option Nat) :
    ∃ count halt r, (Sender.new intervalMs limit).run c stats stopAt = (halt, r) ∧
      r.sender = ⟨intervalMs, count, limit⟩ ∧
      r.stats = stats.addPayloads (payloadsFrom 0 count) ∧
      r.connection.wire.written.toList = (payloadsFrom 0 count).flatten ∧
      (r.connection.state = .opened ∨ r.connection.state = .closed) ∧
      (∀ n, limit = some n → count ≤ n) ∧ Sender.EndsBy stopAt r halt := by
  let deed : Deed := .send (.new intervalMs limit) stats stopAt
  have hworks := (Sender.new intervalMs limit).works_run c stats stopAt
  obtain ⟨count, hsent⟩ := hworks.sent
  have hsender : _ = (⟨intervalMs, 0 + count, limit⟩ : Sender) := hsent.sender
  have hnew : c.wire.Accounts [] [] := by
    rw [hwire]
    exact Wire.accounts_plan parts ending
  have haccounts : (c.perform deed).wire.Accounts (c.contacts deed) [] :=
    Connection.accounts_perform hnew deed
  have hwritten := haccounts.outbound.written
  rw [show Contact.payloads (c.contacts deed) = payloadsFrom 0 count from hsent.payloads]
    at hwritten
  rw [Nat.zero_add] at hsender
  refine ⟨count, _, _, rfl, hsender, hsent.stats, hwritten.symm,
    Connection.usable_perform (.inl hstate) deed, fun n hn => ?_, hworks.endsBy⟩
  have hle := hworks.next_le_limit hn (Nat.zero_le n)
  rwa [hsender] at hle

/-- A sender that was asked to stop was asked by some request. -/
theorem ne_never_of_stopSending {intervalMs stopAt : Nat} {wire : Wire}
    (h : stopSending moment intervalMs wire = some stopAt) : moment ≠ .never := by
  rintro rfl
  cases h

theorem hasSent_send (hstate : w.connection.state = .opened) (hstats : w.stats = .zero)
    (hwire : w.connection.wire = .plan parts ending)
    (hwork : send config moment w = (outcome, after)) :
    ∃ count part, HasSent config moment count part outcome after := by
  have hsending := sending_send config moment w
  rw [hwork] at hsending
  obtain ⟨count, halt, r, hrun, hsender, hcounted, hwritten, husable, hbelow, hends⟩ :=
    run_sender_new (c := (beginSend config w).connection) hstate hwire config.intervalMs.toNat
      (config.count.map UInt64.toNat) w.stats
      (stopSending moment config.intervalMs.toNat w.connection.wire)
  rw [hstats] at hcounted
  have hle (limit : UInt64) (hlimit : config.count = some limit) : count ≤ limit.toNat :=
    hbelow limit.toNat (by rw [hlimit, Option.map_some])
  have hnext : r.sender.next = count := by rw [hsender]
  cases hsending with
  | atOnce hstop =>
    refine ⟨0, [], hstats, ?_, .inl rfl, fun _ _ => Nat.zero_le _, .inl hstate,
      fun _ hended => (by cases hended), fun _ => ne_never_of_stopSending hstop⟩
    show w.connection.wire.written.toList = _
    rw [hwire]
    exact (Wire.accounts_plan parts ending).outbound.written.symm
  | ran hrun' hwhole =>
    cases hrun.symm.trans hrun'
    refine ⟨count, [], hcounted, ?_, .inl rfl, hle, ?_, fun termination hended => ?_,
      fun hstopped => ?_⟩
    · rw [Connection.wire_noteAll, List.append_nil]
      exact hwritten
    · rw [Connection.state_noteAll]
      exact husable
    · cases halt <;> cases hended
      refine ⟨rfl, ?_⟩
      -- The limit is reached, and no sender passes it.
      have hdone : r.sender.isDone = true := hends
      rw [hsender] at hdone
      cases hlimit : config.count.map UInt64.toNat with
      | none => simp [Sender.isDone, hlimit] at hdone
      | some n =>
        have hle : n ≤ count := by simpa [Sender.isDone, hlimit] using hdone
        rw [Nat.le_antisymm hle (hbelow n hlimit)]
    · cases halt <;> cases hstopped
      exact ne_never_of_stopSending hends.choose_spec
  | @cut _ _ d hrun' hbegun hwrite =>
    cases hrun.symm.trans hrun'
    have husable' := Connection.usable_perform husable (.write (moment.begun r.sender.next))
    rw [Connection.perform, hwrite] at husable'
    refine ⟨count, moment.begun count, hcounted, ?_, .inr rfl, hle, husable',
      fun _ hended => (by cases hended), fun _ => ne_never_of_stopSending hends.choose_spec⟩
    rw [Connection.written_write_ok hwrite, hwritten, hnext]
  | @failed _ _ d hrun' hbegun hwrite =>
    cases hrun.symm.trans hrun'
    have husable' := Connection.usable_perform husable (.write (moment.begun r.sender.next))
    rw [Connection.perform, hwrite] at husable'
    refine ⟨count, [], hcounted, ?_, .inl rfl, hle, husable', fun _ hended => (by cases hended),
      fun hstopped => (by cases hstopped)⟩
    show d.wire.written.toList = _
    rw [Connection.written_write_error hwrite, List.append_nil]
    exact hwritten

/-! ## Receiving -/

/-- What work in receive mode has done when it is over. -/
structure HasReceived (config : Config) (moment : Moment) (parts : List (List UInt8))
    (ending : Option Ending) (outcome : Outcome) (after : Work) : Prop where
  messages : after.stats.messagesSent = 0
  bytesSent : after.stats.bytesSent = 0
  written : after.connection.wire.written.toList = []
  chunks_le : after.stats.chunksReceived ≤ after.stats.bytesReceived
  bytes_le : after.stats.bytesReceived ≤
    after.stats.chunksReceived * Wire.room config.readBufferSize.toNat
  replaced_le : after.stats.replacements ≤ after.stats.bytesReceived
  usable : after.connection.state = .opened ∨ after.connection.state = .closed
  ended : ∀ termination, outcome = .ended termination → termination = .peerClosed ∧
    ending = some .close ∧ after.stats.bytesReceived = parts.flatten.length
  stopped : outcome = .stopped → moment ≠ .never

/-- A receiver that comes to the end of a peer that keeps to its plan has met all parts. -/
theorem received_all {r : Receiver} {c : Connection} {sink : Sink} {stats : Stats}
    (hstate : c.state = .opened) (hfollows : c.wire.Follows ending)
    (hended : (r.run c sink stats).1 = .ended) : ending = some .close ∧
      (Contact.chunks (c.contacts (.receive r sink stats))).flatten = c.wire.toCome := by
  obtain ⟨flow, desk, d, hconsume, hrun⟩ := r.run_cases c sink stats
  have hflow : flow = .ended := by
    rcases hrun with ⟨hflow, -⟩ | ⟨-, hother⟩
    · exact hflow
    · rw [hother] at hended
      exact hended
  obtain ⟨chunks, e, u, htakes, hstops⟩ := Connection.consume_iff.mp hconsume
  obtain ⟨hrest, hpieces⟩ := htakes.follows hstate hfollows
  have hmet : Contact.chunks (e.asked r.capacity) = [] := by
    rw [Connection.chunks_asked]
    rw [hflow] at hstops
    cases hstops with
    | ended hread => rw [hread]
  rcases hstops.follows (htakes.state.trans hstate) hrest with ⟨hnone, hlast, -, -⟩ |
    ⟨-, -, fault, -, -, hfailed⟩
  · refine ⟨?_, ?_⟩
    · rw [hflow] at hlast
      rcases ending with _ | _ | _ <;> cases hlast
      rfl
    · rw [Connection.contacts, Connection.chunks_consumeContacts htakes hstops, hmet, ← hnone,
        ← hpieces, Wire.flatten_pieces]
  · rw [hflow] at hfailed
    cases hfailed

/-- A new receiver on a new connection writes nothing, and what it counts fits together. -/
theorem run_receiver_new {c : Connection} (hstate : c.state = .opened)
    (hwire : c.wire = .plan parts ending) (mode : DecodeMode) (capacity : Nat) (sink : Sink) :
    ∃ flow desk d, (Receiver.new mode capacity).run c sink .zero = (flow, desk, d) ∧
      desk.Balanced capacity ∧ desk.stats.messagesSent = 0 ∧ desk.stats.bytesSent = 0 ∧
      d.wire.written.toList = [] ∧ (d.state = .opened ∨ d.state = .closed) ∧
      (flow = .ended → ending = some .close ∧ desk.stats.bytesReceived = parts.flatten.length) := by
  let receiver := Receiver.new mode capacity
  let deed : Deed := .receive receiver sink .zero
  obtain ⟨replaced, hcounted⟩ := receiver.stats_run c sink .zero
  have hwritten : (c.perform deed).wire.written.toList = [] := by
    have hnew : c.wire.Accounts [] [] := by
      rw [hwire]
      exact Wire.accounts_plan parts ending
    have haccounts : (c.perform deed).wire.Accounts (c.contacts deed) [] :=
      Connection.accounts_perform hnew deed
    have hnone : Contact.payloads (c.contacts deed) = [] :=
      c.payloads_consumeContacts Receiver.consumer receiver.capacity _
    have hall := haccounts.outbound.written
    rw [hnone] at hall
    exact hall.symm
  have hbalanced : (receiver.run c sink .zero).2.1.Balanced capacity :=
    Receiver.balanced_run (r := receiver) (.new capacity mode sink) c
  let result := receiver.run c sink .zero
  refine ⟨result.1, result.2.1, result.2.2, rfl, hbalanced, ?_, ?_, hwritten,
    Connection.usable_perform (.inl hstate) deed, fun hended => ?_⟩
  · rw [hcounted]
    rfl
  · rw [hcounted]
    rfl
  · have hfollows : c.wire.Follows ending := by
      rw [hwire]
      exact Wire.follows_plan parts ending
    obtain ⟨hclose, hall⟩ := received_all hstate hfollows hended
    refine ⟨hclose, ?_⟩
    rw [hwire, Wire.toCome_plan] at hall
    rw [hcounted, ← hall]
    exact Nat.zero_add _

/-- A receiver that has taken chunks from a new connection has written nothing, and what it counts
fits together. -/
theorem takes_receiver_new {c d : Connection} {mode : DecodeMode} {capacity : Nat} {sink : Sink}
    {chunks : List (List UInt8)} {desk : Receiver.Desk} (hstate : c.state = .opened)
    (hwire : c.wire = .plan parts ending)
    (htakes : c.Takes Receiver.consumer capacity ⟨.new mode, sink, .zero⟩ chunks d desk) :
    desk.Balanced capacity ∧ desk.stats.messagesSent = 0 ∧ desk.stats.bytesSent = 0 ∧
      d.wire.written.toList = [] ∧ d.state = .opened := by
  obtain ⟨replaced, hcounted⟩ := Receiver.stats_of_takes htakes
  refine ⟨(Receiver.Desk.Balanced.new capacity mode sink).takes htakes, ?_, ?_, ?_,
    htakes.state.trans hstate⟩
  · rw [hcounted]
    rfl
  · rw [hcounted]
    rfl
  · rw [htakes.written, hwire]
    exact (Wire.accounts_plan parts ending).outbound.written.symm

theorem hasReceived_receive (hstate : w.connection.state = .opened) (hstats : w.stats = .zero)
    (hwire : w.connection.wire = .plan parts ending)
    (hwork : receive config moment w = (outcome, after)) :
    HasReceived config moment parts ending outcome after := by
  obtain ⟨c, sink, stats, elapsedMs⟩ := w
  subst hstats
  have hreceiving := receiving_receive config moment ⟨c, sink, .zero, elapsedMs⟩
  rw [hwork] at hreceiving
  have hreplaced {desk : Receiver.Desk}
      (hbalanced : desk.Balanced config.readBufferSize.toNat) :
      desk.stats.replacements ≤ desk.stats.bytesReceived :=
    Nat.le_trans (Nat.le_add_right _ _) hbalanced.replaced_le
  cases hreceiving with
  | cut hcount htakes =>
    obtain ⟨hbalanced, hmessages, hbytes, hwritten, hopened⟩ :=
      takes_receiver_new (c := c.note (.logging (.ofStrict config.strictUtf8))) hstate hwire htakes
    refine ⟨hmessages, hbytes, hwritten, hbalanced.chunks_le, hbalanced.bytes_le,
      hreplaced hbalanced, .inl hopened, nofun, ?_⟩
    rintro - rfl
    cases hcount
  | @ran flow desk d hrun =>
    obtain ⟨flow', desk', d', hrun', hbalanced, hmessages, hbytes, hwritten, husable, hall⟩ :=
      run_receiver_new (c := c.note (.logging (.ofStrict config.strictUtf8))) hstate hwire
        (.ofStrict config.strictUtf8) config.readBufferSize.toNat sink
    cases hrun.symm.trans hrun'
    refine ⟨hmessages, hbytes, hwritten, hbalanced.chunks_le, hbalanced.bytes_le,
      hreplaced hbalanced, husable, fun termination hended => ?_, fun hstopped => ?_⟩
    · cases flow with
      | ended =>
        cases hended
        exact ⟨rfl, hall rfl⟩
      | failed fault => cases hended
      | waiting => cases moment <;> cases hended
    · rintro rfl
      cases flow <;> cases hstopped

/-! ## The report -/

/-- What is asked of a report on a session with a peer that sends these parts and ends like this,
when the probe has put the `written` bytes on the wire. -/
structure Coherent (config : Config) (moment : Moment) (parts : List (List UInt8))
    (ending : Option Ending) (written : List UInt8) (report : Report) : Prop where
  closed : report.finalState = .closed
  target : report.target = config.target
  mode : report.mode = config.mode
  /-- Only what has happened is given as the reason for the end. -/
  reason : match report.termination with
    | .completed =>
      config.mode = .send ∧ config.count.map UInt64.toNat = some report.stats.messagesSent
    | .peerClosed => config.mode = .receive ∧ ending = some .close ∧
      report.stats.bytesReceived = (parts.map List.length).sum
    | .shutdown => moment ≠ .never
  sent : config.mode = .send →
    report.stats.chunksReceived = 0 ∧ report.stats.bytesReceived = 0 ∧
    report.stats.replacements = 0 ∧
    report.stats.bytesSent = ((List.range report.stats.messagesSent).map fun k =>
      (bytesOf (payload k)).length).sum ∧
    (∀ count, config.count = some count → report.stats.messagesSent ≤ count.toNat) ∧
    -- Behind the payloads there is a part of the next one only if a write was cut off.
    ∃ part, written =
        ((List.range report.stats.messagesSent).flatMap fun k => bytesOf (payload k)) ++ part ∧
      part <+: bytesOf (payload report.stats.messagesSent) ∧
      part ≠ bytesOf (payload report.stats.messagesSent) ∧ (moment.SparesWrites → part = [])
  received : config.mode = .receive →
    report.stats.messagesSent = 0 ∧ report.stats.bytesSent = 0 ∧ written = [] ∧
    report.stats.chunksReceived ≤ report.stats.bytesReceived ∧
    report.stats.bytesReceived ≤ report.stats.chunksReceived * config.readBufferSize.toNat ∧
    report.stats.replacements ≤ report.stats.bytesReceived

/-- A session with a report had a connection, on which work came to an end in order. -/
theorem work_of_report {report : Report}
    (h : (run network config sink shutdown timestamp).result = some (.ok report)) :
    config.validate = .ok () ∧ ∃ c sink', Connection.connect network config.host config.port
        (config.connectTimeoutMs.map UInt64.toNat) #[.connecting config.target] = .opened c ∧
      run network config sink shutdown timestamp =
        conclude config shutdown timestamp
          (runMode config shutdown.moment ⟨c, sink', .zero, 0⟩) := by
  have hcourse := course_run network config sink shutdown timestamp
  generalize run network config sink shutdown timestamp = t at h hcourse ⊢
  cases hcourse with
  | worked valid opened noticed => exact ⟨valid, _, _, opened, rfl⟩
  | invalid _ | failed _ _ | waiting _ _ | unnoticed _ _ _ => cases h

/-- What a report tells that comes after work. -/
theorem report_of_work {report : Report}
    (husable : after.connection.state = .opened ∨ after.connection.state = .closed)
    (h : (conclude config shutdown timestamp (outcome, after)).result = some (.ok report)) :
    ∃ termination c,
      (outcome = .ended termination ∨ outcome = .stopped ∧ termination = .shutdown) ∧
      (conclude config shutdown timestamp (outcome, after)).connection = some c ∧
      c.wire.written = after.connection.wire.written ∧ report.finalState = .closed ∧
      report.target = config.target ∧ report.mode = config.mode ∧
      report.termination = termination ∧ report.stats = after.stats := by
  cases outcome with
  | ended termination =>
    cases h
    exact ⟨termination, _, .inl rfl, rfl, after.connection.written_close,
      Connection.state_close_usable husable, rfl, rfl, rfl, rfl⟩
  | stopped =>
    cases h
    let c := after.connection.noteAll (shutdown.notes ++ [.stopping])
    have hwritten : c.close.wire.written = after.connection.wire.written := by
      rw [c.written_close, Connection.wire_noteAll]
    have hclosed : c.close.state = .closed := by
      rw [← Connection.state_noteAll after.connection (shutdown.notes ++ [.stopping])] at husable
      exact Connection.state_close_usable husable
    exact ⟨.shutdown, _, .inr ⟨rfl, rfl⟩, rfl, hwritten, hclosed, rfl, rfl, rfl, rfl⟩
  | failed fault => cases h
  | endless => cases h

theorem coherent_of_hasSent {report : Report} {count : Nat} {part : List UInt8}
    (hmode : config.mode = .send)
    (hsent : HasSent config shutdown.moment count part outcome after)
    (h : (conclude config shutdown timestamp (outcome, after)).result = some (.ok report)) :
    ∃ c, (conclude config shutdown timestamp (outcome, after)).connection = some c ∧
      Coherent config shutdown.moment parts ending c.wire.written.toList report := by
  obtain ⟨termination, c, houtcome, hc, hwritten, hclosed, htarget, hsame, rfl, hstats⟩ :=
    report_of_work hsent.usable h
  have hcounted : report.stats = Stats.zero.addPayloads (payloadsFrom 0 count) := by
    rw [hstats, hsent.stats]
  have hmessages : report.stats.messagesSent = count := by
    rw [hcounted]
    simp [Stats.addPayloads, Stats.zero]
  have hpayloads : payloadsFrom 0 count = (List.range count).map fun k => bytesOf (payload k) := by
    rw [payloadsFrom, List.range_eq_range']
  have hlength : (payloadsFrom 0 count).flatten.length =
      ((List.range count).map fun k => (bytesOf (payload k)).length).sum := by
    rw [hpayloads, List.length_flatten, List.map_map]
    rfl
  refine ⟨c, hc, hclosed, htarget, hsame, ?_, fun _ => ⟨?_, ?_, ?_, ?_, ?_, part, ?_⟩,
    fun hother => ?_⟩
  · rcases houtcome with hended | ⟨hstopped, hterm⟩
    · obtain ⟨hterm, hall⟩ := hsent.ended _ hended
      rw [hterm, hmessages]
      exact ⟨hmode, hall⟩
    · rw [hterm]
      exact hsent.stopped hstopped
  · rw [hcounted]
    rfl
  · rw [hcounted]
    rfl
  · rw [hcounted]
    rfl
  · rw [hmessages, hcounted, ← hlength]
    exact Nat.zero_add _
  · rw [hmessages]
    exact hsent.count_le
  · rw [hmessages, hwritten, hsent.written, hpayloads, List.flatMap_def]
    refine ⟨rfl, ?_⟩
    rcases hsent.begun with hnone | hbegun
    · rw [hnone]
      exact ⟨List.nil_prefix, (bytesOf_payload_ne_nil count).symm, fun _ => rfl⟩
    · rw [hbegun]
      exact ⟨Moment.begun_prefix _ _, Moment.begun_ne _ _, fun hspares => hspares.begun count⟩
  · rw [hmode] at hother
    cases hother

theorem coherent_of_hasReceived {report : Report} (hvalid : config.validate = .ok ())
    (hmode : config.mode = .receive)
    (hreceived : HasReceived config shutdown.moment parts ending outcome after)
    (h : (conclude config shutdown timestamp (outcome, after)).result = some (.ok report)) :
    ∃ c, (conclude config shutdown timestamp (outcome, after)).connection = some c ∧
      Coherent config shutdown.moment parts ending c.wire.written.toList report := by
  obtain ⟨termination, c, houtcome, hc, hwritten, hclosed, htarget, hsame, rfl, hstats⟩ :=
    report_of_work hreceived.usable h
  have hbytes := hreceived.bytes_le
  rw [Config.room_of_validate hvalid] at hbytes
  refine ⟨c, hc, hclosed, htarget, hsame, ?_, fun hother => ?_, fun _ => ?_⟩
  · rcases houtcome with hended | ⟨hstopped, hterm⟩
    · obtain ⟨hterm, hclose, hall⟩ := hreceived.ended _ hended
      rw [hterm, hstats, ← List.length_flatten]
      exact ⟨hmode, hclose, hall⟩
    · rw [hterm]
      exact hreceived.stopped hstopped
  · rw [hmode] at hother
    cases hother
  · rw [hstats, hwritten]
    exact ⟨hreceived.messages, hreceived.bytesSent, hreceived.written, hreceived.chunks_le, hbytes,
      hreceived.replaced_le⟩

/-- **Every report is coherent**, whatever the configuration, the plan of the peer, the request to
stop and the room in the sink. -/
theorem report_coherent {report : Report}
    (hpeer : ∀ address peer localEnd wire,
      network.reach address = .accepts peer localEnd wire → wire = .plan parts ending)
    (hreport : (run network config sink shutdown timestamp).result = some (.ok report)) :
    ∃ c, (run network config sink shutdown timestamp).connection = some c ∧
      Coherent config shutdown.moment parts ending c.wire.written.toList report := by
  obtain ⟨hvalid, c, sink', hopened, hrun⟩ := work_of_report hreport
  have hstate := Connection.state_connect hopened
  obtain ⟨address, hreach⟩ := Connection.reach_connect hopened
  have hwire : c.wire = .plan parts ending := hpeer address _ _ _ hreach
  rw [hrun] at hreport ⊢
  cases hmode : config.mode with
  | send =>
    rcases hwork : send config shutdown.moment ⟨c, sink', .zero, 0⟩ with ⟨outcome, after⟩
    obtain ⟨count, part, hsent⟩ := hasSent_send (w := ⟨c, sink', .zero, 0⟩) hstate rfl hwire hwork
    simp only [runMode, hmode, hwork] at hreport ⊢
    exact coherent_of_hasSent hmode hsent hreport
  | receive =>
    rcases hwork : receive config shutdown.moment ⟨c, sink', .zero, 0⟩ with ⟨outcome, after⟩
    have hreceived := hasReceived_receive (w := ⟨c, sink', .zero, 0⟩) hstate rfl hwire hwork
    simp only [runMode, hmode, hwork] at hreport ⊢
    exact coherent_of_hasReceived hvalid hmode hreceived hreport

/-- A request to stop comes between the second payload and the third. -/
theorem report_coherent_cut : ∃ report c,
    let network : Network :=
      ⟨fun _ => .ok [.v4 .loopback], fun address => .accepts address address (.plan [] none)⟩
    let t := run network { Config.standard with count := some 3 } (.empty none) ⟨.after 2500, []⟩ ""
    t.result = some (.ok report) ∧ report.termination = .shutdown ∧
      report.stats = ⟨2, 16, 0, 0, 0⟩ ∧ t.connection = some c ∧
      c.wire.written.toList = bytesOf "Hello 0 Hello 1 " := by
  let network : Network :=
    ⟨fun _ => .ok [.v4 .loopback], fun address => .accepts address address (.plan [] none)⟩
  let t := run network { Config.standard with count := some 3 } (.empty none) ⟨.after 2500, []⟩ ""
  have hresult : t.result.bind Except.toOption =
      some ⟨"", "0.0.0.0:8999", .send, 2, .closed, .shutdown, ⟨2, 16, 0, 0, 0⟩⟩ := by
    decide +kernel
  obtain ⟨result, hsome, hok⟩ := Option.bind_eq_some_iff.mp hresult
  obtain ⟨report, rfl⟩ : ∃ report, result = .ok report := by
    cases result with
    | ok report => exact ⟨report, rfl⟩
    | error fault => cases hok
  cases hok
  obtain ⟨c, hc, hcoherent⟩ := @report_coherent network _ _ _ _ [] none _
    (fun address peer localEnd wire hreach => by cases hreach; rfl) hsome
  obtain ⟨-, -, -, -, -, part, hwritten, -, -, hwhole⟩ := hcoherent.sent rfl
  obtain rfl : part = [] := hwhole nofun
  exact ⟨_, c, hsome, rfl, rfl, hc, hwritten.trans (by decide +kernel)⟩

/-- A request to stop that cuts the second payload off: half of it has gone out, and nobody counts
it. -/
example :
    let network : Network :=
      ⟨fun _ => .ok [.v4 .loopback], fun address => .accepts address address (.plan [] none)⟩
    let t := run network Config.standard (.empty none) ⟨.cutting 1 4, []⟩ ""
    (t.result.bind Except.toOption).map (fun report => (report.termination, report.stats)) =
        some (.shutdown, ⟨1, 8, 0, 0, 0⟩) ∧
      t.connection.map (fun c => c.wire.written.toList) = some (bytesOf "Hello 0 Hell") := by
  decide +kernel

end Session

end LinkProbe
