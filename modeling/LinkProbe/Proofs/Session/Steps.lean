import LinkProbe.Proofs.Session.Work
import LinkProbe.Session.Task

/-!
# Work from wait to wait and as a whole

Work that goes on whenever what it waits for is there comes to the same end as all of it at once.
Where it waits, a request to stop can find it, and nowhere else.

* `Session.Steps`: from one point of the work to a later one.
* `Session.finished_iff`: where work ends that is not asked to stop.
* `Session.stops_where_awaiting`: wherever it waits, some request to stop ends it just there.
* `Session.awaits_where_stopped`: a request to stop that cuts no write off finds it waiting.
-/

namespace LinkProbe.Session

open Receiver (Desk consumer)

variable {config : Config} {moment : Moment} {w after : Work} {outcome : Outcome} {task : Task}
  {p q : Progress}

/-! ## Steps -/

/-- From the first point the work comes to the second. -/
inductive Steps : Progress → Progress → Prop
  | none {p : Progress} : Steps p p
  | resume {task : Task} {w : Work} {q : Progress} (rest : Steps (task.resume w) q) :
      Steps (.awaiting task w) q

theorem Steps.trans {p' : Progress} (h : Steps p p') (h' : Steps p' q) : Steps p q := by
  induction h with
  | none => exact h'
  | resume _ ih => exact .resume (ih h')

/-- There is one way to go on. -/
theorem Steps.to_finished (h : Steps p q) (hend : Steps p (.finished outcome after)) :
    Steps q (.finished outcome after) := by
  induction h with
  | none => exact hend
  | resume _ ih =>
    cases hend with
    | resume hrest => exact ih hrest

theorem Steps.finished_inj {outcome' : Outcome} {after' : Work}
    (h : Steps p (.finished outcome after)) (h' : Steps p (.finished outcome' after')) :
    outcome = outcome' ∧ after = after' := by
  cases h.to_finished h'
  exact ⟨rfl, rfl⟩

/-! ## Receiving -/

section

variable {capacity : Nat} {c d e : Connection} {s t u : Desk} {bytes : List UInt8}
  {chunks : List (List UInt8)} {flow : Flow}

/-- Work that waits for something to read. -/
def reading (capacity : Nat) (w : Work) (s : Desk) (c : Connection) : Progress :=
  .awaiting (.receiving ⟨s.decoder, capacity⟩) (w.withDesk s c)

/-- A chunk is written down, and the next one is waited for. -/
theorem resume_chunk (w : Work) (hread : c.read capacity = (.chunk bytes, d))
    (hstep : consumer.step s bytes = (.ok (), t)) :
    (Task.receiving ⟨s.decoder, capacity⟩).resume (w.withDesk s c) =
      reading capacity w t (d.noteAll (consumer.notes bytes)) := by
  have hone := Connection.consumeOne_chunk hread hstep
  simp only [Task.resume, Receiver.runAtMost, Connection.consumeAtMost, Work.withDesk, hone]
  rfl

/-- Where handing out chunks stops, the work is over. -/
theorem resume_stops (w : Work) (hstops : c.Stops consumer capacity s flow d t)
    (hflow : flow ≠ .waiting) :
    (Task.receiving ⟨s.decoder, capacity⟩).resume (w.withDesk s c) =
      .finished ((Receiver.conclude (flow, t, d)).1.outcome .never)
        (w.withDesk (Receiver.conclude (flow, t, d)).2.1 (Receiver.conclude (flow, t, d)).2.2) := by
  have hone := hstops.consumeOne
  simp only [Task.resume, Receiver.runAtMost, Connection.consumeAtMost, Work.withDesk, hone]
  cases flow with
  | waiting => exact absurd rfl hflow
  | failed fault => rfl
  | ended =>
    rw [Receiver.conclude]
    rcases t.finish with ⟨fault | _, u⟩ <;> rfl

/-- As long as nothing comes, nothing changes. -/
theorem eq_of_read_waiting (hread : c.read capacity = (.waiting, d)) : d = c := by
  rcases c.read_cases capacity with ⟨-, h⟩ | ⟨-, ⟨_, -, -, h⟩ | ⟨-, h⟩ | ⟨-, h⟩ | ⟨_, _, -, h⟩⟩ <;>
    rw [hread] at h <;> cases h
  rfl

theorem resume_waiting (w : Work) (hread : c.read capacity = (.waiting, d)) :
    (Task.receiving ⟨s.decoder, capacity⟩).resume (w.withDesk s c) = reading capacity w s c := by
  obtain rfl := eq_of_read_waiting hread
  have hone : Connection.consumeOne consumer capacity d s = _ :=
    (Connection.Stops.waiting hread).consumeOne
  simp only [Task.resume, Receiver.runAtMost, Connection.consumeAtMost, Work.withDesk, hone]
  rfl

/-- One wait for each chunk. -/
theorem Steps.takes (w : Work) (h : c.Takes consumer capacity s chunks d t) :
    Steps (reading capacity w s c) (reading capacity w t d) := by
  induction h with
  | none => exact .none
  | chunk hread hstep _ ih =>
    refine .resume ?_
    rwa [resume_chunk w hread hstep]

/-- A wait for something to read comes after the chunks that were taken. -/
theorem Steps.awaiting_reading (h : Steps (reading capacity w s c) (.awaiting task after)) :
    ∃ chunks d t, c.Takes consumer capacity s chunks d t ∧ after = w.withDesk t d := by
  generalize hp : reading capacity w s c = p at h
  generalize hq : Progress.awaiting task after = q at h
  induction h generalizing c s with
  | none =>
    cases hp.trans hq.symm
    exact ⟨[], c, s, .none, rfl⟩
  | resume hrest ih =>
    cases hp
    rcases Connection.consumeOne_cases consumer capacity c s with ⟨bytes, d, t, hread, hstep, -⟩ |
      ⟨flow, d, t, hstops, -⟩
    · obtain ⟨chunks, e, u, htakes, hafter⟩ := ih (resume_chunk w hread hstep).symm hq
      exact ⟨bytes :: chunks, e, u, .chunk hread hstep htakes, hafter⟩
    · by_cases hflow : flow = .waiting
      · subst hflow
        cases hstops with
        | waiting hread => exact ih (resume_waiting w hread).symm hq
      · rw [resume_stops w hstops hflow] at hrest
        cases hrest
        cases hq

/-- A wait that nothing ends is not the way to the end. -/
theorem not_finished_of_waiting (hread : c.read capacity = (.waiting, d)) :
    ¬ Steps (reading capacity w s c) (.finished outcome after) := by
  intro h
  generalize hp : reading capacity w s c = p at h
  generalize hq : Progress.finished outcome after = q at h
  induction h with
  | none => cases hp.trans hq.symm
  | resume _ ih =>
    cases hp
    exact ih (resume_waiting w hread).symm hq

/-- A receiver that comes to an end has waited for each chunk and for the end. -/
theorem steps_of_run (w : Work) (hrun : (Receiver.mk s.decoder capacity).run c s.sink s.stats =
      (flow, t, d)) (hflow : flow ≠ .waiting) :
    Steps (reading capacity w s c) (.finished (flow.outcome .never) (w.withDesk t d)) := by
  rcases hconsume : c.consume consumer capacity s with ⟨last, u, e⟩
  have hlast : Receiver.conclude (last, u, e) = (flow, t, d) :=
    (congrArg Receiver.conclude hconsume).symm.trans hrun
  obtain ⟨chunks, c', s', htakes, hstops⟩ := Connection.consume_iff.mp hconsume
  have hgoes : last ≠ .waiting := by
    rintro rfl
    cases hlast
    exact hflow rfl
  refine (Steps.takes w htakes).trans (.resume ?_)
  rw [resume_stops w hstops hgoes, hlast]
  exact .none

/-- One that waits has taken chunks, and nothing more comes. -/
theorem takes_of_waiting (hrun : (Receiver.mk s.decoder capacity).run c s.sink s.stats =
      (.waiting, t, d)) :
    (∃ chunks, c.Takes consumer capacity s chunks d t) ∧ d.read capacity = (.waiting, d) := by
  rcases hconsume : c.consume consumer capacity s with ⟨last, u, e⟩
  have hlast : Receiver.conclude (last, u, e) = (.waiting, t, d) :=
    (congrArg Receiver.conclude hconsume).symm.trans hrun
  obtain ⟨chunks, c', s', htakes, hstops⟩ := Connection.consume_iff.mp hconsume
  cases hstops with
  | waiting hread =>
    cases hlast
    obtain rfl := eq_of_read_waiting hread
    exact ⟨⟨chunks, htakes⟩, hread⟩
  | ended hread =>
    rcases hfinish : u.finish with ⟨fault | _, _⟩ <;>
      simp only [Receiver.conclude, hfinish] at hlast <;> cases hlast
  | failed _ | refused _ _ => cases hlast

/-- As many chunks as were taken are handed out. -/
theorem consumeAtMost_of_takes {σ : Type} {consumer : Consumer σ} {s t : σ}
    (h : c.Takes consumer capacity s chunks d t) :
    Connection.consumeAtMost consumer capacity chunks.length c s = (none, t, d) := by
  induction h with
  | none => rfl
  | chunk hread hstep _ ih =>
    simp only [List.length_cons, Connection.consumeAtMost,
      Connection.consumeOne_chunk hread hstep, ih]

end

/-! ## Sending -/

section

variable {stopAt : Option Nat} {r last : Sender.Run} {met : List Contact} {halt : Halt}
  {length : Nat} {c : Connection} {fault : Fault}

/-- A payload is written, and the time for the next one is waited for. -/
theorem resume_written (w : Work)
    (hwrite : r.connection.write (bytesOf (payload r.sender.next)) = (.ok length, c)) :
    (Task.sending r.sender).resume (w.withRun r) =
      proceed (r.sent length c).sender (w.withRun (r.sent length c)) := by
  simp only [Task.resume, Work.withRun, Sender.tick, hwrite]
  rfl

/-- Where a write fails, the work is over. -/
theorem resume_unwritten (w : Work)
    (hwrite : r.connection.write (bytesOf (payload r.sender.next)) = (.error fault, c)) :
    (Task.sending r.sender).resume (w.withRun r) = .finished (.failed fault)
      ((w.withRun { r with connection := c, elapsedMs := r.elapsedMs + r.sender.intervalMs }).note
        (.senderStopped r.sender.next)) := by
  simp only [Task.resume, Work.withRun, Sender.tick, hwrite]

theorem proceed_going (hgoing : r.sender.isDone = false) (w : Work) :
    proceed r.sender (w.withRun r) = .awaiting (.sending r.sender) (w.withRun r) := by
  rw [proceed, hgoing]
  rfl

/-- One wait for each payload: the work comes to where the sender stops. -/
theorem steps_of_works (w : Work) (h : Sender.Works stopAt r met halt last) :
    match halt with
    | .completed | .failed _ => Steps (proceed r.sender (w.withRun r)) (.finished halt.outcome
        ((w.withRun last).note (.senderStopped last.sender.next)))
    | .stopped => ∃ elapsedMs, Steps (proceed r.sender (w.withRun r))
        (.awaiting (.sending last.sender) { w.withRun last with elapsedMs })
    | .endless => True := by
  induction h with
  | completed hdone =>
    rw [proceed, if_pos hdone]
    exact .none
  | @stopped r _ hgoing _ _ =>
    rw [proceed_going hgoing]
    exact ⟨r.elapsedMs, .none⟩
  | failed hgoing _ hwrite =>
    rw [proceed_going hgoing]
    refine .resume ?_
    rw [resume_unwritten w hwrite]
    exact .none
  | tick hgoing _ hwrite _ ih =>
    rw [proceed_going hgoing]
    rw [← resume_written w hwrite] at ih
    cases ‹Halt› with
    | completed | failed _ => exact .resume ih
    | stopped => exact ih.imp fun _ hsteps => .resume hsteps
    | endless => trivial
  | endless => trivial

/-- A sender that nothing bounds never comes to an end. -/
theorem not_finished_of_unbounded (hlimit : r.sender.limit = none)
    (hleft : r.connection.writesLeft = none) :
    ¬ Steps (proceed r.sender (w.withRun r)) (.finished outcome after) := by
  intro h
  have hgoing (s : Sender) (hnone : s.limit = none) : s.isDone = false := by
    rw [Sender.isDone, hnone]
  generalize hp : proceed r.sender (w.withRun r) = p at h
  generalize hq : Progress.finished outcome after = q at h
  induction h generalizing r with
  | none =>
    rw [proceed_going (hgoing _ hlimit), ← hq] at hp
    cases hp
  | resume _ ih =>
    rw [proceed_going (hgoing _ hlimit)] at hp
    cases hp
    rcases r.connection.writesLeft_write (bytesOf_payload_ne_nil r.sender.next) with ⟨hnone, -⟩ |
      ⟨-, c, hwrite, hmore⟩
    · cases hleft.symm.trans hnone
    · refine @ih (r.sent _ c) hlimit ?_ (resume_written w hwrite).symm hq
      show c.writesLeft = none
      rw [hmore, hleft, Option.map_none]

/-- At a wait the limit is not reached. -/
theorem eq_of_proceed_awaiting
    (h : proceed r.sender (w.withRun r) = .awaiting task after) :
    r.sender.isDone = false ∧ task = .sending r.sender ∧ after = w.withRun r := by
  rw [proceed] at h
  split at h <;> cases h
  exact ⟨Bool.eq_false_iff.mpr ‹_›, rfl, rfl⟩

/-- Time goes on from wait to wait. -/
theorem Steps.elapsed_le (h : Steps (proceed r.sender (w.withRun r)) (.awaiting task after)) :
    r.elapsedMs ≤ after.elapsedMs := by
  generalize hp : proceed r.sender (w.withRun r) = p at h
  generalize hq : Progress.awaiting task after = q at h
  induction h generalizing r with
  | none =>
    obtain ⟨-, -, rfl⟩ := eq_of_proceed_awaiting (hp.trans hq.symm)
    exact Nat.le_refl _
  | resume hrest ih =>
    obtain ⟨-, rfl, rfl⟩ := eq_of_proceed_awaiting hp
    rcases hwrite : r.connection.write (bytesOf (payload r.sender.next)) with ⟨fault | length, c⟩
    · rw [resume_unwritten w hwrite] at hrest
      cases hrest
      cases hq
    · exact Nat.le_trans (Nat.le_add_right _ _) (ih (resume_written w hwrite).symm hq)

/-- At the first wait, or an interval later at least. -/
theorem Steps.awaiting_cases (h : Steps (proceed r.sender (w.withRun r)) (.awaiting task after)) :
    r.sender.isDone = false ∧ (after = w.withRun r ∨
      ∃ length c, r.connection.write (bytesOf (payload r.sender.next)) = (.ok length, c) ∧
        Steps (proceed (r.sent length c).sender (w.withRun (r.sent length c)))
          (.awaiting task after)) := by
  generalize hp : proceed r.sender (w.withRun r) = p at h
  cases h with
  | none =>
    obtain ⟨hgoing, -, hafter⟩ := eq_of_proceed_awaiting hp
    exact ⟨hgoing, .inl hafter⟩
  | resume hrest =>
    obtain ⟨hgoing, rfl, rfl⟩ := eq_of_proceed_awaiting hp
    refine ⟨hgoing, .inr ?_⟩
    rcases hwrite : r.connection.write (bytesOf (payload r.sender.next)) with ⟨fault | length, c⟩
    · rw [resume_unwritten w hwrite] at hrest
      cases hrest
    · rw [resume_written w hwrite] at hrest
      exact ⟨length, c, rfl, hrest⟩

/-- A sender that is asked to stop right after a wait for its next payload began stops there. -/
theorem works_of_awaiting (hinterval : 0 < r.sender.intervalMs)
    (h : Steps (proceed r.sender (w.withRun r)) (.awaiting task after))
    (hworks : Sender.Works (some (after.elapsedMs + 1)) r met halt last) (hhalt : halt ≠ .endless) :
    halt = .stopped ∧ after = { w.withRun last with elapsedMs := after.elapsedMs } := by
  -- A payload that is due before the request goes out before the wait.
  have hlate {r : Sender.Run} (hinterval : 0 < r.sender.intervalMs)
      (hearly : ∀ moment, some (after.elapsedMs + 1) = some moment →
        r.elapsedMs + r.sender.intervalMs < moment) : after ≠ w.withRun r := by
    rintro rfl
    have hnow := hearly _ rfl
    simp only [Work.withRun] at hnow
    omega
  induction hworks with
  | completed hdone =>
    obtain ⟨hgoing, -⟩ := h.awaiting_cases
    rw [hdone] at hgoing
    cases hgoing
  | @stopped r moment _ hasked hdue =>
    cases hasked
    rcases h.awaiting_cases with ⟨-, hafter | ⟨length, c, -, hrest⟩⟩
    · rw [hafter]
      exact ⟨rfl, rfl⟩
    · have hle := hrest.elapsed_le
      simp only [Sender.Run.sent] at hle
      omega
  | failed _ hearly hwrite =>
    rcases h.awaiting_cases with ⟨-, hafter | ⟨length, c, hwrite', -⟩⟩
    · exact absurd hafter (hlate hinterval hearly)
    · cases hwrite.symm.trans hwrite'
  | tick _ hearly hwrite _ ih =>
    rcases h.awaiting_cases with ⟨-, hafter | ⟨length, c, hwrite', hrest⟩⟩
    · exact absurd hafter (hlate hinterval hearly)
    · cases hwrite.symm.trans hwrite'
      exact ih hinterval hrest hhalt
  | endless => exact absurd rfl hhalt

end

/-! ## All work -/

/-- The sender of a session on its new connection. -/
def senderStart (config : Config) (w : Work) : Sender.Run :=
  ⟨senderOf config, (beginSend config w).connection, w.stats, 0⟩

theorem start_send (hmode : config.mode = .send) (htime : w.elapsedMs = 0) :
    start config w = proceed (senderStart config w).sender (w.withRun (senderStart config w)) := by
  obtain ⟨c, sink, stats, elapsedMs⟩ := w
  subst htime
  simp only [start, hmode]
  rfl

theorem start_receive (hmode : config.mode = .receive) : start config w =
    reading config.readBufferSize.toNat w ⟨.new (.ofStrict config.strictUtf8), w.sink, w.stats⟩
      (beginReceive config w).connection := by
  simp only [start, hmode]
  rfl

theorem works_sendRun (config : Config) (moment : Moment) (w : Work) :
    ∃ met, Sender.Works
      (stopSending moment config.intervalMs.toNat (beginSend config w).connection.wire)
      (senderStart config w) met (sendRun config moment w).1 (sendRun config moment w).2 :=
  ⟨_, (senderOf config).works_run ..⟩

/-- What work comes to that is not asked to stop. -/
theorem steps_of_runMode (htime : w.elapsedMs = 0)
    (hrun : runMode config .never w = (outcome, after)) (hends : outcome ≠ .endless) :
    Steps (start config w) (.finished outcome after) := by
  cases hmode : config.mode with
  | send =>
    simp only [runMode, hmode] at hrun
    rw [start_send hmode htime]
    rcases send_of_spares config w Moment.never_sparesWrites with ⟨hstop, -⟩ |
      ⟨halt, r, hsent, hsend⟩
    · cases hstop
    · cases hrun.symm.trans hsend
      obtain ⟨met, hworks⟩ := works_sendRun config .never w
      rw [hsent] at hworks
      have hsteps := steps_of_works w hworks
      cases halt with
      | completed | failed _ => exact hsteps
      | stopped =>
        obtain ⟨_, hasked⟩ := hworks.endsBy
        cases hasked
      | endless => exact absurd rfl hends
  | receive =>
    simp only [runMode, hmode] at hrun
    rw [start_receive hmode]
    have hreceiving := receiving_receive config .never w
    rw [hrun] at hreceiving
    cases hreceiving with
    | cut hcount _ => cases hcount
    | @ran flow desk d hreceived =>
      cases flow with
      | ended | failed _ => exact steps_of_run w hreceived nofun
      | waiting => exact absurd rfl hends

/-- Work that never ends does not come to an end from wait to wait. -/
theorem not_finished_of_endless (hinterval : 0 < config.intervalMs.toNat) (htime : w.elapsedMs = 0)
    {w' : Work} (hrun : runMode config .never w = (.endless, w')) :
    ¬ Steps (start config w) (.finished outcome after) := by
  cases hmode : config.mode with
  | send =>
    simp only [runMode, hmode] at hrun
    rw [start_send hmode htime]
    rcases send_of_spares config w Moment.never_sparesWrites with ⟨hstop, -⟩ |
      ⟨halt, r, hsent, hsend⟩
    · cases hstop
    · cases halt <;> cases hrun.symm.trans hsend
      have hunbounded : ¬ ((senderOf config).limit ≠ none ∨ (none : Option Nat) ≠ none ∨
          (beginSend config w).connection.writesLeft ≠ none) := fun hbounded =>
        Sender.halts w.stats hinterval hbounded (congrArg Prod.fst hsent)
      simp only [not_or, Decidable.not_not] at hunbounded
      exact not_finished_of_unbounded hunbounded.1 hunbounded.2.2
  | receive =>
    simp only [runMode, hmode] at hrun
    rw [start_receive hmode]
    have hreceiving := receiving_receive config .never w
    rw [hrun] at hreceiving
    generalize hresult : (Outcome.endless, w') = result at hreceiving
    cases hreceiving with
    | cut hcount _ => cases hcount
    | @ran flow desk d hreceived =>
      cases flow <;> cases hresult
      obtain ⟨⟨chunks, htakes⟩, hread⟩ := @takes_of_waiting _ _ _
        ⟨.new (.ofStrict config.strictUtf8), w.sink, w.stats⟩ _ hreceived
      exact fun hsteps => not_finished_of_waiting hread ((Steps.takes w htakes).to_finished hsteps)

/-- **Work that goes on from wait to wait ends like all of it at once**, if it is not asked to
stop. -/
theorem finished_iff (hinterval : 0 < config.intervalMs.toNat) (htime : w.elapsedMs = 0) :
    Steps (start config w) (.finished outcome after) ↔
      runMode config .never w = (outcome, after) ∧ outcome ≠ .endless := by
  refine ⟨fun hsteps => ?_, fun ⟨hrun, hends⟩ => steps_of_runMode htime hrun hends⟩
  rcases hrun : runMode config .never w with ⟨outcome', after'⟩
  have hends : outcome' ≠ .endless := by
    rintro rfl
    exact not_finished_of_endless hinterval htime hrun hsteps
  obtain ⟨rfl, rfl⟩ := hsteps.finished_inj (steps_of_runMode htime hrun hends)
  exact ⟨rfl, hends⟩

/-- **Wherever work waits, some request to stop ends it just there.** -/
theorem stops_where_awaiting (hinterval : 0 < config.intervalMs.toNat) (htime : w.elapsedMs = 0)
    (h : Steps (start config w) (.awaiting task after)) :
    ∃ moment, moment.SparesWrites ∧ runMode config moment w = (.stopped, after) := by
  cases hmode : config.mode with
  | send =>
    rw [start_send hmode htime] at h
    let moment : Moment := .past after.elapsedMs
    have hspares : moment.SparesWrites := nofun
    refine ⟨moment, hspares, ?_⟩
    simp only [runMode, hmode]
    rcases send_of_spares config w hspares with ⟨hstop, -⟩ | ⟨halt, last, hsent, hsend⟩
    · cases hstop
    · rw [hsend]
      have hhalts : halt ≠ .endless := by
        have hstops : (sendRun config moment w).1 ≠ .endless :=
          Sender.halts w.stats hinterval (.inr (.inl nofun))
        rwa [hsent] at hstops
      obtain ⟨met, hworks⟩ := works_sendRun config moment w
      rw [hsent] at hworks
      obtain ⟨rfl, hafter⟩ := works_of_awaiting hinterval h hworks hhalts
      rw [hafter]
      rfl
  | receive =>
    rw [start_receive hmode] at h
    obtain ⟨chunks, d, desk, htakes, rfl⟩ := h.awaiting_reading
    refine ⟨.received chunks.length, nofun, ?_⟩
    have hwithin : (receiverOf config).runWithin (some chunks.length)
        (beginReceive config w).connection w.sink w.stats = (none, desk, d) := by
      have hall : Connection.consumeAtMost consumer (receiverOf config).capacity chunks.length
          (beginReceive config w).connection ⟨(receiverOf config).decoder, w.sink, w.stats⟩ = _ :=
        consumeAtMost_of_takes htakes
      rw [Receiver.runWithin, Receiver.runAtMost, hall]
    simp only [runMode, hmode]
    exact congrArg (concludeReceive _ (beginReceive config w)) hwithin

/-- **A request to stop that cuts no write off finds the work at a wait**, or it is there before
the work begins. -/
theorem awaits_where_stopped (htime : w.elapsedMs = 0) (hspares : moment.SparesWrites)
    (hrun : runMode config moment w = (.stopped, after)) :
    (∃ task w', Steps (start config w) (.awaiting task w') ∧
      after = { w' with elapsedMs := after.elapsedMs }) ∨
    after = beginSend config w := by
  cases hmode : config.mode with
  | send =>
    simp only [runMode, hmode] at hrun
    rw [start_send hmode htime]
    rcases send_of_spares config w hspares with ⟨-, hsend⟩ | ⟨halt, last, hsent, hsend⟩
    · exact .inr (congrArg Prod.snd (hrun.symm.trans hsend))
    · cases halt <;> cases hrun.symm.trans hsend
      obtain ⟨met, hworks⟩ := works_sendRun config moment w
      rw [hsent] at hworks
      obtain ⟨elapsedMs, hsteps⟩ := steps_of_works w hworks
      exact .inl ⟨_, _, hsteps, rfl⟩
  | receive =>
    simp only [runMode, hmode] at hrun
    rw [start_receive hmode]
    have hreceiving := receiving_receive config moment w
    rw [hrun] at hreceiving
    generalize hresult : (Outcome.stopped, after) = result at hreceiving
    cases hreceiving with
    | cut _ htakes =>
      cases hresult
      exact .inl ⟨_, _, Steps.takes w htakes, rfl⟩
    | @ran flow desk d hreceived =>
      cases flow with
      | ended | failed _ => cases hresult
      | waiting =>
        obtain ⟨⟨chunks, htakes⟩, -⟩ := @takes_of_waiting _ _ _
          ⟨.new (.ofStrict config.strictUtf8), w.sink, w.stats⟩ _ hreceived
        obtain ⟨-, hafter⟩ := Prod.mk.inj hresult
        exact .inl ⟨_, _, Steps.takes w htakes, by rw [hafter]; rfl⟩

end LinkProbe.Session
