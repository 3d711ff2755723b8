import LinkProbe.Proofs.Sender.Pace
import LinkProbe.Session

/-!
# How work goes

* `Moment.SparesWrites`: a request to stop that cuts no write off.
* `Moment.begun_prefix`, `Moment.begun_ne`: what is left of a payload if one does.
* `Session.Sending`, `Session.Receiving`: how work goes in each mode.
* `Session.sending_send`, `Session.receiving_receive`: all work goes in one of these ways.
* `Session.send_of_spares`: sending when no write is cut off.
-/

namespace LinkProbe

/-! ## Requests to stop -/

namespace Moment

variable {moment : Moment} {number : Nat}

/-- No write is cut off by the request. -/
def SparesWrites (moment : Moment) : Prop := ∀ number bytes, moment ≠ .cutting number bytes

theorem never_sparesWrites : SparesWrites .never := nofun

theorem SparesWrites.begun (h : moment.SparesWrites) (number : Nat) :
    moment.begun number = [] := by
  cases moment with
  | cutting other bytes => exact absurd rfl (h other bytes)
  | never | after _ | past _ | drained | received _ => rfl

/-- What has gone out of a payload is a beginning of it. -/
theorem begun_prefix (moment : Moment) (number : Nat) :
    moment.begun number <+: bytesOf (payload number) := by
  cases moment with
  | cutting _ bytes => exact (List.take_prefix _ _).trans (List.dropLast_prefix _)
  | never | after _ | past _ | drained | received _ => exact List.nil_prefix

/-- It is not the whole payload. -/
theorem begun_ne (moment : Moment) (number : Nat) :
    moment.begun number ≠ bytesOf (payload number) := by
  have hpos := List.length_pos_iff.mpr (bytesOf_payload_ne_nil number)
  refine fun heq => Nat.ne_of_lt ?_ (congrArg List.length heq)
  cases moment with
  | cutting _ bytes =>
    rw [begun, List.length_take, List.length_dropLast]
    omega
  | never | after _ | past _ | drained | received _ => exact hpos

end Moment

/-! ## Work -/

/-- What it means for the work that the sender stopped like this. -/
def Halt.outcome : Halt → Session.Outcome
  | .completed => .ended .completed
  | .failed fault => .failed fault
  | .stopped => .stopped
  | .endless => .endless

/-- What it means for the work that no more chunks come. -/
def Flow.outcome (moment : Moment) : Flow → Session.Outcome
  | .ended => .ended .peerClosed
  | .failed fault => .failed fault
  | .waiting => if moment.endsWait then .stopped else .endless

namespace Session

variable {config : Config} {moment : Moment} {w : Work}

/-- A request to stop that comes to a sender cuts a write off, or none, or the write fails. -/
theorem interrupt_cases (moment : Moment) (r : Sender.Run) :
    (moment.begun r.sender.next = [] ∧ interrupt moment r = (.ok (), r.connection)) ∨
    moment.begun r.sender.next ≠ [] ∧
      ((∃ length d, r.connection.write (moment.begun r.sender.next) = (.ok length, d) ∧
          interrupt moment r = (.ok (), d)) ∨
        ∃ fault d, r.connection.write (moment.begun r.sender.next) = (.error fault, d) ∧
          interrupt moment r = (.error fault, d)) := by
  unfold interrupt
  split
  · exact .inl ⟨‹_›, rfl⟩
  · next begun hsome =>
    refine .inr ⟨hsome, ?_⟩
    rcases r.connection.write (moment.begun r.sender.next) with ⟨fault | length, d⟩
    · exact .inr ⟨fault, d, rfl, rfl⟩
    · exact .inl ⟨length, d, rfl, rfl⟩

/-- The run of the sender of a session. -/
def sendRun (config : Config) (moment : Moment) (w : Work) : Halt × Sender.Run :=
  let start := beginSend config w
  (senderOf config).run start.connection start.stats
    (stopSending moment config.intervalMs.toNat start.connection.wire)

/-- What the log tells when a sender has stopped by itself. -/
def farewell (halt : Halt) (r : Sender.Run) : List Event :=
  match halt with
  | .completed | .failed _ => [.senderStopped r.sender.next]
  | .stopped | .endless => []

/-- How sending goes. -/
inductive Sending (config : Config) (moment : Moment) (w : Work) : Outcome × Work → Prop
  /-- It stops before anything else. -/
  | atOnce
      (stop : stopSending moment config.intervalMs.toNat (beginSend config w).connection.wire =
        some 0) :
      Sending config moment w (.stopped, beginSend config w)
  /-- It is the run of a sender, and no write is cut off. -/
  | ran {halt : Halt} {r : Sender.Run} (run : sendRun config moment w = (halt, r))
      (whole : halt = .stopped → moment.begun r.sender.next = []) :
      Sending config moment w (halt.outcome, ⟨r.connection.noteAll (farewell halt r), w.sink,
        r.stats, if halt = .stopped then moment.elapsed r.elapsedMs else r.elapsedMs⟩)
  /-- It stops in the middle of a write. -/
  | cut {r : Sender.Run} {length : Nat} {d : Connection}
      (run : sendRun config moment w = (.stopped, r)) (begun : moment.begun r.sender.next ≠ [])
      (write : r.connection.write (moment.begun r.sender.next) = (.ok length, d)) :
      Sending config moment w (.stopped, ⟨d, w.sink, r.stats, moment.elapsed r.elapsedMs⟩)
  /-- It is to stop in the middle of a write, which fails before. -/
  | failed {r : Sender.Run} {fault : Fault} {d : Connection}
      (run : sendRun config moment w = (.stopped, r)) (begun : moment.begun r.sender.next ≠ [])
      (write : r.connection.write (moment.begun r.sender.next) = (.error fault, d)) :
      Sending config moment w (.failed fault,
        ⟨d.note (.senderStopped r.sender.next), w.sink, r.stats, r.elapsedMs⟩)

/-- All sending goes in one of these ways. -/
theorem sending_send (config : Config) (moment : Moment) (w : Work) :
    Sending config moment w (send config moment w) := by
  rw [send]
  split
  · exact .atOnce ‹_›
  · rcases hrun : sendRun config moment w with ⟨halt, r⟩
    rw [show (senderOf config).run _ _ _ = (halt, r) from hrun]
    cases halt with
    | completed | failed _ | endless => exact .ran hrun nofun
    | stopped =>
      rw [concludeSend]
      rcases interrupt_cases moment r with ⟨hnone, hinterrupt⟩ | ⟨hsome,
        ⟨length, d, hwrite, hinterrupt⟩ | ⟨fault, d, hwrite, hinterrupt⟩⟩ <;> rw [hinterrupt]
      · exact .ran hrun fun _ => hnone
      · exact .cut hrun hsome hwrite
      · exact .failed hrun hsome hwrite

/-- A request to stop that cuts no write off comes before anything is sent, or to the run of a
sender. -/
theorem send_of_spares (config : Config) (w : Work) (hspares : moment.SparesWrites) :
    (stopSending moment config.intervalMs.toNat (beginSend config w).connection.wire = some 0 ∧
      send config moment w = (.stopped, beginSend config w)) ∨
    ∃ halt r, sendRun config moment w = (halt, r) ∧
      send config moment w = (halt.outcome, ⟨r.connection.noteAll (farewell halt r), w.sink,
        r.stats, if halt = .stopped then moment.elapsed r.elapsedMs else r.elapsedMs⟩) := by
  have hsending := sending_send config moment w
  generalize send config moment w = result at hsending ⊢
  cases hsending with
  | atOnce hstop => exact .inl ⟨hstop, rfl⟩
  | ran hrun _ => exact .inr ⟨_, _, hrun, rfl⟩
  | cut _ hbegun _ => exact absurd (hspares.begun _) hbegun
  | failed _ hbegun _ => exact absurd (hspares.begun _) hbegun

/-- How receiving goes. -/
inductive Receiving (config : Config) (moment : Moment) (w : Work) : Outcome × Work → Prop
  /-- It stops between two chunks, or before the first one. -/
  | cut {chunks : List (List UInt8)} {desk : Receiver.Desk} {d : Connection}
      (count : moment.chunks = some chunks.length)
      (takes : (beginReceive config w).connection.Takes Receiver.consumer
        config.readBufferSize.toNat ⟨.new (.ofStrict config.strictUtf8), w.sink, w.stats⟩ chunks d
        desk) :
      Receiving config moment w (.stopped, ⟨d, desk.sink, desk.stats, w.elapsedMs⟩)
  /-- It is the run of a receiver. -/
  | ran {flow : Flow} {desk : Receiver.Desk} {d : Connection}
      (run : (receiverOf config).run (beginReceive config w).connection w.sink w.stats =
        (flow, desk, d)) :
      Receiving config moment w (flow.outcome moment, ⟨d, desk.sink, desk.stats,
        if flow = .waiting then moment.elapsed w.elapsedMs else w.elapsedMs⟩)

/-- All receiving goes in one of these ways. -/
theorem receiving_receive (config : Config) (moment : Moment) (w : Work) :
    Receiving config moment w (receive config moment w) := by
  rw [receive]
  let start := beginReceive config w
  rcases (receiverOf config).runWithin_cases moment.chunks start.connection start.sink start.stats
    with ⟨chunks, desk, d, hcount, htakes, hwithin⟩ | ⟨flow, desk, d, hrun, hwithin⟩ <;>
    rw [hwithin]
  · exact .cut hcount htakes
  · have hran : Receiving config moment w (_, _) := .ran hrun
    cases flow with
    | ended | failed _ => exact hran
    | waiting => cases moment <;> exact hran

/-- Without a number of chunks after which it is to stop, receiving is the run of a receiver. -/
theorem receive_of_run {flow : Flow} {desk : Receiver.Desk} {d : Connection}
    (hchunks : moment.chunks = none)
    (hrun : (receiverOf config).run (beginReceive config w).connection w.sink w.stats =
      (flow, desk, d)) :
    receive config moment w = (flow.outcome moment, ⟨d, desk.sink, desk.stats,
      if flow = .waiting then moment.elapsed w.elapsedMs else w.elapsedMs⟩) := by
  have hreceiving := receiving_receive config moment w
  generalize receive config moment w = result at hreceiving ⊢
  cases hreceiving with
  | cut hcount _ => cases hchunks.symm.trans hcount
  | ran hrun' =>
    cases hrun.symm.trans hrun'
    rfl

end Session

end LinkProbe
