import LinkProbe.Proofs.Sender.Trace
import LinkProbe.Receiver

/-!
# What can be done with a connection, in any order

* `Wire.Act`: what the peer and the network do.
* `Deed`: what the probe does, or one of these.
* `Connection.perform`, `Connection.performAll`: what becomes of the connection.
* `Connection.contacts`: what a deed meets on the wire; `Deed.ends`: it ends the connection.
* `Connection.state_perform`: the state of an open connection after a deed.
* `Connection.state_perform_closed`: a connection that is over stays so.
-/

namespace LinkProbe

open Contact (stateAfter)

/-- What the peer or the network does to the wire. -/
inductive Wire.Act where
  | send (bytes : List UInt8)
  | conclude (ending : Ending)
  /-- The peer plans to send more and to end in another way, if one is given. -/
  | extend (parts : List (List UInt8)) (ending : Option Ending)
  /-- The peer takes what has been written. -/
  | take
  /-- The wire is of no more use. -/
  | breakOff (failure : IoFailure)
  /-- So many more writes succeed. -/
  | limit (writes : Nat)

/-- The wire after that. -/
def Wire.Act.apply : Act → Wire → Wire
  | .send bytes, w => w.send bytes
  | .conclude ending, w => w.conclude ending
  | .extend parts ending, w => w.extend parts ending
  | .take, w => w.take.2.2
  | .breakOff failure, w => w.breakOff failure
  | .limit writes, w => { w with accepts := some writes }

/-- Something that is done with a connection. -/
inductive Deed where
  /-- A read into a buffer of the caller's. -/
  | read (buffer : Buffer)
  | write (payload : List UInt8)
  | close
  | drain (capacity : Nat)
  /-- A run of a sender, which may have been at work before and may be asked to stop. -/
  | send (sender : Sender) (stats : Stats) (stopAt : Option Nat)
  /-- A run of a receiver, which may have been at work before. -/
  | receive (receiver : Receiver) (sink : Sink) (stats : Stats)
  | peer (act : Wire.Act)

namespace Connection

/-- The connection after a deed. -/
def perform (c : Connection) : Deed → Connection
  | .read buffer => (c.read buffer).2
  | .write payload => (c.write payload).2
  | .close => c.close
  | .drain capacity => (c.drain capacity).2.2
  | .send sender stats stopAt => (sender.run c stats stopAt).2.connection
  | .receive receiver sink stats => (receiver.run c sink stats).2.2
  | .peer act => { c with wire := act.apply c.wire }

/-- The connection after deeds that were done one after the other. -/
def performAll (c : Connection) (deeds : List Deed) : Connection := deeds.foldl perform c

/-- What a deed of the probe meets on the wire. -/
def contacts (c : Connection) : Deed → List Contact
  | .read buffer => c.asked buffer
  | .write payload => c.offered payload
  | .drain capacity => c.consumeContacts collector capacity #[]
  | .send sender stats stopAt => sender.contacts c stats stopAt
  | .receive receiver sink stats =>
    c.consumeContacts Receiver.consumer receiver.capacity ⟨receiver.decoder, sink, stats⟩
  | .close | .peer _ => []

end Connection

/-- In the course of the deed a read finds that the peer has ended, a read or a write fails, or the
probe closes the connection. -/
def Deed.ends (c : Connection) : Deed → Bool
  | .close => true
  | deed => (c.contacts deed).any Contact.ends

/-! ## The state after a deed -/

namespace Receiver

/-- A receiver that comes to the end of the connection writes down what is left. -/
theorem run_of_ended (r : Receiver) {c d : Connection} {sink : Sink} {stats : Stats} {desk : Desk}
    (h : c.consume consumer r.capacity ⟨r.decoder, sink, stats⟩ = (.ended, desk, d)) :
    r.run c sink stats =
      (match desk.finish.1 with
        | .ok () => .ended
        | .error fault => .failed fault, desk.finish.2, d.noteAll (leftover desk)) := by
  rw [run, h, conclude]
  rcases desk.finish with ⟨fault | _, desk'⟩ <;> rfl

/-- A receiver that does not come to the end of the connection leaves what it holds. -/
theorem run_of_consume (r : Receiver) {c d : Connection} {sink : Sink} {stats : Stats} {desk : Desk}
    {flow : Flow} (h : c.consume consumer r.capacity ⟨r.decoder, sink, stats⟩ = (flow, desk, d))
    (hflow : flow ≠ .ended) : r.run c sink stats = (flow, desk, d) := by
  rw [run, h]
  cases flow with
  | ended => exact absurd rfl hflow
  | failed _ | waiting => rfl

/-- A run hands out chunks, and when the connection is over it writes down what is left. -/
theorem run_cases (r : Receiver) (c : Connection) (sink : Sink) (stats : Stats) :
    ∃ flow desk d, c.consume consumer r.capacity ⟨r.decoder, sink, stats⟩ = (flow, desk, d) ∧
      (flow = .ended ∧ r.run c sink stats =
          (match desk.finish.1 with
            | .ok () => .ended
            | .error fault => .failed fault, desk.finish.2, d.noteAll (leftover desk)) ∨
        flow ≠ .ended ∧ r.run c sink stats = (flow, desk, d)) := by
  rcases hconsume : c.consume consumer r.capacity ⟨r.decoder, sink, stats⟩ with ⟨flow, desk, d⟩
  refine ⟨flow, desk, d, rfl, ?_⟩
  by_cases hflow : flow = .ended
  · subst hflow
    exact .inl ⟨rfl, r.run_of_ended hconsume⟩
  · exact .inr ⟨hflow, r.run_of_consume hconsume hflow⟩

/-- Up to a number of chunks, either as many are taken, or a run comes to its end before. -/
theorem runAtMost_cases (r : Receiver) (count : Nat) (c : Connection) (sink : Sink)
    (stats : Stats) :
    (∃ chunks desk d, chunks.length = count ∧
      c.Takes consumer r.capacity ⟨r.decoder, sink, stats⟩ chunks d desk ∧
      r.runAtMost count c sink stats = (none, desk, d)) ∨
    ∃ flow desk d, r.run c sink stats = (flow, desk, d) ∧
      r.runAtMost count c sink stats = (some flow, desk, d) := by
  rcases Connection.consumeAtMost_cases consumer r.capacity count c ⟨r.decoder, sink, stats⟩ with
    ⟨chunks, d, desk, hlength, htakes, hall⟩ | ⟨flow, d, desk, hconsume, hall⟩
  · exact .inl ⟨chunks, desk, d, hlength, htakes, by rw [runAtMost, hall]⟩
  · rcases hrun : r.run c sink stats with ⟨last, desk', d'⟩
    have hlast : conclude (flow, desk, d) = (last, desk', d') := by rw [← hrun, run, hconsume]
    exact .inr ⟨last, desk', d', rfl, by simp only [runAtMost, hall, hlast]⟩

/-- Within a limit, either as many chunks are taken, or a run comes to its end before. -/
theorem runWithin_cases (r : Receiver) (limit : Option Nat) (c : Connection) (sink : Sink)
    (stats : Stats) :
    (∃ chunks desk d, limit = some chunks.length ∧
      c.Takes consumer r.capacity ⟨r.decoder, sink, stats⟩ chunks d desk ∧
      r.runWithin limit c sink stats = (none, desk, d)) ∨
    ∃ flow desk d, r.run c sink stats = (flow, desk, d) ∧
      r.runWithin limit c sink stats = (some flow, desk, d) := by
  cases limit with
  | none => exact .inr ⟨_, _, _, rfl, rfl⟩
  | some count =>
    rcases r.runAtMost_cases count c sink stats with ⟨chunks, desk, d, rfl, htakes, hall⟩ | hall
    · exact .inl ⟨chunks, desk, d, rfl, htakes, hall⟩
    · exact .inr hall

/-- The end of what comes changes nothing but the log. -/
theorem connection_run (r : Receiver) (c : Connection) (sink : Sink) (stats : Stats) :
    ∃ events, (r.run c sink stats).2.2 =
      (c.consume consumer r.capacity ⟨r.decoder, sink, stats⟩).2.2.noteAll events := by
  obtain ⟨flow, desk, d, hconsume, ⟨-, hrun⟩ | ⟨-, hrun⟩⟩ := r.run_cases c sink stats
  · exact ⟨leftover desk, by rw [hrun, hconsume]⟩
  · exact ⟨[], by rw [hrun, hconsume]; rfl⟩

theorem state_run (r : Receiver) (c : Connection) (sink : Sink) (stats : Stats) :
    (r.run c sink stats).2.2.state =
      (c.consume consumer r.capacity ⟨r.decoder, sink, stats⟩).2.2.state := by
  obtain ⟨events, hrun⟩ := r.connection_run c sink stats
  rw [hrun, Connection.state_noteAll]

theorem wire_run (r : Receiver) (c : Connection) (sink : Sink) (stats : Stats) :
    (r.run c sink stats).2.2.wire =
      (c.consume consumer r.capacity ⟨r.decoder, sink, stats⟩).2.2.wire := by
  obtain ⟨events, hrun⟩ := r.connection_run c sink stats
  rw [hrun, Connection.wire_noteAll]

/-- A receiver on a connection that is over reads nothing and writes down what it still holds. -/
theorem run_closed (r : Receiver) {c : Connection} (h : c.state = .closed) (sink : Sink)
    (stats : Stats) : r.run c sink stats =
      (match (Desk.finish ⟨r.decoder, sink, stats⟩).1 with
        | .ok () => .ended
        | .error fault => .failed fault,
        (Desk.finish ⟨r.decoder, sink, stats⟩).2,
        c.noteAll (leftover ⟨r.decoder, sink, stats⟩)) := by
  obtain ⟨flow, desk, d, hconsume, hrun⟩ := r.run_cases c sink stats
  rw [Connection.consume_closed h] at hconsume
  cases hconsume
  exact (hrun.resolve_right fun hother => hother.1 rfl).2

/-- A receiver that fails on a chunk leaves the connection to others. -/
theorem run_refused (r : Receiver) {c d : Connection} {sink : Sink} {stats : Stats} {desk : Desk}
    {fault : Fault} (h : c.consume consumer r.capacity ⟨r.decoder, sink, stats⟩ =
      (.failed fault, desk, d)) : r.run c sink stats = (.failed fault, desk, d) :=
  r.run_of_consume h nofun

end Receiver

namespace Connection

theorem state_close {c : Connection} (h : c.state = .opened) : c.close.state = .closed := by
  rw [close, if_neg (by simp [State.isTerminal, h]), markClosed_opened (by exact h)]
  rfl

/-- A connection that is open is over after the deeds that end it, and after no other. -/
theorem state_perform {c : Connection} (h : c.state = .opened) (deed : Deed) :
    (c.perform deed).state = if deed.ends c then .closed else .opened := by
  cases deed with
  | read buffer => exact state_read h buffer
  | write payload => exact state_write h payload
  | close => exact state_close h
  | drain capacity => exact state_consume h collector capacity #[]
  | send sender stats stopAt => exact sender.state_run h stats stopAt
  | receive receiver sink stats =>
    exact (receiver.state_run c sink stats).trans (state_consume h _ _ _)
  | peer act => exact h

/-- A connection that is over stays so. -/
theorem state_perform_closed {c : Connection} (h : c.state = .closed) (deed : Deed) :
    (c.perform deed).state = .closed := by
  cases deed with
  | read buffer => rw [perform, read_closed h]; exact h
  | write payload => rw [perform, write_closed h]; exact h
  | close => rw [perform, close_closed h]; exact h
  | drain capacity => rw [perform, drain, consume_closed h]; exact h
  | send sender stats stopAt => rw [perform, sender.connection_run_closed h]; exact h
  | receive receiver sink stats =>
    rw [perform, receiver.state_run, consume_closed h]
    exact h
  | peer act => exact h

/-- Nothing that is done with a connection that is over reaches the wire. -/
theorem contacts_closed {c : Connection} (h : c.state = .closed) (deed : Deed) :
    c.contacts deed = [] := by
  cases deed with
  | read buffer => exact asked_closed h buffer
  | write payload => exact offered_closed h payload
  | close | peer _ => rfl
  | drain capacity => exact consumeContacts_closed h _ _ _
  | send sender stats stopAt => exact sender.contacts_closed h stats stopAt
  | receive receiver sink stats => exact consumeContacts_closed h _ _ _

end Connection

end LinkProbe
