import LinkProbe.Proofs.Connection.Contacts
import LinkProbe.Sender

/-!
# Payload after payload

A sender goes on until its limit is reached, it is asked to stop or a write fails. All that is true
of its runs follows from their traces.

* `Sender.contacts`: what a run meets on the wire.
* `Sender.Works`: the trace of a run.
* `Sender.works_run`: every run has a trace.
* `Sender.state_run`: the state of the connection after a run follows from what it met.
* `Sender.run_closed`: a run on a connection that is over.
-/

namespace LinkProbe

open Contact (stateAfter)

namespace Sender

/-! ## Traces -/

/-- What at most so many payloads meet. -/
def tickContacts (stopAt : Option Nat) : Nat → Run → List Contact
  | 0, _ => []
  | rounds + 1, r =>
    if r.sender.isDone then []
    else match stopAt.filter (· ≤ r.elapsedMs + r.sender.intervalMs) with
      | some _ => []
      | none =>
        r.connection.offered (bytesOf (payload r.sender.next)) ++
          match tick r with
          | (.error _, _) => []
          | (.ok (), r) => tickContacts stopAt rounds r

/-- What a run of the sender meets. -/
def contacts (s : Sender) (c : Connection) (stats : Stats) (stopAt : Option Nat) : List Contact :=
  match s.rounds c stopAt with
  | some rounds => tickContacts stopAt rounds ⟨s, c, stats, 0⟩
  | none => []

/-- A sender at work after a payload of that length was written. -/
def Run.sent (r : Run) (length : Nat) (c : Connection) : Run :=
  ⟨{ r.sender with next := r.sender.next + 1 }, c.note (.sent (payload r.sender.next)),
    r.stats.recordSend length, r.elapsedMs + r.sender.intervalMs⟩

/-- A payload is written, or the sender stays as it is. -/
theorem tick_cases (r : Run) :
    (∃ fault c, r.connection.write (bytesOf (payload r.sender.next)) = (.error fault, c) ∧
      tick r = (.error fault, { r with
        connection := c, elapsedMs := r.elapsedMs + r.sender.intervalMs })) ∨
    ∃ length c, r.connection.write (bytesOf (payload r.sender.next)) = (.ok length, c) ∧
      tick r = (.ok (), r.sent length c) := by
  rcases hwrite : r.connection.write (bytesOf (payload r.sender.next)) with ⟨fault | length, c⟩
  · exact .inl ⟨fault, c, rfl, by simp only [tick, hwrite]⟩
  · exact .inr ⟨length, c, rfl, by simp only [tick, hwrite, Run.sent]⟩

/-- A sender at work goes on to its end: what it meets, why it stops and what it leaves. -/
inductive Works (stopAt : Option Nat) : Run → List Contact → Halt → Run → Prop
  | completed {r : Run} (done : r.sender.isDone = true) : Works stopAt r [] .completed r
  /-- It is asked to stop before the next payload. -/
  | stopped {r : Run} {moment : Nat} (going : r.sender.isDone = false)
      (asked : stopAt = some moment) (late : moment ≤ r.elapsedMs + r.sender.intervalMs) :
      Works stopAt r [] .stopped { r with elapsedMs := moment }
  | failed {r : Run} {fault : Fault} {c : Connection} (going : r.sender.isDone = false)
      (early : ∀ moment, stopAt = some moment → r.elapsedMs + r.sender.intervalMs < moment)
      (write : r.connection.write (bytesOf (payload r.sender.next)) = (.error fault, c)) :
      Works stopAt r (r.connection.offered (bytesOf (payload r.sender.next))) (.failed fault)
        { r with connection := c, elapsedMs := r.elapsedMs + r.sender.intervalMs }
  /-- The next payload is written, and more may follow. -/
  | tick {r after : Run} {length : Nat} {c : Connection} {met : List Contact} {halt : Halt}
      (going : r.sender.isDone = false)
      (early : ∀ moment, stopAt = some moment → r.elapsedMs + r.sender.intervalMs < moment)
      (write : r.connection.write (bytesOf (payload r.sender.next)) = (.ok length, c))
      (rest : Works stopAt (r.sent length c) met halt after) :
      Works stopAt r (r.connection.offered (bytesOf (payload r.sender.next)) ++ met) halt after
  /-- No more rounds are looked at. -/
  | endless {r : Run} : Works stopAt r [] .endless r

variable {stopAt : Option Nat} {r after : Run} {met : List Contact} {halt : Halt}

theorem works_ticks (stopAt : Option Nat) (rounds : Nat) (r : Run) :
    Works stopAt r (tickContacts stopAt rounds r) (ticks stopAt rounds r).1
      (ticks stopAt rounds r).2 := by
  induction rounds generalizing r with
  | zero => exact .endless
  | succ rounds ih =>
    rw [ticks, tickContacts]
    cases hdone : r.sender.isDone with
    | true => exact .completed hdone
    | false =>
      simp only [Bool.false_eq_true, if_false]
      cases hstop : stopAt.filter (· ≤ r.elapsedMs + r.sender.intervalMs) with
      | some moment =>
        obtain ⟨hmoment, hlate⟩ := Option.filter_eq_some_iff.mp hstop
        exact .stopped hdone hmoment (by simpa using hlate)
      | none =>
        have hearly (moment : Nat) (hmoment : stopAt = some moment) :
            r.elapsedMs + r.sender.intervalMs < moment := by
          simpa using Option.filter_eq_none_iff.mp hstop moment hmoment
        rcases tick_cases r with ⟨fault, c, hwrite, htick⟩ | ⟨length, c, hwrite, htick⟩ <;>
          simp only [htick]
        · rw [List.append_nil]
          exact .failed hdone hearly hwrite
        · exact .tick hdone hearly hwrite (ih (r.sent length c))

/-- Every run of a sender has a trace. -/
theorem works_run (s : Sender) (c : Connection) (stats : Stats) (stopAt : Option Nat) :
    Works stopAt ⟨s, c, stats, 0⟩ (s.contacts c stats stopAt) (s.run c stats stopAt).1
      (s.run c stats stopAt).2 := by
  rw [run, contacts]
  cases s.rounds c stopAt with
  | some rounds => exact works_ticks stopAt rounds ⟨s, c, stats, 0⟩
  | none => exact .endless

/-! ## The connection after a run -/

theorem Works.state (h : Works stopAt r met halt after) (hstate : r.connection.state = .opened) :
    after.connection.state = stateAfter met := by
  induction h with
  | completed _ | stopped _ _ _ | endless => exact hstate
  | failed _ _ hwrite =>
    rw [← Connection.state_write hstate, hwrite]
  | tick _ _ hwrite _ ih =>
    obtain ⟨hoffered, hc⟩ := Connection.write_ok hwrite
    rw [Contact.stateAfter_append (by rw [hoffered]; rfl)]
    exact ih hc

/-- Whether the connection is over after a run of the sender follows from what the run met. -/
theorem state_run (s : Sender) {c : Connection} (hstate : c.state = .opened) (stats : Stats)
    (stopAt : Option Nat) :
    (s.run c stats stopAt).2.connection.state = stateAfter (s.contacts c stats stopAt) :=
  (s.works_run c stats stopAt).state hstate

/-- A sender does nothing to a connection that is over. -/
theorem Works.closed (h : Works stopAt r met halt after) (hclosed : r.connection.state = .closed) :
    after.connection = r.connection ∧ met = [] := by
  cases h with
  | completed _ | stopped _ _ _ | endless => exact ⟨rfl, rfl⟩
  | failed _ _ hwrite =>
    rw [Connection.write_closed hclosed] at hwrite
    cases hwrite
    exact ⟨rfl, Connection.offered_closed hclosed _⟩
  | tick _ _ hwrite _ =>
    rw [Connection.write_closed hclosed] at hwrite
    cases hwrite

/-- A run of a sender leaves a connection that is over as it is. -/
theorem connection_run_closed (s : Sender) {c : Connection} (h : c.state = .closed)
    (stats : Stats) (stopAt : Option Nat) : (s.run c stats stopAt).2.connection = c :=
  ((s.works_run c stats stopAt).closed h).1

theorem contacts_closed (s : Sender) {c : Connection} (h : c.state = .closed) (stats : Stats)
    (stopAt : Option Nat) : s.contacts c stats stopAt = [] :=
  ((s.works_run c stats stopAt).closed h).2

/-- A connection that is over takes no payload, so a sender with payloads left fails with the first
one. -/
theorem run_closed {s : Sender} {c : Connection} (hstate : c.state = .closed)
    (hdone : s.isDone = false) (stats : Stats) : s.run c stats none =
      (.failed (.write (.stated .notConnected "connection is closed")),
        ⟨s, c, stats, s.intervalMs⟩) := by
  have hleft : c.writesLeft = some 0 := by
    rw [Connection.writesLeft, if_neg (by rw [hstate]; exact nofun)]
  have hrounds : s.rounds c none = some 1 := by
    cases hlimit : s.limit <;> simp [rounds, hleft, hlimit]
  have hwrite := Connection.write_closed hstate (bytesOf (payload s.next))
  simp [run, hrounds, ticks, hdone, tick, hwrite]

end Sender

end LinkProbe
