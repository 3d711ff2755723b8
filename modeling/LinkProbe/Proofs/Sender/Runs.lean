import LinkProbe.Proofs.Connection.Accounts

/-!
# What a run of a sender has sent

A sender writes its payloads in the order of their numbers. Its counter, the statistics and the
contacts with the wire tell of the same payloads.

* `payloadsFrom`: payloads with numbers in a row.
* `Sender.Run.Sent`: a run has sent so many.
* `Sender.Works.sent`, `Sender.sent_run`: every run has sent some number.
* `Sender.Works.next_le_limit`, `Sender.Works.endsBy`: how far a run goes, and what its end means.
-/

namespace LinkProbe

/-- The payloads with `count` numbers in a row. -/
def payloadsFrom (first count : Nat) : List (List UInt8) :=
  (List.range' first count).map fun number => bytesOf (payload number)

theorem payloadsFrom_succ (first count : Nat) : payloadsFrom first (count + 1) =
    bytesOf (payload first) :: payloadsFrom (first + 1) count := by
  rw [payloadsFrom, List.range'_succ, List.map_cons, payloadsFrom]

@[simp] theorem length_payloadsFrom (first count : Nat) :
    (payloadsFrom first count).length = count := by
  rw [payloadsFrom, List.length_map, List.length_range']

/-- The statistics after payloads that were written. -/
def Stats.addPayloads (s : Stats) (payloads : List (List UInt8)) : Stats :=
  { s with
    messagesSent := s.messagesSent + payloads.length
    bytesSent := s.bytesSent + payloads.flatten.length }

theorem Stats.addPayloads_cons (s : Stats) (payload : List UInt8) (payloads : List (List UInt8)) :
    s.addPayloads (payload :: payloads) = (s.recordSend payload.length).addPayloads payloads := by
  simp only [addPayloads, recordSend, List.length_cons, List.flatten_cons, List.length_append,
    Stats.mk.injEq, and_true]
  omega

namespace Connection

/-- A write tells whether its payload is on the wire. -/
theorem write_tells (c : Connection) (payload : List UInt8) :
    (∃ fault, (c.write payload).1 = .error fault ∧ Contact.payloads (c.offered payload) = []) ∨
    (c.write payload).1 = .ok payload.length ∧
      Contact.payloads (c.offered payload) = [payload] := by
  by_cases hstate : c.state = .opened
  · rw [offered_opened hstate, write, if_neg (not_not_intro hstate)]
    rcases c.wire.write_cases payload with ⟨failure, hwrite⟩ | ⟨accepts, hwrite⟩ <;> rw [hwrite]
    · exact .inl ⟨_, rfl, rfl⟩
    · exact .inr ⟨rfl, rfl⟩
  · rw [offered, write, if_pos hstate, if_pos hstate]
    exact .inl ⟨_, rfl, rfl⟩

theorem payloads_offered_ok {c d : Connection} {payload : List UInt8} {length : Nat}
    (h : c.write payload = (.ok length, d)) :
    length = payload.length ∧ Contact.payloads (c.offered payload) = [payload] := by
  rcases c.write_tells payload with ⟨fault, hwrite, -⟩ | ⟨hwrite, hoffered⟩ <;> rw [h] at hwrite <;>
    cases hwrite
  exact ⟨rfl, hoffered⟩

theorem payloads_offered_error {c d : Connection} {payload : List UInt8} {fault : Fault}
    (h : c.write payload = (.error fault, d)) : Contact.payloads (c.offered payload) = [] := by
  rcases c.write_tells payload with ⟨_, -, hoffered⟩ | ⟨hwrite, -⟩
  · exact hoffered
  · rw [h] at hwrite
    cases hwrite

end Connection

namespace Sender

variable {stopAt : Option Nat} {r after : Run} {met : List Contact} {halt : Halt}

/-- Between the two, `count` payloads were written, which are those of the contacts. -/
structure Run.Sent (before : Run) (met : List Contact) (count : Nat) (after : Run) : Prop where
  sender : after.sender = { before.sender with next := before.sender.next + count }
  payloads : Contact.payloads met = payloadsFrom before.sender.next count
  stats : after.stats = before.stats.addPayloads (payloadsFrom before.sender.next count)

/-- Nothing was written. -/
theorem Run.Sent.none {before after : Run} {met : List Contact}
    (hsender : after.sender = before.sender) (hmet : Contact.payloads met = [])
    (hstats : after.stats = before.stats) : before.Sent met 0 after :=
  ⟨hsender, hmet, hstats⟩

/-- One more was written before. -/
theorem Run.Sent.cons {before after : Run} {met more : List Contact} {count length : Nat}
    {c : Connection} (hlength : length = (bytesOf (payload before.sender.next)).length)
    (hmet : Contact.payloads met = [bytesOf (payload before.sender.next)])
    (h : (before.sent length c).Sent more count after) :
    before.Sent (met ++ more) (count + 1) after := by
  refine ⟨?_, ?_, ?_⟩
  · rw [h.sender]
    simp only [Run.sent, Sender.mk.injEq, true_and, and_true]
    omega
  · rw [Contact.payloads_append, hmet, h.payloads, payloadsFrom_succ]
    rfl
  · rw [h.stats, payloadsFrom_succ, Stats.addPayloads_cons, ← hlength]
    rfl

theorem Works.sent (h : Works stopAt r met halt after) : ∃ count, r.Sent met count after := by
  induction h with
  | completed _ | stopped _ _ _ | endless => exact ⟨0, .none rfl rfl rfl⟩
  | failed _ _ hwrite => exact ⟨0, .none rfl (Connection.payloads_offered_error hwrite) rfl⟩
  | tick _ _ hwrite _ ih =>
    obtain ⟨hlength, hoffered⟩ := Connection.payloads_offered_ok hwrite
    obtain ⟨count, hsent⟩ := ih
    exact ⟨count + 1, hsent.cons hlength hoffered⟩

/-- **A run of a sender writes the next payloads in the order of their numbers**, and its counter,
the statistics and the wire tell how many. -/
theorem sent_run (s : Sender) (c : Connection) (stats : Stats) (stopAt : Option Nat) :
    ∃ count, Run.Sent ⟨s, c, stats, 0⟩ (s.contacts c stats stopAt) count
      (s.run c stats stopAt).2 :=
  (s.works_run c stats stopAt).sent

/-! ## How a run ends -/

theorem not_isDone {s : Sender} {limit : Nat} (hlimit : s.limit = some limit)
    (h : s.isDone = false) : s.next < limit := by
  simpa [isDone, hlimit] using h

/-- A sender does not pass its limit. -/
theorem Works.next_le_limit {limit : Nat} (h : Works stopAt r met halt after)
    (hlimit : r.sender.limit = some limit) (hle : r.sender.next ≤ limit) :
    after.sender.next ≤ limit := by
  induction h with
  | completed _ | stopped _ _ _ | endless | failed _ _ _ => exact hle
  | tick hgoing _ _ _ ih => exact ih hlimit (not_isDone hlimit hgoing)

/-- What it means that a run ended like this. -/
def EndsBy (stopAt : Option Nat) (after : Run) : Halt → Prop
  | .completed => after.sender.isDone = true
  | .stopped => ∃ moment, stopAt = some moment
  | .failed _ | .endless => True

theorem Works.endsBy (h : Works stopAt r met halt after) : EndsBy stopAt after halt := by
  induction h with
  | completed hdone => exact hdone
  | stopped _ hasked _ => exact ⟨_, hasked⟩
  | failed _ _ _ | endless => trivial
  | tick _ _ _ _ ih => exact ih

end Sender

end LinkProbe
