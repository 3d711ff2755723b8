import LinkProbe.Proofs.Connection.Deeds

/-!
# What happens to a wire in the course of a deed

A deed may read and write many times. What one read, one write and one act of the peer keep of a
wire, every deed keeps.

* `Wire.settle_cases`, `Wire.write_cases`: all that the peer does on its own, and all that a write
  can do.
* `Wire.Exchange`: reads, writes and acts of the peer, one after the other, with what they bring.
* `Connection.exchange_perform`: every deed is such an exchange, unless it closes the connection.
-/

namespace LinkProbe

namespace Wire

/-! ## One move -/

/-- What the peer does on its own: nothing, or, when everything has been read, the next of its
plan. -/
theorem settle_cases (w : Wire) : w.settle = w ∨
    w.broken = none ∧ w.ended = false ∧ w.unread = [] ∧
      ((∃ part parts,
          w.settle = { w with sent := w.sent ++ part.toArray, unread := part, parts }) ∨
        (∃ ending, w.settle = { w with parts := [], ending := none }.conclude ending) ∨
        w.settle = { w with parts := [] }) := by
  by_cases hidle : (w.unread.isEmpty && !w.ended && w.broken.isNone) = true
  · right
    rw [settle, if_pos hidle]
    simp only [Bool.and_eq_true, List.isEmpty_iff, Bool.not_eq_true', Option.isNone_iff_eq_none]
      at hidle
    obtain ⟨⟨hunread, hended⟩, hbroken⟩ := hidle
    refine ⟨hbroken, hended, hunread, ?_⟩
    cases w.parts.dropWhile List.isEmpty with
    | cons part parts => exact .inl ⟨part, parts, rfl⟩
    | nil =>
      cases w.ending with
      | some ending => exact .inr (.inl ⟨ending, rfl⟩)
      | none => exact .inr (.inr rfl)
  · exact .inl (by rw [settle, if_neg hidle])

/-- A write puts the whole payload on the wire, or nothing. -/
theorem write_cases (w : Wire) (payload : List UInt8) :
    (∃ failure, w.write payload = (.error failure, w)) ∨
    ∃ accepts, w.write payload = (.ok payload.length,
      { w with written := w.written ++ payload.toArray, accepts }) := by
  by_cases hempty : payload = []
  · refine .inr ⟨w.accepts, ?_⟩
    rw [write, hempty]
    simp
  · have hoffered : payload.isEmpty = false := by simpa using hempty
    cases hbroken : w.broken with
    | some failure => exact .inl ⟨failure, by simp [write, hoffered, hbroken]⟩
    | none =>
      by_cases haccepts : w.accepts = some 0
      · exact .inl ⟨.resetByPeer, by simp [write, hoffered, hbroken, haccepts]⟩
      · exact .inr ⟨_, by simp only [write, hoffered, hbroken, haccepts]; rfl⟩

/-! ## One after the other -/

/-- What the peer takes with this. -/
def Act.takes (w : Wire) : Act → List UInt8
  | .take => w.take.1
  | .send _ | .conclude _ | .extend _ _ | .breakOff _ | .limit _ => []

/-- What can happen to a wire that the probe does not shut: what reads and writes have met, what the
peer has taken and what has become of the wire. -/
inductive Exchange (w : Wire) : List Contact → List UInt8 → Wire → Prop
  | start : Exchange w [] [] w
  | read {v : Wire} {met : List Contact} {taken : List UInt8} (so_far : Exchange w met taken v)
      (capacity : Nat) :
      Exchange w (met ++ [.read (v.read capacity).1]) taken (v.read capacity).2
  | write {v : Wire} {met : List Contact} {taken : List UInt8} (so_far : Exchange w met taken v)
      (payload : List UInt8) :
      Exchange w (met ++ [.write payload (v.write payload).1]) taken (v.write payload).2
  | act {v : Wire} {met : List Contact} {taken : List UInt8} (so_far : Exchange w met taken v)
      (act : Act) : Exchange w met (taken ++ act.takes v) (act.apply v)

end Wire

namespace Connection

variable {σ : Type} {consumer : Consumer σ} {capacity : Nat} {c d : Connection} {s t : σ}
  {chunks : List (List UInt8)} {flow : Flow} {w : Wire} {met : List Contact} {taken : List UInt8}

/-! ## One read or write -/

@[simp] theorem wire_markClosed (c : Connection) : c.markClosed.wire = c.wire := by
  unfold markClosed
  split <;> rfl

theorem wire_read (c : Connection) (buffer : Buffer) : (c.read buffer).2.wire =
    if c.state = .closed then c.wire else (c.wire.read buffer.spare).2 := by
  by_cases hstate : c.state = .closed
  · rw [read_closed hstate, if_pos hstate]
  · have hread : c.read buffer = _ := if_neg (by simpa [State.isTerminal] using hstate)
    rw [hread, if_neg hstate]
    rcases c.wire.read buffer.spare with ⟨_ | _ | _ | _, wire⟩ <;> simp [note]

theorem wire_write (c : Connection) (payload : List UInt8) : (c.write payload).2.wire =
    if c.state = .opened then (c.wire.write payload).2 else c.wire := by
  by_cases hstate : c.state = .opened
  · rw [write, if_neg (not_not_intro hstate), if_pos hstate]
    rcases c.wire.write payload with ⟨failure | length, wire⟩ <;> simp
  · rw [write, if_pos hstate, if_neg hstate]

theorem wire_close (c : Connection) :
    c.close.wire = if c.state = .closed then c.wire else c.wire.shutDown := by
  by_cases hstate : c.state = .closed
  · rw [close_closed hstate, if_pos hstate]
  · have hclose : c.close = _ := if_neg (by simpa [State.isTerminal] using hstate)
    rw [hclose, if_neg hstate]
    exact wire_markClosed _

theorem exchange_read (h : w.Exchange met taken c.wire) (buffer : Buffer) :
    w.Exchange (met ++ c.asked buffer) taken (c.read buffer).2.wire := by
  rw [wire_read]
  by_cases hstate : c.state = .closed
  · rwa [if_pos hstate, asked_closed hstate, List.append_nil]
  · have hasked : c.asked buffer = [.read (c.wire.read buffer.spare).1] := by
      simp [asked, State.isTerminal, hstate]
    rw [if_neg hstate, hasked]
    exact h.read buffer.spare

theorem exchange_write (h : w.Exchange met taken c.wire) (payload : List UInt8) :
    w.Exchange (met ++ c.offered payload) taken (c.write payload).2.wire := by
  rw [wire_write]
  by_cases hstate : c.state = .opened
  · rw [if_pos hstate, offered_opened hstate]
    exact h.write payload
  · rwa [if_neg hstate, offered, if_pos hstate, List.append_nil]

/-! ## A whole deed -/

theorem Takes.exchange (htakes : Takes consumer capacity c s chunks d t)
    (h : w.Exchange met taken c.wire) :
    w.Exchange (met ++ chunks.map fun bytes => .read (.data bytes)) taken d.wire := by
  induction htakes generalizing met with
  | none => simpa using h
  | @chunk c d e s t u bytes chunks hread _ _ ih =>
    have hstep := exchange_read h capacity
    rw [asked_of_read hread, hread] at hstep
    have hrest := ih (by rwa [wire_noteAll])
    rwa [List.append_assoc] at hrest

theorem Stops.exchange (hstops : Stops consumer capacity c s flow d t)
    (h : w.Exchange met taken c.wire) :
    w.Exchange (met ++ c.asked capacity) taken d.wire := by
  have hstep := exchange_read h capacity
  cases hstops with
  | ended hread | failed hread | waiting hread => rwa [hread] at hstep
  | refused hread _ => rwa [hread, ← wire_noteAll] at hstep

/-- Chunk after chunk. -/
theorem exchange_consume (h : w.Exchange met taken c.wire) (consumer : Consumer σ) (capacity : Nat)
    (s : σ) : w.Exchange (met ++ c.consumeContacts consumer capacity s) taken
      (c.consume consumer capacity s).2.2.wire := by
  obtain ⟨chunks, d, u, htakes, hstops⟩ :=
    consume_iff.mp (rfl : c.consume consumer capacity s = _)
  have hend := hstops.exchange (htakes.exchange h)
  rwa [htakes.contacts, hstops.contacts, ← List.append_assoc]

/-- Payload after payload. -/
theorem exchange_works {stopAt : Option Nat} {r after : Sender.Run} {more : List Contact}
    {halt : Halt} (hworks : Sender.Works stopAt r more halt after)
    (h : w.Exchange met taken r.connection.wire) :
    w.Exchange (met ++ more) taken after.connection.wire := by
  induction hworks generalizing met with
  | completed _ | stopped _ _ _ | endless => rwa [List.append_nil]
  | @failed r _ _ _ _ hwrite =>
    have hstep := exchange_write h (bytesOf (payload r.sender.next))
    rwa [hwrite] at hstep
  | @tick r _ _ _ _ _ _ _ hwrite _ ih =>
    have hstep := exchange_write h (bytesOf (payload r.sender.next))
    rw [hwrite] at hstep
    rw [← List.append_assoc]
    exact ih hstep

/-- What the peer takes with a deed. -/
def taking (c : Connection) : Deed → List UInt8
  | .peer act => act.takes c.wire
  | .read _ | .write _ | .close | .drain _ | .send _ _ _ | .receive _ _ _ => []

/-- **Every deed but closing the connection reads and writes, and does nothing else to the
wire.** -/
theorem exchange_perform (c : Connection) {deed : Deed} (hdeed : deed ≠ .close) :
    c.wire.Exchange (c.contacts deed) (c.taking deed) (c.perform deed).wire := by
  have hstart : c.wire.Exchange [] [] c.wire := .start
  cases deed with
  | read buffer => exact exchange_read hstart buffer
  | write payload => exact exchange_write hstart payload
  | close => exact absurd rfl hdeed
  | drain capacity => exact exchange_consume hstart collector capacity #[]
  | send sender stats stopAt => exact exchange_works (sender.works_run c stats stopAt) hstart
  | receive receiver sink stats =>
    rw [perform, receiver.wire_run]
    exact exchange_consume hstart _ _ _
  | peer act => exact hstart.act act

end Connection

end LinkProbe
