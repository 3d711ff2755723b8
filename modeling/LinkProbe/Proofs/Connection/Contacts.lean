import LinkProbe.Proofs.Connection.Reads

/-!
# What an operation meets on the wire

An operation on a connection asks the wire for bytes or offers it some, maybe many times. What it
is told decides whether the connection is over afterwards.

* `Contact`: one such question and its answer; `Contact.ends`: the answers that end a connection.
* `Connection.asked`, `Connection.offered`: what a read and a write meet.
* `Connection.consumeContacts`: what a run of reads meets.
* `Connection.state_consume`: the state after it follows from that.
-/

namespace LinkProbe

/-- A question to the wire, and the answer. -/
inductive Contact where
  | read (arrival : Arrival)
  | write (payload : List UInt8) (result : Except IoFailure Nat)

namespace Contact

/-- The peer has ended, or the wire is of no more use. -/
def ends : Contact → Bool
  | .read .ended | .read (.failed _) | .write _ (.error _) => true
  | .read (.data _) | .read .silent | .write _ (.ok _) => false

/-- The state of a connection that was open before these contacts. -/
def stateAfter (contacts : List Contact) : State := if contacts.any ends then .closed else .opened

theorem stateAfter_append {first second : List Contact} (h : first.any ends = false) :
    stateAfter (first ++ second) = stateAfter second := by
  rw [stateAfter, List.any_append, h, Bool.false_or, stateAfter]

end Contact

open Contact (stateAfter)

namespace Connection

/-! ## One operation -/

/-- What a read meets; a connection that is over does not ask. -/
def asked (c : Connection) (buffer : Buffer) : List Contact :=
  if c.state.isTerminal then [] else [.read (c.wire.read buffer.spare).1]

/-- What a write meets; a connection that is not open offers nothing. -/
def offered (c : Connection) (payload : List UInt8) : List Contact :=
  if c.state ≠ .opened then [] else [.write payload (c.wire.write payload).1]

theorem asked_opened {c : Connection} (h : c.state = .opened) (buffer : Buffer) :
    c.asked buffer = [.read (c.wire.read buffer.spare).1] := by
  simp [asked, h, State.isTerminal]

theorem offered_opened {c : Connection} (h : c.state = .opened) (payload : List UInt8) :
    c.offered payload = [.write payload (c.wire.write payload).1] := by
  simp [offered, h]

theorem asked_closed {c : Connection} (h : c.state = .closed) (buffer : Buffer) :
    c.asked buffer = [] := by
  simp [asked, h, State.isTerminal]

theorem offered_closed {c : Connection} (h : c.state = .closed) (payload : List UInt8) :
    c.offered payload = [] := by
  simp [offered, h]

theorem read_closed {c : Connection} (h : c.state = .closed) (buffer : Buffer) :
    c.read buffer = (.ended, c) := by
  simp [read, h, State.isTerminal]

theorem write_closed {c : Connection} (h : c.state = .closed) (payload : List UInt8) :
    c.write payload = (.error (.write (.stated .notConnected "connection is closed")), c) := by
  rw [write, if_pos (by rw [h]; exact nofun), h]
  rfl

theorem state_read {c : Connection} (h : c.state = .opened) (buffer : Buffer) :
    (c.read buffer).2.state = stateAfter (c.asked buffer) := by
  rw [asked_opened h]
  rcases c.read_cases buffer with ⟨hclosed, -⟩ | ⟨-, ⟨failure, -, hmet, hread⟩ | ⟨hmet, hread⟩ |
    ⟨hmet, hread⟩ | ⟨bytes, wire, hmet, hread⟩⟩
  · rw [h] at hclosed
    cases hclosed
  · rw [hread, hmet, markClosed_opened h]
    rfl
  · rw [hread, hmet, markClosed_opened (by exact h)]
    rfl
  · rw [hread, hmet]
    exact h
  · rw [hread, hmet]
    exact h

theorem state_write {c : Connection} (h : c.state = .opened) (payload : List UInt8) :
    (c.write payload).2.state = stateAfter (c.offered payload) := by
  rw [offered_opened h, write, if_neg (not_not_intro h)]
  match hwrite : c.wire.write payload with
  | (.ok length, wire) => exact h
  | (.error failure, wire) =>
    simp only
    rw [markClosed_opened (by exact h)]
    rfl

theorem write_ok {c d : Connection} {payload : List UInt8} {length : Nat}
    (h : c.write payload = (.ok length, d)) :
    c.offered payload = [.write payload (.ok length)] ∧ d.state = .opened := by
  unfold write at h
  split at h
  · cases h
  · rename_i hstate
    have hopened : c.state = .opened := Decidable.not_not.mp hstate
    split at h <;> cases h
    rename_i hwrite
    exact ⟨by rw [offered_opened hopened, hwrite], hopened⟩

/-! ## Chunk after chunk -/

variable {σ : Type} {consumer : Consumer σ} {capacity : Nat} {c d : Connection} {s t : σ}
  {chunks : List (List UInt8)} {flow : Flow}

/-- What handing out chunks meets. -/
def consumeContacts (c : Connection) (consumer : Consumer σ) (capacity : Nat) (s : σ) :
    List Contact :=
  c.asked capacity ++
    match _ : c.read (.exact capacity) with
    | (.chunk bytes, d) =>
      match consumer.step s bytes with
      | (.error _, _) => []
      | (.ok (), s) => consumeContacts (d.noteAll (consumer.notes bytes)) consumer capacity s
    | _ => []
termination_by c.wire.toCome.length
decreasing_by
  obtain ⟨hpos, hcome⟩ := toCome_read ‹c.read (.exact capacity) = _›
  rw [wire_noteAll, ← hcome, List.length_append]
  omega

theorem asked_of_read {buffer : Buffer} {bytes : List UInt8}
    (h : c.read buffer = (.chunk bytes, d)) : c.asked buffer = [.read (.data bytes)] := by
  obtain ⟨hstate, wire, hread, -⟩ := read_chunk h
  simp [asked, State.isTerminal, hstate, hread]

theorem consumeContacts_eq : c.consumeContacts consumer capacity s = c.asked capacity ++
    match c.read capacity with
    | (.chunk bytes, d) =>
      match consumer.step s bytes with
      | (.error _, _) => []
      | (.ok (), t) => (d.noteAll (consumer.notes bytes)).consumeContacts consumer capacity t
    | _ => [] := by
  rw [consumeContacts]
  split <;> rename_i hread <;> split <;> simp_all

/-- The chunks that were taken, and then the rest. -/
theorem Takes.contacts (h : Takes consumer capacity c s chunks d t) :
    c.consumeContacts consumer capacity s =
      chunks.map (fun bytes => .read (.data bytes)) ++
        d.consumeContacts consumer capacity t := by
  induction h with
  | none => rfl
  | chunk hread hstep _ ih =>
    rw [consumeContacts_eq, asked_of_read hread, hread]
    simp only [hstep, ih]
    rfl

theorem Stops.contacts (h : Stops consumer capacity c s flow d t) :
    c.consumeContacts consumer capacity s = c.asked capacity := by
  rw [consumeContacts_eq]
  cases h with
  | ended hread | failed hread | waiting hread => rw [hread, List.append_nil]
  | refused hread hstep =>
    rw [hread]
    simp only [hstep, List.append_nil]

theorem Stops.state (h : Stops consumer capacity c s flow d t) (hstate : c.state = .opened) :
    d.state = stateAfter (c.asked capacity) := by
  rw [← state_read hstate]
  cases h with
  | ended hread | failed hread | waiting hread => rw [hread]
  | refused hread _ => rw [hread, state_noteAll]

/-- Whether the connection is over after its chunks were handed out follows from what they met. -/
theorem state_consume (hstate : c.state = .opened) (consumer : Consumer σ) (capacity : Nat)
    (s : σ) : (c.consume consumer capacity s).2.2.state =
      stateAfter (c.consumeContacts consumer capacity s) := by
  obtain ⟨chunks, d, u, htakes, hstops⟩ :=
    consume_iff.mp (rfl : c.consume consumer capacity s = _)
  have hdata : (chunks.map fun bytes => Contact.read (.data bytes)).any Contact.ends = false := by
    simp [Contact.ends]
  rw [hstops.state (htakes.state.trans hstate), htakes.contacts, hstops.contacts,
    Contact.stateAfter_append hdata]

/-- A connection that is over brings no chunk. -/
theorem consume_closed (h : c.state = .closed) (consumer : Consumer σ) (capacity : Nat) (s : σ) :
    c.consume consumer capacity s = (.ended, s, c) :=
  Stops.consume (.ended (read_closed h capacity))

theorem consumeContacts_closed (h : c.state = .closed) (consumer : Consumer σ) (capacity : Nat)
    (s : σ) : c.consumeContacts consumer capacity s = [] := by
  have hstops : Stops consumer capacity c s .ended c s := .ended (read_closed h capacity)
  rw [hstops.contacts, asked_closed h]

/-- A run in which a chunk is refused ends at that, and the connection stays open. -/
theorem state_consume_refused (hstate : c.state = .opened) {fault : Fault}
    (h : c.consume consumer capacity s = (.failed fault, t, d))
    (hfault : ∀ source, fault ≠ .read source) : d.state = .opened := by
  obtain ⟨chunks, e, u, htakes, hstops⟩ := consume_iff.mp h
  have he := htakes.state.trans hstate
  cases hstops with
  | failed hread =>
    rcases e.read_cases capacity with ⟨-, hlast⟩ | ⟨-, ⟨failure, -, -, hlast⟩ | ⟨-, hlast⟩ |
      ⟨-, hlast⟩ | ⟨bytes, wire, -, hlast⟩⟩ <;> rw [hread] at hlast <;> cases hlast
    exact absurd rfl (hfault failure)
  | refused hread _ =>
    obtain ⟨-, wire, -, rfl⟩ := read_chunk hread
    rw [state_noteAll]
    exact he

end Connection

end LinkProbe
