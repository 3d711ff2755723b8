import LinkProbe.Connection.Chunks

/-!
# Reading chunk after chunk

* `Wire.read_cases`, `Connection.read_cases`: all that a read can do.
* `Connection.Takes`: chunks that are read one after the other and that a consumer takes.
* `Connection.Stops`: why the next one does not come to that.
* `Connection.consume_iff`: handing out chunks is taking some and then stopping.
* `Connection.consumeAtMost_cases`: up to a number of chunks, it is taking as many or the same.
* `Connection.Takes.toCome`: what has been taken is the beginning of what was to come.
-/

namespace LinkProbe

/-! ## One read -/

theorem Wire.read_cases (w : Wire) (capacity : Nat) :
    (∃ failure, w.broken = some failure ∧ w.read capacity = (.failed failure, w)) ∨
    (w.broken = none ∧ w.unread = [] ∧ w.ended = true ∧ w.read capacity = (.ended, w)) ∨
    (w.broken = none ∧ w.unread = [] ∧ w.ended = false ∧ w.read capacity = (.silent, w)) ∨
    (w.broken = none ∧ w.unread ≠ [] ∧ w.read capacity = (.data (w.unread.take (room capacity)),
      settle { w with unread := w.unread.drop (room capacity) })) := by
  unfold read
  cases hbroken : w.broken with
  | some failure => exact .inl ⟨failure, rfl, rfl⟩
  | none =>
    by_cases hunread : w.unread = []
    · cases hended : w.ended
      · exact .inr (.inr (.inl ⟨rfl, hunread, rfl, by simp [hunread]⟩))
      · exact .inr (.inl ⟨rfl, hunread, rfl, by simp [hunread]⟩)
    · exact .inr (.inr (.inr ⟨rfl, hunread, by simp [hunread]⟩))

namespace Connection

/-- A connection that is over is not read; another one is, and over if the read brings no chunk. -/
theorem read_cases (c : Connection) (buffer : Buffer) :
    (c.state = .closed ∧ c.read buffer = (.ended, c)) ∨
    c.state ≠ .closed ∧
      ((∃ failure, c.wire.broken = some failure ∧
          (c.wire.read buffer.spare).1 = .failed failure ∧
          c.read buffer = (.failed (.read failure), c.markClosed)) ∨
        ((c.wire.read buffer.spare).1 = .ended ∧
          c.read buffer = (.ended, (c.note (.peerClosed c.peer)).markClosed)) ∨
        ((c.wire.read buffer.spare).1 = .silent ∧ c.read buffer = (.waiting, c)) ∨
        ∃ bytes wire, c.wire.read buffer.spare = (.data bytes, wire) ∧
          c.read buffer = (.chunk bytes, { c with wire })) := by
  unfold read
  by_cases hstate : c.state = .closed
  · exact .inl ⟨hstate, by simp [State.isTerminal, hstate]⟩
  · refine .inr ⟨hstate, ?_⟩
    simp only [State.isTerminal, hstate, decide_false, Bool.false_eq_true, if_false]
    rcases c.wire.read_cases buffer.spare with ⟨failure, hbroken, hread⟩ | ⟨-, -, -, hread⟩ |
      ⟨-, -, -, hread⟩ | ⟨-, -, hread⟩
    · exact .inl ⟨failure, hbroken, by rw [hread], by rw [hread]⟩
    · exact .inr (.inl ⟨by rw [hread], by rw [hread]⟩)
    · exact .inr (.inr (.inl ⟨by rw [hread], by rw [hread]⟩))
    · exact .inr (.inr (.inr ⟨_, _, hread, by rw [hread]⟩))

theorem read_chunk {c d : Connection} {buffer : Buffer} {bytes : List UInt8}
    (h : c.read buffer = (.chunk bytes, d)) :
    c.state ≠ .closed ∧ ∃ wire, c.wire.read buffer.spare = (.data bytes, wire) ∧
      d = { c with wire } := by
  rcases c.read_cases buffer with ⟨-, hread⟩ | ⟨hstate, ⟨_, -, -, hread⟩ | ⟨-, hread⟩ |
    ⟨-, hread⟩ | ⟨bytes', wire, hdata, hread⟩⟩ <;> rw [hread] at h <;> cases h
  exact ⟨hstate, wire, hdata, rfl⟩

/-- A chunk is not empty, and no larger than the room in the buffer. -/
theorem length_read {c d : Connection} {buffer : Buffer} {bytes : List UInt8}
    (h : c.read buffer = (.chunk bytes, d)) :
    0 < bytes.length ∧ bytes.length ≤ buffer.room := by
  obtain ⟨-, wire, hdata, -⟩ := read_chunk h
  exact Wire.length_read hdata

theorem markClosed_opened {c : Connection} (h : c.state = .opened) :
    c.markClosed = { c.note (.moved .opened .closed) with state := .closed } := by
  simp [markClosed, h, State.allows]

theorem close_closed {c : Connection} (h : c.state = .closed) : c.close = c := by
  simp [close, h, State.isTerminal]

/-! ## Chunk after chunk -/

variable {σ : Type} {consumer : Consumer σ} {capacity : Nat} {c d e : Connection} {s t u : σ}
  {chunks : List (List UInt8)} {flow : Flow}

/-- The chunks are read one after the other and the consumer takes all of them. -/
inductive Takes (consumer : Consumer σ) (capacity : Nat) :
    Connection → σ → List (List UInt8) → Connection → σ → Prop
  | none {c : Connection} {s : σ} : Takes consumer capacity c s [] c s
  | chunk {c d e : Connection} {s t u : σ} {bytes : List UInt8} {chunks : List (List UInt8)}
      (read : c.read capacity = (.chunk bytes, d)) (step : consumer.step s bytes = (.ok (), t))
      (more : Takes consumer capacity (d.noteAll (consumer.notes bytes)) t chunks e u) :
      Takes consumer capacity c s (bytes :: chunks) e u

/-- The next read is the last one. -/
inductive Stops (consumer : Consumer σ) (capacity : Nat) :
    Connection → σ → Flow → Connection → σ → Prop
  | ended {c d : Connection} {s : σ} (read : c.read capacity = (.ended, d)) :
      Stops consumer capacity c s .ended d s
  | failed {c d : Connection} {s : σ} {fault : Fault}
      (read : c.read capacity = (.failed fault, d)) :
      Stops consumer capacity c s (.failed fault) d s
  | waiting {c d : Connection} {s : σ} (read : c.read capacity = (.waiting, d)) :
      Stops consumer capacity c s .waiting d s
  /-- It brings a chunk, but the consumer wants no more. -/
  | refused {c d : Connection} {s t : σ} {bytes : List UInt8} {fault : Fault}
      (read : c.read capacity = (.chunk bytes, d))
      (step : consumer.step s bytes = (.error fault, t)) :
      Stops consumer capacity c s (.failed fault) (d.noteAll (consumer.notes bytes)) t

/-- A consumer takes the next chunk, or the next read is the last one. -/
theorem consumeOne_cases (consumer : Consumer σ) (capacity : Nat) (c : Connection) (s : σ) :
    (∃ bytes d t, c.read capacity = (.chunk bytes, d) ∧ consumer.step s bytes = (.ok (), t) ∧
      consumeOne consumer capacity c s = (none, t, d.noteAll (consumer.notes bytes))) ∨
    ∃ flow d t, Stops consumer capacity c s flow d t ∧
      consumeOne consumer capacity c s = (some flow, t, d) := by
  unfold consumeOne
  rcases hread : c.read capacity with ⟨bytes | _ | fault | _, d⟩
  · rcases hstep : consumer.step s bytes with ⟨fault | _, t⟩
    · exact .inr ⟨_, _, _, .refused hread hstep, by simp only [hstep]⟩
    · exact .inl ⟨bytes, d, t, rfl, hstep, by simp only [hstep]⟩
  · exact .inr ⟨_, _, _, .ended hread, rfl⟩
  · exact .inr ⟨_, _, _, .failed hread, rfl⟩
  · exact .inr ⟨_, _, _, .waiting hread, rfl⟩

theorem Stops.consumeOne (h : Stops consumer capacity c s flow d t) :
    consumeOne consumer capacity c s = (some flow, t, d) := by
  unfold Connection.consumeOne
  cases h with
  | ended hread | failed hread | waiting hread => rw [hread]
  | refused hread hstep => simp only [hread, hstep]

theorem consumeOne_chunk {bytes : List UInt8} (hread : c.read capacity = (.chunk bytes, d))
    (hstep : consumer.step s bytes = (.ok (), t)) :
    consumeOne consumer capacity c s = (none, t, d.noteAll (consumer.notes bytes)) := by
  simp only [consumeOne, hread, hstep]

theorem consume_more (h : consumeOne consumer capacity c s = (none, t, d)) :
    c.consume consumer capacity s = d.consume consumer capacity t := by
  rw [consume]
  split
  · next hone => cases hone.symm.trans h
  · next hone => cases hone.symm.trans h; rfl

theorem consume_last (h : consumeOne consumer capacity c s = (some flow, t, d)) :
    c.consume consumer capacity s = (flow, t, d) := by
  rw [consume]
  split
  · next hone => cases hone.symm.trans h; rfl
  · next hone => cases hone.symm.trans h

theorem consume_takes (h : c.consume consumer capacity s = (flow, t, e)) :
    ∃ chunks d u, Takes consumer capacity c s chunks d u ∧
      Stops consumer capacity d u flow e t := by
  fun_induction consume c consumer capacity s with
  | case1 c s flow' s' d hone =>
    cases h
    rcases consumeOne_cases consumer capacity c s with ⟨_, _, _, -, -, hmore⟩ |
      ⟨_, _, _, hstops, hlast⟩
    · cases hmore.symm.trans hone
    · cases hlast.symm.trans hone
      exact ⟨[], c, s, .none, hstops⟩
  | case2 c s s' d hone ih =>
    obtain ⟨chunks, d', u, htakes, hstops⟩ := ih h
    rcases consumeOne_cases consumer capacity c s with ⟨bytes, _, _, hread, hstep, hmore⟩ |
      ⟨_, _, _, -, hlast⟩
    · cases hmore.symm.trans hone
      exact ⟨bytes :: chunks, d', u, .chunk hread hstep htakes, hstops⟩
    · cases hlast.symm.trans hone

theorem Takes.consume (h : Takes consumer capacity c s chunks d t) :
    c.consume consumer capacity s = d.consume consumer capacity t := by
  induction h with
  | none => rfl
  | chunk hread hstep _ ih =>
    rw [consume_more (consumeOne_chunk hread hstep)]
    exact ih

theorem Stops.consume (h : Stops consumer capacity c s flow d t) :
    c.consume consumer capacity s = (flow, t, d) := consume_last h.consumeOne

/-- Handing out chunks is taking some and then stopping. -/
theorem consume_iff : c.consume consumer capacity s = (flow, t, e) ↔
    ∃ chunks d u, Takes consumer capacity c s chunks d u ∧
      Stops consumer capacity d u flow e t := by
  refine ⟨consume_takes, ?_⟩
  rintro ⟨chunks, d, u, htakes, hstops⟩
  rw [htakes.consume, hstops.consume]

/-- Up to a number of chunks, either as many are taken, or handing them out stops before. -/
theorem consumeAtMost_cases (consumer : Consumer σ) (capacity count : Nat) (c : Connection)
    (s : σ) :
    (∃ chunks d t, chunks.length = count ∧ Takes consumer capacity c s chunks d t ∧
      consumeAtMost consumer capacity count c s = (none, t, d)) ∨
    ∃ flow d t, c.consume consumer capacity s = (flow, t, d) ∧
      consumeAtMost consumer capacity count c s = (some flow, t, d) := by
  induction count generalizing c s with
  | zero => exact .inl ⟨[], c, s, rfl, .none, rfl⟩
  | succ count ih =>
    rcases consumeOne_cases consumer capacity c s with ⟨bytes, d, t, hread, hstep, hone⟩ |
      ⟨flow, d, t, hstops, hone⟩
    · simp only [consumeAtMost, hone]
      rcases ih (d.noteAll (consumer.notes bytes)) t with ⟨chunks, e, u, hlength, htakes, hall⟩ |
        ⟨flow, e, u, hconsume, hall⟩
      · exact .inl ⟨bytes :: chunks, e, u, by rw [List.length_cons, hlength],
          .chunk hread hstep htakes, hall⟩
      · exact .inr ⟨flow, e, u, (consume_more hone).trans hconsume, hall⟩
    · exact .inr ⟨flow, d, t, hstops.consume, by simp only [consumeAtMost, hone]⟩

theorem Takes.state (h : Takes consumer capacity c s chunks d t) : d.state = c.state := by
  induction h with
  | none => rfl
  | chunk hread _ _ ih =>
    obtain ⟨-, wire, -, rfl⟩ := read_chunk hread
    rw [ih, state_noteAll]

/-- What has been taken is the beginning of what was to come. -/
theorem Takes.toCome (h : Takes consumer capacity c s chunks d t) :
    chunks.flatten ++ d.wire.toCome = c.wire.toCome := by
  induction h with
  | none => rfl
  | chunk hread _ _ ih =>
    rw [wire_noteAll] at ih
    rw [List.flatten_cons, List.append_assoc, ih, (toCome_read hread).2]

end Connection

end LinkProbe
