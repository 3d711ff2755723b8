import LinkProbe.Connection

/-!
# The chunks of a connection

What a connection brings, chunk by chunk, until the peer closes it or something fails.

* `Connection.consumeOne`: hands the next chunk to a consumer.
* `Connection.consume`, `Connection.consumeAtMost`: hands over every chunk, or some of them.
* `Connection.drain`: collects them.
-/

namespace LinkProbe

/-- Someone who takes chunks of bytes. -/
structure Consumer (σ : Type) where
  /-- What the log tells when a chunk comes. -/
  notes : List UInt8 → List Event
  /-- Takes a chunk; a failure means that no more are wanted. -/
  step : σ → List UInt8 → Except Fault Unit × σ

/-- Why no more chunks come. -/
inductive Flow where
  /-- The connection is over. -/
  | ended
  /-- A read failed, or the consumer wants no more. -/
  | failed (fault : Fault)
  /-- The next read never ends. -/
  | waiting
deriving DecidableEq, Repr

namespace Connection

/-- The connection with more events in its log. -/
def noteAll (c : Connection) (events : List Event) : Connection := events.foldl note c

@[simp] theorem wire_noteAll (c : Connection) (events : List Event) :
    (c.noteAll events).wire = c.wire := by
  induction events generalizing c with
  | nil => rfl
  | cons event events ih => exact ih (c.note event)

@[simp] theorem state_noteAll (c : Connection) (events : List Event) :
    (c.noteAll events).state = c.state := by
  induction events generalizing c with
  | nil => rfl
  | cons event events ih => exact ih (c.note event)

section

variable {σ : Type}

/-- Reads once and hands the chunk that comes to the consumer. Without a flow there may be more. The
buffer was made for this and all chunks are split off it, so that the read finds room for `capacity`
bytes and no more. -/
def consumeOne (consumer : Consumer σ) (capacity : Nat) (c : Connection) (s : σ) :
    Option Flow × σ × Connection :=
  match c.read (.exact capacity) with
  | (.ended, c) => (some .ended, s, c)
  | (.failed fault, c) => (some (.failed fault), s, c)
  | (.waiting, c) => (some .waiting, s, c)
  | (.chunk bytes, c) =>
    match consumer.step s bytes with
    | (.error fault, s) => (some (.failed fault), s, c.noteAll (consumer.notes bytes))
    | (.ok (), s) => (none, s, c.noteAll (consumer.notes bytes))

/-- A chunk that was taken is no longer to come. -/
theorem toCome_consumeOne {consumer : Consumer σ} {capacity : Nat} {c d : Connection} {s t : σ}
    (h : consumeOne consumer capacity c s = (none, t, d)) :
    d.wire.toCome.length < c.wire.toCome.length := by
  unfold consumeOne at h
  split at h
  · cases h
  · cases h
  · cases h
  · next hread =>
    split at h <;> cases h
    obtain ⟨hpos, hcome⟩ := toCome_read hread
    rw [wire_noteAll, ← hcome, List.length_append]
    omega

/-- Reads chunk after chunk and hands each to the consumer. -/
def consume (c : Connection) (consumer : Consumer σ) (capacity : Nat) (s : σ) :
    Flow × σ × Connection :=
  match _ : consumeOne consumer capacity c s with
  | (some flow, s, c) => (flow, s, c)
  | (none, s, d) => consume d consumer capacity s
termination_by c.wire.toCome.length
decreasing_by exact toCome_consumeOne ‹_›

/-- The same, up to `count` chunks. Without a flow, the consumer has taken as many. -/
def consumeAtMost (consumer : Consumer σ) (capacity : Nat) :
    Nat → Connection → σ → Option Flow × σ × Connection
  | 0, c, s => (none, s, c)
  | count + 1, c, s =>
    match consumeOne consumer capacity c s with
    | (none, s, c) => consumeAtMost consumer capacity count c s
    | result => result

end

/-- Someone who keeps all chunks. -/
def collector : Consumer (Array (List UInt8)) where
  notes _ := []
  step chunks bytes := (.ok (), chunks.push bytes)

/-- All chunks that the connection still brings, and why no more come. -/
def drain (c : Connection) (capacity : Nat) : Flow × Array (List UInt8) × Connection :=
  c.consume collector capacity #[]

end Connection

end LinkProbe
