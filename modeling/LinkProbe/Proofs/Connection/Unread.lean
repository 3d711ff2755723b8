import LinkProbe.Proofs.Connection.Delivery
import LinkProbe.Proofs.Wire.Plan

/-!
# What is left to read

* `Wire.Readable`: what the peer has sent and the probe has not read is within reach.
* `Connection.toCome_consume`: what is handed out is what is taken of all that is to come.
* `Connection.unread_drain`: what is there can be read.
* `Connection.toCome_drain`: from a peer that keeps to its plan, all that is to come can be read.
-/

namespace LinkProbe

/-! ## One read -/

/-- What the peer has sent and the probe has not read is within reach. -/
def Wire.Readable (w : Wire) : Prop := w.broken = none ∨ w.unread = []

/-- A read takes the first of the bytes that are there, and what it leaves stays within reach. -/
theorem Wire.unread_read {w v : Wire} {capacity : Nat} {bytes : List UInt8}
    (h : w.read capacity = (.data bytes, v)) : w.unread <+: bytes ++ v.unread ∧ v.Readable := by
  rcases w.read_cases capacity with ⟨_, -, hread⟩ | ⟨-, -, -, hread⟩ | ⟨-, -, -, hread⟩ |
    ⟨hbroken, -, hread⟩ <;> rw [hread] at h <;> cases h
  have hcut := List.take_append_drop (room capacity) w.unread
  rcases settle_cases { w with unread := w.unread.drop (room capacity) } with hsame |
    ⟨-, -, hnone, hmoved⟩
  · rw [hsame]
    exact ⟨⟨[], (List.append_nil _).trans hcut.symm⟩, .inl hbroken⟩
  · simp only at hnone
    rw [hnone, List.append_nil] at hcut
    refine ⟨?_, ?_⟩
    · rw [hcut]
      exact List.prefix_append _ _
    · rcases hmoved with ⟨part, parts, hsettle⟩ | ⟨ending, hsettle⟩ | hsettle <;> rw [hsettle]
      · exact .inl hbroken
      · cases ending with
        | close => exact .inl hbroken
        | reset => exact .inr rfl
      · exact .inl hbroken

namespace Connection

variable {σ : Type} {consumer : Consumer σ} {capacity : Nat} {c d : Connection} {s t : σ}
  {chunks : List (List UInt8)} {flow : Flow} {ending : Option Ending}

theorem Takes.unread (h : Takes consumer capacity c s chunks d t) :
    c.wire.unread <+: chunks.flatten ++ d.wire.unread ∧
      (c.wire.Readable → d.wire.Readable) := by
  induction h with
  | none => exact ⟨List.prefix_refl _, id⟩
  | chunk hread _ _ ih =>
    obtain ⟨-, wire, hdata, rfl⟩ := read_chunk hread
    obtain ⟨hfirst, hreadable⟩ := Wire.unread_read hdata
    obtain ⟨hmore, hend⟩ := ih
    rw [wire_noteAll] at hmore hend
    rw [List.flatten_cons, List.append_assoc]
    exact ⟨hfirst.trans ((List.prefix_append_right_inj _).mpr hmore), fun _ => hend hreadable⟩

/-- What is there can be read. -/
theorem read_unread (hstate : c.state ≠ .closed) (hbroken : c.wire.broken = none)
    (hunread : c.wire.unread ≠ []) (buffer : Buffer) :
    ∃ bytes d, c.read buffer = (.chunk bytes, d) := by
  rcases c.read_cases buffer with ⟨hclosed, -⟩ | ⟨-, hopen⟩
  · exact absurd hclosed hstate
  · have hdata : (c.wire.read buffer.spare).1 = .data (c.wire.unread.take buffer.room) := by
      simp [Wire.read, Buffer.room, hbroken, hunread]
    rcases hopen with ⟨_, -, hmet, -⟩ | ⟨hmet, -⟩ | ⟨hmet, -⟩ | ⟨bytes, wire, -, hread⟩
    · cases hdata.symm.trans hmet
    · cases hdata.symm.trans hmet
    · cases hdata.symm.trans hmet
    · exact ⟨bytes, _, hread⟩

theorem read_failed {buffer : Buffer} {fault : Fault} (h : c.read buffer = (.failed fault, d)) :
    ∃ source, fault = .read source := by
  rcases c.read_cases buffer with ⟨-, hread⟩ | ⟨-, ⟨source, -, -, hread⟩ | ⟨-, hread⟩ |
    ⟨-, hread⟩ | ⟨bytes, wire, -, hread⟩⟩ <;> rw [hread] at h <;> cases h
  exact ⟨source, rfl⟩

/-- What a read brings is what it takes of all that is to come. -/
theorem toCome_asked (c : Connection) (buffer : Buffer) :
    (Contact.chunks (c.asked buffer)).flatten ++ (c.read buffer).2.wire.toCome =
      c.wire.toCome := by
  rw [chunks_asked]
  rcases c.read_cases buffer with ⟨-, hread⟩ | ⟨-, ⟨_, -, -, hread⟩ | ⟨-, hread⟩ | ⟨-, hread⟩ |
    ⟨bytes, wire, hdata, hread⟩⟩ <;> rw [hread]
  · rfl
  · exact congrArg Wire.toCome (wire_markClosed _)
  · exact congrArg Wire.toCome (wire_markClosed _)
  · rfl
  · exact (List.flatten_singleton ▸ Wire.toCome_read hdata)

/-- **What is handed out is what is taken of all that is to come.** -/
theorem toCome_consume (c : Connection) (consumer : Consumer σ) (capacity : Nat) (s : σ) :
    (Contact.chunks (c.consumeContacts consumer capacity s)).flatten ++
      (c.consume consumer capacity s).2.2.wire.toCome = c.wire.toCome := by
  rcases hconsume : c.consume consumer capacity s with ⟨flow, t, e⟩
  obtain ⟨chunks, d, u, htakes, hstops⟩ := consume_iff.mp hconsume
  have hlast := d.toCome_asked capacity
  have hend : e.wire = (d.read capacity).2.wire := by
    cases hstops with
    | ended hread | failed hread | waiting hread => rw [hread]
    | refused hread _ => rw [hread, wire_noteAll]
  rw [chunks_consumeContacts htakes hstops, List.flatten_append, List.append_assoc, hend, hlast,
    htakes.toCome]

/-! ## All reads -/

/-- The chunks that are collected, and the connection when no more come. -/
theorem drain_cases (c : Connection) (capacity : Nat) : ∃ d seen flow kept,
    Takes collector capacity c #[] (c.drain capacity).2.1.toList d seen ∧
      Stops collector capacity d seen flow (c.drain capacity).2.2 kept ∧
      ∀ bytes e, d.read capacity ≠ (.chunk bytes, e) := by
  rcases hdrain : c.consume collector capacity #[] with ⟨flow, kept, e⟩
  obtain ⟨chunks, d, seen, htakes, hstops⟩ := consume_iff.mp hdrain
  have hkept : kept.toList = chunks := by
    rw [hstops.items.1, htakes.items.1]
    simp
  rw [drain, hdrain]
  refine ⟨d, seen, flow, kept, hkept ▸ htakes, hstops, fun bytes e hread => ?_⟩
  cases hstops with
  | ended hother | failed hother | waiting hother => rw [hread] at hother; cases hother
  | refused _ hstep => cases hstep

/-- **What a connection has not brought yet can still be read.** -/
theorem unread_drain (hstate : c.state ≠ .closed)
    (hreadable : c.wire.Readable) (capacity : Nat) :
    c.wire.unread <+: (c.drain capacity).2.1.toList.flatten := by
  obtain ⟨d, seen, flow, kept, htakes, -, hlast⟩ := c.drain_cases capacity
  obtain ⟨hfront, hend⟩ := htakes.unread
  have hnone : d.wire.unread = [] := by
    rcases hend hreadable with hbroken | hnone
    · refine Decidable.byContradiction fun hsome => ?_
      obtain ⟨bytes, e, hread⟩ := read_unread (htakes.state ▸ hstate) hbroken hsome capacity
      exact hlast bytes e hread
    · exact hnone
  rwa [hnone, List.append_nil] at hfront

/-- From a peer that keeps to its plan, everything that is to come can be read. -/
theorem toCome_drain (hstate : c.state = .opened) (h : c.wire.Follows ending) (capacity : Nat) :
    (c.drain capacity).2.1.toList.flatten = c.wire.toCome := by
  obtain ⟨d, seen, flow, kept, htakes, hstops, hlast⟩ := c.drain_cases capacity
  obtain ⟨hfollows, hpieces⟩ := htakes.follows hstate h
  rcases hstops.follows (htakes.state.trans hstate) hfollows with ⟨hnone, -⟩ |
    ⟨bytes, rest, fault, -, hstep, -⟩
  · rw [← c.wire.flatten_pieces capacity, hpieces, hnone, List.append_nil]
  · cases hstep

end Connection

end LinkProbe
