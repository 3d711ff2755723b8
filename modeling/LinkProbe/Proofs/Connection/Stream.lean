import LinkProbe.Proofs.Connection.Reads

/-!
# The chunks of a connection as a stream

A stream of chunks is unfolded from a connection, one read an item. A read that fails is an item as
well, and then there is nothing to go on from.

* `Connection.nextItem`, `Connection.items`: one item, and all of them.
* `Connection.items_drain`: they are the chunks that are collected and the failure, if one comes.
-/

namespace LinkProbe

/-- The failure because of which no more chunks come. -/
def Flow.fault? : Flow → Option Fault
  | .failed fault => some fault
  | .ended | .waiting => none

namespace Connection

variable {capacity : Nat} {c d : Connection} {chunks : List (List UInt8)} {flow : Flow}
  {seen kept : Array (List UInt8)}

/-! ## Items -/

/-- The next item of a stream, and what the stream goes on from. -/
def nextItem (capacity : Nat) :
    Option Connection → Option (Except Fault (List UInt8) × Option Connection)
  | none => none
  | some c =>
    match c.read capacity with
    | (.chunk bytes, d) => some (.ok bytes, some d)
    | (.failed fault, _) => some (.error fault, none)
    | (.ended, _) | (.waiting, _) => none

/-- No stream has more items than this. -/
def itemsLeft : Option Connection → Nat
  | none => 0
  | some c => c.wire.toCome.length + 1

theorem itemsLeft_nextItem {start rest : Option Connection} {item : Except Fault (List UInt8)}
    (h : nextItem capacity start = some (item, rest)) : itemsLeft rest < itemsLeft start := by
  cases start with
  | none => cases h
  | some c =>
    rw [nextItem] at h
    split at h <;> cases h
    · rename_i bytes d hread
      obtain ⟨hpos, hcome⟩ := toCome_read hread
      rw [itemsLeft, itemsLeft, ← hcome, List.length_append]
      omega
    · exact Nat.succ_pos _

/-- All items of a stream. -/
def items (capacity : Nat) (start : Option Connection) : List (Except Fault (List UInt8)) :=
  match _ : nextItem capacity start with
  | none => []
  | some (item, rest) => item :: items capacity rest
termination_by itemsLeft start
decreasing_by exact itemsLeft_nextItem ‹_›

theorem items_eq (capacity : Nat) (start : Option Connection) : items capacity start =
    match nextItem capacity start with
    | none => []
    | some (item, rest) => item :: items capacity rest := by
  rw [items]
  split <;> rename_i hnext <;> rw [hnext]

@[simp] theorem items_none (capacity : Nat) : items capacity none = [] := by
  rw [items_eq, nextItem]

/-! ## What the items are -/

/-- A collector keeps what it takes, and the items are the same. -/
theorem Takes.items (h : Takes collector capacity c seen chunks d kept) :
    kept = seen ++ chunks.toArray ∧
      items capacity (some c) = chunks.map .ok ++ items capacity (some d) := by
  induction h with
  | none => simp
  | @chunk c d e s t u bytes chunks hread hstep _ ih =>
    cases hstep
    obtain ⟨hkept, hitems⟩ := ih
    refine ⟨?_, ?_⟩
    · rw [hkept]
      simp
    · rw [items_eq, nextItem, hread]
      exact congrArg (.ok bytes :: ·) hitems

theorem Stops.items (h : Stops collector capacity c seen flow d kept) :
    kept = seen ∧ items capacity (some c) = flow.fault?.toList.map .error := by
  cases h with
  | ended hread | waiting hread => exact ⟨rfl, by rw [items_eq, nextItem, hread]; rfl⟩
  | failed hread =>
    refine ⟨rfl, ?_⟩
    rw [items_eq, nextItem, hread]
    simp only [items_none]
    rfl
  | refused _ hstep => cases hstep

/-- **The items are the chunks that can be collected, and the failure, if one comes.** -/
theorem items_drain (c : Connection) (capacity : Nat) : items capacity (some c) =
    (c.drain capacity).2.1.toList.map .ok ++ (c.drain capacity).1.fault?.toList.map .error := by
  obtain ⟨chunks, d, kept, htakes, hstops⟩ :=
    consume_iff.mp (rfl : c.consume collector capacity #[] = _)
  obtain ⟨hkept, hitems⟩ := htakes.items
  obtain ⟨hsame, hlast⟩ := hstops.items
  rw [hitems, hlast, drain, hsame, hkept]
  simp

end Connection

end LinkProbe
