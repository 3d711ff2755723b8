import Mathlib.Algebra.GroupWithZero.Nat
import LinkProbe.Proofs.Connection.Reads

/-!
# Reading what a peer sends that keeps to its plan

* `Wire.Follows`: the peer is sending the parts of its plan, or has sent all and ended as planned.
* `Wire.Follows.read`: what a read finds then.
* `Wire.readsToCome`: how many reads it takes to read everything.
* `Wire.pieces`: the chunks that they bring.
* `Connection.Takes.follows`: chunk after chunk.
* `Connection.Stops.follows`: why no more come.
-/

namespace LinkProbe

namespace Wire

/-! ## Keeping to the plan -/

/-- What a read finds when a peer has sent everything and ended like this. -/
def lastArrival : Option Ending → Arrival
  | some .close => .ended
  | some .reset => .failed .resetByPeer
  | none => .silent

theorem lastArrival_ne_data {bytes : List UInt8} (ending : Option Ending) :
    lastArrival ending ≠ .data bytes := by
  rcases ending with _ | _ | _ <;> exact nofun

/-- The peer sends its parts and has only this ending before it; or it has come to it. -/
inductive Follows (ending : Option Ending) (w : Wire) : Prop
  | sending (unbroken : w.broken = none) (going : w.ended = false)
      (planned : w.ending = ending) (some : w.unread ≠ [])
  | finished (read : w.unread = []) (sent : w.parts = [])
      (last : ∀ capacity, w.read capacity = (lastArrival ending, w))

theorem dropWhile_isEmpty_cons {parts rest : List (List UInt8)} {part : List UInt8}
    (h : parts.dropWhile List.isEmpty = part :: rest) : part ≠ [] := by
  have hhead := List.head?_dropWhile_not List.isEmpty parts
  rw [h] at hhead
  simpa using hhead

/-- Whatever the peer has yet to send, it goes on by its plan. -/
theorem follows_settle {w : Wire} (hbroken : w.broken = none) (hended : w.ended = false) :
    w.settle.Follows w.ending := by
  by_cases hunread : w.unread = []
  · have hidle : (w.unread.isEmpty && !w.ended && w.broken.isNone) = true := by
      simp [hunread, hended, hbroken]
    rw [settle, if_pos hidle]
    cases hparts : w.parts.dropWhile List.isEmpty with
    | cons part rest => exact .sending hbroken hended rfl (dropWhile_isEmpty_cons hparts)
    | nil =>
      cases hending : w.ending with
      | none =>
        refine .finished hunread rfl fun capacity => ?_
        simp [read, lastArrival, hbroken, hended, hunread]
      | some ending =>
        cases ending with
        | close =>
          refine .finished hunread rfl fun capacity => ?_
          simp [read, conclude, lastArrival, hbroken, hunread]
        | reset =>
          refine .finished rfl rfl fun capacity => ?_
          simp [read, conclude, breakOff, lastArrival]
  · have hbusy : (w.unread.isEmpty && !w.ended && w.broken.isNone) = false := by simp [hunread]
    rw [settle, if_neg (by simp [hbusy])]
    exact .sending hbroken hended rfl hunread

theorem follows_plan (parts : List (List UInt8)) (ending : Option Ending) :
    (plan parts ending).Follows ending :=
  @follows_settle ⟨#[], [], parts, ending, false, none, none, #[], 0, false⟩ rfl rfl

/-! ## How many reads it takes -/

/-- How many reads a part takes that is there as a whole. -/
def readsOf (capacity : Nat) (part : List UInt8) : Nat :=
  (part.length + room capacity - 1) / room capacity

/-- How many reads it takes to read everything. -/
def readsToCome (w : Wire) (capacity : Nat) : Nat :=
  readsOf capacity w.unread + (w.parts.map (readsOf capacity)).sum

@[simp] theorem readsOf_nil (capacity : Nat) : readsOf capacity [] = 0 := by
  have hroom := room_pos capacity
  rw [readsOf, List.length_nil, Nat.div_eq_of_lt (by omega)]

theorem readsOf_drop {capacity : Nat} {part : List UInt8} (h : part ≠ []) :
    readsOf capacity part = readsOf capacity (part.drop (room capacity)) + 1 := by
  have hroom := room_pos capacity
  have hpart := List.length_pos_iff.mpr h
  unfold readsOf
  rw [List.length_drop, ← Nat.add_div_right _ hroom]
  by_cases hle : room capacity ≤ part.length
  · congr 1
    omega
  · rw [show part.length + room capacity - 1 = part.length - 1 + room capacity by omega,
      show part.length - room capacity + room capacity - 1 + room capacity =
        room capacity - 1 + room capacity by omega,
      Nat.add_div_right _ hroom, Nat.add_div_right _ hroom, Nat.div_eq_of_lt (by omega),
      Nat.div_eq_of_lt (by omega)]

/-! ## Into what chunks reads cut it -/

/-- The chunks that reads bring of a part that is there as a whole. -/
def cut (capacity : Nat) (part : List UInt8) : List (List UInt8) :=
  if part = [] then []
  else part.take (room capacity) :: cut capacity (part.drop (room capacity))
termination_by part.length
decreasing_by
  have hroom := room_pos capacity
  have hpart := List.length_pos_iff.mpr ‹part ≠ []›
  rw [List.length_drop]
  omega

/-- The chunks that reads bring of everything. -/
def pieces (w : Wire) (capacity : Nat) : List (List UInt8) :=
  cut capacity w.unread ++ w.parts.flatMap (cut capacity)

@[simp] theorem cut_nil (capacity : Nat) : cut capacity [] = [] := by
  rw [cut, if_pos rfl]

theorem cut_of_ne_nil {capacity : Nat} {part : List UInt8} (h : part ≠ []) :
    cut capacity part = part.take (room capacity) :: cut capacity (part.drop (room capacity)) := by
  rw [cut, if_neg h]

theorem length_cut (capacity : Nat) (part : List UInt8) :
    (cut capacity part).length = readsOf capacity part := by
  fun_induction cut capacity part with
  | case1 => simp
  | case2 part hpart ih => rw [List.length_cons, ih, readsOf_drop hpart]

theorem flatten_cut (capacity : Nat) (part : List UInt8) : (cut capacity part).flatten = part := by
  fun_induction cut capacity part with
  | case1 => rfl
  | case2 part hpart ih => rw [List.flatten_cons, ih, List.take_append_drop]

theorem length_pieces (w : Wire) (capacity : Nat) :
    (w.pieces capacity).length = w.readsToCome capacity := by
  simp only [pieces, readsToCome, List.length_append, List.length_flatMap, length_cut]

theorem flatten_pieces (w : Wire) (capacity : Nat) : (w.pieces capacity).flatten = w.toCome := by
  have hparts (parts : List (List UInt8)) :
      (parts.flatMap (cut capacity)).flatten = parts.flatten := by
    induction parts with
    | nil => rfl
    | cons part parts ih =>
      rw [List.flatMap_cons, List.flatten_append, flatten_cut, ih, List.flatten_cons]
  rw [pieces, List.flatten_append, flatten_cut, hparts, toCome]

theorem flatMap_cut_dropWhile (capacity : Nat) (parts : List (List UInt8)) :
    (parts.dropWhile List.isEmpty).flatMap (cut capacity) = parts.flatMap (cut capacity) := by
  induction parts with
  | nil => rfl
  | cons part parts ih =>
    cases part with
    | nil => simpa using ih
    | cons b bytes => simp

@[simp] theorem pieces_settle (w : Wire) (capacity : Nat) :
    w.settle.pieces capacity = w.pieces capacity := by
  have hparts := flatMap_cut_dropWhile capacity w.parts
  unfold settle
  split
  · rename_i h
    have hunread : w.unread = [] := by
      simp only [Bool.and_eq_true, List.isEmpty_iff] at h
      exact h.1.1
    split
    · rename_i heq
      rw [heq, List.flatMap_cons] at hparts
      simp [pieces, hunread, ← hparts]
    · rename_i heq
      rw [heq, List.flatMap_nil] at hparts
      split
      · rename_i ending _
        cases ending <;> simp [pieces, conclude, breakOff, hunread, ← hparts]
      · simp [pieces, hunread, ← hparts]
  · rfl

theorem pieces_plan (parts : List (List UInt8)) (ending : Option Ending) (capacity : Nat) :
    (plan parts ending).pieces capacity = parts.flatMap (cut capacity) := by
  rw [plan, pieces_settle, pieces, cut_nil, List.nil_append]

theorem readsToCome_plan (parts : List (List UInt8)) (ending : Option Ending) (capacity : Nat) :
    (plan parts ending).readsToCome capacity = (parts.map (readsOf capacity)).sum := by
  rw [← length_pieces, pieces_plan, List.length_flatMap]
  simp only [length_cut]

theorem toCome_plan (parts : List (List UInt8)) (ending : Option Ending) :
    (plan parts ending).toCome = parts.flatten := by
  rw [plan, toCome_settle]
  rfl

/-- A read brings the next piece of everything, or finds how the peer has ended. -/
theorem Follows.read {ending : Option Ending} {w : Wire} (h : w.Follows ending) (capacity : Nat) :
    (w.pieces capacity = [] ∧ w.read capacity = (lastArrival ending, w)) ∨
    ∃ bytes v, w.read capacity = (.data bytes, v) ∧ v.Follows ending ∧
      w.pieces capacity = bytes :: v.pieces capacity := by
  cases h with
  | finished hunread hparts hlast =>
    exact .inl ⟨by simp [pieces, hunread, hparts], hlast capacity⟩
  | sending hbroken hended hending hunread =>
    refine .inr ⟨w.unread.take (room capacity),
      settle { w with unread := w.unread.drop (room capacity) }, ?_, ?_, ?_⟩
    · rw [Wire.read, hbroken]
      simp [hunread]
    · rw [← hending]
      exact @follows_settle { w with unread := w.unread.drop (room capacity) } hbroken hended
    · rw [pieces_settle, pieces, cut_of_ne_nil hunread]
      rfl

end Wire

namespace Connection

variable {σ : Type} {consumer : Consumer σ} {capacity : Nat} {c d : Connection} {s t : σ}
  {chunks : List (List UInt8)} {flow : Flow} {ending : Option Ending}

theorem Takes.follows (htakes : Takes consumer capacity c s chunks d t)
    (hstate : c.state = .opened) (h : c.wire.Follows ending) :
    d.wire.Follows ending ∧ c.wire.pieces capacity = chunks ++ d.wire.pieces capacity := by
  induction htakes with
  | none => exact ⟨h, rfl⟩
  | @chunk c d e s t u bytes chunks hread hstep _ ih =>
    obtain ⟨-, wire, hdata, rfl⟩ := read_chunk hread
    rw [Buffer.spare_exact] at hdata
    rcases h.read capacity with ⟨-, hlast⟩ | ⟨bytes', wire', hdata', hfollows, hpieces⟩
    · rw [hdata] at hlast
      exact absurd (congrArg Prod.fst hlast).symm (Wire.lastArrival_ne_data ending)
    · rw [hdata] at hdata'
      cases hdata'
      obtain ⟨hd, hmore⟩ := ih ((state_noteAll _ _).trans hstate) (by rwa [wire_noteAll])
      rw [wire_noteAll] at hmore
      exact ⟨hd, by rw [hpieces, hmore, List.cons_append]⟩

/-- What the last read brings from a peer that has ended like this. -/
def lastReading : Option Ending → Reading
  | some .close => .ended
  | some .reset => .failed (.read .resetByPeer)
  | none => .waiting

/-- Why no more chunks come from it. -/
def lastFlow : Option Ending → Flow
  | some .close => .ended
  | some .reset => .failed (.read .resetByPeer)
  | none => .waiting

theorem read_last (hstate : c.state = .opened)
    (hlast : c.wire.read capacity = (Wire.lastArrival ending, c.wire)) :
    ∃ d, c.read capacity = (lastReading ending, d) ∧
      d.state = if ending = none then .opened else .closed := by
  rw [Connection.read, Buffer.spare_exact, hlast]
  rcases ending with _ | _ | _ <;>
    simp [Wire.lastArrival, lastReading, State.isTerminal, markClosed, note, State.allows, hstate]

/-- No more chunks come when all have been taken and the peer has ended, unless the consumer does
not want the next one. -/
theorem Stops.follows (hstops : Stops consumer capacity c s flow d t) (hstate : c.state = .opened)
    (h : c.wire.Follows ending) :
    (c.wire.pieces capacity = [] ∧ flow = lastFlow ending ∧ t = s ∧
      d.state = if ending = none then .opened else .closed) ∨
    ∃ bytes rest fault, c.wire.pieces capacity = bytes :: rest ∧
      consumer.step s bytes = (.error fault, t) ∧ flow = .failed fault := by
  rcases h.read capacity with ⟨hnone, hlast⟩ | ⟨bytes, wire, hdata, -, hpieces⟩
  · obtain ⟨d', hread', hd⟩ := read_last hstate hlast
    cases hstops with
    | ended hread | failed hread | waiting hread =>
      rw [hread] at hread'
      rcases ending with _ | _ | _ <;> cases hread'
      exact .inl ⟨hnone, rfl, rfl, hd⟩
    | refused hread hstep =>
      rw [hread] at hread'
      rcases ending with _ | _ | _ <;> cases hread'
  · have hchunk : c.read capacity = (.chunk bytes, { c with wire }) := by
      rw [Connection.read, Buffer.spare_exact, hdata]
      simp [State.isTerminal, hstate]
    cases hstops with
    | ended hread | failed hread | waiting hread =>
      rw [hread] at hchunk
      cases hchunk
    | refused hread hstep =>
      rw [hread] at hchunk
      cases hchunk
      exact .inr ⟨bytes, _, _, hpieces, hstep, rfl⟩

end Connection

end LinkProbe
