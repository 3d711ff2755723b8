import LinkProbe.IoFailure

/-!
# The wire to a peer that follows a plan

The peer sends its parts one after the other, the next one as soon as all before it has been read,
and then ends as planned. What the probe writes arrives at once.

* `Wire.settle`: what the peer does on its own.
* `Wire.read`, `Wire.write`, `Wire.shutDown`: what the probe does.
* `Wire.send`, `Wire.conclude`, `Wire.take`: what the peer does out of plan.
* `Wire.toCome_settle`: what the peer does on its own does not change what is to come.
* `Wire.toCome_read`: what a read returns is the beginning of what is to come.
-/

namespace LinkProbe

/-- How the peer ends once it has sent everything. -/
inductive Ending where
  /-- It sends no more, but goes on to take what is written. -/
  | close
  /-- It breaks the connection off. -/
  | reset
deriving DecidableEq, Repr

/-- The wire between the probe and its peer. -/
structure Wire where
  /-- All bytes that the peer has sent so far. -/
  sent : Array UInt8
  /-- The bytes that the peer has sent and the probe has not read. -/
  unread : List UInt8
  /-- The parts that the peer has yet to send. -/
  parts : List (List UInt8)
  /-- How the peer will end; if it will not, it stays silent. -/
  ending : Option Ending
  /-- The peer sends no more. -/
  ended : Bool
  /-- Why the connection is of no more use, if it is not. -/
  broken : Option IoFailure
  /-- How many more writes succeed, if they will not all do. -/
  accepts : Option Nat
  /-- The bytes that the probe has written. -/
  written : Array UInt8
  /-- How many of them the peer has taken. -/
  taken : Nat
  /-- The probe has told the peer that it writes no more. -/
  shut : Bool
deriving DecidableEq, Repr

/-- What a read finds. -/
inductive Arrival where
  | data (bytes : List UInt8)
  /-- The peer sends no more. -/
  | ended
  | failed (failure : IoFailure)
  /-- Nothing, and nothing will come. -/
  | silent
deriving DecidableEq, Repr

namespace Wire

/-! ## The peer -/

/-- The wire after a failure; what was not read is lost. -/
def breakOff (w : Wire) (failure : IoFailure) : Wire :=
  { w with broken := some failure, unread := [] }

/-- The wire on which the peer has ended. -/
def conclude (w : Wire) : Ending → Wire
  | .close => { w with ended := true }
  | .reset => w.breakOff .resetByPeer

/-- What the peer does on its own: when everything has been read, it sends the next part that is
not empty, and when there is none, it ends. -/
def settle (w : Wire) : Wire :=
  if w.unread.isEmpty && !w.ended && w.broken.isNone then
    match w.parts.dropWhile List.isEmpty with
    | part :: parts =>
      { w with sent := w.sent ++ part.toArray, unread := part, parts := parts }
    | [] =>
      match w.ending with
      | some ending => { w with parts := [], ending := none }.conclude ending
      | none => { w with parts := [] }
  else w

/-- The wire to a peer with the given plan. -/
def plan (parts : List (List UInt8)) (ending : Option Ending) : Wire :=
  settle ⟨#[], [], parts, ending, false, none, none, #[], 0, false⟩

/-- More parts and, if one is given, another ending for the plan. -/
def extend (w : Wire) (parts : List (List UInt8)) (ending : Option Ending) : Wire :=
  settle { w with parts := w.parts ++ parts, ending := ending.or w.ending }

/-- The peer sends bytes out of plan. -/
def send (w : Wire) (bytes : List UInt8) : Wire :=
  if w.ended || w.broken.isSome then w else
    { w with sent := w.sent ++ bytes.toArray, unread := w.unread ++ bytes }

/-- The peer takes what has been written since it last did; with it comes whether more can
follow. -/
def take (w : Wire) : List UInt8 × Bool × Wire :=
  (w.written.toList.drop w.taken, w.shut, { w with taken := w.written.size })

/-- The peer has nothing more to send and waits. -/
def atRest (w : Wire) : Bool :=
  w.unread.isEmpty && (w.parts.all List.isEmpty) && w.ending.isNone && !w.ended && w.broken.isNone

/-- The bytes that are to come, unless the peer acts out of plan. -/
def toCome (w : Wire) : List UInt8 := w.unread ++ w.parts.flatten

/-! ## The probe -/

/-- The most bytes that a read returns whose buffer has so much room to spare: a full one grows. -/
def room (spare : Nat) : Nat := if spare = 0 then 64 else spare

/-- Reads what has been sent, as much of it as there is room for in the buffer. -/
def read (w : Wire) (spare : Nat) : Arrival × Wire :=
  match w.broken with
  | some failure => (.failed failure, w)
  | none =>
    if w.unread.isEmpty then (if w.ended then .ended else .silent, w)
    else (.data (w.unread.take (room spare)),
      settle { w with unread := w.unread.drop (room spare) })

/-- Writes a payload; an empty one does not reach the wire. -/
def write (w : Wire) (payload : List UInt8) : Except IoFailure Nat × Wire :=
  if payload.isEmpty then (.ok 0, w)
  else match w.broken with
    | some failure => (.error failure, w)
    | none =>
      if w.accepts = some 0 then (.error .resetByPeer, w)
      else (.ok payload.length, { w with
        written := w.written ++ payload.toArray, accepts := w.accepts.map (· - 1) })

/-- How many more payloads can be written, if not all. -/
def writesLeft (w : Wire) : Option Nat := if w.broken.isSome then some 0 else w.accepts

/-- The probe writes no more. -/
def shutDown (w : Wire) : Wire := { w with shut := true }

/-! ## What is to come -/

theorem room_pos (spare : Nat) : 0 < room spare := by
  unfold room; split <;> omega

theorem flatten_dropWhile_isEmpty (parts : List (List UInt8)) :
    (parts.dropWhile List.isEmpty).flatten = parts.flatten := by
  induction parts with
  | nil => rfl
  | cons part parts ih =>
    cases part with
    | nil => simpa using ih
    | cons b bytes => simp

@[simp] theorem toCome_settle (w : Wire) : w.settle.toCome = w.toCome := by
  unfold settle
  split
  · rename_i h
    have hu : w.unread = [] := by simpa using (by simpa using h : (w.unread = [] ∧ _) ∧ _).1.1
    have hp := flatten_dropWhile_isEmpty w.parts
    split
    · rename_i heq
      simp only [heq, List.flatten_cons] at hp
      simp [toCome, hu, hp]
    · rename_i heq
      simp only [heq, List.flatten_nil] at hp
      split
      · rename_i ending _
        cases ending <;> simp [toCome, conclude, breakOff, hu, ← hp]
      · simp [toCome, hu, ← hp]
  · rfl

/-- What a read returns is the beginning of what is to come. -/
theorem toCome_read {w v : Wire} {spare : Nat} {bytes : List UInt8}
    (h : w.read spare = (.data bytes, v)) : bytes ++ v.toCome = w.toCome := by
  unfold read at h
  split at h
  · simp at h
  · split at h
    · split at h <;> simp at h
    · simp only [Prod.mk.injEq, Arrival.data.injEq] at h
      obtain ⟨rfl, rfl⟩ := h
      rw [toCome_settle]
      simp [toCome, ← List.append_assoc]

/-- A read that returns data returns some, and no more than there is room for. -/
theorem length_read {w v : Wire} {spare : Nat} {bytes : List UInt8}
    (h : w.read spare = (.data bytes, v)) :
    0 < bytes.length ∧ bytes.length ≤ room spare := by
  unfold read at h
  split at h
  · simp at h
  · split at h
    · split at h <;> simp at h
    · rename_i hu
      simp only [Prod.mk.injEq, Arrival.data.injEq] at h
      obtain ⟨rfl, rfl⟩ := h
      have hroom := room_pos spare
      have hunread : 0 < w.unread.length := by
        rw [List.length_pos_iff]
        simpa using hu
      rw [List.length_take]
      omega

end Wire

end LinkProbe
