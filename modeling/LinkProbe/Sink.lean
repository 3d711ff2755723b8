import LinkProbe.Fault

/-!
# Where received text goes

A sink takes pieces of text. It may have room for a certain number of line ends only; once that
many have come it takes nothing more.

* `Sink.put`: one piece.
* `Sink.putLine`: a line, as two pieces. An empty text is no line.
* `Sink.put_cases`: a piece is taken whole or not at all.
-/

namespace LinkProbe

/-- A place for text. -/
structure Sink where
  /-- The pieces it has taken. -/
  accepted : Array String
  /-- How many more line ends it has room for, if the room is limited. -/
  room : Option Nat
deriving DecidableEq, Repr

namespace Sink

/-- A sink that has taken nothing yet. -/
def empty (room : Option Nat) : Sink := ⟨#[], room⟩

/-- What the sink has taken, as one text. -/
def text (s : Sink) : String := .join s.accepted.toList

/-- The number of line ends in a text. -/
def lineEnds (text : String) : Nat := text.toList.count '\n'

/-- The answer of a sink without room. -/
def full : IoFailure := .stated .other "sink is full"

/-- Offers a piece of text. -/
def put (s : Sink) (piece : String) : Except IoFailure Unit × Sink :=
  if s.room = some 0 then (.error full, s)
  else (.ok (), ⟨s.accepted.push piece, s.room.map (· - lineEnds piece)⟩)

/-- Offers a text and then the end of its line; a text that is empty is not offered. -/
def putLine (s : Sink) (text : String) : Except Fault Unit × Sink :=
  if text.isEmpty then (.ok (), s)
  else match s.put text with
    | (.error failure, s) => (.error (.output failure), s)
    | (.ok (), s) =>
      match s.put "\n" with
      | (.error failure, s) => (.error (.output failure), s)
      | (.ok (), s) => (.ok (), s)

theorem put_full {s : Sink} (h : s.room = some 0) (piece : String) :
    s.put piece = (.error full, s) := by
  simp [put, h]

theorem put_ok {s : Sink} (h : s.room ≠ some 0) (piece : String) :
    s.put piece = (.ok (), ⟨s.accepted.push piece, s.room.map (· - lineEnds piece)⟩) := by
  simp [put, h]

/-- A piece is taken, or refused because the sink has no room. -/
theorem put_cases (s : Sink) (piece : String) :
    (∃ sink, s.put piece = (.ok (), sink)) ∨ s.put piece = (.error full, s) := by
  by_cases hroom : s.room = some 0
  · exact .inr (put_full hroom piece)
  · exact .inl ⟨_, put_ok hroom piece⟩

/-- A line is taken, or refused because the sink has no room. -/
theorem putLine_cases (s : Sink) (text : String) :
    (s.putLine text).1 = .ok () ∨ (s.putLine text).1 = .error (.output full) := by
  unfold putLine
  split
  · exact .inl rfl
  · rcases s.put_cases text with ⟨sink, htext⟩ | htext <;> rw [htext]
    · rcases sink.put_cases "\n" with ⟨_, hend⟩ | hend <;> simp [hend]
    · exact .inr rfl

end Sink

end LinkProbe
