import LinkProbe.Text.Utf8

/-!
# The decoder of a stream of chunks

Turns chunks of bytes into text as they come. A character that is cut by the end of a chunk is
held back until the next chunk brings the rest of it.

* `Decoder.feed`: the text of one more chunk.
* `Decoder.finish`: what is left when the stream ends.
-/

namespace LinkProbe

/-- What happens to bytes that begin no character. -/
inductive DecodeMode where
  /-- They are replaced by U+FFFD. -/
  | lossy
  /-- They end the decoding. -/
  | strict
deriving DecidableEq, Repr

namespace DecodeMode

/-- The name of the mode in log lines. -/
def label : DecodeMode → String
  | .lossy => "Lossy"
  | .strict => "Strict"

/-- The mode that a session uses when bad bytes are to be refused, and when not. -/
def ofStrict (strict : Bool) : DecodeMode := if strict then .strict else .lossy

end DecodeMode

/-- The text of a chunk. -/
structure Decoded where
  text : String
  /-- How often U+FFFD stands for bytes that begin no character. -/
  replacements : Nat
deriving DecidableEq, Repr

/-- Bytes that begin no character, and where they stand in the stream. -/
structure Malformed where
  offset : Nat
  bytes : List UInt8
deriving DecidableEq, Repr

/-- A decoder between two chunks. -/
structure Decoder where
  mode : DecodeMode
  /-- The bytes of a character that has begun. -/
  held : List UInt8
  /-- The position in the stream that the decoder counts from: that of the first held byte as long
  as no call has failed or flushed held bytes. -/
  offset : Nat
deriving DecidableEq, Repr

namespace Decoder

/-- A decoder at the start of a stream. -/
def new (mode : DecodeMode) : Decoder := ⟨mode, [], 0⟩

/-- The first bad piece, at its position counted from `offset`. -/
def firstBad? (offset : Nat) : List Utf8.Piece → Option Malformed
  | [] => none
  | .bad bytes :: _ => some ⟨offset, bytes⟩
  | .char c :: pieces => firstBad? (offset + c.utf8Size) pieces

/-- The decoder after a chunk that was read to its end. -/
def advance (d : Decoder) (chunk held : List UInt8) : Decoder :=
  { d with held := held, offset := d.offset + (d.held.length + chunk.length - held.length) }

/-- Decodes one more chunk. A strict decoder that meets a bad piece drops what it held and the
rest of the chunk, and counts on from where it was before the chunk. -/
def feed (d : Decoder) (chunk : List UInt8) : Except Malformed Decoded × Decoder :=
  let s := Utf8.scan d.held chunk
  let decoded : Decoded := ⟨Utf8.textOf s.pieces, Utf8.badCount s.pieces⟩
  match d.mode with
  | .lossy => (.ok decoded, d.advance chunk s.held)
  | .strict =>
    match firstBad? d.offset s.pieces.toList with
    | some bad => (.error bad, { d with held := [] })
    | none => (.ok decoded, d.advance chunk s.held)

/-- Ends the stream: a character that has begun will not be completed. -/
def finish (d : Decoder) : Except Malformed Decoded × Decoder :=
  let rest := { d with held := [] }
  if d.held.isEmpty then (.ok ⟨"", 0⟩, rest)
  else match d.mode with
    | .lossy => (.ok ⟨"\uFFFD", 1⟩, rest)
    | .strict => (.error ⟨d.offset, d.held⟩, rest)

@[simp] theorem held_finish (d : Decoder) : d.finish.2.held = [] := by
  unfold finish
  split
  · rfl
  · split <;> rfl

end Decoder

end LinkProbe
