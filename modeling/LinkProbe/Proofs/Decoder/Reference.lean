import LinkProbe.Decoder
import LinkProbe.Proofs.Utf8.Scan

/-!
# What a decoder has to say about bytes

The text of all bytes of a stream, as if they came at once, and the place where they stop being one.

* `Replaced`: the text where U+FFFD stands for every bad piece, and how many there are.
* `BrokenAt`: where the longest beginning that encodes a text ends, and the bad piece there.
* `replaced_iff`, `brokenAt_iff`: every stream has one such text and, unless it encodes a text, one
  such place.
-/

namespace LinkProbe.Utf8

open String (utf8EncodeChar)

/-! ## Replacing bad pieces -/

/-- What is shown for the pieces where bad ones are replaced. -/
def shownText (pieces : List Piece) : Decoded :=
  ⟨.ofList (pieces.map Piece.shown), pieces.countP Piece.isBad⟩

/-- What is shown for the bytes where bad pieces are replaced. -/
def Replaced (bytes : List UInt8) (decoded : Decoded) : Prop :=
  ∃ pieces, Division bytes pieces ∧ decoded = shownText pieces

theorem replaced_iff {bytes : List UInt8} {decoded : Decoded} :
    Replaced bytes decoded ↔ decoded = shownText (divide bytes) := by
  constructor
  · rintro ⟨pieces, hd, rfl⟩
    rw [division_iff.mp hd]
  · exact fun h => ⟨divide bytes, division_iff.mpr rfl, h⟩

/-! ## The first bad piece -/

/-- The longest beginning of the bytes that encodes a text ends at the offset, and the bad piece
stands there. -/
structure BrokenAt (bytes : List UInt8) (bad : Malformed) : Prop where
  offset_le : bad.offset ≤ bytes.length
  wellFormed : WellFormed (bytes.take bad.offset)
  longest : ∀ first, first <+: bytes → WellFormed first → first.length ≤ bad.offset
  subpart : Subpart bad.bytes (bytes.drop bad.offset)

namespace BrokenAt

variable {bytes : List UInt8} {bad other : Malformed}

theorem le_of (h : BrokenAt bytes bad) (h' : BrokenAt bytes other) : bad.offset ≤ other.offset := by
  have := h'.longest _ (List.take_prefix bad.offset bytes) h.wellFormed
  rwa [List.length_take, Nat.min_eq_left h.offset_le] at this

theorem unique (h : BrokenAt bytes bad) (h' : BrokenAt bytes other) : bad = other := by
  obtain ⟨offset, piece⟩ := bad
  obtain ⟨offset', piece'⟩ := other
  obtain rfl : offset = offset' := Nat.le_antisymm (h.le_of h') (h'.le_of h)
  rw [Malformed.mk.injEq]
  exact ⟨rfl, h.subpart.unique h'.subpart⟩

theorem not_wellFormed (h : BrokenAt bytes bad) : ¬ WellFormed bytes := by
  intro hw
  have hoff := h.longest bytes (List.prefix_refl _) hw
  have hlen := h.subpart.isPrefix.length_le
  have hpos := h.subpart.length_pos
  rw [List.length_drop] at hlen
  omega

/-- Bytes that more bytes can make a text of are broken at their end only. -/
theorem bytes_eq_of_extendable (h : BrokenAt bytes bad) (hext : Extendable bytes) :
    bad.bytes = bytes.drop bad.offset := by
  have hdrop : Extendable (bytes.drop bad.offset) := by
    rwa [← List.take_append_drop bad.offset bytes, h.wellFormed.append_extendable_iff] at hext
  have hbegins : Begins (bytes.drop bad.offset) := by
    refine ((extendable_iff_of_no_char h.subpart.noChar).mp hdrop).resolve_left fun hnil => ?_
    have hlen := h.subpart.isPrefix.length_le
    have hpos := h.subpart.length_pos
    rw [hnil, List.length_nil] at hlen
    omega
  exact h.subpart.unique (.of_begins hbegins)

/-- A character in front moves the place. -/
theorem char (h : BrokenAt bytes bad) (c : Char) :
    BrokenAt (utf8EncodeChar c ++ bytes) ⟨c.utf8Size + bad.offset, bad.bytes⟩ where
  offset_le := by
    have := h.offset_le
    simp only [List.length_append, String.length_utf8EncodeChar]
    omega
  wellFormed := by
    rw [← String.length_utf8EncodeChar, List.take_length_add_append]
    exact encode_append_wellFormed.mpr h.wellFormed
  longest first hf hw := by
    obtain ⟨_ | ⟨d, chars⟩, rfl⟩ := wellFormed_iff.mp hw
    · exact Nat.zero_le _
    · obtain ⟨rest, hrest⟩ := hf
      rw [List.flatMap_cons, List.append_assoc] at hrest
      obtain ⟨rfl, htail⟩ := encode_inj_append hrest
      have := h.longest _ ⟨rest, htail⟩ (wellFormed_iff.mpr ⟨chars, rfl⟩)
      rw [List.flatMap_cons, List.length_append, String.length_utf8EncodeChar]
      exact Nat.add_le_add_left this _
  subpart := by
    rw [← String.length_utf8EncodeChar, List.drop_length_add_append]
    exact h.subpart

theorem of_subpart {piece : List UInt8} (h : Subpart piece bytes) : BrokenAt bytes ⟨0, piece⟩ where
  offset_le := Nat.zero_le _
  wellFormed := wellFormed_nil
  longest first hf hw := by
    obtain ⟨_ | ⟨c, chars⟩, rfl⟩ := wellFormed_iff.mp hw
    · exact Nat.le_refl 0
    · exact absurd ((List.prefix_append _ _).trans hf) (h.noChar c)
  subpart := h

end BrokenAt

end LinkProbe.Utf8

namespace LinkProbe.Decoder

open Utf8

theorem firstBad?_add (start offset : Nat) (pieces : List Piece) :
    firstBad? (start + offset) pieces =
      (firstBad? offset pieces).map fun bad => ⟨start + bad.offset, bad.bytes⟩ := by
  induction pieces generalizing offset with
  | nil => rfl
  | cons piece pieces ih =>
    cases piece with
    | bad bytes => rfl
    | char c => rw [firstBad?, firstBad?, Nat.add_assoc, ih]

theorem firstBad?_eq_none_iff {offset : Nat} {pieces : List Piece} :
    firstBad? offset pieces = none ↔ ∀ piece ∈ pieces, piece.isBad = false := by
  induction pieces generalizing offset with
  | nil => simp [firstBad?]
  | cons piece pieces ih => cases piece <;> simp [firstBad?, Piece.isBad, ih]

/-- The first bad piece of a division stands where the bytes stop being a text. -/
theorem brokenAt_of_firstBad? {bytes : List UInt8} {pieces : List Piece} {bad : Malformed}
    (h : Division bytes pieces) (hbad : firstBad? 0 pieces = some bad) : BrokenAt bytes bad := by
  induction h generalizing bad with
  | nil => cases hbad
  | char c _ ih =>
    rw [firstBad?, Nat.zero_add, ← Nat.add_zero c.utf8Size, firstBad?_add] at hbad
    obtain ⟨inner, hinner, rfl⟩ := Option.map_eq_some_iff.mp hbad
    exact (ih hinner).char c
  | bad hs _ _ =>
    cases hbad
    exact .of_subpart hs

/-- A division into characters is a text. -/
theorem wellFormed_of_division {bytes : List UInt8} {pieces : List Piece}
    (h : Division bytes pieces) (hchars : ∀ piece ∈ pieces, piece.isBad = false) :
    WellFormed bytes := by
  induction h with
  | nil => exact wellFormed_nil
  | char c _ ih =>
    exact encode_append_wellFormed.mpr (ih fun p hp => hchars p (List.mem_cons_of_mem _ hp))
  | bad => simpa [Piece.isBad] using hchars _ List.mem_cons_self

theorem wellFormed_iff_divide {bytes : List UInt8} :
    WellFormed bytes ↔ ∀ piece ∈ divide bytes, piece.isBad = false := by
  constructor
  · intro h
    obtain ⟨chars, rfl⟩ := wellFormed_iff.mp h
    rw [← division_iff.mp (Division.chars chars)]
    simp [Piece.isBad]
  · exact wellFormed_of_division (division_iff.mpr rfl)

instance : DecidablePred WellFormed := fun _ => decidable_of_iff _ wellFormed_iff_divide.symm

/-- **Bytes that encode no text are broken at one place, which the first bad piece shows.** -/
theorem brokenAt_iff {bytes : List UInt8} {bad : Malformed} :
    BrokenAt bytes bad ↔ firstBad? 0 (divide bytes) = some bad := by
  have hd : Division bytes (divide bytes) := division_iff.mpr rfl
  refine ⟨fun h => ?_, brokenAt_of_firstBad? hd⟩
  cases hbad : firstBad? 0 (divide bytes) with
  | none =>
    have hw := wellFormed_of_division hd (firstBad?_eq_none_iff.mp hbad)
    exact absurd hw h.not_wellFormed
  | some other => rw [h.unique (brokenAt_of_firstBad? hd hbad)]

end LinkProbe.Decoder
