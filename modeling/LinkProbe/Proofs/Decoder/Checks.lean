import LinkProbe.Proofs.Decoder.Runs

/-!
# Checking bytes for a text

What a check tells of bytes: the text that they encode, or how far they encode one and what stands
behind that. It can be told from what the bytes settle.

* `Settles.unique`: bytes settle in one way. `Settles.divides`: the settled pieces divide all bytes
  but the held ones.
* `Stretches`: what is settled, from one bad piece to the next.
* `verdict`: what a check finds; `reports_verdict`: it finds the longest text that the bytes begin
  with, and whether a character could go on behind it.
-/

namespace LinkProbe.Utf8

open Decoder (firstBad? firstBad?_eq_none_iff brokenAt_of_firstBad? firstBad?_chars)
open String (utf8EncodeChar)

variable {bytes held : List UInt8} {pieces : List Piece}

/-! ## What is settled -/

/-- Bytes settle in one way. -/
theorem Settles.unique {others : List Piece} {other : List UInt8} (h : Settles bytes pieces held)
    (h' : Settles bytes others other) : pieces = others ∧ held = other := by
  -- No two of the three ways to go on are open: a held tail has no character and can be extended,
  -- a bad piece has neither.
  induction h generalizing others with
  | @rest held hheld =>
    cases h' with
    | rest _ => exact ⟨rfl, rfl⟩
    | char c _ =>
      rcases hheld with hnil | hbegins
      · simp [String.utf8EncodeChar_ne_nil] at hnil
      · exact absurd (List.prefix_append _ _) (hbegins.ne_encode c)
    | bad _ hext _ => exact absurd hheld.extendable hext
  | @char c bytes pieces held _ ih =>
    generalize hbytes : utf8EncodeChar c ++ bytes = all at h'
    cases h' with
    | rest hheld =>
      rcases hheld with rfl | hbegins
      · simp [String.utf8EncodeChar_ne_nil] at hbytes
      · exact absurd ⟨_, hbytes⟩ (hbegins.ne_encode c)
    | char d hd =>
      obtain ⟨rfl, rfl⟩ := encode_inj_append hbytes
      obtain ⟨rfl, rfl⟩ := ih hd
      exact ⟨rfl, rfl⟩
    | bad hsub _ _ => exact absurd ⟨_, hbytes⟩ (hsub.noChar c)
  | @bad bad bytes pieces held hsub hext _ ih =>
    generalize hbytes : bad ++ bytes = all at h' hsub hext
    cases h' with
    | rest hheld => exact absurd hheld.extendable hext
    | char d _ => exact absurd ⟨_, rfl⟩ (hsub.noChar d)
    | bad hsub' _ hd =>
      obtain rfl := hsub.unique hsub'
      obtain ⟨rfl, rfl⟩ := ih (List.append_cancel_left hbytes ▸ hd)
      exact ⟨rfl, rfl⟩

/-- The scanner finds what is settled. -/
theorem Settles.scan_eq (h : Settles bytes pieces held) :
    (scan [] bytes).pieces.toList = pieces ∧ (scan [] bytes).held = held :=
  (settles_scan .nil bytes).unique h

theorem Settles.chars (chars : List Char) (h : Settles bytes pieces held) :
    Settles (chars.flatMap utf8EncodeChar ++ bytes) (chars.map .char ++ pieces) held := by
  induction chars with
  | nil => exact h
  | cons c chars ih =>
    rw [List.flatMap_cons, List.append_assoc]
    exact .char c ih

/-- What is settled, with the characters before each bad piece taken together. -/
inductive Stretches : List UInt8 → List Piece → List UInt8 → Prop where
  | rest (chars : List Char) {held : List UInt8} (hheld : Holdable held) :
    Stretches (chars.flatMap utf8EncodeChar ++ held) (chars.map .char) held
  | bad (chars : List Char) {bad bytes held : List UInt8} {pieces : List Piece}
    (hsub : Subpart bad (bad ++ bytes)) (hext : ¬ Extendable (bad ++ bytes))
    (h : Stretches bytes pieces held) :
    Stretches (chars.flatMap utf8EncodeChar ++ (bad ++ bytes))
      (chars.map .char ++ .bad bad :: pieces) held

theorem Stretches.settles (h : Stretches bytes pieces held) : Settles bytes pieces held := by
  induction h with
  | rest chars hheld => simpa using (Settles.rest hheld).chars chars
  | bad chars hsub hext _ ih => exact (Settles.bad hsub hext ih).chars chars

theorem Settles.stretches (h : Settles bytes pieces held) : Stretches bytes pieces held := by
  induction h with
  | rest hheld => exact .rest [] hheld
  | bad hsub hext _ ih => exact .bad [] hsub hext ih
  | char c _ ih =>
    cases ih with
    | rest chars hheld =>
      rw [← List.append_assoc]
      exact .rest (c :: chars) hheld
    | bad chars hsub hext h =>
      rw [← List.append_assoc]
      exact .bad (c :: chars) hsub hext h

/-- The settled pieces divide all bytes before the held ones. -/
theorem Settles.divides (h : Settles bytes pieces held) :
    ∃ settled, bytes = settled ++ held ∧ Division settled pieces := by
  induction h with
  | rest _ => exact ⟨[], rfl, .nil⟩
  | char c _ ih =>
    obtain ⟨settled, rfl, hd⟩ := ih
    exact ⟨utf8EncodeChar c ++ settled, (List.append_assoc _ _ _).symm, .char c hd⟩
  | @bad bad _ _ held hsub _ _ ih =>
    obtain ⟨settled, rfl, hd⟩ := ih
    have hfirst : bad ++ settled <+: bad ++ (settled ++ held) :=
      ⟨held, List.append_assoc _ _ _⟩
    refine ⟨bad ++ settled, (List.append_assoc _ _ _).symm, .bad ?_ hd⟩
    exact ⟨List.prefix_append _ _, fun c hc => hsub.noChar c (hc.trans hfirst), hsub.shape,
      fun first hf => hsub.longest first (hf.trans hfirst)⟩

/-! ## Checking bytes for a text -/

/-- What a check of bytes for a text finds. -/
inductive Verdict where
  /-- They encode this text. -/
  | whole (text : String)
  /-- As many bytes as this encode a text. Behind them stands a bad piece of the given length, or
  the beginning of a character. -/
  | stops (upTo : Nat) (bad? : Option Nat)
deriving DecidableEq, Repr

/-- Checks bytes for a text. -/
def verdict (bytes : List UInt8) : Verdict :=
  let s := scan [] bytes
  match firstBad? 0 s.pieces.toList with
  | some bad => .stops bad.offset (some bad.bytes.length)
  | none =>
    if s.held = [] then .whole (textOf s.pieces) else .stops (bytes.length - s.held.length) none

/-- The verdict that is right for the bytes. -/
inductive Reports (bytes : List UInt8) : Verdict → Prop where
  | whole {text : String} (h : bytesOf text = bytes) : Reports bytes (.whole text)
  | cut {upTo : Nat} (hbroken : BrokenAt bytes ⟨upTo, bytes.drop upTo⟩)
      (hbegins : Begins (bytes.drop upTo)) : Reports bytes (.stops upTo none)
  | bad {upTo : Nat} {piece : List UInt8} (hbroken : BrokenAt bytes ⟨upTo, piece⟩)
      (hnot : ¬ Begins (bytes.drop upTo)) : Reports bytes (.stops upTo (some piece.length))

theorem verdict_chars (chars : List Char) :
    verdict (chars.flatMap utf8EncodeChar) = .whole (.ofList chars) := by
  obtain ⟨hpieces, hheld⟩ := ((Settles.rest .nil).chars chars).scan_eq
  rw [List.append_nil, List.append_nil] at hpieces
  rw [List.append_nil] at hheld
  have hnone : firstBad? 0 (chars.map .char) = none :=
    firstBad?_eq_none_iff.mpr (by simp [Piece.isBad])
  simp only [verdict, hpieces, hheld, hnone, textOf, if_pos, List.map_map]
  congr 1
  simp [Function.comp_def, Piece.shown]

theorem verdict_cut (chars : List Char) (h : Begins held) :
    verdict (chars.flatMap utf8EncodeChar ++ held) =
      .stops (chars.flatMap utf8EncodeChar).length none := by
  obtain ⟨hpieces, hheld⟩ := ((Settles.rest (.inr h)).chars chars).scan_eq
  rw [List.append_nil] at hpieces
  have hnone : firstBad? 0 (chars.map .char) = none :=
    firstBad?_eq_none_iff.mpr (by simp [Piece.isBad])
  simp only [verdict, hpieces, hheld, hnone, if_neg h.1, List.length_append, Nat.add_sub_cancel]

theorem verdict_bad (chars : List Char) {bad : List UInt8} (hsub : Subpart bad (bad ++ bytes))
    (hext : ¬ Extendable (bad ++ bytes)) (h : Settles bytes pieces held) :
    verdict (chars.flatMap utf8EncodeChar ++ (bad ++ bytes)) =
      .stops (chars.flatMap utf8EncodeChar).length (some bad.length) := by
  obtain ⟨hpieces, -⟩ := ((Settles.bad hsub hext h).chars chars).scan_eq
  simp only [verdict, hpieces, firstBad?_chars, firstBad?, Nat.zero_add]

theorem reports_verdict (bytes : List UInt8) : Reports bytes (verdict bytes) := by
  have broken {chars : List Char} {tail piece : List UInt8} (h : Subpart piece tail) :
      BrokenAt (chars.flatMap utf8EncodeChar ++ tail)
        ⟨(chars.flatMap utf8EncodeChar).length, piece⟩ := by
    induction chars with
    | nil => exact .of_subpart h
    | cons c chars ih =>
      rw [List.flatMap_cons, List.append_assoc, List.length_append, String.length_utf8EncodeChar]
      exact ih.char c
  obtain ⟨pieces, held, h⟩ : ∃ pieces held, Settles bytes pieces held :=
    ⟨_, _, settles_scan .nil bytes⟩
  cases h.stretches with
  | rest chars hheld =>
    rcases hheld with rfl | hbegins
    · rw [List.append_nil, verdict_chars]
      exact .whole (bytesOf_ofList chars)
    · rw [verdict_cut chars hbegins]
      refine .cut ?_ ?_ <;> rw [List.drop_left]
      · exact broken (.of_begins hbegins)
      · exact hbegins
  | bad chars hsub hext h =>
    rw [verdict_bad chars hsub hext h.settles]
    refine .bad (broken hsub) ?_
    rw [List.drop_left]
    exact mt Begins.extendable hext

end LinkProbe.Utf8
