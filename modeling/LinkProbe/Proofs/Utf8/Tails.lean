import LinkProbe.Proofs.Utf8.Scan

/-!
# Bytes that end inside a character

A byte that may stand inside a character begins none. So bytes end inside one character at most,
and what is there of it is what the scanner holds.

* `continues_of_encode`: the bytes of a character after the first.
* `EndsInside`: the bytes end with the beginning of a character.
* `endsInside_iff`: the scanner holds it, and nothing if there is none.
-/

namespace LinkProbe.Utf8

open String (utf8EncodeChar)

variable {bytes tail held : List UInt8} {pieces : List Piece}

/-! ## Inside a character -/

/-- All bytes of a character but the first continue it. -/
theorem continues_of_encode {c : Char} {b : UInt8} {first rest : List UInt8} (hfirst : first ≠ [])
    (h : utf8EncodeChar c = first ++ b :: rest) : Continues b := by
  have hall : ∀ b ∈ (utf8EncodeChar c).tail, Continues b := by
    rw [encode_eq]
    split
    · simp
    split
    · simp [Continues]
      omega
    split <;> simp [Continues] <;> omega
  obtain ⟨lead, more, rfl⟩ := List.exists_cons_of_ne_nil hfirst
  exact hall b (by simp [h])

/-- No character begins with such a byte. -/
theorem Begins.not_continues {b : UInt8} {rest : List UInt8} (h : Begins (b :: rest)) :
    ¬ Continues b := by
  obtain ⟨-, c, more, hmore, hc⟩ := h
  rcases encode_cons hc.symm with ⟨hlow, -⟩ | ⟨e, he, -⟩
  · unfold Continues
    omega
  · have hrange := Expected.lead_range he
    unfold Continues
    omega

/-- Bytes that begin a character do not start inside another one. -/
theorem Begins.not_inside {c : Char} {first inner rest more : List UInt8} (hfirst : first ≠ [])
    (hinner : inner ≠ []) (hc : utf8EncodeChar c = first ++ inner ++ rest) :
    ¬ Begins (inner ++ more) := by
  obtain ⟨b, inner, rfl⟩ := List.exists_cons_of_ne_nil hinner
  intro hb
  rw [List.append_assoc, List.cons_append] at hc
  exact hb.not_continues (continues_of_encode hfirst hc)

/-! ## At the end of bytes -/

/-- The bytes end with the `tail`, which begins a character. -/
structure EndsInside (bytes tail : List UInt8) : Prop where
  isSuffix : tail <:+ bytes
  begins : Begins tail

/-- A suffix of two lists is one of the second or starts in the first. -/
theorem suffix_append_cases {first second : List UInt8} (h : tail <:+ first ++ second) :
    tail <:+ second ∨ ∃ before inner, inner ≠ [] ∧ first = before ++ inner ∧
      tail = inner ++ second := by
  obtain ⟨before, hbefore⟩ := h
  rcases List.append_eq_append_iff.mp hbefore with ⟨inner, hfirst, htail⟩ | ⟨more, -, hsecond⟩
  · by_cases hinner : inner = []
    · rw [hinner, List.nil_append] at htail
      exact .inl (htail ▸ List.suffix_refl _)
    · exact .inr ⟨before, inner, hinner, hfirst, htail⟩
  · exact .inl ⟨more, hsecond.symm⟩

theorem Begins.eq_of_suffix (h : Begins bytes) (ht : Begins tail) (hs : tail <:+ bytes) :
    tail = bytes := by
  obtain ⟨-, c, rest, -, hc⟩ := h
  obtain ⟨before, rfl⟩ := hs
  by_cases hbefore : before = []
  · rw [hbefore, List.nil_append]
  · have hnot : ¬ Begins (tail ++ []) := Begins.not_inside hbefore ht.1 hc.symm
    rw [List.append_nil] at hnot
    exact absurd ht hnot

/-- What is held is what there is of the last character. -/
theorem Settles.held_eq (h : Settles bytes pieces held) (ht : EndsInside bytes tail) :
    held = tail := by
  obtain ⟨hs, ht⟩ := ht
  induction h with
  | rest hheld =>
    rcases hheld with rfl | hb
    · exact (List.suffix_nil.mp hs).symm
    · exact (hb.eq_of_suffix ht hs).symm
  | char c _ ih =>
    rcases suffix_append_cases hs with hs | ⟨before, inner, hinner, hc, rfl⟩
    · exact ih hs
    · by_cases hbefore : before = []
      · rw [hbefore, List.nil_append] at hc
        exact absurd ⟨_, congrArg (· ++ _) hc⟩ (ht.ne_encode c)
      · rw [← List.append_nil (before ++ inner)] at hc
        exact absurd ht (Begins.not_inside hbefore hinner hc)
  | bad hsub hext _ ih =>
    rcases suffix_append_cases hs with hs | ⟨before, inner, hinner, hbad, rfl⟩
    · exact ih hs
    · by_cases hbefore : before = []
      · rw [hbefore, List.nil_append] at hbad
        exact absurd (hbad ▸ ht.extendable) hext
      · -- A bad piece of more than one byte begins a character.
        obtain ⟨-, c, rest, -, hc⟩ := hsub.shape.resolve_right fun hone => by
          have hlength := congrArg List.length hbad
          have hpos := List.length_pos_iff.mpr hbefore
          have hpos' := List.length_pos_iff.mpr hinner
          rw [List.length_append] at hlength
          omega
        exact absurd ht (Begins.not_inside hbefore hinner (by rw [← hc, hbad]))

/-- **Bytes end inside one character at most**: that of which the scanner holds the beginning. -/
theorem endsInside_iff : EndsInside bytes tail ↔ (scan [] bytes).held = tail ∧ tail ≠ [] := by
  have hsettles := settles_scan .nil bytes
  constructor
  · exact fun h => ⟨hsettles.held_eq h, h.begins.1⟩
  · rintro ⟨rfl, hne⟩
    exact ⟨hsettles.held_suffix, hsettles.holdable.resolve_left hne⟩

end LinkProbe.Utf8
