import LinkProbe.Proofs.Utf8.Division

/-!
# The scanner divides

The scanner reads a byte at a time and settles a piece as soon as the bytes leave no choice.

* `Settles`: what is settled of the bytes read so far, and what is held.
* `settles_scan`: the scanner settles just that, whatever it held before.
* `division_iff`: bytes have one division, and a scanner that is told of their end finds it.
* `Settles.extendable_iff`: as long as no bad piece is settled, the bytes can still become a text.
-/

namespace LinkProbe.Utf8

open String (utf8EncodeChar)

/-! ## What is expected after the beginning of a character -/

theorem Expected.completes_foldl {e : Expected} {tail rest : List UInt8} (hrest : rest ≠ [])
    (h : e.Completes (tail ++ rest)) :
    ∃ e', tail.foldl (fun e _ => e.bind Expected.next?) (some e) = some e' ∧
      ∀ more, e.Completes (tail ++ more) ↔ e'.Completes more := by
  induction tail generalizing e with
  | nil => exact ⟨e, rfl, fun more => Iff.rfl⟩
  | cons b tail ih =>
    obtain ⟨hb, h⟩ := h
    cases hnext : e.next? with
    | none =>
      rw [hnext] at h
      exact absurd (List.append_eq_nil_iff.mp h).2 hrest
    | some next =>
      rw [hnext] at h
      obtain ⟨e', hfold, hiff⟩ := ih h
      refine ⟨e', by rw [List.foldl_cons, Option.bind_some, hnext, hfold], fun more => ?_⟩
      rw [List.cons_append, Completes, hnext, ← hiff more]
      exact and_iff_right hb

/-- After the beginning of a character, what is expected is what completes a character. -/
theorem Begins.expected {held : List UInt8} (h : Begins held) :
    ∃ e, expected? held = some e ∧
      ∀ more, (∃ c, utf8EncodeChar c = held ++ more) ↔ e.Completes more := by
  obtain ⟨hne, c, rest, hrest, hc⟩ := h
  obtain ⟨lead, tail, rfl⟩ := List.exists_cons_of_ne_nil hne
  rcases encode_cons hc.symm with ⟨-, hnil⟩ | ⟨e, he, hcomp⟩
  · exact absurd (List.append_eq_nil_iff.mp hnil).2 hrest
  · obtain ⟨e', hfold, hiff⟩ := Expected.completes_foldl hrest hcomp
    refine ⟨e', by rw [expected?, he, hfold], fun more => ?_⟩
    rw [← hiff more]
    exact exists_encode_iff he

/-! ## One byte -/

/-- What a scanner may hold: nothing, or the beginning of a character. -/
def Holdable (held : List UInt8) : Prop := held = [] ∨ Begins held

theorem Holdable.nil : Holdable [] := .inl rfl

theorem Holdable.extendable {held : List UInt8} (h : Holdable held) : Extendable held := by
  rcases h with rfl | hb
  · exact wellFormed_nil.extendable
  · exact hb.extendable

theorem begins_of_lead {b : UInt8} {e : Expected} (h : Expected.ofLead? b = some e) :
    Begins [b] := by
  obtain ⟨rest, hrest⟩ := Expected.exists_completes h
  refine ⟨List.cons_ne_nil _ _, _, rest, ?_, (encode_charOf h hrest).symm⟩
  rintro rfl
  exact hrest

variable {pieces : Array Piece} {held : List UInt8} {b : UInt8}

/-- The byte completes a character. -/
theorem Scan.step_char (h : Holdable held) {c : Char} (hc : utf8EncodeChar c = held ++ [b]) :
    Scan.step ⟨pieces, held⟩ b = ⟨pieces.push (.char c), []⟩ := by
  have hchar : charOf (held ++ [b]) = c := hc ▸ charOf_encode c
  rcases h with rfl | hb
  · rcases encode_cons hc with ⟨hlt, -⟩ | ⟨e, -, hcomp⟩
    · have hlt : b < 0x80 := UInt8.lt_iff_toNat_lt.mpr hlt
      simp only [step, expected?, begin, if_pos hlt]
      rw [← hchar]
      rfl
    · exact hcomp.elim
  · obtain ⟨e, he, hiff⟩ := hb.expected
    obtain ⟨hadmits, hnext⟩ := (hiff [b]).mp ⟨c, hc⟩
    cases hafter : e.after with
    | zero => simp [step, he, hadmits, hafter, hchar]
    | succ n => simp [Expected.next?, hafter, Expected.Completes] at hnext

/-- The byte continues a character, or is the first one, and does not complete it. -/
theorem Scan.step_begins (h : Holdable held) (hb : Begins (held ++ [b])) :
    Scan.step ⟨pieces, held⟩ b = ⟨pieces, held ++ [b]⟩ := by
  obtain ⟨-, c, rest, hrest, hc⟩ := hb
  rw [List.append_assoc] at hc
  rcases h with rfl | hheld
  · rcases encode_cons hc.symm with ⟨-, hnil⟩ | ⟨e, he, -⟩
    · exact absurd hnil hrest
    · have hlt : ¬ b < 0x80 := by
        have := Expected.lead_range he
        simp only [UInt8.lt_iff_toNat_lt, UInt8.reduceToNat]
        omega
      simp [step, expected?, begin, if_neg hlt, he]
  · obtain ⟨e, he, hiff⟩ := hheld.expected
    obtain ⟨hadmits, hnext⟩ := (hiff (b :: rest)).mp ⟨c, hc.symm⟩
    cases hafter : e.after with
    | zero =>
      simp only [Expected.next?, hafter] at hnext
      exact absurd hnext hrest
    | succ n => simp [step, he, hadmits, hafter]

/-- The byte cannot follow what is held: together they neither begin nor are a character. -/
structure Stuck (held : List UInt8) (b : UInt8) : Prop where
  holdable : Holdable held
  notBegins : ¬ Begins (held ++ [b])
  noChar : ∀ c, utf8EncodeChar c ≠ held ++ [b]

/-- What is held is a bad piece, and the byte starts afresh. -/
theorem Scan.step_bad (h : Stuck held b) (hne : held ≠ []) :
    Scan.step ⟨pieces, held⟩ b = Scan.step ⟨pieces.push (.bad held), []⟩ b := by
  obtain ⟨e, he, hiff⟩ := (h.holdable.resolve_left hne).expected
  have hadmits : ¬ e.admits b = true := by
    intro hadmits
    cases hafter : e.after with
    | zero =>
      obtain ⟨c, hchar⟩ := (hiff [b]).mpr ⟨hadmits, by simp [Expected.next?, hafter]⟩
      exact h.noChar c hchar
    | succ n =>
      obtain ⟨rest, hrest⟩ := Expected.exists_completes_continuations n
      obtain ⟨c, hchar⟩ := (hiff (b :: rest)).mpr
        ⟨hadmits, by simpa [Expected.next?, hafter] using hrest⟩
      refine h.notBegins ⟨by simp, c, rest, ?_, by simp [hchar]⟩
      rintro rfl
      exact hrest
  simp only [step, he, if_neg hadmits]
  rfl

/-- A byte that begins nothing is a bad piece. -/
theorem Scan.step_stray (h : Stuck [] b) :
    Scan.step ⟨pieces, []⟩ b = ⟨pieces.push (.bad [b]), []⟩ := by
  have hlt : ¬ b < 0x80 := fun hlt =>
    h.noChar _ (encode_charOf_one (UInt8.lt_iff_toNat_lt.mp hlt))
  have hlead : Expected.ofLead? b = none := by
    cases he : Expected.ofLead? b with
    | none => rfl
    | some e => exact absurd (begins_of_lead he) h.notBegins
  simp [step, expected?, begin, if_neg hlt, hlead]

namespace Stuck

theorem no_char (h : Stuck held b) (bytes : List UInt8) (c : Char) :
    ¬ utf8EncodeChar c <+: held ++ b :: bytes := by
  intro hpre
  have hheld : held ++ [b] <+: held ++ b :: bytes := ⟨bytes, by simp⟩
  rcases List.prefix_or_prefix_of_prefix hpre hheld with hc | ⟨rest, hc⟩
  · rcases List.prefix_concat_iff.mp hc with hc | hc
    · exact h.noChar c hc
    · rcases h.holdable with rfl | hb
      · exact String.utf8EncodeChar_ne_nil (List.prefix_nil.mp hc)
      · exact hb.ne_encode c hc
  · by_cases hrest : rest = []
    · exact h.noChar c (by rw [← hc, hrest, List.append_nil])
    · exact h.notBegins ⟨by simp, c, rest, hrest, hc⟩

theorem length_le (h : Stuck held b) {bytes first : List UInt8}
    (hf : first <+: held ++ b :: bytes) (hb : Begins first) : first.length ≤ held.length := by
  refine Nat.le_of_not_lt fun hlt => h.notBegins (hb.of_prefix ?_ (by simp))
  have hheld : held ++ [b] <+: held ++ b :: bytes := ⟨bytes, by simp⟩
  exact List.prefix_of_prefix_length_le hheld hf (by simp; omega)

theorem not_extendable (h : Stuck held b) (bytes : List UInt8) :
    ¬ Extendable (held ++ b :: bytes) := by
  rw [extendable_iff_of_no_char (h.no_char bytes)]
  rintro (hnil | hb)
  · simp at hnil
  · have := h.length_le (List.prefix_refl _) hb
    simp only [List.length_append, List.length_cons] at this
    omega

theorem subpart_held (h : Stuck held b) (hne : held ≠ []) (bytes : List UInt8) :
    Subpart held (held ++ b :: bytes) where
  isPrefix := List.prefix_append _ _
  noChar := h.no_char bytes
  shape := .inl (h.holdable.resolve_left hne)
  longest _ hf hb := h.length_le hf hb

theorem subpart_byte (h : Stuck [] b) (bytes : List UInt8) : Subpart [b] (b :: bytes) where
  isPrefix := List.cons_prefix_cons.mpr ⟨rfl, List.nil_prefix⟩
  noChar := h.no_char bytes
  shape := .inr rfl
  longest _ hf hb := Nat.le_trans (h.length_le hf hb) (Nat.zero_le _)

end Stuck

/-! ## Many bytes -/

/-- Of the bytes, the pieces are settled and the held ones are not. A bad piece is settled where no
more bytes can make a text of what it starts. -/
inductive Settles : List UInt8 → List Piece → List UInt8 → Prop where
  | rest {held : List UInt8} : Holdable held → Settles held [] held
  | char (c : Char) {bytes : List UInt8} {pieces : List Piece} {held : List UInt8} :
    Settles bytes pieces held → Settles (utf8EncodeChar c ++ bytes) (.char c :: pieces) held
  | bad {bad bytes : List UInt8} {pieces : List Piece} {held : List UInt8} :
    Subpart bad (bad ++ bytes) → ¬ Extendable (bad ++ bytes) → Settles bytes pieces held →
    Settles (bad ++ bytes) (.bad bad :: pieces) held

theorem scan_cons (held : List UInt8) (b : UInt8) (bytes : List UInt8) :
    scan held (b :: bytes) =
      ⟨(Scan.step ⟨#[], held⟩ b).pieces ++ (scan (Scan.step ⟨#[], held⟩ b).held bytes).pieces,
        (scan (Scan.step ⟨#[], held⟩ b).held bytes).held⟩ :=
  scan_append held [b] bytes

/-- A byte that starts afresh after a bad piece settles what it would settle alone. -/
theorem scan_cons_bad (h : Stuck held b) (hne : held ≠ []) (bytes : List UInt8) :
    scan held (b :: bytes) =
      ⟨#[.bad held] ++ (scan [] (b :: bytes)).pieces, (scan [] (b :: bytes)).held⟩ := by
  have hstep := Scan.step_append #[.bad held] ⟨#[], []⟩ b
  rw [scan_cons, scan_cons, Scan.step_bad h hne]
  simp only [List.push_toArray, List.nil_append, Array.append_empty] at hstep ⊢
  rw [hstep]
  simp only [Array.append_assoc]

/-- **The scanner settles what can be settled, whatever it held before.** -/
theorem settles_scan {held : List UInt8} (h : Holdable held) (bytes : List UInt8) :
    Settles (held ++ bytes) (scan held bytes).pieces.toList (scan held bytes).held := by
  induction bytes generalizing held with
  | nil =>
    rw [List.append_nil]
    exact .rest h
  | cons b bytes ih =>
    -- The byte either goes on with what is held or starts afresh, with nothing held.
    have goes {held : List UInt8} (h : Holdable held)
        (hgo : (∃ c, utf8EncodeChar c = held ++ [b]) ∨ Begins (held ++ [b])) :
        Settles (held ++ b :: bytes) (scan held (b :: bytes)).pieces.toList
          (scan held (b :: bytes)).held := by
      rw [scan_cons, List.append_cons]
      rcases hgo with ⟨c, hc⟩ | hb
      · rw [Scan.step_char h hc, ← hc]
        simpa using .char c (ih .nil)
      · rw [Scan.step_begins h hb]
        simpa using ih (.inr hb)
    have fresh : Settles (b :: bytes) (scan [] (b :: bytes)).pieces.toList
        (scan [] (b :: bytes)).held := by
      by_cases hgo : (∃ c, utf8EncodeChar c = [] ++ [b]) ∨ Begins ([] ++ [b])
      · exact goes .nil hgo
      · have hstuck : Stuck [] b :=
          ⟨.nil, fun hb => hgo (.inr hb), fun c hc => hgo (.inl ⟨c, hc⟩)⟩
        rw [scan_cons, Scan.step_stray hstuck]
        have hbad : Settles ([b] ++ bytes) (.bad [b] :: (scan [] bytes).pieces.toList)
            (scan [] bytes).held :=
          .bad (hstuck.subpart_byte bytes) (hstuck.not_extendable bytes) (ih .nil)
        simpa using hbad
    by_cases hgo : (∃ c, utf8EncodeChar c = held ++ [b]) ∨ Begins (held ++ [b])
    · exact goes h hgo
    · by_cases hne : held = []
      · subst hne
        exact fresh
      · have hstuck : Stuck held b :=
          ⟨h, fun hb => hgo (.inr hb), fun c hc => hgo (.inl ⟨c, hc⟩)⟩
        rw [scan_cons_bad hstuck hne]
        simpa using Settles.bad (hstuck.subpart_held hne bytes) (hstuck.not_extendable bytes) fresh

namespace Settles

variable {bytes held : List UInt8} {pieces : List Piece}

theorem holdable (h : Settles bytes pieces held) : Holdable held := by
  induction h with
  | rest hheld => exact hheld
  | char _ _ ih => exact ih
  | bad _ _ _ ih => exact ih

/-- The held bytes are the last ones. -/
theorem held_suffix (h : Settles bytes pieces held) : held <:+ bytes := by
  induction h with
  | rest => exact List.suffix_refl _
  | char c _ ih => exact ih.trans (List.suffix_append _ _)
  | bad _ _ _ ih => exact ih.trans (List.suffix_append _ _)

/-- Every bad piece and every held byte takes up bytes of its own. -/
theorem countP_isBad_le (h : Settles bytes pieces held) :
    pieces.countP Piece.isBad + held.length ≤ bytes.length := by
  induction h with
  | rest => simp
  | char c _ ih =>
    rw [List.countP_cons_of_neg (by simp [Piece.isBad]), List.length_append]
    omega
  | bad hs _ _ ih =>
    have hpos := hs.length_pos
    rw [List.countP_cons_of_pos rfl, List.length_append]
    omega

/-- The bytes can still become a text as long as no bad piece is settled. -/
theorem extendable_iff (h : Settles bytes pieces held) :
    Extendable bytes ↔ ∀ piece ∈ pieces, piece.isBad = false := by
  induction h with
  | rest hheld => simpa using hheld.extendable
  | char c _ ih => simp [encode_append_extendable, ih, Piece.isBad]
  | bad _ hext _ _ => simp [hext, Piece.isBad]

/-- Where no bad piece is settled, the settled pieces are the characters of a text. -/
theorem eq_chars (h : Settles bytes pieces held) (hchars : ∀ piece ∈ pieces, piece.isBad = false) :
    ∃ chars : List Char, pieces = chars.map .char ∧
      bytes = chars.flatMap utf8EncodeChar ++ held := by
  induction h with
  | rest _ => exact ⟨[], rfl, rfl⟩
  | char c _ ih =>
    obtain ⟨chars, hpieces, hbytes⟩ := ih fun p hp => hchars p (List.mem_cons_of_mem _ hp)
    exact ⟨c :: chars, by rw [hpieces, List.map_cons],
      by rw [hbytes, List.flatMap_cons, List.append_assoc]⟩
  | bad => simpa [Piece.isBad] using hchars _ List.mem_cons_self

end Settles

/-! ## The end of the bytes -/

/-- What is held at the end is a bad piece, if anything is. -/
def unfinished (held : List UInt8) : List Piece := if held.isEmpty then [] else [.bad held]

/-- The pieces of bytes that nothing follows. -/
def divide (bytes : List UInt8) : List Piece :=
  (scan [] bytes).pieces.toList ++ unfinished (scan [] bytes).held

theorem Settles.division {bytes held : List UInt8} {pieces : List Piece}
    (h : Settles bytes pieces held) : Division bytes (pieces ++ unfinished held) := by
  induction h with
  | @rest held hheld =>
    rcases hheld with rfl | hb
    · exact .nil
    · have hbad : Division (held ++ []) [.bad held] :=
        .bad (by simpa using Subpart.of_begins hb) .nil
      simpa [unfinished, hb.1] using hbad
  | char c _ ih => exact .char c ih
  | bad hs _ _ ih => exact .bad hs ih

/-- **Bytes have one division.** -/
theorem division_iff {bytes : List UInt8} {pieces : List Piece} :
    Division bytes pieces ↔ pieces = divide bytes := by
  have h : Division bytes (divide bytes) := (settles_scan .nil bytes).division
  exact ⟨fun h' => h'.unique h, fun heq => heq ▸ h⟩

/-- A euro sign that is broken off, and half a surrogate. -/
example : divide [0x61, 0xE2, 0x82, 0x62, 0xED, 0xA0] =
    [.char 'a', .bad [0xE2, 0x82], .char 'b', .bad [0xED], .bad [0xA0]] := by decide

end LinkProbe.Utf8
