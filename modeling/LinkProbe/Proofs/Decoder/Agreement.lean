import LinkProbe.Proofs.Decoder.Runs

/-!
# What strict and lossy decoders agree on

Fed with the same chunks, a strict and a lossy decoder bring the same up to the first call that
fails, which is one of the strict decoder.

* `FailsAt`: the call that is the first to fail; `FailsInside`: it is one that feeds a chunk.
* `agree_of_wellFormed`: no call fails where the chunks encode a text.
* `agree_until_failure`: what the calls before the first failure bring.
* `replacements_decodeAll_eq_zero_iff`: a lossy decoder replaces something in every other stream.
-/

namespace LinkProbe.Decoder

open Utf8

variable {chunks : List (List UInt8)} {bad : Malformed} {n : Nat}

/-- Of the calls that feed the chunks in order and then end the stream, the one with this number is
the first to fail. -/
structure FailsAt (d : Decoder) (chunks : List (List UInt8)) (n : Nat) (bad : Malformed) :
    Prop where
  le : n ≤ chunks.length
  before : (d.feedAll (chunks.take n)).failure = none
  feed : n < chunks.length → (d.feedAll (chunks.take (n + 1))).failure = some bad
  finish : n = chunks.length → (d.feedAll chunks).decoder.finish.1 = .error bad

theorem shown_append (held : List UInt8) (first second : List (List UInt8)) :
    shown held (first ++ second) =
      shown held first ++ shown (scan held first.flatten).held second := by
  induction first generalizing held with
  | nil => rfl
  | cons chunk first ih =>
    rw [List.cons_append, shown, ih, shown, List.flatten_cons, scan_append, List.cons_append]

/-- What a lossy decoder shows for the first chunks, it shows for all of them first. -/
theorem exists_decodeAll_lossy (chunks : List (List UInt8)) (n : Nat) : ∃ more,
    ((new .lossy).decodeAll chunks).decoded = shown [] (chunks.take n) ++ more := by
  have hshown := shown_append [] (chunks.take n) (chunks.drop n)
  rw [List.take_append_drop] at hshown
  rw [decodeAll_lossy]
  dsimp only
  rw [hshown, List.append_assoc]
  exact ⟨_, rfl⟩

/-- Decoders of both modes bring the same for chunks that encode a text. -/
theorem agree_of_wellFormed (h : WellFormed chunks.flatten) :
    ((new .strict).decodeAll chunks).failure = none ∧
      ((new .strict).decodeAll chunks).decoded = ((new .lossy).decodeAll chunks).decoded := by
  rcases decodeAll_strict_extendable h.extendable with ⟨hheld, hreplies⟩ | ⟨bad, hbad, -⟩
  · rw [hreplies, decodeAll_lossy, hheld]
    exact ⟨rfl, rfl⟩
  · exact absurd h hbad.not_wellFormed

/-- The first chunk that shows that the stream encodes no text is the one that fails. -/
theorem fails_at_breaking (hn : n < chunks.length) (hbefore : Extendable (chunks.take n).flatten)
    (hbroken : ¬ Extendable (chunks.take (n + 1)).flatten) :
    ∃ bad, BrokenAt chunks.flatten bad ∧ FailsAt (.new .strict) chunks n bad ∧
      (new .strict).feedAll chunks = ⟨shown [] (chunks.take n), some bad,
        { after .strict (chunks.take n).flatten with held := [] }⟩ := by
  obtain ⟨bad, hbad, hfeed⟩ := feed_strict_broken hn hbefore hbroken
  have hfed := @feedAll_new .strict (chunks.take n) fun _ => hbefore
  have hnext : chunks.take (n + 1) = chunks.take n ++ [chunks[n]] :=
    List.take_succ_eq_append_getElem hn
  have hchunks : chunks.take n ++ chunks[n] :: chunks.drop (n + 1) = chunks := by
    rw [← List.drop_eq_getElem_cons hn, List.take_append_drop]
  have hupto (more : List (List UInt8)) := @feedAll_of_error (new .strict) _ (chunks.take n)
    chunks[n] bad (by rw [hfed]) (by rw [hfed]; exact hfeed) more
  refine ⟨bad, hbad, ⟨Nat.le_of_lt hn, ?_, ?_, ?_⟩, ?_⟩
  · rw [hfed]
  · rw [hnext, hupto]
    exact fun _ => rfl
  · exact fun heq => absurd heq (Nat.ne_of_lt hn)
  · have hall := hupto (chunks.drop (n + 1))
    rwa [hchunks, hfed] at hall

/-- A strict decoder fails with the piece in one of the chunks, not only at the end. -/
def FailsInside (chunks : List (List UInt8)) (bad : Malformed) : Prop :=
  ∃ n < chunks.length, FailsAt (.new .strict) chunks n bad

/-- It does where no more bytes can make a text of the chunks. -/
theorem exists_failsInside_iff :
    (∃ bad, FailsInside chunks bad) ↔ ¬ Extendable chunks.flatten := by
  constructor
  · rintro ⟨bad, n, hn, hfails⟩ hext
    have hfirst : Extendable (chunks.take (n + 1)).flatten := by
      rw [← List.take_append_drop (n + 1) chunks, List.flatten_append] at hext
      exact hext.of_append
    have hfailure := hfails.feed hn
    rw [feedAll_new fun _ => hfirst] at hfailure
    cases hfailure
  · intro hext
    obtain ⟨n, hn, hbefore, hbroken⟩ := exists_breaking hext
    obtain ⟨bad, -, hfails, -⟩ := fails_at_breaking hn hbefore hbroken
    exact ⟨bad, n, hn, hfails⟩

/-- No chunk is fed after one that fails. -/
theorem feedAll_append_of_failure {d : Decoder} {first : List (List UInt8)}
    (h : (d.feedAll first).failure = some bad) (second : List (List UInt8)) :
    d.feedAll (first ++ second) = d.feedAll first := by
  induction first generalizing d with
  | nil => cases h
  | cons chunk first ih =>
    simp only [List.cons_append, feedAll] at h ⊢
    split at h
    · rfl
    · rw [ih h]

theorem FailsInside.failure_feedAll (h : FailsInside chunks bad) :
    ((new .strict).feedAll chunks).failure = some bad := by
  obtain ⟨n, hn, hfails⟩ := h
  have hfirst := hfails.feed hn
  rw [← List.take_append_drop (n + 1) chunks, feedAll_append_of_failure hfirst]
  exact hfirst

/-- **For other chunks a strict decoder fails with the first bad piece of the stream**, and brings
before that what a lossy decoder brings first. -/
theorem agree_until_failure (h : ¬ WellFormed chunks.flatten) :
    ∃ bad n, BrokenAt chunks.flatten bad ∧ FailsAt (new .strict) chunks n bad ∧
      ((new .strict).decodeAll chunks).failure = some bad ∧
      (∀ mode, ((new mode).feedAll (chunks.take n)).decoded =
        ((new .strict).decodeAll chunks).decoded) ∧
      ∃ more, ((new .lossy).decodeAll chunks).decoded =
        ((new .strict).decodeAll chunks).decoded ++ more := by
  by_cases hext : Extendable chunks.flatten
  · -- All chunks can be decoded, and the end is what fails.
    have hfed := @feedAll_new .strict chunks fun _ => hext
    rcases finish_after_strict hext with ⟨hheld, -⟩ | ⟨bad, hbad, hfinish⟩
    · have hbytes := bytesOf_shown hext
      rw [hheld, List.append_nil] at hbytes
      exact absurd ⟨_, hbytes⟩ h
    · have hall := @decodeAll_of_finish_error (new .strict) _ chunks bad (by rw [hfed])
        (by rw [hfed]; exact hfinish)
      rw [hfed] at hall
      have hmore := exists_decodeAll_lossy chunks chunks.length
      rw [List.take_length] at hmore
      refine ⟨bad, chunks.length, hbad, ⟨Nat.le_refl _, ?_, ?_, ?_⟩, ?_, ?_, ?_⟩
      · rw [List.take_length, hfed]
      · exact fun hlt => absurd hlt (Nat.lt_irrefl _)
      · rw [hfed, hfinish]
        exact fun _ => rfl
      · rw [hall]
      · intro mode
        rw [List.take_length, feedAll_new fun _ => hext, hall]
      · rw [hall]
        exact hmore
  · obtain ⟨n, hn, hbefore, hbroken⟩ := exists_breaking hext
    obtain ⟨bad, hbad, hfails, hfed⟩ := fails_at_breaking hn hbefore hbroken
    have hall : (new .strict).decodeAll chunks = (new .strict).feedAll chunks := by
      rw [decodeAll, hfed]
    rw [hall, hfed]
    refine ⟨bad, n, hbad, hfails, rfl, fun mode => ?_, exists_decodeAll_lossy chunks n⟩
    rw [feedAll_new fun _ => hbefore]

/-- A lossy decoder replaces nothing in chunks that encode a text, and something in all others. -/
theorem replacements_decodeAll_eq_zero_iff (chunks : List (List UInt8)) :
    (joined ((new .lossy).decodeAll chunks).decoded).replacements = 0 ↔
      WellFormed chunks.flatten := by
  rw [joined_decodeAll_lossy, wellFormed_iff_divide, shownText, List.countP_eq_zero]
  simp only [Bool.not_eq_true]

end LinkProbe.Decoder
