import LinkProbe.Proofs.CommandLine.Layers
import LinkProbe.Proofs.Text.Lowering

/-!
# Words for modes and forms

A mode and a form of the report are named by words, in capitals or not. The texts that are
understood are those that write such a word in letters of ASCII, although the lower case of the
whole text is compared, with all that Unicode has to say on it.

* `lookup_lowerCase`: a value looked up by the lower case of a text.
* `Mode.ofText_eq_ok`, `Program.format_eq_ok`: the texts that name a mode, and those that name a
  form.
* `known_by_ascii`: both, word by word; no other letters will do.
-/

namespace LinkProbe

open Text (CaseVariant IsPlain lowerCase lowerCase_eq_iff_caseVariant)

variable {text : String}

/-- What the lower case of a text stands for in a list of plain words. -/
theorem lookup_lowerCase {α : Type} {words : List (String × α)} {value : α}
    (hplain : ∀ entry ∈ words, IsPlain entry.1) (hnodup : (words.map Prod.fst).Nodup) :
    words.lookup (lowerCase text) = some value ↔
      ∃ word, (word, value) ∈ words ∧ CaseVariant text word := by
  constructor
  · intro h
    obtain ⟨before, after, rfl, -⟩ := List.lookup_eq_some_iff.mp h
    have hmem : (lowerCase text, value) ∈ before ++ (lowerCase text, value) :: after := by simp
    exact ⟨_, hmem, (lowerCase_eq_iff_caseVariant (hplain _ hmem)).mp rfl⟩
  · rintro ⟨word, hmem, hvariant⟩
    rw [(lowerCase_eq_iff_caseVariant (hplain _ hmem)).mpr hvariant]
    exact CommandLine.lookup_of_mem hnodup hmem

theorem ascii_of_named {α : Type} {words : List (String × α)} {value : α}
    (hplain : ∀ entry ∈ words, IsPlain entry.1)
    (h : ∃ word, (word, value) ∈ words ∧ CaseVariant text word) :
    ∀ c ∈ text.toList, c.toNat < 0x80 := by
  obtain ⟨word, hmem, hvariant⟩ := h
  exact hvariant.ascii (hplain _ hmem)

/-! ## Modes -/

theorem Mode.plain_spellings : ∀ entry ∈ Mode.spellings, IsPlain entry.1 := by
  decide

theorem Mode.ofText_eq_ok {mode : Mode} :
    Mode.ofText text = .ok mode ↔
      ∃ word, (word, mode) ∈ Mode.spellings ∧ CaseVariant text word := by
  rw [← lookup_lowerCase Mode.plain_spellings (by decide), Mode.ofText]
  cases Mode.spellings.lookup (lowerCase text) <;> simp

/-! ## Forms of the report -/

namespace CommandLine

theorem Program.plain_formats : ∀ entry ∈ Program.formats, IsPlain entry.1 := by
  decide

theorem Program.format_eq_ok {format : ReportFormat} :
    Program.format text = .ok format ↔
      ∃ word, (word, format) ∈ Program.formats ∧ CaseVariant text word := by
  rw [← lookup_lowerCase Program.plain_formats (by decide), Program.format]
  cases Program.formats.lookup (lowerCase text) <;> simp

/-! ## Both -/

/-- **A mode, and a form of the report, is named by its words in small letters and capitals of
ASCII, and by no other text.** A text with any character beyond ASCII is refused as either, even if
its lower case is within ASCII. -/
theorem known_by_ascii (text : String) :
    ((∃ mode, Mode.ofText text = .ok mode) ↔
      CaseVariant text "send" ∨ CaseVariant text "receive" ∨ CaseVariant text "recv") ∧
    (Mode.ofText text = .ok .send ↔ CaseVariant text "send") ∧
    (Mode.ofText text = .ok .receive ↔ CaseVariant text "receive" ∨ CaseVariant text "recv") ∧
    ((∃ format, Program.format text = .ok format) ↔
      CaseVariant text "json" ∨ CaseVariant text "prometheus" ∨ CaseVariant text "prom") ∧
    (Program.format text = .ok .prettyJson ↔ CaseVariant text "json") ∧
    (Program.format text = .ok .metrics ↔
      CaseVariant text "prometheus" ∨ CaseVariant text "prom") ∧
    ((∃ c ∈ text.toList, 0x80 ≤ c.toNat) →
      (∀ mode, Mode.ofText text ≠ .ok mode) ∧ ∀ format, Program.format text ≠ .ok format) := by
  have hsend : Mode.ofText text = .ok .send ↔ CaseVariant text "send" := by
    rw [Mode.ofText_eq_ok]
    simp [Mode.spellings]
  have hreceive : Mode.ofText text = .ok .receive ↔
      CaseVariant text "receive" ∨ CaseVariant text "recv" := by
    rw [Mode.ofText_eq_ok]
    simp [Mode.spellings, or_and_right, exists_or]
  have hjson : Program.format text = .ok .prettyJson ↔ CaseVariant text "json" := by
    rw [Program.format_eq_ok]
    simp [Program.formats]
  have hmetrics : Program.format text = .ok .metrics ↔
      CaseVariant text "prometheus" ∨ CaseVariant text "prom" := by
    rw [Program.format_eq_ok]
    simp [Program.formats, or_and_right, exists_or]
  have hcompact : Program.format text ≠ .ok .compactJson := by
    rw [Ne, Program.format_eq_ok]
    simp [Program.formats]
  refine ⟨⟨?_, ?_⟩, hsend, hreceive, ⟨?_, ?_⟩, hjson, hmetrics, ?_⟩
  · rintro ⟨mode, h⟩
    cases mode with
    | send => exact .inl (hsend.mp h)
    | receive => exact .inr (hreceive.mp h)
  · rintro (h | h)
    · exact ⟨_, hsend.mpr h⟩
    · exact ⟨_, hreceive.mpr h⟩
  · rintro ⟨format, h⟩
    cases format with
    | prettyJson => exact .inl (hjson.mp h)
    | metrics => exact .inr (hmetrics.mp h)
    | compactJson => exact absurd h hcompact
  · rintro (h | h)
    · exact ⟨_, hjson.mpr h⟩
    · exact ⟨_, hmetrics.mpr h⟩
  · rintro ⟨c, hmem, hc⟩
    constructor
    · intro mode h
      exact Nat.not_lt.mpr hc (ascii_of_named Mode.plain_spellings (Mode.ofText_eq_ok.mp h) c hmem)
    · intro format h
      exact Nat.not_lt.mpr hc
        (ascii_of_named Program.plain_formats (Program.format_eq_ok.mp h) c hmem)

/-- A capital sigma in the place of the last letter, and at the end of the word. -/
theorem known_by_ascii_sigma :
    (∃ c ∈ "PROMETHEUΣ".toList, 0x80 ≤ c.toNat) ∧
    (∀ mode, Mode.ofText "PROMETHEUΣ" ≠ .ok mode) ∧
    ∀ format, Program.format "PROMETHEUΣ" ≠ .ok format := by
  have hsigma : ∃ c ∈ "PROMETHEUΣ".toList, 0x80 ≤ c.toNat := ⟨'Σ', by decide, by decide⟩
  obtain ⟨-, -, -, -, -, -, hbeyond⟩ := known_by_ascii "PROMETHEUΣ"
  exact ⟨hsigma, hbeyond hsigma⟩

end CommandLine

end LinkProbe
