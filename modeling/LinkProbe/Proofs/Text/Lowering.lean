import LinkProbe.Proofs.Utf8.Encoding
import LinkProbe.Text.LowerCase
import Mathlib.Data.List.Forall2

/-!
# Lower case within ASCII

The lower case of a character is within ASCII only if the character itself is, with one exception:
the lower case of the Kelvin sign is `k`. So a word of small ASCII letters other than `k` is the
lower case of the texts that write it in small letters and capitals of ASCII, and of no others.

* `capitalRuns_leadBeyond`: where the runs of capital letters lead.
* `Lowers`: the characters with a lower case within ASCII.
* `lowerCase_eq_iff`: the texts whose lower case is a word of ASCII.
* `CaseVariant`: the texts that differ from a word in the case of ASCII letters.
* `lowerCase_eq_iff_caseVariant`: the texts whose lower case is a plain word.
-/

namespace LinkProbe.Text

variable {c d : Char} {before text word : List Char} {r : CaseRun} {code : Nat}

/-! ## Where the runs of capital letters lead -/

/-- The lower case of every character of the run is a character beyond ASCII. -/
def CaseRun.LeadsBeyond (r : CaseRun) : Prop :=
  0x80 ≤ r.first + r.shift ∧
  (r.last + r.shift < 0xD800 ∨ 0xDFFF < r.first + r.shift ∧ r.last + r.shift < 0x110000)

instance (r : CaseRun) : Decidable r.LeadsBeyond := inferInstanceAs (Decidable (_ ∧ _))

/-- Only the run of the Kelvin sign leads into ASCII. -/
theorem capitalRuns_leadBeyond :
    ∀ r ∈ capitalRuns, r.LeadsBeyond ∨ r.first = 0x212A ∧ r.last = 0x212A := by
  decide +kernel

theorem CaseRun.range_of_covers (h : r.covers code) : r.first ≤ code ∧ code ≤ r.last := by
  simp only [covers, Bool.and_eq_true, decide_eq_true_eq] at h
  exact h.1

theorem CaseRun.LeadsBeyond.le (h : r.LeadsBeyond) (hcovers : r.covers code) :
    0x80 ≤ (Char.ofNat (code + r.shift).toNat).toNat := by
  obtain ⟨hlow, hchar⟩ := h
  obtain ⟨hfirst, hlast⟩ := range_of_covers hcovers
  rw [Utf8.toNat_ofNat (by unfold Nat.isValidChar; omega)]
  omega

/-! ## Characters with a lower case within ASCII -/

/-- The second character is of ASCII and the lower case of the first, wherever that stands. -/
inductive Lowers : Char → Char → Prop
  | ascii {c : Char} (h : c.toNat < 0x80) : Lowers c c.toLower
  | kelvin : Lowers '\u212A' 'k'

theorem Lowers.unique {e : Char} (h : Lowers c d) (h' : Lowers c e) : d = e := by
  cases h with
  | ascii h =>
    cases h' with
    | ascii => rfl
    | kelvin => exact absurd h (by decide)
  | kelvin =>
    cases h' with
    | ascii h' => exact absurd h' (by decide)
    | kelvin => rfl

theorem lowerChar_of_lowers (h : Lowers c d) : lowerChar c = [d] := by
  cases h with
  | ascii h => exact lowerChar_of_ascii h
  | kelvin => decide

theorem lowerChar_beyond (h : ∀ d, ¬ Lowers c d) : ∃ d ∈ lowerChar c, 0x80 ≤ d.toNat := by
  have hc : 0x80 ≤ c.toNat := Nat.le_of_not_lt fun hlow => h _ (.ascii hlow)
  rw [lowerChar, if_neg (Nat.not_lt.mpr hc)]
  split
  · exact ⟨'\u0307', by decide, by decide⟩
  · split
    · next r hr =>
      have hcovers : r.covers c.toNat :=
        List.find?_some (p := fun r : CaseRun => r.covers c.toNat) hr
      refine ⟨_, List.mem_singleton_self _, ?_⟩
      rcases capitalRuns_leadBeyond r (List.mem_of_find?_eq_some hr) with hbeyond | ⟨hfirst, hlast⟩
      · exact hbeyond.le hcovers
      · obtain ⟨hle, hge⟩ := CaseRun.range_of_covers hcovers
        have hkelvin : c = '\u212A' := by
          rw [← Char.ofNat_toNat c, show c.toNat = 0x212A by omega]
        exact absurd (hkelvin ▸ .kelvin) (h 'k')
    · exact ⟨c, List.mem_singleton_self c, hc⟩

/-! ## Texts with a lower case within ASCII -/

theorem lowerFrom_of_lowers (h : Lowers c d) :
    lowerFrom before (c :: text) = d :: lowerFrom (c :: before) text := by
  have hsigma : c ≠ 'Σ' := by
    cases h with
    | ascii h =>
      rintro rfl
      exact absurd h (by decide)
    | kelvin => decide
  rw [lowerFrom, if_neg hsigma, lowerChar_of_lowers h, List.singleton_append]

/-- Any other character leaves something beyond ASCII. A sigma does so in either form. -/
theorem lowerFrom_beyond (h : ∀ d, ¬ Lowers c d) :
    ∃ d ∈ lowerFrom before (c :: text), 0x80 ≤ d.toNat := by
  rw [lowerFrom]
  split
  · refine ⟨_, List.mem_cons_self, ?_⟩
    split <;> decide
  · obtain ⟨d, hmem, hd⟩ := lowerChar_beyond h
    exact ⟨d, List.mem_append_left _ hmem, hd⟩

theorem lowerFrom_eq_iff (hword : ∀ d ∈ word, d.toNat < 0x80) :
    lowerFrom before text = word ↔ List.Forall₂ Lowers text word := by
  induction text generalizing before word with
  | nil => rw [lowerFrom, List.forall₂_nil_left_iff, eq_comm]
  | cons c text ih =>
    -- Without such a `d` both sides are false: something beyond ASCII stays in front of the rest.
    by_cases hc : ∃ d, Lowers c d
    · obtain ⟨d, hd⟩ := hc
      rw [lowerFrom_of_lowers hd, List.forall₂_cons_left_iff]
      constructor
      · rintro rfl
        exact ⟨d, _, hd, (ih (List.forall_mem_cons.mp hword).2).mp rfl, rfl⟩
      · rintro ⟨d', word, hd', hrest, rfl⟩
        rw [hd.unique hd', (ih (List.forall_mem_cons.mp hword).2).mpr hrest]
    · rw [not_exists] at hc
      constructor
      · rintro rfl
        obtain ⟨d, hmem, hd⟩ := lowerFrom_beyond hc
        exact absurd (hword d hmem) (Nat.not_lt.mpr hd)
      · intro h
        obtain ⟨d, _, hd, -, -⟩ := List.forall₂_cons_left_iff.mp h
        exact absurd hd (hc d)

/-- **A word of ASCII is the lower case of a text if and only if its characters are, one by one, the
lower case of those of the text**: what stands around a character makes no difference here. -/
theorem lowerCase_eq_iff {text word : String} (hword : ∀ d ∈ word.toList, d.toNat < 0x80) :
    lowerCase text = word ↔ List.Forall₂ Lowers text.toList word.toList := by
  rw [← lowerFrom_eq_iff hword, lowerCase, String.ext_iff, String.toList_ofList]

example : lowerCase "\u212AELVIN" = "kelvin" := by decide

/-! ## Words of small letters -/

/-- One character, or one letter of ASCII in either case. -/
def SameLetter (c d : Char) : Prop := c = d ∨ c = d.toUpper ∨ c = d.toLower

instance (c d : Char) : Decidable (SameLetter c d) := inferInstanceAs (Decidable (_ ∨ _))

/-- The text is the word, but for the case of letters of ASCII. -/
def CaseVariant (text word : String) : Prop := List.Forall₂ SameLetter text.toList word.toList

/-- The word consists of small letters of ASCII, and `k` is not among them. -/
def IsPlain (word : String) : Prop := ∀ d ∈ word.toList, d.isLower ∧ d ≠ 'k'

-- Decided along the word: there are finitely many characters, and the search would take them all.
instance (word : String) : Decidable (IsPlain word) :=
  List.decidableBAll (fun d : Char => d.isLower ∧ d ≠ 'k') word.toList

theorem forall_ascii {P : Char → Prop} (h : ∀ n < 0x80, P (Char.ofNat n)) (hc : c.toNat < 0x80) :
    P c :=
  Char.ofNat_toNat c ▸ h c.toNat hc

theorem ascii_of_isLower (h : d.isLower) : d.toNat < 0x80 := by
  have hhigh : d.toNat ≤ 122 := of_decide_eq_true (Bool.and_eq_true_iff.mp h).2
  omega

theorem sameLetter_toLower (hc : c.toNat < 0x80) : SameLetter c c.toLower :=
  forall_ascii (P := fun c => SameLetter c c.toLower) (by decide) hc

/-- A small letter is the lower case of the same letter, be it small or a capital. -/
theorem SameLetter.toLower_eq (h : SameLetter c d) (hd : d.isLower) :
    c.toNat < 0x80 ∧ c.toLower = d := by
  have hascii := ascii_of_isLower hd
  have hself : d.toLower = d :=
    forall_ascii (P := fun d => d.isLower → d.toLower = d) (by decide) hascii hd
  rcases h with rfl | rfl | rfl
  · exact ⟨hascii, hself⟩
  · exact forall_ascii (P := fun d => d.isLower → d.toUpper.toNat < 0x80 ∧ d.toUpper.toLower = d)
      (by decide) hascii hd
  · rw [hself]
    exact ⟨hascii, hself⟩

theorem lowers_iff (hd : d.isLower) (hk : d ≠ 'k') : Lowers c d ↔ SameLetter c d := by
  constructor
  · intro h
    cases h with
    | ascii hc => exact sameLetter_toLower hc
    | kelvin => exact absurd rfl hk
  · intro h
    obtain ⟨hc, rfl⟩ := h.toLower_eq hd
    exact .ascii hc

theorem forall₂_of_forall_mem {α β : Type} {R S : α → β → Prop} {l : List α} {u : List β}
    (hu : ∀ b ∈ u, ∀ a, R a b → S a b) (h : List.Forall₂ R l u) : List.Forall₂ S l u := by
  induction h with
  | nil => exact .nil
  | cons hab _ ih =>
    rw [List.forall_mem_cons] at hu
    exact .cons (hu.1 _ hab) (ih hu.2)

/-- **A plain word is the lower case of its own case variants and of nothing else.** -/
theorem lowerCase_eq_iff_caseVariant {text word : String} (hword : IsPlain word) :
    lowerCase text = word ↔ CaseVariant text word := by
  rw [lowerCase_eq_iff fun d hd => ascii_of_isLower (hword d hd).1]
  constructor
  · exact forall₂_of_forall_mem fun d hd c => (lowers_iff (hword d hd).1 (hword d hd).2).mp
  · exact forall₂_of_forall_mem fun d hd c => (lowers_iff (hword d hd).1 (hword d hd).2).mpr

/-- All characters of a case variant are of ASCII. -/
theorem CaseVariant.ascii {text word : String} (h : CaseVariant text word) (hword : IsPlain word) :
    ∀ c ∈ text.toList, c.toNat < 0x80 := by
  have hboth : List.Forall₂ (fun c d => c.toNat < 0x80 ∧ SameLetter c d) text.toList word.toList :=
    forall₂_of_forall_mem (fun d hd c hc => ⟨(hc.toLower_eq (hword d hd).1).1, hc⟩) h
  exact ((List.forall₂_and_left _ _).mp hboth).1

end LinkProbe.Text
