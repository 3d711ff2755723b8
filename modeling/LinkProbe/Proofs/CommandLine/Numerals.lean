import LinkProbe.CommandLine.Arguments

/-!
# Numbers on the command line

What a number is written like, without the readers: decimal digits with or without a sign.

* `Numeral`: the characters write the number.
* `numeral_natural`, `numeral_integer`: a number that is read is the one that is written.
* `numeral_word`, `numeral_port`: the same for the values of flags.
-/

namespace LinkProbe.CommandLine

/-- The characters write the number: decimal digits with or without a sign. -/
inductive Numeral : List Char → Int → Prop
  | plain {ds : List Char} (hne : ds ≠ []) (hds : ∀ c ∈ ds, c.isDigit = true) :
    Numeral ds (Nat.ofDigitChars 10 ds 0)
  | plus {ds : List Char} (hne : ds ≠ []) (hds : ∀ c ∈ ds, c.isDigit = true) :
    Numeral ('+' :: ds) (Nat.ofDigitChars 10 ds 0)
  | minus {ds : List Char} (hne : ds ≠ []) (hds : ∀ c ∈ ds, c.isDigit = true) :
    Numeral ('-' :: ds) (-Nat.ofDigitChars 10 ds 0)

variable {limit value n : Nat} {excess : NumberFault} {ds cs : List Char} {z : Int}
  {text : String}

/-! ## Digits -/

theorem decimal?_eq_some {c : Char} {digit : Nat} (h : Digit.decimal? c = some digit) :
    c.isDigit = true ∧ digit = c.toNat - '0'.toNat := by
  rw [Digit.decimal?] at h
  split at h
  · next hrange =>
    exact ⟨by simpa [Char.isDigit, Char.le_def] using hrange, (Option.some.inj h).symm⟩
  · cases h

/-- What is appended are digits, and the number is the one that they write, up to the limit. -/
theorem appendDigits_eq_ok (hvalue : value ≤ limit)
    (h : appendDigits limit excess value ds = .ok n) :
    (∀ c ∈ ds, c.isDigit = true) ∧ n = Nat.ofDigitChars 10 ds value ∧ n ≤ limit := by
  induction ds generalizing value with
  | nil =>
    cases h
    exact ⟨by simp, rfl, hvalue⟩
  | cons c ds ih =>
    rw [appendDigits] at h
    split at h
    · cases h
    · next digit hdigit =>
      split at h
      · next hfits =>
        obtain ⟨hc, rfl⟩ := decimal?_eq_some hdigit
        obtain ⟨hds, hn, hlimit⟩ := ih hfits h
        refine ⟨List.forall_mem_cons.mpr ⟨hc, hds⟩, ?_, hlimit⟩
        rw [hn, Nat.ofDigitChars_cons, Nat.mul_comm]
      · cases h

theorem digits_eq_ok (h : digits limit excess ds = .ok n) :
    ds ≠ [] ∧ (∀ c ∈ ds, c.isDigit = true) ∧ n = Nat.ofDigitChars 10 ds 0 ∧ n ≤ limit := by
  rw [digits] at h
  split at h
  · cases h
  · next hne => exact ⟨by simpa using hne, appendDigits_eq_ok (Nat.zero_le limit) h⟩

/-! ## Numbers -/

theorem numeral_natural (h : natural limit cs = .ok n) : Numeral cs n ∧ n ≤ limit := by
  rw [natural.eq_def] at h
  split at h
  · cases h
  · obtain ⟨hne, hds, rfl, hlimit⟩ := digits_eq_ok h
    exact ⟨.plus hne hds, hlimit⟩
  · obtain ⟨hne, hds, rfl, hlimit⟩ := digits_eq_ok h
    exact ⟨.plain hne hds, hlimit⟩

theorem numeral_integer (h : integer limit cs = .ok z) : Numeral cs z := by
  rw [integer.eq_def] at h
  split at h
  · next rest =>
    cases hdigits : digits (limit + 1) .tooSmall rest with
    | error fault =>
      rw [hdigits] at h
      cases h
    | ok value =>
      rw [hdigits] at h
      obtain ⟨hne, hds, rfl, -⟩ := digits_eq_ok hdigits
      cases h
      exact .minus hne hds
  · cases hnatural : natural limit cs with
    | error fault =>
      rw [hnatural] at h
      cases h
    | ok value =>
      rw [hnatural] at h
      cases h
      exact (numeral_natural hnatural).1

/-! ## Values -/

theorem numeral_word {word : UInt64} (h : Arguments.word text = .ok word) :
    Numeral text.toList word.toNat := by
  rw [Arguments.word] at h
  split at h
  · next value hvalue =>
    cases h
    obtain ⟨hnumeral, hlimit⟩ := numeral_natural hvalue
    rwa [UInt64.toNat_ofNat_of_lt' (Nat.lt_of_le_pred (by decide) hlimit)]
  · cases h

theorem numeral_port {port : UInt16} (h : Arguments.port text = .ok port) :
    Numeral text.toList port.toNat := by
  rw [Arguments.port] at h
  split at h
  · next value hvalue =>
    split at h
    · next hrange =>
      cases h
      have hnat : ((UInt16.ofNat value.toNat).toNat : Int) = value := by
        rw [UInt16.toNat_ofNat_of_lt' (by omega)]
        omega
      rw [hnat]
      exact numeral_integer hvalue
    · cases h
  · cases h

end LinkProbe.CommandLine
