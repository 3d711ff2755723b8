import LinkProbe.Json.Number
import LinkProbe.Proofs.Json.Grammar
import Mathlib.Data.List.TakeDrop

/-!
# Numbers are read as they are written

A natural number in decimal is read back if it has 64 bits. A larger one is taken for a double.

* `appendDigits_eq`, `appendDigits_left`: the digits that 64 bits hold, and those that are left.
* `readNumber_toDigits`: a number of 64 bits is read as itself.
* `readNumber_toDigits_large`: a larger one never is.
-/

namespace LinkProbe.Json

variable {ds rest : List Char} {n value : Nat}

/-! ## Digits -/

/-- A word ends before the first character that does not belong to it. -/
theorem span_append {p : Char → Bool} {word : List Char} (hword : ∀ c ∈ word, p c = true)
    (hrest : ∀ c ∈ rest.head?, p c = false) : (word ++ rest).span p = (word, rest) := by
  have htake : rest.takeWhile p = [] := by
    cases rest with
    | nil => rfl
    | cons c rest => exact List.takeWhile_cons_of_neg (by simp [hrest c rfl])
  have hdrop : rest.dropWhile p = rest := by
    cases rest with
    | nil => rfl
    | cons c rest => exact List.dropWhile_cons_of_neg (by simp [hrest c rfl])
  rw [List.span_eq_takeWhile_dropWhile, List.takeWhile_append_of_pos hword,
    List.dropWhile_append_of_pos hword, htake, hdrop, List.append_nil]

/-- The digits of a value end where it does. -/
theorem digits_append (hds : ∀ c ∈ ds, c.isDigit = true)
    (hrest : ∀ c ∈ rest.head?, c.isDigit = false) : digits (ds ++ rest) = (ds, rest) :=
  span_append hds hrest

theorem le_ofDigitChars (ds : List Char) (value : Nat) : value ≤ Nat.ofDigitChars 10 ds value := by
  rw [Nat.ofDigitChars_eq_ofDigitChars_zero]
  have : value ≤ 10 ^ ds.length * value := Nat.le_mul_of_pos_left value (Nat.pow_pos (by decide))
  omega

theorem ofDigitChars_cons (c : Char) (ds : List Char) (value : Nat) :
    Nat.ofDigitChars 10 (c :: ds) value = Nat.ofDigitChars 10 ds (value * 10 + digitValue c) := by
  rw [Nat.ofDigitChars_cons, Nat.mul_comm, digitValue]

/-- Digits that stay within 64 bits are all appended. -/
theorem appendDigits_eq (h : Nat.ofDigitChars 10 ds value ≤ natural64) :
    appendDigits value ds = (Nat.ofDigitChars 10 ds value, []) := by
  induction ds generalizing value with
  | nil => rfl
  | cons c ds ih =>
    rw [ofDigitChars_cons] at h ⊢
    have hfits : value * 10 + digitValue c ≤ natural64 := Nat.le_trans (le_ofDigitChars ds _) h
    rw [appendDigits, if_pos hfits, ih h]

/-- Of digits that exceed 64 bits some are left over. -/
theorem appendDigits_left (hvalue : value ≤ natural64)
    (h : natural64 < Nat.ofDigitChars 10 ds value) : (appendDigits value ds).2 ≠ [] := by
  induction ds generalizing value with
  | nil => exact absurd hvalue (Nat.not_le.mpr h)
  | cons c ds ih =>
    rw [ofDigitChars_cons] at h
    unfold appendDigits
    dsimp only
    split
    · next hfits => exact ih hfits h
    · exact List.cons_ne_nil c ds

/-- A digit is no white space. -/
theorem not_isSpace_of_isDigit {c : Char} (h : c.isDigit = true) : isSpace c = false := by
  rw [Bool.eq_false_iff]
  intro hspace
  have hcases : c = ' ' ∨ c = '\n' ∨ c = '\t' ∨ c = '\r' := by
    simpa only [isSpace, Bool.or_eq_true, decide_eq_true_eq, or_assoc] using hspace
  rcases hcases with rfl | rfl | rfl | rfl <;> simp at h

/-! ## Decimal numbers -/

/-- A number has a leading zero only if it is zero. -/
theorem head_toDigits_ne_zero (h : 0 < n) : (Nat.toDigits 10 n).head? ≠ some '0' := by
  induction n using Nat.strongRecOn with
  | _ n ih =>
    rw [Nat.toDigits_eq_if (by decide)]
    split
    · next hsmall =>
      have hdigit : n.digitChar ≠ '0' := by
        rw [ne_eq, Nat.digitChar_eq_zero]
        omega
      simpa using hdigit
    · next hlarge =>
      have hbefore := ih (n / 10) (by omega) (by omega)
      rw [List.head?_append, Option.or_of_isSome]
      · exact hbefore
      · simp [Nat.toDigits_ne_nil]

/-- The digits of a number: one zero, or a first digit that is none. -/
theorem toDigits_cases (n : Nat) : n = 0 ∧ Nat.toDigits 10 n = ['0'] ∨
    0 < n ∧ ∃ c ds, Nat.toDigits 10 n = c :: ds ∧ c.isDigit = true ∧ c ≠ '0' := by
  rcases Nat.eq_zero_or_pos n with rfl | hpos
  · exact .inl ⟨rfl, rfl⟩
  · have hfirst := head_toDigits_ne_zero hpos
    cases hdigits : Nat.toDigits 10 n with
    | nil => exact absurd hdigits Nat.toDigits_ne_nil
    | cons c ds =>
      rw [hdigits, List.head?_cons, ne_eq, Option.some.injEq] at hfirst
      have hc : c.isDigit = true :=
        Nat.isDigit_of_mem_toDigits (b := 10) (n := n) (by decide) (by decide) (by simp [hdigits])
      exact .inr ⟨hpos, c, ds, rfl, hc, hfirst⟩

/-- Nothing that can go on with a number follows a value. -/
theorem Ended.stops (h : Ended rest) {c : Char} (hc : c ∈ rest.head?) :
    c.isDigit = false ∧ c ≠ '.' ∧ isExponentLetter c = false := by
  have hcases : c = ' ' ∨ c = '\n' ∨ c = '\t' ∨ c = '\r' ∨ c = ',' ∨ c = '\x7d' := by
    have := h c hc
    simpa only [isSpace, Bool.or_eq_true, decide_eq_true_eq, or_assoc] using this
  rcases hcases with rfl | rfl | rfl | rfl | rfl | rfl <;> decide

/-- A number that is followed by the end of a value has neither decimals nor an exponent. -/
theorem afterWhole_ended (h : Ended rest) (negative : Bool) (whole unread : Nat) :
    afterWhole negative whole unread rest = afterWhole.plain negative whole unread rest := by
  cases rest with
  | nil => rfl
  | cons c rest =>
    obtain ⟨-, hpoint, hexponent⟩ := h.stops (c := c) rfl
    unfold afterWhole
    split
    · next heq => exact absurd (List.cons.inj heq).1 hpoint
    · next heq =>
      obtain ⟨rfl, rfl⟩ := List.cons.inj heq
      simp [hexponent]
    · next heq => exact absurd heq (List.cons_ne_nil c rest)

/-- A double is too large, or it is read. -/
theorem makeFloat_cases (negative : Bool) (significand : Nat) (exponent : Int)
    (rest : List Char) :
    (∃ refusal, makeFloat negative significand exponent rest = .error refusal) ∨
      ∃ double, makeFloat negative significand exponent rest =
        .ok (.float negative double, rest) := by
  unfold makeFloat
  split
  · exact .inr ⟨_, rfl⟩
  · exact .inl ⟨_, rfl⟩

theorem readNumber_digits (hpos : 0 < n) (h : Ended rest) :
    readNumber false (Nat.toDigits 10 n ++ rest) =
      afterWhole.plain false (appendDigits 0 (Nat.toDigits 10 n)).1
        (appendDigits 0 (Nat.toDigits 10 n)).2.length rest := by
  obtain ⟨hzero, -⟩ | ⟨-, c, ds, hdigits, hc, hfirst⟩ := toDigits_cases n
  · omega
  · have hall : ∀ c ∈ Nat.toDigits 10 n, c.isDigit = true :=
      fun _ hmem => Nat.isDigit_of_mem_toDigits (by decide) (by decide) hmem
    have hspan := digits_append hall fun c hc => (h.stops hc).1
    rw [← afterWhole_ended h]
    rw [hdigits] at hspan ⊢
    rw [List.cons_append] at hspan ⊢
    unfold readNumber
    split
    · next heq => exact absurd heq (List.cons_ne_nil _ _)
    · next heq => exact absurd (List.cons.inj heq).1 hfirst
    · next heq =>
      obtain ⟨rfl, rfl⟩ := List.cons.inj heq
      simp [hc, hspan]

/-- A number of 64 bits is read as itself. -/
theorem readNumber_toDigits (hn : n ≤ natural64) (h : Ended rest) :
    readNumber false (Nat.toDigits 10 n ++ rest) = .ok (.natural n, rest) := by
  rcases Nat.eq_zero_or_pos n with rfl | hpos
  · show readNumber false ('0' :: rest) = _
    cases rest with
    | nil => rfl
    | cons c rest =>
      have hdigit := (h.stops (c := c) rfl).1
      simp [readNumber, hdigit, afterWhole_ended h, afterWhole.plain]
  · have hvalue : Nat.ofDigitChars 10 (Nat.toDigits 10 n) 0 = n := Nat.ofDigitChars_ten_toDigits
    rw [readNumber_digits hpos h, appendDigits_eq (by rwa [hvalue]), hvalue]
    rfl

/-- What a number beyond 64 bits is read as is no natural number, if it is read at all. -/
theorem readNumber_toDigits_large (hn : natural64 < n) (h : Ended rest) :
    (∃ refusal, readNumber false (Nat.toDigits 10 n ++ rest) = .error refusal) ∨
      ∃ double, readNumber false (Nat.toDigits 10 n ++ rest) = .ok (.float false double, rest) := by
  have hvalue : Nat.ofDigitChars 10 (Nat.toDigits 10 n) 0 = n := Nat.ofDigitChars_ten_toDigits
  have hleft : (appendDigits 0 (Nat.toDigits 10 n)).2 ≠ [] :=
    appendDigits_left (Nat.zero_le _) (by rwa [hvalue])
  have hread : readNumber false (Nat.toDigits 10 n ++ rest) =
      makeFloat false (appendDigits 0 (Nat.toDigits 10 n)).1
        (appendDigits 0 (Nat.toDigits 10 n)).2.length rest := by
    rw [readNumber_digits (Nat.zero_lt_of_lt hn) h, afterWhole.plain,
      if_pos (mt List.length_eq_zero_iff.mp hleft)]
  rw [hread]
  exact makeFloat_cases ..

end LinkProbe.Json
