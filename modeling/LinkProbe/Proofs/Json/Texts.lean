import LinkProbe.Json.Text
import LinkProbe.Proofs.Json.Grammar

/-!
# Texts are read as they are written

* `readTextWithin_char`: one character is read, whichever way it is written.
* `readText_spelled`: a text is read up to its closing quote.
* `spelled_flatMap_writeChar`: the printer writes a text in one of the ways there are.
-/

namespace LinkProbe.Json

variable {c : Char} {piece text body rest : List Char}

/-! ## Escapes -/

theorem readEscape_short {letter : Char} (h : (letter, c) ∈ shortEscapes) (rest : List Char) :
    readEscape (letter :: rest) = .ok (c, rest) := by
  simp only [shortEscapes, List.mem_cons, Prod.mk.injEq, List.not_mem_nil, or_false] at h
  rcases h with ⟨rfl, rfl⟩ | ⟨rfl, rfl⟩ | ⟨rfl, rfl⟩ | ⟨rfl, rfl⟩ | ⟨rfl, rfl⟩ | ⟨rfl, rfl⟩ |
    ⟨rfl, rfl⟩ | ⟨rfl, rfl⟩ <;> rfl

theorem readHex_writesUnit {digits : List Char} {unit : Nat} (h : WritesUnit digits unit)
    (rest : List Char) : readHex (digits ++ rest) = .ok (unit, rest) := by
  obtain ⟨hlength, hvalue⟩ := h
  match digits, hlength with
  | [w, x, y, z], _ => simp [readHex, hexValues?, hvalue]

/-- No surrogate is the number of a character. -/
theorem not_surrogate (c : Char) : isLeading c.toNat = false ∧ isTrailing c.toNat = false := by
  have hvalid : c.toNat < 0xD800 ∨ 0xDFFF < c.toNat ∧ c.toNat < 0x110000 := c.valid
  simp only [isLeading, isTrailing, Bool.and_eq_false_iff, decide_eq_false_iff_not]
  omega

theorem readEscape_unit {digits : List Char} (h : WritesUnit digits c.toNat) (rest : List Char) :
    readEscape ('u' :: (digits ++ rest)) = .ok (c, rest) := by
  obtain ⟨hleading, htrailing⟩ := not_surrogate c
  simp [readEscape, readHex_writesUnit h, hleading, htrailing, Char.ofNat_toNat]

/-- The two surrogates of a character make it up. -/
theorem pairChar_eq (hwide : 0x10000 ≤ c.toNat) :
    pairChar (0xD800 + (c.toNat - 0x10000) / 0x400) (0xDC00 + (c.toNat - 0x10000) % 0x400) = c := by
  have hnumber : (0xD800 + (c.toNat - 0x10000) / 0x400 - 0xD800) * 1024 +
      (0xDC00 + (c.toNat - 0x10000) % 0x400 - 0xDC00) + 0x10000 = c.toNat := by omega
  rw [pairChar, hnumber, Char.ofNat_toNat]

theorem readEscape_pair {leading trailing : List Char} (hwide : 0x10000 ≤ c.toNat)
    (hleading : WritesUnit leading (0xD800 + (c.toNat - 0x10000) / 0x400))
    (htrailing : WritesUnit trailing (0xDC00 + (c.toNat - 0x10000) % 0x400)) (rest : List Char) :
    readEscape ('u' :: (leading ++ '\\' :: 'u' :: (trailing ++ rest))) = .ok (c, rest) := by
  have hvalid : c.toNat < 0x110000 := by
    have : c.toNat < 0xD800 ∨ 0xDFFF < c.toNat ∧ c.toNat < 0x110000 := c.valid
    omega
  have hfirst : isTrailing (0xD800 + (c.toNat - 0x10000) / 0x400) = false ∧
      isLeading (0xD800 + (c.toNat - 0x10000) / 0x400) = true := by
    simp only [isLeading, isTrailing, Bool.and_eq_false_iff, Bool.and_eq_true, decide_eq_true_eq,
      decide_eq_false_iff_not]
    omega
  have hsecond : isTrailing (0xDC00 + (c.toNat - 0x10000) % 0x400) = true := by
    simp only [isTrailing, Bool.and_eq_true, decide_eq_true_eq]
    omega
  simp only [readEscape, readHex_writesUnit hleading, hfirst, Bool.false_eq_true, ↓reduceIte]
  simp only [readTrailing, readHex_writesUnit htrailing, hsecond, ↓reduceIte, pairChar_eq hwide]

/-! ## Reading -/

/-- An escaped character is read like one that stands for itself. -/
theorem readTextWithin_escape {escape : List Char}
    (h : readEscape (escape ++ rest) = .ok (c, rest)) (count : Nat) :
    readTextWithin (count + 1) ('\\' :: (escape ++ rest)) =
      (readTextWithin count rest).map fun (text, rest) => (c :: text, rest) := by
  rw [readTextWithin, h]
  dsimp only
  cases readTextWithin count rest <;> rfl

/-- A character is read, whichever way it is written. -/
theorem readTextWithin_char (h : SpelledChar c piece) (count : Nat) (rest : List Char) :
    readTextWithin (count + 1) (piece ++ rest) =
      (readTextWithin count rest).map fun (text, rest) => (c :: text, rest) := by
  cases h with
  | plain hquote hslash hcontrol =>
    rw [List.singleton_append, readTextWithin]
    · rw [if_neg (Char.not_lt.mpr hcontrol)]
      cases readTextWithin count rest <;> rfl
    · exact fun hc => hquote hc
    · exact fun hc => hslash hc
  | short hletter => exact readTextWithin_escape (readEscape_short hletter rest) count
  | @unit digits hdigits =>
    have hescape : readEscape (('u' :: digits) ++ rest) = .ok (c, rest) :=
      readEscape_unit hdigits rest
    exact readTextWithin_escape hescape count
  | @pair leading trailing hwide hleading htrailing =>
    have hescape : readEscape (('u' :: (leading ++ '\\' :: 'u' :: trailing)) ++ rest) =
        .ok (c, rest) := by
      simpa using readEscape_pair hwide hleading htrailing rest
    exact readTextWithin_escape hescape count

theorem readTextWithin_spelled (h : Spelled text body) {count : Nat} (hcount : text.length < count)
    (rest : List Char) : readTextWithin count (body ++ '"' :: rest) = .ok (text, rest) := by
  induction h generalizing count with
  | nil =>
    obtain ⟨count, rfl⟩ := Nat.exists_eq_add_one.mpr hcount
    rfl
  | @cons c piece text body hc _ ih =>
    obtain ⟨count, rfl⟩ := Nat.exists_eq_add_one.mpr (Nat.zero_lt_of_lt hcount)
    rw [List.append_assoc, readTextWithin_char hc, ih (Nat.lt_of_succ_lt_succ hcount)]
    rfl

theorem SpelledChar.length_pos (h : SpelledChar c piece) : 0 < piece.length := by
  cases h <;> simp

/-- Escapes only make a text longer. -/
theorem Spelled.length_le (h : Spelled text body) : text.length ≤ body.length := by
  induction h with
  | nil => exact Nat.le_refl 0
  | cons hc _ ih =>
    have := hc.length_pos
    simp only [List.length_cons, List.length_append]
    omega

theorem readTextUnder_spelled {s : String} (h : Spelled s.toList body) {count : Nat}
    (hcount : body.length < count) (rest : List Char) :
    readTextUnder count (body ++ '"' :: rest) = .ok (s, rest) := by
  rw [readTextUnder, readTextWithin_spelled h (Nat.lt_of_le_of_lt h.length_le hcount)]
  simp

/-- A text is read up to its closing quote. -/
theorem readText_spelled {s : String} (h : Spelled s.toList body) (rest : List Char) :
    readText (body ++ '"' :: rest) = .ok (s, rest) :=
  readTextUnder_spelled h (by simp only [List.length_append, List.length_cons]; omega) rest

/-! ## Writing -/

/-- The number of a control character in the digits that the printer writes. -/
theorem writesUnit_control {n : Nat} (h : n < 32) :
    WritesUnit ['0', '0', Nat.digitChar (n / 16), Nat.digitChar (n % 16)] n := by
  have hall : ∀ n < 32, Digit.number? 16 Digit.hex?
      ['0', '0', Nat.digitChar (n / 16), Nat.digitChar (n % 16)] = some n := by decide
  exact ⟨rfl, hall n h⟩

theorem spelledChar_writeChar (c : Char) : SpelledChar c (writeChar c) := by
  unfold writeChar
  split
  case h_8 hquote hslash _ _ _ _ _ =>
    split
    · next hcontrol => exact .unit (writesUnit_control hcontrol)
    · next hcontrol => exact .plain hquote hslash (Char.not_lt.mp hcontrol)
  all_goals exact .short (by simp [shortEscapes])

theorem spelled_flatMap_writeChar (text : List Char) : Spelled text (text.flatMap writeChar) := by
  induction text with
  | nil => exact .nil
  | cons c text ih => exact .cons (spelledChar_writeChar c) ih

end LinkProbe.Json
