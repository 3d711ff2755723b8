import LinkProbe.Address.Ipv4
import LinkProbe.Proofs.Json.Naturals
import Mathlib.Algebra.GroupWithZero.Nat
import Mathlib.Data.List.Induction

/-!
# The dotted form is the only one

An address of four bytes is read from its dotted form and from nothing else.

* `Digit.Writes`: digits write a number, without the reader.
* `Digit.number?_eq_some_iff`: the reader takes what is written.
* `cut_eq_iff`: the parts between separators, and what they are the parts of.
* `Ipv4.parse?_eq_some_iff`: an address and its dotted form.
-/

namespace LinkProbe

/-! ## Digits -/

namespace Digit

variable {base : Nat} {digit? : Char → Option Nat} {text : List Char} {n d : Nat} {c : Char}

/-- The digits write the number, the first one the highest. -/
inductive Writes (base : Nat) (digit? : Char → Option Nat) : List Char → Nat → Prop
  | digit {c : Char} {d : Nat} (hc : digit? c = some d) : Writes base digit? [c] d
  | next {text : List Char} {n d : Nat} {c : Char} (before : Writes base digit? text n)
      (hc : digit? c = some d) : Writes base digit? (text ++ [c]) (n * base + d)

theorem number?_singleton (c : Char) : number? base digit? [c] = digit? c := by
  cases hc : digit? c <;> simp [number?, appendTo?, hc]

theorem appendTo?_concat (value : Nat) (text : List Char) (c : Char) :
    appendTo? base digit? value (text ++ [c]) =
      (appendTo? base digit? value text).bind fun n => (digit? c).map (n * base + ·) := by
  induction text generalizing value with
  | nil => cases hc : digit? c <;> simp [appendTo?, hc]
  | cons x text ih =>
    rw [List.cons_append, appendTo?, appendTo?]
    cases digit? x with
    | none => rfl
    | some d => exact ih (value * base + d)

theorem number?_concat (hne : text ≠ []) (c : Char) :
    number? base digit? (text ++ [c]) =
      (number? base digit? text).bind fun n => (digit? c).map (n * base + ·) := by
  simp [number?, hne, appendTo?_concat]

/-- What is read is what the digits write. -/
theorem number?_eq_some_iff :
    number? base digit? text = some n ↔ Writes base digit? text n := by
  constructor
  · intro h
    -- The reader appends digits at the end, and so does the relation.
    induction text using List.reverseRecOn generalizing n with
    | nil => cases h
    | append_singleton text c ih =>
      rcases eq_or_ne text [] with rfl | hne
      · exact .digit (by rwa [List.nil_append, number?_singleton] at h)
      · rw [number?_concat hne, Option.bind_eq_some_iff] at h
        obtain ⟨m, hm, h⟩ := h
        obtain ⟨d, hc, rfl⟩ := Option.map_eq_some_iff.mp h
        exact .next (ih hm) hc
  · intro h
    induction h with
    | digit hc => rw [number?_singleton, hc]
    | @next text n d c before hc ih =>
      have hne : text ≠ [] := by
        rintro rfl
        cases ih
      rw [number?_concat hne, ih, hc]
      rfl

theorem Writes.ne_nil (h : Writes base digit? text n) : text ≠ [] := by
  cases h <;> simp

theorem Writes.exists_digit (h : Writes base digit? text n) (hmem : c ∈ text) :
    ∃ d, digit? c = some d := by
  induction h with
  | digit hc =>
    rw [List.mem_singleton.mp hmem]
    exact ⟨_, hc⟩
  | next before hc ih =>
    rcases List.mem_append.mp hmem with hmem | hmem
    · exact ih hmem
    · rw [List.mem_singleton.mp hmem]
      exact ⟨_, hc⟩

/-- A number has as many digits as its size needs, at least. -/
theorem Writes.lt_pow (hdigit : ∀ c d, digit? c = some d → d < base)
    (h : Writes base digit? text n) : n < base ^ text.length := by
  induction h with
  | @digit c d hc =>
    rw [List.length_singleton, Nat.pow_one]
    exact hdigit c d hc
  | @next text n d c before hc ih =>
    have hd := hdigit c d hc
    rw [List.length_append, List.length_singleton, Nat.pow_succ]
    calc n * base + d < n * base + base := by omega
      _ = (n + 1) * base := by rw [Nat.succ_mul]
      _ ≤ base ^ text.length * base := Nat.mul_le_mul_right base ih

/-- The digits of a number write it. -/
theorem writes_toDigits (hbase : 1 < base) (hdigit : ∀ d < base, digit? d.digitChar = some d)
    (n : Nat) : Writes base digit? (Nat.toDigits base n) n := by
  induction n using Nat.strongRecOn with
  | _ n ih =>
    rw [Nat.toDigits_eq_if hbase]
    split
    · next hsmall => exact .digit (hdigit n hsmall)
    · next hlarge =>
      have hbefore := ih (n / base) (Nat.div_lt_self (by omega) hbase)
      have hlast := hdigit (n % base) (Nat.mod_lt n (by omega))
      have hwrites := hbefore.next hlast
      rwa [Nat.div_add_mod'] at hwrites

/-! ## The two bases -/

theorem decimal?_digitChar : ∀ d < 10, decimal? d.digitChar = some d := by decide

theorem hex?_digitChar : ∀ d < 16, hex? d.digitChar = some d := by decide

theorem digitChar_of_decimal? (h : decimal? c = some d) : d < 10 ∧ c = d.digitChar := by
  rw [decimal?] at h
  split at h
  · next hrange =>
    cases h
    have hlow : 48 ≤ c.toNat := hrange.1
    have hhigh : c.toNat ≤ 57 := hrange.2
    have hall : ∀ k < 10, Char.ofNat (k + 48) = k.digitChar := by decide
    have hc := hall (c.toNat - 48) (by omega)
    rw [Nat.sub_add_cancel hlow, Char.ofNat_toNat] at hc
    exact ⟨by show c.toNat - 48 < 10; omega, hc⟩
  · cases h

theorem hex?_lt (c : Char) (d : Nat) (h : hex? c = some d) : d < 16 := by
  rw [hex?] at h
  split at h
  · next hrange =>
    cases h
    have hhigh : c.toNat ≤ 57 := hrange.2
    show c.toNat - 48 < 16
    omega
  · split at h
    · next hrange =>
      cases h
      have hhigh : c.toNat ≤ 102 := hrange.2
      show c.toNat - 97 + 10 < 16
      omega
    · split at h
      · next hrange =>
        cases h
        have hhigh : c.toNat ≤ 70 := hrange.2
        show c.toNat - 65 + 10 < 16
        omega
      · cases h

/-- A decimal number without a leading zero is written in one way. -/
theorem Writes.eq_toDigits (h : Writes 10 decimal? text n)
    (hzero : 1 < text.length → text.head? ≠ some '0') : text = Nat.toDigits 10 n := by
  induction h with
  | digit hc =>
    obtain ⟨hd, rfl⟩ := digitChar_of_decimal? hc
    rw [Nat.toDigits_of_lt_base hd]
  | @next text n d c before hc ih =>
    obtain ⟨hd, rfl⟩ := digitChar_of_decimal? hc
    have hhead : text.head? ≠ some '0' := by
      have hlong := hzero (by
        have := List.length_pos_iff.mpr before.ne_nil
        simp only [List.length_append, List.length_singleton]
        omega)
      rwa [List.head?_append, Option.or_of_isSome (by simpa using before.ne_nil)] at hlong
    have htext := ih fun _ => hhead
    -- What stands before a further digit is not zero: that would be a leading zero.
    have hpos : 0 < n := by
      rw [Nat.pos_iff_ne_zero]
      rintro rfl
      exact hhead (by rw [htext]; rfl)
    rw [htext, ← Nat.toDigits_of_lt_base hd, Nat.toDigits_append_toDigits (by decide) hpos hd,
      Nat.mul_comm]

end Digit

/-- Nothing but digits stands in a number. -/
theorem notMem_toDigits {c : Char} (hc : c.isDigit = false) (n : Nat) :
    c ∉ Nat.toDigits 10 n := by
  intro hmem
  rw [Nat.isDigit_of_mem_toDigits (by decide) (by decide) hmem] at hc
  cases hc

/-! ## Parts between separators -/

variable {separator : Char} {text : List Char} {parts : List (List Char)}

theorem cut_eq_splitOn (separator : Char) (text : List Char) :
    cut separator text = text.splitOn separator := by
  induction text with
  | nil => rfl
  | cons c text ih =>
    rw [cut, ih, List.splitOn_cons_eq_if_modifyHead]
    simp only [beq_iff_eq]
    split
    · rfl
    · cases hparts : text.splitOn separator with
      | nil => exact absurd hparts (List.splitOn_ne_nil separator text)
      | cons part parts => rfl

/-- The parts are those of the text that they make up, if no separator stands in any of them. -/
theorem cut_intercalate (hparts : ∀ part ∈ parts, separator ∉ part) (hne : parts ≠ []) :
    cut separator ([separator].intercalate parts) = parts := by
  rw [cut_eq_splitOn, List.splitOn_intercalate separator hparts hne]

theorem intercalate_cut (separator : Char) (text : List Char) :
    [separator].intercalate (cut separator text) = text := by
  rw [cut_eq_splitOn, List.intercalate_splitOn]

/-! ## Four bytes -/

namespace Ipv4

variable {a : Ipv4} {b : UInt8}

theorem length_toDigits_le (b : UInt8) : (Nat.toDigits 10 b.toNat).length ≤ 3 := by
  have := b.toNat_lt
  rw [Nat.length_toDigits_le_iff (by decide) (by decide)]
  omega

/-- A number of several digits does not begin with a zero. -/
theorem toDigits_shape (n : Nat) :
    1 < (Nat.toDigits 10 n).length → (Nat.toDigits 10 n).head? ≠ some '0' := by
  rcases Nat.eq_zero_or_pos n with rfl | hpos
  · intro hlong
    exact absurd hlong (by decide)
  · exact fun _ => Json.head_toDigits_ne_zero hpos

theorem byte?_eq_some_iff : byte? text = some b ↔ text = Nat.toDigits 10 b.toNat := by
  constructor
  · intro h
    rw [byte?] at h
    split at h
    · cases h
    · next hshape =>
      obtain ⟨-, hzero⟩ := not_or.mp hshape
      split at h
      · next value hvalue =>
        split at h
        · next hsmall =>
          obtain rfl := Option.some.inj h
          rw [UInt8.toNat_ofNat_of_lt' hsmall]
          exact (Digit.number?_eq_some_iff.mp hvalue).eq_toDigits (not_and.mp hzero)
        · cases h
      · cases h
  · rintro rfl
    have hshort := length_toDigits_le b
    have hshape : ¬(3 < (Nat.toDigits 10 b.toNat).length ∨
        (1 < (Nat.toDigits 10 b.toNat).length ∧ (Nat.toDigits 10 b.toNat).head? = some '0')) :=
      not_or.mpr ⟨by omega, not_and.mpr (toDigits_shape b.toNat)⟩
    have hvalue : Digit.number? 10 Digit.decimal? (Nat.toDigits 10 b.toNat) = some b.toNat :=
      Digit.number?_eq_some_iff.mpr
        (Digit.writes_toDigits (by decide) Digit.decimal?_digitChar b.toNat)
    simp only [byte?, if_neg hshape, hvalue, if_pos b.toNat_lt, UInt8.ofNat_toNat]

/-- The dotted form is its four numbers with dots between them. -/
theorem chars_eq (a : Ipv4) :
    a.chars = ['.'].intercalate ([a.first, a.second, a.third, a.fourth].map fun b =>
      Nat.toDigits 10 b.toNat) := by
  simp [chars, List.intercalate_cons_cons, List.intercalate_singleton]

/-- **An address is read from its dotted form, and from nothing else.** -/
theorem parse?_eq_some_iff : parse? text = some a ↔ text = a.chars := by
  rw [chars_eq]
  constructor
  · intro h
    rw [parse?] at h
    split at h
    · next p q r s hcut =>
      simp only [Option.bind_eq_bind, Option.pure_def, Option.bind_eq_some_iff,
        byte?_eq_some_iff, Option.some.injEq] at h
      obtain ⟨first, rfl, second, rfl, third, rfl, fourth, rfl, rfl⟩ := h
      rw [← intercalate_cut '.' text, hcut]
      rfl
    · cases h
  · rintro rfl
    have hcut : cut '.' (['.'].intercalate
        ([a.first, a.second, a.third, a.fourth].map fun b => Nat.toDigits 10 b.toNat)) = _ :=
      cut_intercalate (by simp [notMem_toDigits]) (by simp)
    have hbyte : ∀ b : UInt8, byte? (Nat.toDigits 10 b.toNat) = some b :=
      fun b => byte?_eq_some_iff.mpr rfl
    rw [parse?, hcut]
    simp only [List.map_cons, List.map_nil, hbyte]
    rfl

/-- Only digits and dots stand in the dotted form. -/
theorem notMem_chars {c : Char} (hc : c.isDigit = false) (hdot : c ≠ '.') (a : Ipv4) :
    c ∉ a.chars := by
  simp [chars, notMem_toDigits hc, hdot]

end Ipv4

end LinkProbe
