import LinkProbe.Text.Utf8

/-!
# The bytes of a character

`String.utf8EncodeChar` says which bytes encode a character. The scanner knows the same thing as a
table of ranges (`Expected`) and a rule for the character's number (`charOf`); this module holds
the two against each other.

* `charOf_encode`: the character is read back from its bytes.
* `encode_charOf`: a lead byte and what it asks for encode a character.
* `encode_cons`: a character has no other bytes than those, or one byte below 0x80.
* `exists_encode_iff`: after a lead byte, the bytes that complete a character are those that
  `Expected` asks for.
-/

namespace LinkProbe.Utf8

open String (utf8EncodeChar)

/-! ## Bytes and numbers -/

theorem isValidChar_toNat (c : Char) : c.toNat.isValidChar := c.valid

theorem toNat_ofNat {n : Nat} (h : n.isValidChar) : (Char.ofNat n).toNat = n := by
  rw [Char.ofNat, dif_pos h]
  rfl

theorem ofNat_eq {n : Nat} {b : UInt8} (h : n = b.toNat) : UInt8.ofNat n = b := by
  rw [h, UInt8.ofNat_toNat]

/-- The bytes of a character, from its number. -/
theorem encode_eq (c : Char) : utf8EncodeChar c =
    if c.toNat < 0x80 then [.ofNat c.toNat]
    else if c.toNat < 0x800 then [.ofNat (c.toNat / 64 % 32 + 0xC0), .ofNat (c.toNat % 64 + 0x80)]
    else if c.toNat < 0x10000 then
      [.ofNat (c.toNat / 4096 % 16 + 0xE0), .ofNat (c.toNat / 64 % 64 + 0x80),
        .ofNat (c.toNat % 64 + 0x80)]
    else [.ofNat (c.toNat / 262144 % 8 + 0xF0), .ofNat (c.toNat / 4096 % 64 + 0x80),
      .ofNat (c.toNat / 64 % 64 + 0x80), .ofNat (c.toNat % 64 + 0x80)] := by
  simp only [utf8EncodeChar, ← Nat.lt_succ_iff]
  rfl

theorem charOf_encode (c : Char) : charOf (utf8EncodeChar c) = c := by
  have hc := isValidChar_toNat c
  rw [encode_eq]
  conv => rhs; rw [← Char.ofNat_toNat c]
  split
  · simp only [charOf, UInt8.toNat_ofNat']
    congr 1; omega
  split
  · simp only [charOf, UInt8.toNat_ofNat']
    congr 1; omega
  split <;> simp only [charOf, UInt8.toNat_ofNat'] <;> congr 1 <;> omega

/-! ## Bytes in the right ranges -/

/-- The byte may stand after the first one of a character. -/
def Continues (b : UInt8) : Prop := 0x80 ≤ b.toNat ∧ b.toNat ≤ 0xBF

theorem encode_charOf_one {a : UInt8} (ha : a.toNat < 0x80) :
    utf8EncodeChar (charOf [a]) = [a] := by
  rw [encode_eq, charOf, toNat_ofNat (by omega), if_pos ha, UInt8.ofNat_toNat]

theorem encode_charOf_two {a b : UInt8} (ha : 0xC2 ≤ a.toNat) (ha' : a.toNat < 0xE0)
    (hb : Continues b) : utf8EncodeChar (charOf [a, b]) = [a, b] := by
  unfold Continues at hb
  rw [encode_eq, charOf, toNat_ofNat (by omega), if_neg (by omega), if_pos (by omega)]
  rw [ofNat_eq (b := a) (by omega), ofNat_eq (b := b) (by omega)]

/-- Three bytes: below 0xE0 0xA0 there is a shorter form, from 0xED 0xA0 on stand the surrogates. -/
theorem encode_charOf_three {a b c : UInt8} (ha : 0xE0 ≤ a.toNat) (ha' : a.toNat < 0xF0)
    (hb : Continues b) (hc : Continues c) (hlow : a.toNat = 0xE0 → 0xA0 ≤ b.toNat)
    (hhigh : a.toNat = 0xED → b.toNat ≤ 0x9F) :
    utf8EncodeChar (charOf [a, b, c]) = [a, b, c] := by
  unfold Continues at hb hc
  rw [encode_eq, charOf, toNat_ofNat (by omega), if_neg (by omega), if_neg (by omega),
    if_pos (by omega)]
  rw [ofNat_eq (b := a) (by omega), ofNat_eq (b := b) (by omega), ofNat_eq (b := c) (by omega)]

/-- Four bytes: below 0xF0 0x90 there is a shorter form, from 0xF4 0x90 on no character. -/
theorem encode_charOf_four {a b c d : UInt8} (ha : 0xF0 ≤ a.toNat) (ha' : a.toNat ≤ 0xF4)
    (hb : Continues b) (hc : Continues c) (hd : Continues d)
    (hlow : a.toNat = 0xF0 → 0x90 ≤ b.toNat) (hhigh : a.toNat = 0xF4 → b.toNat ≤ 0x8F) :
    utf8EncodeChar (charOf [a, b, c, d]) = [a, b, c, d] := by
  unfold Continues at hb hc hd
  rw [encode_eq, charOf, toNat_ofNat (by omega), if_neg (by omega), if_neg (by omega),
    if_neg (by omega)]
  rw [ofNat_eq (b := a) (by omega), ofNat_eq (b := b) (by omega), ofNat_eq (b := c) (by omega),
    ofNat_eq (b := d) (by omega)]

/-! ## What a lead byte asks for -/

namespace Expected

/-- The bytes are what `e` asks for, and nothing more. -/
def Completes (e : Expected) : List UInt8 → Prop
  | [] => False
  | b :: rest => e.admits b = true ∧
    match e.next? with
    | none => rest = []
    | some next => next.Completes rest

theorem admits_iff {e : Expected} {b : UInt8} :
    e.admits b = true ↔ e.low.toNat ≤ b.toNat ∧ b.toNat ≤ e.high.toNat := by
  simp [admits, UInt8.le_iff_toNat_le]

theorem completes_zero {low high : UInt8} {bytes : List UInt8} :
    (Expected.mk low high 0).Completes bytes ↔
      ∃ b, bytes = [b] ∧ low.toNat ≤ b.toNat ∧ b.toNat ≤ high.toNat := by
  cases bytes with
  | nil => simp [Completes]
  | cons b rest => simp only [Completes, next?, admits_iff, List.cons.injEq]; grind

theorem completes_succ {low high : UInt8} {n : Nat} {bytes : List UInt8} :
    (Expected.mk low high (n + 1)).Completes bytes ↔
      ∃ b rest, bytes = b :: rest ∧ (low.toNat ≤ b.toNat ∧ b.toNat ≤ high.toNat) ∧
        (Expected.mk 0x80 0xBF n).Completes rest := by
  cases bytes with
  | nil => simp [Completes]
  | cons b rest => simp only [Completes, next?, admits_iff, List.cons.injEq]; grind

theorem ofLead?_eq (b : UInt8) : ofLead? b =
    if b.toNat < 0xC2 then none
    else if b.toNat < 0xE0 then some ⟨0x80, 0xBF, 0⟩
    else if b.toNat = 0xE0 then some ⟨0xA0, 0xBF, 1⟩
    else if b.toNat = 0xED then some ⟨0x80, 0x9F, 1⟩
    else if b.toNat < 0xF0 then some ⟨0x80, 0xBF, 1⟩
    else if b.toNat = 0xF0 then some ⟨0x90, 0xBF, 2⟩
    else if b.toNat < 0xF4 then some ⟨0x80, 0xBF, 2⟩
    else if b.toNat = 0xF4 then some ⟨0x80, 0x8F, 2⟩
    else none := by
  simp only [ofLead?, UInt8.lt_iff_toNat_lt, ← UInt8.toNat_inj, UInt8.reduceToNat]

/-- Lead bytes stand in three ranges, one for each length. -/
theorem lead_range {a : UInt8} {e : Expected} (h : ofLead? a = some e) :
    (0xC2 ≤ a.toNat ∧ a.toNat < 0xE0) ∨ (0xE0 ≤ a.toNat ∧ a.toNat < 0xF0) ∨
      (0xF0 ≤ a.toNat ∧ a.toNat ≤ 0xF4) := by
  rw [ofLead?_eq] at h
  grind

theorem ofLead?_two {a : UInt8} (ha : 0xC2 ≤ a.toNat) (ha' : a.toNat < 0xE0) :
    ofLead? a = some ⟨0x80, 0xBF, 0⟩ := by
  rw [ofLead?_eq, if_neg (by omega), if_pos ha']

theorem ofLead?_three {a : UInt8} (ha : 0xE0 ≤ a.toNat) (ha' : a.toNat < 0xF0) :
    ∃ low high, ofLead? a = some ⟨low, high, 1⟩ ∧ ∀ b : UInt8,
      (low.toNat ≤ b.toNat ∧ b.toNat ≤ high.toNat) ↔
        Continues b ∧ (a.toNat = 0xE0 → 0xA0 ≤ b.toNat) ∧ (a.toNat = 0xED → b.toNat ≤ 0x9F) := by
  unfold Continues
  rw [ofLead?_eq, if_neg (by omega), if_neg (by omega)]
  split
  · exact ⟨_, _, rfl, fun b => by simp only [UInt8.reduceToNat]; omega⟩
  split
  · exact ⟨_, _, rfl, fun b => by simp only [UInt8.reduceToNat]; omega⟩
  exact ⟨_, _, rfl, fun b => by simp only [UInt8.reduceToNat]; omega⟩

theorem ofLead?_four {a : UInt8} (ha : 0xF0 ≤ a.toNat) (ha' : a.toNat ≤ 0xF4) :
    ∃ low high, ofLead? a = some ⟨low, high, 2⟩ ∧ ∀ b : UInt8,
      (low.toNat ≤ b.toNat ∧ b.toNat ≤ high.toNat) ↔
        Continues b ∧ (a.toNat = 0xF0 → 0x90 ≤ b.toNat) ∧ (a.toNat = 0xF4 → b.toNat ≤ 0x8F) := by
  unfold Continues
  rw [ofLead?_eq, if_neg (by omega), if_neg (by omega), if_neg (by omega), if_neg (by omega),
    if_neg (by omega)]
  split
  · exact ⟨_, _, rfl, fun b => by simp only [UInt8.reduceToNat]; omega⟩
  split
  · exact ⟨_, _, rfl, fun b => by simp only [UInt8.reduceToNat]; omega⟩
  rw [if_pos (by omega)]
  exact ⟨_, _, rfl, fun b => by simp only [UInt8.reduceToNat]; omega⟩

theorem exists_completes_continuations (n : Nat) :
    ∃ bytes, (Expected.mk 0x80 0xBF n).Completes bytes := by
  induction n with
  | zero => exact ⟨_, completes_zero.mpr ⟨0x80, rfl, by decide⟩⟩
  | succ n ih =>
    obtain ⟨rest, h⟩ := ih
    exact ⟨_, completes_succ.mpr ⟨0x80, rest, rfl, by decide, h⟩⟩

/-- What a lead byte asks for can be had. -/
theorem exists_completes {a : UInt8} {e : Expected} (h : ofLead? a = some e) :
    ∃ bytes, e.Completes bytes := by
  obtain ⟨low, high, n⟩ := e
  have hlow : low.toNat ≤ high.toNat := by
    unfold ofLead? at h
    repeat' split at h
    all_goals cases h
    all_goals decide
  cases n with
  | zero => exact ⟨[low], completes_zero.mpr ⟨low, rfl, Nat.le_refl _, hlow⟩⟩
  | succ n =>
    obtain ⟨rest, hrest⟩ := exists_completes_continuations n
    exact ⟨low :: rest, completes_succ.mpr ⟨low, rest, rfl, ⟨Nat.le_refl _, hlow⟩, hrest⟩⟩

end Expected

/-! ## The bytes of a character -/

/-- A lead byte and what it asks for encode a character. -/
theorem encode_charOf {lead : UInt8} {tail : List UInt8} {e : Expected}
    (he : Expected.ofLead? lead = some e) (h : e.Completes tail) :
    utf8EncodeChar (charOf (lead :: tail)) = lead :: tail := by
  rcases Expected.lead_range he with ⟨hl, hl'⟩ | ⟨hl, hl'⟩ | ⟨hl, hl'⟩
  · cases he.symm.trans (Expected.ofLead?_two hl hl')
    obtain ⟨b, rfl, hb⟩ := Expected.completes_zero.mp h
    exact encode_charOf_two hl hl' hb
  · obtain ⟨low, high, he', hadmits⟩ := Expected.ofLead?_three hl hl'
    cases he.symm.trans he'
    obtain ⟨b, _, rfl, hb, h⟩ := Expected.completes_succ.mp h
    obtain ⟨c, rfl, hc⟩ := Expected.completes_zero.mp h
    obtain ⟨hb, hlow, hhigh⟩ := (hadmits b).mp hb
    exact encode_charOf_three hl hl' hb hc hlow hhigh
  · obtain ⟨low, high, he', hadmits⟩ := Expected.ofLead?_four hl hl'
    cases he.symm.trans he'
    obtain ⟨b, _, rfl, hb, h⟩ := Expected.completes_succ.mp h
    obtain ⟨c, _, rfl, hc, h⟩ := Expected.completes_succ.mp h
    obtain ⟨d, rfl, hd⟩ := Expected.completes_zero.mp h
    obtain ⟨hb, hlow, hhigh⟩ := (hadmits b).mp hb
    exact encode_charOf_four hl hl' hb hc hd hlow hhigh

/-- A character is one byte below 0x80, or a lead byte and what it asks for. -/
theorem encode_cons {c : Char} {lead : UInt8} {tail : List UInt8}
    (h : utf8EncodeChar c = lead :: tail) :
    (lead.toNat < 0x80 ∧ tail = []) ∨
      ∃ e, Expected.ofLead? lead = some e ∧ e.Completes tail := by
  have hc := isValidChar_toNat c
  rw [encode_eq] at h
  split at h
  · obtain ⟨rfl, rfl⟩ := List.cons.inj h
    refine .inl ⟨?_, rfl⟩
    rw [UInt8.toNat_ofNat']
    omega
  right
  split at h
  · obtain ⟨rfl, rfl⟩ := List.cons.inj h
    refine ⟨_, Expected.ofLead?_two ?_ ?_, Expected.completes_zero.mpr ⟨_, rfl, ?_⟩⟩
    all_goals simp only [UInt8.toNat_ofNat', UInt8.reduceToNat]; omega
  split at h
  · obtain ⟨rfl, rfl⟩ := List.cons.inj h
    obtain ⟨low, high, he, hadmits⟩ :=
      Expected.ofLead?_three (a := .ofNat (c.toNat / 4096 % 16 + 0xE0))
        (by rw [UInt8.toNat_ofNat']; omega) (by rw [UInt8.toNat_ofNat']; omega)
    refine ⟨_, he, Expected.completes_succ.mpr ⟨_, _, rfl, (hadmits _).mpr ?_,
      Expected.completes_zero.mpr ⟨_, rfl, ?_⟩⟩⟩
    all_goals simp only [Continues, UInt8.toNat_ofNat', UInt8.reduceToNat]; omega
  · obtain ⟨rfl, rfl⟩ := List.cons.inj h
    obtain ⟨low, high, he, hadmits⟩ :=
      Expected.ofLead?_four (a := .ofNat (c.toNat / 262144 % 8 + 0xF0))
        (by rw [UInt8.toNat_ofNat']; omega) (by rw [UInt8.toNat_ofNat']; omega)
    refine ⟨_, he, Expected.completes_succ.mpr ⟨_, _, rfl, (hadmits _).mpr ?_,
      Expected.completes_succ.mpr ⟨_, _, rfl, ?_, Expected.completes_zero.mpr ⟨_, rfl, ?_⟩⟩⟩⟩
    all_goals simp only [Continues, UInt8.toNat_ofNat', UInt8.reduceToNat]; omega

theorem exists_encode_iff {lead : UInt8} {tail : List UInt8} {e : Expected}
    (he : Expected.ofLead? lead = some e) :
    (∃ c, utf8EncodeChar c = lead :: tail) ↔ e.Completes tail := by
  constructor
  · rintro ⟨c, hc⟩
    rcases encode_cons hc with ⟨hl, -⟩ | ⟨e', he', h⟩
    · have := Expected.lead_range he
      omega
    · cases he.symm.trans he'
      exact h
  · exact fun h => ⟨_, encode_charOf he h⟩

end LinkProbe.Utf8
