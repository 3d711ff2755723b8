import LinkProbe.Payload
import LinkProbe.Proofs.Utf8.Encoding

/-!
# Dividing bytes into characters and bad pieces

What a division of bytes is, said by the bytes of characters alone, without a scanner.

* `WellFormed`, `Extendable`: bytes that encode a text, and bytes that more bytes can make so.
* `Begins`: some bytes of a character, from its first one on, but not all.
* `Subpart`: the bad piece that bytes start with, where they start with no character. It is as long
  as it can be and still begin some character, and at least one byte.
* `Division`: the bytes from left to right as characters and bad pieces.
* `Division.unique`: there is one division at most (that there is one is for the scanner to show).
-/

namespace LinkProbe.Utf8

open String (utf8EncodeChar)

/-! ## Encoded texts -/

theorem toList_loop (bytes : ByteArray) (i : Nat) (acc : List UInt8) :
    ByteArray.toList.loop bytes i acc = acc.reverse ++ bytes.data.toList.drop i := by
  fun_induction ByteArray.toList.loop bytes i acc with
  | case1 i acc h ih =>
    have hi : i < bytes.data.toList.length := h
    rw [ih, List.drop_eq_getElem_cons hi]
    simp [ByteArray.get!, getElem!_pos bytes.data i h]
  | case2 i acc h =>
    have hi : bytes.data.toList.length ≤ i := Nat.le_of_not_lt h
    rw [List.drop_eq_nil_of_le hi, List.append_nil]

theorem bytesOf_eq (text : String) : bytesOf text = text.toList.flatMap utf8EncodeChar := by
  have h : text.toUTF8.toList = text.toUTF8.data.toList := toList_loop text.toUTF8 0 []
  rw [bytesOf, h, String.toUTF8_eq_toByteArray, ← String.utf8Encode_toList, List.utf8Encode,
    List.toList_data_toByteArray]

@[simp] theorem bytesOf_ofList (chars : List Char) :
    bytesOf (.ofList chars) = chars.flatMap utf8EncodeChar := by
  rw [bytesOf_eq, String.toList_ofList]

theorem bytesOf_append (first second : String) :
    bytesOf (first ++ second) = bytesOf first ++ bytesOf second := by
  simp only [bytesOf_eq, String.toList_append, List.flatMap_append]

/-- The bytes encode a text. -/
def WellFormed (bytes : List UInt8) : Prop := ∃ text, bytesOf text = bytes

/-- More bytes can make the bytes encode a text. -/
def Extendable (bytes : List UInt8) : Prop := ∃ more, WellFormed (bytes ++ more)

theorem wellFormed_iff {bytes : List UInt8} :
    WellFormed bytes ↔ ∃ chars : List Char, chars.flatMap utf8EncodeChar = bytes := by
  constructor
  · rintro ⟨text, rfl⟩
    exact ⟨text.toList, (bytesOf_eq text).symm⟩
  · rintro ⟨chars, rfl⟩
    exact ⟨.ofList chars, bytesOf_ofList chars⟩

theorem WellFormed.extendable {bytes : List UInt8} (h : WellFormed bytes) : Extendable bytes :=
  ⟨[], by rwa [List.append_nil]⟩

theorem Extendable.of_append {bytes more : List UInt8} (h : Extendable (bytes ++ more)) :
    Extendable bytes := by
  obtain ⟨rest, h⟩ := h
  exact ⟨more ++ rest, by rwa [← List.append_assoc]⟩

/-! ## No character begins another -/

theorem encode_inj_append {c d : Char} {s t : List UInt8}
    (h : utf8EncodeChar c ++ s = utf8EncodeChar d ++ t) : c = d ∧ s = t := by
  have hc := ByteArray.utf8DecodeChar?_utf8EncodeChar_append (b := s.toByteArray) (c := c)
  have hd := ByteArray.utf8DecodeChar?_utf8EncodeChar_append (b := t.toByteArray) (c := d)
  rw [← List.toByteArray_append] at hc hd
  rw [h, hd] at hc
  obtain rfl := Option.some.inj hc
  exact ⟨rfl, List.append_cancel_left h⟩

theorem encode_eq_of_prefix {c d : Char} (h : utf8EncodeChar c <+: utf8EncodeChar d) : c = d := by
  obtain ⟨rest, h⟩ := h
  exact (encode_inj_append (h.trans (List.append_nil _).symm)).1

theorem wellFormed_nil : WellFormed [] := wellFormed_iff.mpr ⟨[], rfl⟩

theorem encode_append_wellFormed {c : Char} {bytes : List UInt8} :
    WellFormed (utf8EncodeChar c ++ bytes) ↔ WellFormed bytes := by
  simp only [wellFormed_iff]
  constructor
  · rintro ⟨_ | ⟨d, chars⟩, h⟩
    · simp [String.utf8EncodeChar_ne_nil] at h
    · rw [List.flatMap_cons] at h
      exact ⟨chars, (encode_inj_append h).2⟩
  · rintro ⟨chars, rfl⟩
    exact ⟨c :: chars, List.flatMap_cons⟩

theorem encode_append_extendable {c : Char} {bytes : List UInt8} :
    Extendable (utf8EncodeChar c ++ bytes) ↔ Extendable bytes := by
  simp only [Extendable, List.append_assoc, encode_append_wellFormed]

theorem WellFormed.append_iff {first rest : List UInt8} (h : WellFormed first) :
    WellFormed (first ++ rest) ↔ WellFormed rest := by
  obtain ⟨chars, rfl⟩ := wellFormed_iff.mp h
  clear h
  induction chars with
  | nil => exact Iff.rfl
  | cons c chars ih =>
    rw [List.flatMap_cons, List.append_assoc, encode_append_wellFormed]
    exact ih

theorem WellFormed.append_extendable_iff {first rest : List UInt8} (h : WellFormed first) :
    Extendable (first ++ rest) ↔ Extendable rest := by
  simp only [Extendable, List.append_assoc, h.append_iff]

/-! ## Beginnings of characters -/

/-- The bytes begin a character: they are some of its bytes, but not all. -/
def Begins (bytes : List UInt8) : Prop :=
  bytes ≠ [] ∧ ∃ c rest, rest ≠ [] ∧ bytes ++ rest = utf8EncodeChar c

namespace Begins

variable {bytes : List UInt8}

theorem ne_encode (h : Begins bytes) (c : Char) : ¬ utf8EncodeChar c <+: bytes := by
  obtain ⟨-, d, rest, hrest, hd⟩ := h
  intro hc
  obtain rfl := encode_eq_of_prefix (hc.trans ⟨rest, hd⟩)
  have := hc.length_le
  rw [← hd, List.length_append] at this
  exact hrest (List.eq_nil_of_length_eq_zero (by omega))

theorem of_prefix (h : Begins bytes) {first : List UInt8} (hf : first <+: bytes)
    (hne : first ≠ []) : Begins first := by
  obtain ⟨-, c, rest, hrest, hc⟩ := h
  obtain ⟨more, rfl⟩ := hf
  exact ⟨hne, c, more ++ rest, by simp [hrest], by rw [← hc, List.append_assoc]⟩

theorem extendable (h : Begins bytes) : Extendable bytes := by
  obtain ⟨-, c, rest, -, hc⟩ := h
  exact ⟨rest, wellFormed_iff.mpr ⟨[c], by simp [hc]⟩⟩

theorem length_le (h : Begins bytes) : bytes.length ≤ 3 := by
  obtain ⟨-, c, rest, hrest, hc⟩ := h
  have hlen := congrArg List.length hc
  have hpos := List.length_pos_iff.mpr hrest
  have hsize := c.utf8Size_le_four
  rw [List.length_append, String.length_utf8EncodeChar] at hlen
  omega

end Begins

/-- Bytes that start with no character can be extended only if they begin one. -/
theorem extendable_iff_of_no_char {bytes : List UInt8}
    (h : ∀ c, ¬ utf8EncodeChar c <+: bytes) : Extendable bytes ↔ bytes = [] ∨ Begins bytes := by
  constructor
  · rintro ⟨more, hmore⟩
    obtain ⟨_ | ⟨c, chars⟩, hc⟩ := wellFormed_iff.mp hmore
    · exact .inl (List.append_eq_nil_iff.mp hc.symm).1
    · rw [List.flatMap_cons] at hc
      rcases List.append_eq_append_iff.mp hc with ⟨rest, hb, -⟩ | ⟨rest, hb, -⟩
      · exact absurd ⟨rest, hb.symm⟩ (h c)
      · by_cases hne : bytes = []
        · exact .inl hne
        · refine .inr ⟨hne, c, rest, ?_, hb.symm⟩
          rintro rfl
          exact h c ⟨[], by simpa using hb⟩
  · rintro (rfl | hb)
    · exact wellFormed_nil.extendable
    · exact hb.extendable

/-! ## Bad pieces -/

/-- The bytes start with no character, and `bad` is the bad piece that they start with: it begins a
character or is one byte, and is as long as possible. -/
structure Subpart (bad bytes : List UInt8) : Prop where
  isPrefix : bad <+: bytes
  noChar : ∀ c, ¬ utf8EncodeChar c <+: bytes
  shape : Begins bad ∨ bad.length = 1
  longest : ∀ first, first <+: bytes → Begins first → first.length ≤ bad.length

namespace Subpart

variable {bad bytes : List UInt8}

theorem length_pos (h : Subpart bad bytes) : 0 < bad.length := by
  rcases h.shape with hb | hb
  · exact List.length_pos_iff.mpr hb.1
  · omega

theorem length_le (h : Subpart bad bytes) : bad.length ≤ 3 := by
  rcases h.shape with hb | hb
  · exact hb.length_le
  · omega

theorem ne_nil (h : Subpart bad bytes) : bad ≠ [] := List.ne_nil_of_length_pos h.length_pos

theorem length_le_of {other : List UInt8} (h : Subpart bad bytes) (h' : Subpart other bytes) :
    bad.length ≤ other.length := by
  rcases h.shape with hb | hb
  · exact h'.longest bad h.isPrefix hb
  · have := h'.length_pos
    omega

theorem unique {other : List UInt8} (h : Subpart bad bytes) (h' : Subpart other bytes) :
    bad = other := by
  have hlen : bad.length = other.length := Nat.le_antisymm (h.length_le_of h') (h'.length_le_of h)
  have hpre := List.prefix_of_prefix_length_le h.isPrefix h'.isPrefix (Nat.le_of_eq hlen)
  exact hpre.eq_of_length hlen

/-- Bytes that begin a character are one bad piece when nothing follows. -/
theorem of_begins (h : Begins bytes) : Subpart bytes bytes where
  isPrefix := List.prefix_refl bytes
  noChar := h.ne_encode
  shape := .inl h
  longest _ hf _ := hf.length_le

end Subpart

/-! ## Divisions -/

/-- The bytes divide into the pieces. -/
inductive Division : List UInt8 → List Piece → Prop where
  | nil : Division [] []
  | char (c : Char) {bytes : List UInt8} {pieces : List Piece} :
    Division bytes pieces → Division (utf8EncodeChar c ++ bytes) (.char c :: pieces)
  | bad {bad bytes : List UInt8} {pieces : List Piece} :
    Subpart bad (bad ++ bytes) → Division bytes pieces →
    Division (bad ++ bytes) (.bad bad :: pieces)

namespace Division

theorem chars (text : List Char) :
    Division (text.flatMap utf8EncodeChar) (text.map .char) := by
  induction text with
  | nil => exact .nil
  | cons c text ih => exact .char c ih

/-- Bytes have one division at most. -/
theorem unique {bytes : List UInt8} {pieces others : List Piece} (h : Division bytes pieces)
    (h' : Division bytes others) : pieces = others := by
  induction h generalizing others with
  | nil =>
    generalize hbytes : ([] : List UInt8) = bytes at h'
    cases h' with
    | nil => rfl
    | char c _ => simp [String.utf8EncodeChar_ne_nil] at hbytes
    | bad hs _ => exact absurd (List.append_eq_nil_iff.mp hbytes.symm).1 hs.ne_nil
  | @char c bytes pieces _ ih =>
    generalize hbytes : utf8EncodeChar c ++ bytes = all at h'
    cases h' with
    | nil => simp [String.utf8EncodeChar_ne_nil] at hbytes
    | char d hd =>
      obtain ⟨rfl, rfl⟩ := encode_inj_append hbytes
      rw [ih hd]
    | bad hs _ => exact absurd ⟨bytes, hbytes⟩ (hs.noChar c)
  | @bad bad bytes pieces hs _ ih =>
    generalize hbytes : bad ++ bytes = all at h' hs
    cases h' with
    | nil => exact absurd (List.append_eq_nil_iff.mp hbytes).1 hs.ne_nil
    | char d hd => exact absurd ⟨_, rfl⟩ (hs.noChar d)
    | bad hs' hd =>
      obtain rfl := hs.unique hs'
      rw [ih (List.append_cancel_left hbytes ▸ hd)]

end Division

end LinkProbe.Utf8
