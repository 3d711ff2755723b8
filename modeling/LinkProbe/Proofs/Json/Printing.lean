import LinkProbe.Proofs.Json.Naturals
import LinkProbe.Proofs.Json.Texts

/-!
# What the printer writes

Both layouts write a value in one of the ways there are, and they differ in white space alone.

* `written_compact`, `written_pretty`: each layout writes the value.
* `document_compact`, `document_pretty`: so what is printed is a document that holds it.
* `squeeze`: a text without the white space that stands outside of quotes.
* `squeeze_pretty`: without it the layout with lines is the one without.
-/

namespace LinkProbe.Json

variable {space rest : List Char}

theorem blank_newLine (depth : Nat) : Blank (newLine depth) := by
  intro c hc
  rcases List.mem_cons.mp hc with rfl | hspace
  · rfl
  · rw [List.eq_of_mem_replicate hspace]
    rfl

/-! ## Without white space -/

mutual

theorem written_compact : ∀ value : Value, Written value (writeCompact value)
  | .null => .null
  | .boolean true => .yes
  | .boolean false => .no
  | .natural n => .natural n
  | .text s => .text (spelled_flatMap_writeChar s.toList)
  | .object [] => .empty blank_nil
  | .object (m :: ms) => by
    have hwritten := Written.object blank_nil (member_compact m) (further_compact ms)
    simpa only [writeCompact, List.nil_append, List.cons_append, List.append_assoc] using hwritten

theorem member_compact : ∀ m : String × Value, MemberWritten Written m (writeMember m)
  | (key, value) => by
    have hmember := MemberWritten.mk (spelled_flatMap_writeChar key.toList) blank_nil blank_nil
      (written_compact value)
    simpa only [writeMember, writeText, List.nil_append, List.cons_append, List.append_assoc]
      using hmember

theorem further_compact :
    ∀ ms : List (String × Value), FurtherWritten Written ms (writeMembers ms ++ ['\x7d'])
  | [] => .close blank_nil
  | m :: ms => by
    have hfurther := FurtherWritten.comma blank_nil blank_nil (member_compact m)
      (further_compact ms)
    simpa only [writeMembers, List.nil_append, List.cons_append, List.append_assoc] using hfurther

end

/-! ## With a line for each member -/

mutual

theorem written_pretty (depth : Nat) : ∀ value : Value, Written value (writePretty depth value)
  | .null => .null
  | .boolean true => .yes
  | .boolean false => .no
  | .natural n => .natural n
  | .text s => .text (spelled_flatMap_writeChar s.toList)
  | .object [] => .empty blank_nil
  | .object (m :: ms) => by
    have hwritten := Written.object (blank_newLine (depth + 1)) (member_pretty (depth + 1) m)
      (further_pretty depth ms)
    simpa only [writePretty, List.cons_append, List.append_assoc] using hwritten

theorem member_pretty (depth : Nat) :
    ∀ m : String × Value, MemberWritten Written m (writePrettyMember depth m)
  | (key, value) => by
    have hmember := MemberWritten.mk (spelled_flatMap_writeChar key.toList) blank_nil blank_space
      (written_pretty depth value)
    simpa only [writePrettyMember, writeText, List.nil_append, List.cons_append,
      List.append_assoc] using hmember

theorem further_pretty (depth : Nat) : ∀ ms : List (String × Value),
    FurtherWritten Written ms
      (writePrettyMembers (depth + 1) ms ++ (newLine depth ++ ['\x7d']))
  | [] => .close (blank_newLine depth)
  | m :: ms => by
    have hfurther := FurtherWritten.comma blank_nil (blank_newLine (depth + 1))
      (member_pretty (depth + 1) m) (further_pretty depth ms)
    simpa only [writePrettyMembers, List.nil_append, List.cons_append, List.append_assoc]
      using hfurther

end

theorem document_of_written {value : Value} {text : List Char} (h : Written value text) :
    Document value (.ofList text) :=
  ⟨[], text, [], blank_nil, h, blank_nil, by simp⟩

/-- What the printer writes on one line is a document that holds the value. -/
theorem document_compact (value : Value) : Document value (compact value) :=
  document_of_written (written_compact value)

/-- What the printer writes on many lines is a document that holds the value. -/
theorem document_pretty (value : Value) : Document value (pretty value) :=
  document_of_written (written_pretty 0 value)

/-! ## The two layouts -/

mutual

/-- The text without the white space that stands outside of quotes. -/
def squeeze : List Char → List Char
  | [] => []
  | c :: rest =>
    if c = '"' then c :: squeezeQuoted rest
    else if isSpace c then squeeze rest
    else c :: squeeze rest

/-- The text, which begins between quotes, without the white space that stands outside of quotes. -/
def squeezeQuoted : List Char → List Char
  | [] => []
  | '\\' :: c :: rest => '\\' :: c :: squeezeQuoted rest
  | c :: rest => c :: if c = '"' then squeeze rest else squeezeQuoted rest

end

theorem squeeze_blank (h : Blank space) (rest : List Char) :
    squeeze (space ++ rest) = squeeze rest := by
  induction space with
  | nil => rfl
  | cons c space ih =>
    have hc : isSpace c = true := h c List.mem_cons_self
    have hquote : c ≠ '"' := by
      rintro rfl
      exact absurd hc (by decide)
    rw [List.cons_append, squeeze, if_neg hquote, if_pos hc]
    exact ih fun d hd => h d (List.mem_cons_of_mem c hd)

/-- Outside of quotes all but white space stays. -/
theorem squeeze_solid {text : List Char} (h : ∀ c ∈ text, c ≠ '"' ∧ isSpace c = false)
    (rest : List Char) : squeeze (text ++ rest) = text ++ squeeze rest := by
  induction text with
  | nil => rfl
  | cons c text ih =>
    obtain ⟨hquote, hspace⟩ := h c List.mem_cons_self
    simp only [List.cons_append, squeeze, hquote, hspace, ↓reduceIte, Bool.false_eq_true]
    rw [ih fun d hd => h d (List.mem_cons_of_mem c hd)]

theorem squeezeQuoted_plain {c : Char} (hquote : c ≠ '"') (hslash : c ≠ '\\') (rest : List Char) :
    squeezeQuoted (c :: rest) = c :: squeezeQuoted rest := by
  rw [squeezeQuoted, if_neg hquote]
  intro _ _ hc
  exact absurd hc hslash

theorem squeezeQuoted_writeChar (c : Char) (rest : List Char) :
    squeezeQuoted (writeChar c ++ rest) = writeChar c ++ squeezeQuoted rest := by
  unfold writeChar
  split
  case h_8 hquote hslash _ _ _ _ _ =>
    split
    · next hcontrol =>
      have hdigit : ∀ n < 16, Nat.digitChar n ≠ '"' ∧ Nat.digitChar n ≠ '\\' := by decide
      have hsmall : c.toNat < 32 := hcontrol
      obtain ⟨hhigh, hhigh'⟩ := hdigit (c.toNat / 16) (by omega)
      obtain ⟨hlow, hlow'⟩ := hdigit (c.toNat % 16) (by omega)
      simp only [List.cons_append, List.nil_append, squeezeQuoted,
        squeezeQuoted_plain (show '0' ≠ '"' by decide) (by decide),
        squeezeQuoted_plain hhigh hhigh', squeezeQuoted_plain hlow hlow']
    · exact squeezeQuoted_plain hquote hslash rest
  all_goals rfl

/-- A text in quotes stays as it is. -/
theorem squeeze_writeText (s : String) (rest : List Char) :
    squeeze (writeText s ++ rest) = writeText s ++ squeeze rest := by
  have hbody : ∀ text : List Char, squeezeQuoted (text.flatMap writeChar ++ '"' :: rest) =
      text.flatMap writeChar ++ '"' :: squeeze rest := by
    intro text
    induction text with
    | nil => rfl
    | cons c text ih =>
      rw [List.flatMap_cons, List.append_assoc, squeezeQuoted_writeChar, ih, List.append_assoc]
  simp only [writeText, List.cons_append, List.append_assoc, List.nil_append, squeeze, ↓reduceIte,
    hbody]

theorem squeeze_toDigits (n : Nat) (rest : List Char) :
    squeeze (Nat.toDigits 10 n ++ rest) = Nat.toDigits 10 n ++ squeeze rest := by
  refine squeeze_solid (fun c hc => ?_) rest
  have hdigit : c.isDigit = true := Nat.isDigit_of_mem_toDigits (by decide) (by decide) hc
  refine ⟨?_, not_isSpace_of_isDigit hdigit⟩
  rintro rfl
  exact absurd hdigit (by decide)

mutual

/-- Without white space the layout with lines is the one without. -/
theorem squeeze_pretty (depth : Nat) : ∀ (value : Value) (rest : List Char),
    squeeze (writePretty depth value ++ rest) = writeCompact value ++ squeeze rest
  | .null, rest => rfl
  | .boolean true, rest => rfl
  | .boolean false, rest => rfl
  | .natural n, rest => squeeze_toDigits n rest
  | .text s, rest => squeeze_writeText s rest
  | .object [], rest => rfl
  | .object (m :: ms), rest => by
    have hopen : ∀ rest, squeeze ('\x7b' :: rest) = '\x7b' :: squeeze rest := fun _ => rfl
    have hclose : squeeze ('\x7d' :: rest) = '\x7d' :: squeeze rest := rfl
    simp only [writePretty, writeCompact, List.cons_append, List.append_assoc, List.nil_append,
      hopen, hclose, squeeze_blank (blank_newLine _), squeeze_prettyMember (depth + 1) m,
      squeeze_prettyMembers (depth + 1) ms]

theorem squeeze_prettyMember (depth : Nat) : ∀ (m : String × Value) (rest : List Char),
    squeeze (writePrettyMember depth m ++ rest) = writeMember m ++ squeeze rest
  | (key, value), rest => by
    have hcolon : ∀ rest, squeeze (':' :: ' ' :: rest) = ':' :: squeeze rest := fun _ => rfl
    simp only [writePrettyMember, writeMember, List.cons_append, List.append_assoc,
      squeeze_writeText, hcolon, squeeze_pretty depth value]

theorem squeeze_prettyMembers (depth : Nat) : ∀ (ms : List (String × Value)) (rest : List Char),
    squeeze (writePrettyMembers depth ms ++ rest) = writeMembers ms ++ squeeze rest
  | [], rest => rfl
  | m :: ms, rest => by
    have hcomma : ∀ rest, squeeze (',' :: rest) = ',' :: squeeze rest := fun _ => rfl
    simp only [writePrettyMembers, writeMembers, List.cons_append, List.append_assoc, hcomma,
      squeeze_blank (blank_newLine _), squeeze_prettyMember depth m,
      squeeze_prettyMembers depth ms]

end

end LinkProbe.Json
