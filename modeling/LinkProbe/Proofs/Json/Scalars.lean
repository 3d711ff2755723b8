import LinkProbe.Json.Scalar
import LinkProbe.Proofs.Json.Naturals
import LinkProbe.Proofs.Json.Texts

/-!
# What the readers take and refuse

A reader of one type takes the values of that type, in all the ways to write them, and refuses all
others.

* `Reads`, `Refuses`: a reader takes a value, or refuses it, wherever and however it is written.
* `reads_naturalUpTo`, `reads_text`, `reads_boolean`, `reads_variant`, `reads_nullable_some`: the
  values that each reader takes; `refuses_naturalUpTo` and so on: those that it refuses.
* `read_of_reads`, `read_of_refuses`: the same for a document.
-/

namespace LinkProbe.Json

variable {α β : Type} {reader : Reader α} {value : Value} {a : α} {c : Char}
  {before text rest cs : List Char} {wanted : String} {limit n : Nat}

/-- The reader takes the value for `a`, however it is written and whatever follows. -/
def Reads (reader : Reader α) (value : Value) (a : α) : Prop :=
  ∀ ⦃before text rest⦄, Blank before → Written value text → Ended rest →
    reader (before ++ (text ++ rest)) = .ok (a, rest)

/-- The reader refuses the value, however it is written and whatever follows. -/
def Refuses (reader : Reader α) (value : Value) : Prop :=
  ∀ ⦃before text rest⦄, Blank before → Written value text → Ended rest →
    ∃ refusal, reader (before ++ (text ++ rest)) = .error refusal

theorem Reads.map (h : Reads reader value a) (f : α → β) :
    Reads (fun rest => (reader rest).map fun (value, rest) => (f value, rest)) value (f a) := by
  intro before text rest hbefore htext hrest
  show Except.map _ (reader _) = _
  rw [h hbefore htext hrest]
  rfl

theorem Refuses.map (h : Refuses reader value) (f : α → β) :
    Refuses (fun rest => (reader rest).map fun (value, rest) => (f value, rest)) value := by
  intro before text rest hbefore htext hrest
  obtain ⟨refusal, hrefusal⟩ := h hbefore htext hrest
  show ∃ refusal, Except.map _ (reader _) = _
  rw [hrefusal]
  exact ⟨refusal, rfl⟩

/-! ## The first character of a value -/

/-- The characters that a value can begin with. -/
def Opens : Value → Char → Prop
  | .null, c => c = 'n'
  | .boolean true, c => c = 't'
  | .boolean false, c => c = 'f'
  | .natural _, c => c.isDigit = true
  | .text _, c => c = '"'
  | .object _, c => c = '\x7b'

theorem Written.opens (h : Written value text) : ∃ c cs, text = c :: cs ∧ Opens value c := by
  cases h with
  | natural n =>
    obtain ⟨-, hdigits⟩ | ⟨-, c, ds, hdigits, hc, -⟩ := toDigits_cases n
    · exact ⟨'0', [], hdigits, rfl⟩
    · exact ⟨c, ds, hdigits, hc⟩
  | null | yes | no | text _ | empty _ | object _ _ _ => exact ⟨_, _, rfl, rfl⟩

theorem Opens.eq_text (h : Opens value '"') : ∃ s, value = .text s := by
  rcases value with _ | (_ | _) | n | s | ms <;> simp_all [Opens]

theorem Opens.eq_null (h : Opens value 'n') : value = .null := by
  rcases value with _ | (_ | _) | n | s | ms <;> simp_all [Opens]

theorem Opens.eq_yes (h : Opens value 't') : value = .boolean true := by
  rcases value with _ | (_ | _) | n | s | ms <;> simp_all [Opens]

theorem Opens.eq_no (h : Opens value 'f') : value = .boolean false := by
  rcases value with _ | (_ | _) | n | s | ms <;> simp_all [Opens]

theorem Opens.eq_object (h : Opens value '\x7b') : ∃ ms, value = .object ms := by
  rcases value with _ | (_ | _) | n | s | ms <;> simp_all [Opens]

theorem Opens.eq_natural (h : Opens value c) (hc : c.isDigit = true) : ∃ n, value = .natural n := by
  rcases value with _ | (_ | _) | n | s | ms <;> simp_all [Opens]

theorem Opens.ne_minus (h : Opens value c) : c ≠ '-' := by
  rintro rfl
  rcases value with _ | (_ | _) | n | s | ms <;> simp_all [Opens]

theorem Opens.not_isSpace (h : Opens value c) : isSpace c = false := by
  rcases value with _ | (_ | _) | n | s | ms
  case natural => exact not_isSpace_of_isDigit h
  all_goals
    rw [show c = _ from h]
    decide

theorem skipSpace_append (hbefore : Blank before) (rest : List Char) :
    skipSpace (before ++ rest) = skipSpace rest :=
  List.dropWhile_append_of_pos hbefore

theorem skipSpace_cons (h : isSpace c = false) (rest : List Char) :
    skipSpace (c :: rest) = c :: rest :=
  List.dropWhile_cons_of_neg (by simp [h])

/-- White space ends where the value begins. -/
theorem skipSpace_written (hbefore : Blank before) (htext : Written value text) (rest : List Char) :
    skipSpace (before ++ (text ++ rest)) = text ++ rest := by
  obtain ⟨c, cs, rfl, hc⟩ := htext.opens
  rw [skipSpace_append hbefore, List.cons_append, skipSpace_cons hc.not_isSpace]

theorem token_written (accept : Reader α) (hbefore : Blank before) (htext : Written value text)
    (rest : List Char) : token accept (before ++ (text ++ rest)) = accept (text ++ rest) := by
  rw [token, skipSpace_written hbefore htext]
  obtain ⟨c, cs, rfl, -⟩ := htext.opens
  rfl

/-! ## Natural numbers -/

/-- A number is read as a number, and then asked for its size. -/
theorem naturalUpTo_natural (limit : Nat) (wanted : String) (hbefore : Blank before) (n : Nat)
    (rest : List Char) :
    naturalUpTo limit wanted (before ++ (Nat.toDigits 10 n ++ rest)) =
      readNumber false (Nat.toDigits 10 n ++ rest) >>= fun (number, rest) =>
        number.upTo limit wanted rest := by
  rw [naturalUpTo, token_written _ hbefore (.natural n)]
  obtain ⟨c, cs, hdigits, hc⟩ := (Written.natural n).opens
  have hminus := hc.ne_minus
  rw [hdigits, List.cons_append]
  split
  · next heq => exact absurd (List.cons.inj heq).1 hminus
  · next heq =>
    obtain ⟨rfl, rfl⟩ := List.cons.inj heq
    rw [if_pos (show c.isDigit = true from hc)]
  · next heq => exact absurd heq (List.cons_ne_nil _ _)

theorem reads_naturalUpTo (hlimit : limit ≤ natural64) (h : n ≤ limit) (wanted : String) :
    Reads (naturalUpTo limit wanted) (.natural n) n := by
  intro before text rest hbefore htext hrest
  cases htext
  rw [naturalUpTo_natural limit wanted hbefore,
    readNumber_toDigits (Nat.le_trans h hlimit) hrest]
  exact if_pos h

theorem refuses_naturalUpTo (h : ∀ n, value = .natural n → limit < n) (wanted : String) :
    Refuses (naturalUpTo limit wanted) value := by
  intro before text rest hbefore htext hrest
  by_cases hnatural : ∃ n, value = .natural n
  · obtain ⟨n, rfl⟩ := hnatural
    cases htext
    rw [naturalUpTo_natural limit wanted hbefore]
    by_cases hn : n ≤ natural64
    · rw [readNumber_toDigits hn hrest]
      exact ⟨_, if_neg (Nat.not_le.mpr (h n rfl))⟩
    · rcases readNumber_toDigits_large (Nat.not_le.mp hn) hrest with ⟨refusal, hread⟩ |
        ⟨double, hread⟩ <;> rw [hread]
      · exact ⟨refusal, rfl⟩
      · exact ⟨_, rfl⟩
  · rw [naturalUpTo, token_written _ hbefore htext]
    obtain ⟨c, cs, rfl, hc⟩ := htext.opens
    have hdigit : ¬ c.isDigit = true := fun hdigit => hnatural (hc.eq_natural hdigit)
    have hminus := hc.ne_minus
    rw [List.cons_append]
    split
    · next heq => exact absurd (List.cons.inj heq).1 hminus
    · next heq =>
      obtain ⟨rfl, rfl⟩ := List.cons.inj heq
      exact ⟨_, if_neg hdigit⟩
    · exact ⟨_, rfl⟩

/-! ## Texts -/

theorem reads_textFor (wanted s : String) : Reads (textFor wanted) (.text s) s := by
  intro before text rest hbefore htext hrest
  rw [textFor, token_written _ hbefore htext]
  cases htext with
  | text hbody =>
    simp only [List.cons_append, List.append_assoc, List.nil_append]
    exact readText_spelled hbody rest

theorem refuses_textFor (h : ∀ s, value ≠ .text s) (wanted : String) :
    Refuses (textFor wanted) value := by
  intro before text rest hbefore htext hrest
  rw [textFor, token_written _ hbefore htext]
  obtain ⟨c, cs, rfl, hc⟩ := htext.opens
  rw [List.cons_append]
  split
  · next heq =>
    rw [(List.cons.inj heq).1] at hc
    obtain ⟨s, hs⟩ := hc.eq_text
    exact absurd hs (h s)
  · exact ⟨_, rfl⟩

/-! ## Truth values -/

theorem reads_boolean (b : Bool) : Reads boolean (.boolean b) b := by
  intro before text rest hbefore htext hrest
  rw [boolean, token_written _ hbefore htext]
  cases htext <;> rfl

theorem refuses_boolean (h : ∀ b, value ≠ .boolean b) : Refuses boolean value := by
  intro before text rest hbefore htext hrest
  rw [boolean, token_written _ hbefore htext]
  obtain ⟨c, cs, rfl, hc⟩ := htext.opens
  rw [List.cons_append]
  split
  · next heq =>
    rw [(List.cons.inj heq).1] at hc
    exact absurd hc.eq_yes (h true)
  · next heq =>
    rw [(List.cons.inj heq).1] at hc
    exact absurd hc.eq_no (h false)
  · exact ⟨_, rfl⟩

/-! ## Values that may be absent -/

theorem reads_nullable_none (reader : Reader α) : Reads (nullable reader) .null none := by
  intro before text rest hbefore htext hrest
  rw [nullable, skipSpace_written hbefore htext]
  cases htext
  rfl

/-- A value other than `null` is left to the reader. -/
theorem nullable_of_ne_null (hvalue : value ≠ .null) (reader : Reader α) (hbefore : Blank before)
    (htext : Written value text) (rest : List Char) :
    nullable reader (before ++ (text ++ rest)) =
      (reader (text ++ rest)).map fun (value, rest) => (some value, rest) := by
  rw [nullable, skipSpace_written hbefore htext]
  obtain ⟨c, cs, rfl, hc⟩ := htext.opens
  split
  · next heq =>
    rw [(List.cons.inj heq).1] at hc
    exact absurd hc.eq_null hvalue
  · rfl

theorem reads_nullable_some (hvalue : value ≠ .null) (h : Reads reader value a) :
    Reads (nullable reader) value (some a) := by
  intro before text rest hbefore htext hrest
  have hread := h blank_nil htext hrest
  rw [List.nil_append] at hread
  rw [nullable_of_ne_null hvalue reader hbefore htext, hread]
  rfl

theorem refuses_nullable (hvalue : value ≠ .null) (h : Refuses reader value) :
    Refuses (nullable reader) value := by
  intro before text rest hbefore htext hrest
  obtain ⟨refusal, hread⟩ := h blank_nil htext hrest
  rw [List.nil_append] at hread
  rw [nullable_of_ne_null hvalue reader hbefore htext, hread]
  exact ⟨refusal, rfl⟩

/-! ## Names -/

theorem variant_text (options : List (String × α)) {s : String} (hbefore : Blank before)
    (htext : Written (.text s) text) (rest : List Char) :
    variant options (before ++ (text ++ rest)) = chosen options s rest := by
  rw [variant, token_written _ hbefore htext]
  cases htext with
  | text hbody =>
    simp only [List.cons_append, List.append_assoc, List.nil_append, readText_spelled hbody rest]
    rfl

theorem reads_variant {options : List (String × α)} {s : String} (h : options.lookup s = some a) :
    Reads (variant options) (.text s) a := by
  intro before text rest hbefore htext hrest
  rw [variant_text options hbefore htext, chosen, h]

/-- An object can stand for a name, so it is left out here. -/
theorem refuses_variant {options : List (String × α)} (hscalar : value.IsScalar)
    (h : ∀ s, value = .text s → options.lookup s = none) : Refuses (variant options) value := by
  intro before text rest hbefore htext hrest
  by_cases hs : ∃ s, value = .text s
  · obtain ⟨s, rfl⟩ := hs
    rw [variant_text options hbefore htext, chosen, h s rfl]
    exact ⟨_, rfl⟩
  · rw [variant, token_written _ hbefore htext]
    obtain ⟨c, cs, rfl, hc⟩ := htext.opens
    rw [List.cons_append]
    split
    · next heq =>
      rw [(List.cons.inj heq).1] at hc
      exact absurd hc.eq_text hs
    · next heq =>
      rw [(List.cons.inj heq).1] at hc
      obtain ⟨ms, rfl⟩ := hc.eq_object
      exact absurd hscalar id
    · exact ⟨_, rfl⟩

/-! ## Documents -/

theorem read_of_reads {document : String} (h : Reads reader value a)
    (hdocument : Document value document) : read reader document = .ok a := by
  obtain ⟨before, text, after, hbefore, htext, hafter, hdocument⟩ := hdocument
  have hrest : skipSpace after = [] := by simpa [skipSpace] using skipSpace_append hafter []
  simp only [read, hdocument, h hbefore htext hafter.ended, hrest]

theorem read_of_refuses {document : String} (h : Refuses reader value)
    (hdocument : Document value document) : ∃ fault, read reader document = .error fault := by
  obtain ⟨before, text, after, hbefore, htext, hafter, hdocument⟩ := hdocument
  obtain ⟨refusal, hrefusal⟩ := h hbefore htext hafter.ended
  exact ⟨_, by simp only [read, hdocument, hrefusal]; rfl⟩

end LinkProbe.Json
