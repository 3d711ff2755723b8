import LinkProbe.Json.Record
import LinkProbe.Proofs.Json.Scalars

/-!
# Records are read from objects

The members of an object go into the draft of a record one after the other, in any order. What
becomes of an object follows from what becomes of each member.

* `Record.Takes`, `Record.Rejects`: a member goes into the draft, or it is refused.
* `Record.Fills`, `Record.Sticks`: all members go into the draft, or one of them is refused.
* `Record.members_fills`, `Record.members_sticks`: the loop over the members.
* `Record.reads_object`, `Record.refuses_object`: the object as a whole.
-/

namespace LinkProbe.Json

variable {σ α β : Type} {r : Record σ α} {draft next last : σ} {m : String × Value}
  {ms : List (String × Value)} {key : String} {value : Value} {a : α} {count : Nat}
  {body before after written texts rest : List Char}

namespace Record

/-! ## One member -/

/-- The member goes into the draft, which becomes `next`. -/
def Takes (r : Record σ α) (draft : σ) (m : String × Value) (next : σ) : Prop :=
  ∃ field, r.fields.find? (·.name = m.1) = some field ∧ field.isSet draft = false ∧
    Reads (field.read draft) m.2 next

/-- The member is refused: its key is unknown or has come before, or its value is of another
type. -/
def Rejects (r : Record σ α) (draft : σ) (m : String × Value) : Prop :=
  r.fields.find? (·.name = m.1) = none ∧ r.closed = true ∨
  ∃ field, r.fields.find? (·.name = m.1) = some field ∧
    (field.isSet draft = true ∨ Refuses (field.read draft) m.2)

/-- A field whose part of the draft is empty takes what its reader reads. -/
theorem takes_of {name : String} {get : σ → Option β} {set : σ → β → σ} {reader : Reader β} {b : β}
    (hfind : r.fields.find? (·.name = key) = some (.of name get set reader))
    (hget : get draft = none) (hreads : Reads reader value b) (hnext : set draft b = next) :
    r.Takes draft (key, value) next :=
  ⟨_, hfind, by simp [Field.of, hget], hnext ▸ hreads.map (set draft)⟩

/-- A field refuses what its reader refuses. -/
theorem rejects_of {name : String} {get : σ → Option β} {set : σ → β → σ} {reader : Reader β}
    (hfind : r.fields.find? (·.name = key) = some (.of name get set reader))
    (hrefuses : Refuses reader value) (draft : σ) : r.Rejects draft (key, value) :=
  .inr ⟨_, hfind, .inr (hrefuses.map (set draft))⟩

/-- A field whose part of the draft is taken refuses all values. -/
theorem rejects_of_set {name : String} {get : σ → Option β} {set : σ → β → σ} {reader : Reader β}
    (hfind : r.fields.find? (·.name = key) = some (.of name get set reader))
    (hget : get draft ≠ none) (value : Value) : r.Rejects draft (key, value) :=
  .inr ⟨_, hfind, .inl (Option.isSome_iff_ne_none.mpr hget)⟩

theorem colon_append (hbefore : Blank before) (rest : List Char) :
    colon (before ++ ':' :: rest) = .ok rest := by
  rw [colon, skipSpace_append hbefore, skipSpace_cons (by decide)]
  rfl

theorem member_takes (h : r.Takes draft (key, value) next) (hbefore : Blank before)
    (hafter : Blank after) (hvalue : Written value written) (hrest : Ended rest) :
    r.member count draft key (before ++ ':' :: (after ++ (written ++ rest))) =
      .ok (next, rest) := by
  obtain ⟨field, hfind, hset, hreads⟩ := h
  simp only [member, hfind, hset, Bool.false_eq_true, ↓reduceIte, colon_append hbefore]
  exact hreads hafter hvalue hrest

theorem member_rejects (h : r.Rejects draft (key, value)) (hbefore : Blank before)
    (hafter : Blank after) (hvalue : Written value written) (hrest : Ended rest) :
    ∃ refusal, r.member count draft key (before ++ ':' :: (after ++ (written ++ rest))) =
      .error refusal := by
  rcases h with ⟨hfind, hclosed⟩ | ⟨field, hfind, hset | hrefuses⟩
  · simp only [member, hfind, hclosed, ↓reduceIte]
    exact ⟨_, rfl⟩
  · simp only [member, hfind, hset, ↓reduceIte]
    exact ⟨_, rfl⟩
  · simp only [member, hfind, colon_append hbefore]
    split
    · exact ⟨_, rfl⟩
    · exact hrefuses hafter hvalue hrest

/-- A member that goes into the draft is read, and the next key is looked for. -/
theorem members_takes (h : r.Takes draft m next) (hm : MemberWritten Written m ('"' :: written))
    (hcount : written.length ≤ count) (hrest : Ended rest) (found : List Char) :
    r.members (count + 1) draft (some (written ++ rest), found) =
      nextKey? rest >>= r.members count next := by
  generalize htext : '"' :: written = text at hm
  cases hm with
  | mk hkey hbefore hafter hvalue =>
    obtain ⟨-, rfl⟩ := List.cons.inj htext
    simp only [List.append_assoc, List.cons_append, members]
    rw [readTextUnder_spelled hkey (by simp at hcount; omega)]
    show member r _ draft _ _ >>= _ = _
    rw [member_takes h hbefore hafter hvalue hrest]
    rfl

/-- A member that is refused ends the reading. -/
theorem members_rejects (h : r.Rejects draft m) (hm : MemberWritten Written m ('"' :: written))
    (hcount : written.length ≤ count) (hrest : Ended rest) (found : List Char) :
    ∃ refusal, r.members (count + 1) draft (some (written ++ rest), found) = .error refusal := by
  generalize htext : '"' :: written = text at hm
  cases hm with
  | mk hkey hbefore hafter hvalue =>
    obtain ⟨-, rfl⟩ := List.cons.inj htext
    simp only [List.append_assoc, List.cons_append, members]
    rw [readTextUnder_spelled hkey (by simp at hcount; omega)]
    show ∃ refusal, member r (count + 1) draft _ _ >>= _ = _
    obtain ⟨refusal, hrefusal⟩ := member_rejects (r := r) h hbefore hafter hvalue hrest
    rw [hrefusal]
    exact ⟨refusal, rfl⟩

/-! ## All members -/

/-- The members go into the draft one after the other; in the end it is `last`. -/
inductive Fills (r : Record σ α) : σ → List (String × Value) → σ → Prop
  | nil (draft : σ) : Fills r draft [] draft
  | cons {draft next last : σ} {m : String × Value} {ms : List (String × Value)}
    (hm : r.Takes draft m next) (hms : Fills r next ms last) : Fills r draft (m :: ms) last

/-- Of the members that go into the draft one after the other, one is refused. -/
inductive Sticks (r : Record σ α) : σ → List (String × Value) → Prop
  | here {draft : σ} {m : String × Value} {ms : List (String × Value)}
    (hm : r.Rejects draft m) : Sticks r draft (m :: ms)
  | later {draft next : σ} {m : String × Value} {ms : List (String × Value)}
    (hm : r.Takes draft m next) (hms : Sticks r next ms) : Sticks r draft (m :: ms)

theorem exists_cons_of_memberWritten {W : Value → List Char → Prop}
    (h : MemberWritten W m written) : ∃ tail, written = '"' :: tail := by
  cases h
  exact ⟨_, rfl⟩

theorem nextKey?_close (hbefore : Blank before) (rest : List Char) :
    nextKey? (before ++ '\x7d' :: rest) = .ok (none, '\x7d' :: rest) := by
  rw [nextKey?, skipSpace_append hbefore, skipSpace_cons (by decide)]
  rfl

theorem nextKey?_comma (hbefore : Blank before) (hafter : Blank after) (rest : List Char) :
    nextKey? (before ++ ',' :: (after ++ '"' :: rest)) = .ok (some rest, rest) := by
  rw [nextKey?, skipSpace_append hbefore, skipSpace_cons (by decide)]
  have hquote : skipSpace (after ++ '"' :: rest) = '"' :: rest := by
    rw [skipSpace_append hafter, skipSpace_cons (by decide)]
  simp only [hquote]

theorem members_none (r : Record σ α) (count : Nat) (draft : σ) (rest : List Char) :
    r.members count draft (none, rest) = .ok (draft, rest) := by
  cases count <;> rfl

/-- Further members go into the draft up to the closing bracket. -/
theorem members_fills (htexts : FurtherWritten Written ms texts) (h : r.Fills draft ms last)
    (hcount : texts.length ≤ count) (rest : List Char) :
    nextKey? (texts ++ rest) >>= r.members count draft = .ok (last, '\x7d' :: rest) := by
  induction htexts generalizing draft count with
  | close hbefore =>
    cases h
    rw [List.append_assoc, List.singleton_append, nextKey?_close hbefore]
    exact members_none ..
  | @comma m ms before after text texts hbefore hafter hm hms ih =>
    cases h with
    | cons htakes hfills =>
      obtain ⟨tail, rfl⟩ := exists_cons_of_memberWritten hm
      simp only [List.length_append, List.length_cons] at hcount
      obtain ⟨count, rfl⟩ := Nat.exists_eq_add_one.mpr (show 0 < count by omega)
      simp only [List.append_assoc, List.cons_append, nextKey?_comma hbefore hafter]
      show r.members _ draft _ = _
      rw [members_takes htakes hm (by omega) (hms.ended rest), ih hfills (by omega)]

/-- The reading of further members ends at one that is refused. -/
theorem members_sticks (htexts : FurtherWritten Written ms texts) (h : r.Sticks draft ms)
    (hcount : texts.length ≤ count) (rest : List Char) :
    ∃ refusal, nextKey? (texts ++ rest) >>= r.members count draft = .error refusal := by
  induction htexts generalizing draft count with
  | close _ => cases h
  | @comma m ms before after text texts hbefore hafter hm hms ih =>
    obtain ⟨tail, rfl⟩ := exists_cons_of_memberWritten hm
    simp only [List.length_append, List.length_cons] at hcount
    obtain ⟨count, rfl⟩ := Nat.exists_eq_add_one.mpr (show 0 < count by omega)
    simp only [List.append_assoc, List.cons_append, nextKey?_comma hbefore hafter]
    show ∃ refusal, r.members _ draft _ = _
    cases h with
    | here hrejects => exact members_rejects hrejects hm (by omega) (hms.ended rest) _
    | later htakes hsticks =>
      rw [members_takes htakes hm (by omega) (hms.ended rest)]
      exact ih hsticks (by omega)

/-! ## The object -/

theorem firstKey?_close (hbefore : Blank before) (rest : List Char) :
    firstKey? (before ++ '\x7d' :: rest) = .ok (none, '\x7d' :: rest) := by
  rw [firstKey?, skipSpace_append hbefore, skipSpace_cons (by decide)]
  rfl

theorem firstKey?_quote (hbefore : Blank before) (rest : List Char) :
    firstKey? (before ++ '"' :: rest) = .ok (some rest, rest) := by
  rw [firstKey?, skipSpace_append hbefore, skipSpace_cons (by decide)]
  rfl

/-- There is room for all members behind the first quote of an object. -/
theorem length_within (first tail texts rest : List Char) :
    tail.length + texts.length < (first ++ '"' :: (tail ++ (texts ++ rest))).length := by
  simp only [List.length_append, List.length_cons]
  omega

theorem reader_object (r : Record σ α) (hbefore : Blank before)
    (h : Written (.object ms) ('\x7b' :: written)) (rest : List Char) :
    r.reader (before ++ ('\x7b' :: written ++ rest)) = r.object (written ++ rest) := by
  rw [reader, token_written _ hbefore h]
  rfl

/-- **Members that go into the draft make up the record**, if nothing is missing in the end. -/
theorem reads_object (h : r.Fills r.blank ms last) (hbuild : r.build last = some a) :
    Reads r.reader (.object ms) a := by
  intro before text rest hbefore htext hrest
  have hpast : pastClose '\x7d' ('\x7d' :: rest) = rest := by
    rw [pastClose, skipSpace_cons (by decide)]
    rfl
  cases htext with
  | empty hspace =>
    cases h
    rw [reader_object r hbefore (.empty hspace), List.append_assoc, List.singleton_append, object,
      firstKey?_close hspace]
    simp only [bind, Except.bind, members_none, hbuild, hpast]
  | @object m ms first text texts hfirst hm hms =>
    cases h with
    | cons htakes hfills =>
      rw [reader_object r hbefore (.object hfirst hm hms)]
      obtain ⟨tail, rfl⟩ := exists_cons_of_memberWritten hm
      have hcount := length_within first tail texts rest
      simp only [object, List.append_assoc, List.cons_append, firstKey?_quote hfirst]
      generalize (first ++ '"' :: (tail ++ (texts ++ rest))).length = count at hcount ⊢
      show r.members (count + 1) r.blank _ >>= _ = _
      rw [members_takes htakes hm (by omega) (hms.ended rest),
        members_fills hms hfills (by omega)]
      simp only [bind, Except.bind, hbuild, hpast]

/-- **A member that is refused spoils the object.** -/
theorem refuses_object (h : r.Sticks r.blank ms) : Refuses r.reader (.object ms) := by
  intro before text rest hbefore htext hrest
  cases htext with
  | empty hspace => cases h
  | @object m ms first text texts hfirst hm hms =>
    rw [reader_object r hbefore (.object hfirst hm hms)]
    obtain ⟨tail, rfl⟩ := exists_cons_of_memberWritten hm
    have hcount := length_within first tail texts rest
    simp only [object, List.append_assoc, List.cons_append, firstKey?_quote hfirst]
    generalize (first ++ '"' :: (tail ++ (texts ++ rest))).length = count at hcount ⊢
    show ∃ refusal, r.members (count + 1) r.blank _ >>= _ = _
    cases h with
    | here hrejects =>
      have hlength : tail.length ≤ count := by omega
      obtain ⟨refusal, hrefusal⟩ := members_rejects hrejects hm hlength (hms.ended rest)
        (tail ++ (texts ++ rest))
      rw [hrefusal]
      exact ⟨refusal, rfl⟩
    | later htakes hsticks =>
      rw [members_takes htakes hm (by omega) (hms.ended rest)]
      have hlength : texts.length ≤ count := by omega
      obtain ⟨refusal, hrefusal⟩ := members_sticks hms hsticks hlength rest
      rw [hrefusal]
      exact ⟨refusal, rfl⟩

end Record

end LinkProbe.Json
