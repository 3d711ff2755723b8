import LinkProbe.CommandLine.Arguments

/-!
# What a command line says

The ways to write flags with their values, without the reader. Each way gives a list of uses, and
the reader does nothing but give these to its draft, in order.

* `Names`: the flags that one argument gives, and the one that waits for its value.
* `Spells`: the uses that a command line writes.
* `Draft.giveAll`: a draft after a list of uses.
* `takeAll_of_spells`: the reader gives what is written.
* `exists_spells`: what the reader takes is written.
-/

namespace LinkProbe.CommandLine

/-- A flag with its value. A flag that is given without one stands for the truth. -/
abbrev Use := Flag × String

namespace Flag

/-- The flag sets something; the others ask for a text about the program. -/
def Sets (f : Flag) : Prop := f ≠ .help ∧ f ≠ .version

instance (f : Flag) : Decidable f.Sets := inferInstanceAs (Decidable (_ ∧ _))

theorem ofLong_eq_some_iff {name : String} {flag : Flag} :
    ofLong name = some flag ↔ name = flag.long := by
  constructor
  · intro h
    have hlong := List.find?_some h
    exact (of_decide_eq_true hlong).symm
  · rintro rfl
    cases flag <;> rfl

theorem ofShort_eq_some_iff {letter : Char} {flag : Flag} :
    ofShort letter = some flag ↔ flag.short? = some letter := by
  constructor
  · intro h
    have hshort := List.find?_some h
    exact of_decide_eq_true hshort
  · intro h
    cases flag <;> cases h <;> rfl

theorem short?_ne_dash (f : Flag) : f.short? ≠ some '-' := by
  cases f <;> decide

/-- A flag with a letter takes a value or none. -/
theorem arity_of_short {letter : Char} {flag : Flag} (h : flag.short? = some letter) :
    flag.arity = .bare ∨ flag.arity = .valued := by
  cases flag <;> first | exact .inl rfl | exact .inr rfl | cases h

/-- No name holds an equals sign. -/
theorem not_mem_long (f : Flag) : '=' ∉ f.long.toList := by
  cases f <;> decide

end Flag

/-! ## What is written -/

/-- The flags that letters behind one dash give, and the one that waits for its value. -/
inductive Letters : List Char → List Use → Option Flag → Prop
  | nil : Letters [] [] none
  | bare {letter : Char} {flag : Flag} {letters : List Char} {uses : List Use}
    {last : Option Flag} (hletter : flag.short? = some letter) (hbare : flag.arity = .bare)
    (hsets : flag.Sets) (h : Letters letters uses last) :
    Letters (letter :: letters) ((flag, "true") :: uses) last
  /-- The value follows at once. -/
  | attached {letter c : Char} {flag : Flag} {value : List Char}
    (hletter : flag.short? = some letter) (hvalued : flag.arity = .valued) (hequals : c ≠ '=') :
    Letters (letter :: c :: value) [(flag, .ofList (c :: value))] none
  /-- The value follows behind an equals sign. -/
  | equals {letter : Char} {flag : Flag} {value : List Char}
    (hletter : flag.short? = some letter) (hvalued : flag.arity = .valued) :
    Letters (letter :: '=' :: value) [(flag, .ofList value)] none
  | waiting {letter : Char} {flag : Flag} (hletter : flag.short? = some letter)
    (hvalued : flag.arity = .valued) : Letters [letter] [] (some flag)

/-- The flags that an argument gives by what it has behind its first dash, and the one that waits
for its value. -/
inductive Names : List Char → List Use → Option Flag → Prop
  | equals {flag : Flag} {value : List Char} (harity : flag.arity ≠ .bare) :
    Names ('-' :: (flag.long.toList ++ '=' :: value)) [(flag, .ofList value)] none
  | alone {flag : Flag} (harity : flag.arity ≠ .valued) (hsets : flag.Sets) :
    Names ('-' :: flag.long.toList) [(flag, "true")] none
  | waiting {flag : Flag} (harity : flag.arity = .valued) :
    Names ('-' :: flag.long.toList) [] (some flag)
  | letters {letter : Char} {letters : List Char} {uses : List Use} {last : Option Flag}
    (h : Letters (letter :: letters) uses last) : Names (letter :: letters) uses last

theorem exists_short_of_letters {letter : Char} {letters : List Char} {uses : List Use}
    {last : Option Flag} (h : Letters (letter :: letters) uses last) :
    ∃ flag : Flag, flag.short? = some letter := by
  cases h <;> exact ⟨_, by assumption⟩

/-- The argument can be a value on its own: it does not start with a dash, or is just one. -/
def IsValue (argument : String) : Prop := ∀ c text, argument.toList ≠ '-' :: c :: text

/-- The uses that a command line writes. -/
inductive Spells : List String → List Use → Prop
  | nil : Spells [] []
  /-- Two dashes end the flags. -/
  | ended : Spells ["--"] []
  | flags {argument : String} {rest : List String} {text : List Char} {these uses : List Use}
    (hargument : argument.toList = '-' :: text) (hnames : Names text these none)
    (hrest : Spells rest uses) : Spells (argument :: rest) (these ++ uses)
  | valued {argument value : String} {rest : List String} {text : List Char}
    {these uses : List Use} {flag : Flag} (hargument : argument.toList = '-' :: text)
    (hnames : Names text these (some flag)) (hvalue : IsValue value) (hrest : Spells rest uses) :
    Spells (argument :: value :: rest) (these ++ (flag, value) :: uses)

namespace Arguments

variable {p q : Progress} {d : Draft} {flag : Flag} {last : Option Flag} {these uses : List Use}
  {text letters : List Char} {argument : String} {rest arguments : List String}

/-- The draft after the uses, one after the other. -/
def Draft.giveAll (d : Draft) : List Use → Except Stop Draft
  | [] => .ok d
  | (flag, value) :: uses => d.give flag value >>= fun d => d.giveAll uses

theorem giveAll_append (d : Draft) (these uses : List Use) :
    d.giveAll (these ++ uses) = d.giveAll these >>= fun d => d.giveAll uses := by
  induction these generalizing d with
  | nil => rfl
  | cons use these ih =>
    rw [List.cons_append, Draft.giveAll, Draft.giveAll]
    cases d.give use.1 use.2 with
    | error stop => rfl
    | ok next => exact ih next

theorem giveAll_singleton (d : Draft) (flag : Flag) (value : String) :
    d.giveAll [(flag, value)] = d.give flag value := by
  rw [Draft.giveAll]
  cases d.give flag value <;> rfl

theorem bind_ok {α β : Type} (a : α) (f : α → Except Stop β) : (Except.ok a >>= f) = f a := rfl

theorem exists_of_bind_ok {α β : Type} {x : Except Stop α} {f : α → Except Stop β} {b : β}
    (h : x >>= f = .ok b) : ∃ a, x = .ok a ∧ f a = .ok b := by
  cases x with
  | error stop => cases h
  | ok a => exact ⟨a, rfl, h⟩

/-! ## One flag -/

/-- What the reader is like once the flag waits for its value. -/
def Draft.awaiting (d : Draft) (last : Option Flag) : Progress := ⟨d, last.map (⟨·, none⟩)⟩

theorem giveBare_of_sets (h : flag.Sets) (d : Draft) : d.giveBare flag = d.give flag "true" := by
  cases flag with
  | help => exact absurd rfl h.1
  | version => exact absurd rfl h.2
  | _ => rfl

theorem takeFlag_attached (harity : flag.arity ≠ .bare) (p : Progress) (value : String) :
    p.takeFlag flag (some value) =
      p.settle >>= fun d => d.give flag value >>= fun d => .ok (d.awaiting none) := by
  rw [Progress.takeFlag.eq_def]
  cases hkind : flag.arity with
  | bare => exact absurd hkind harity
  | valued | attachable => rfl

theorem takeFlag_alone (harity : flag.arity ≠ .valued) (hsets : flag.Sets) (p : Progress) :
    p.takeFlag flag none =
      p.settle >>= fun d => d.give flag "true" >>= fun d => .ok (d.awaiting none) := by
  simp only [← giveBare_of_sets hsets]
  rw [Progress.takeFlag.eq_def]
  cases hkind : flag.arity with
  | valued => exact absurd hkind harity
  | bare | attachable => rfl

theorem takeFlag_waiting (harity : flag.arity = .valued) (p : Progress) :
    p.takeFlag flag none = p.settle >>= fun d => .ok (d.awaiting (some flag)) := by
  rw [Progress.takeFlag.eq_def, harity]
  rfl

theorem arity_of_takeFlag {value : String} (h : p.takeFlag flag (some value) = .ok q) :
    flag.arity ≠ .bare := by
  intro harity
  rw [Progress.takeFlag.eq_def, harity] at h
  cases h

theorem sets_of_takeFlag (h : p.takeFlag flag none = .ok q) : flag.Sets := by
  cases flag with
  | help | version =>
    rw [Progress.takeFlag.eq_def] at h
    cases hsettle : p.settle <;> rw [hsettle] at h <;> cases h
  | _ => decide

/-! ## One argument -/

/-- Takes an argument by what it has behind its first dash. -/
def Progress.takeDashed (p : Progress) : List Char → Except Stop Progress
  | '-' :: text => p.takeLong text
  | text => p.takeShort text

theorem splitValue_long (flag : Flag) : splitValue flag.long.toList = (flag.long, none) := by
  have hname : ∀ c ∈ flag.long.toList, decide (c ≠ '=') = true := fun c hc =>
    decide_eq_true fun heq => flag.not_mem_long (heq ▸ hc)
  have hdrop : (flag.long.toList ++ []).dropWhile _ = _ := List.dropWhile_append_of_pos hname
  rw [List.append_nil, List.dropWhile_nil] at hdrop
  rw [splitValue, hdrop, String.ofList_toList]

/-- A name ends at the first equals sign. -/
theorem splitValue_equals (flag : Flag) (value : List Char) :
    splitValue (flag.long.toList ++ '=' :: value) = (flag.long, some (.ofList value)) := by
  have hname : ∀ c ∈ flag.long.toList, decide (c ≠ '=') = true := fun c hc =>
    decide_eq_true fun heq => flag.not_mem_long (heq ▸ hc)
  rw [splitValue, List.dropWhile_append_of_pos hname, List.takeWhile_append_of_pos hname]
  simp

theorem eq_of_splitValue_none {name : String} (h : splitValue text = (name, none)) :
    text = name.toList := by
  rw [splitValue] at h
  split at h
  · cases h
    exact (String.toList_ofList).symm
  · cases h

theorem eq_of_splitValue_some {name value : String} (h : splitValue text = (name, some value)) :
    text = name.toList ++ '=' :: value.toList := by
  rw [splitValue] at h
  split at h
  · cases h
  · next c rest hdrop =>
    cases h
    have hc := List.head?_dropWhile_not (fun c => decide (c ≠ '=')) text
    rw [hdrop] at hc
    obtain rfl : c = '=' := by simpa using hc
    rw [String.toList_ofList, String.toList_ofList, ← hdrop, List.takeWhile_append_dropWhile]

/-- Letters give their flags one after the other, once the flag before them has its value. -/
theorem takeShort_letters (h : Letters letters these last) (hne : letters ≠ []) (p : Progress) :
    p.takeShort letters =
      p.settle >>= fun d => d.giveAll these >>= fun d => .ok (d.awaiting last) := by
  induction h generalizing p with
  | nil => exact absurd rfl hne
  | @bare letter flag letters uses last hletter hbare hsets h ih =>
    simp only [Progress.takeShort, Flag.ofShort_eq_some_iff.mpr hletter, hbare]
    rw [takeFlag_alone (by simp [hbare]) hsets]
    cases p.settle with
    | error stop => rfl
    | ok d =>
      rw [bind_ok, bind_ok, Draft.giveAll]
      cases d.give flag "true" with
      | error stop => rfl
      | ok next =>
        rw [bind_ok, bind_ok, bind_ok]
        cases letters with
        | nil =>
          cases h
          rfl
        | cons letter letters => exact ih (List.cons_ne_nil letter letters) (next.awaiting none)
  | @attached letter c flag value hletter hvalued hequals =>
    simp only [Progress.takeShort, Flag.ofShort_eq_some_iff.mpr hletter, hvalued,
      giveAll_singleton]
    have hattached : attachedValue (c :: value) = some (.ofList (c :: value)) := by
      rw [attachedValue.eq_def]
      split
      · next heq => cases heq
      · next heq => exact absurd (List.cons.inj heq).1 hequals
      · rfl
    rw [hattached, takeFlag_attached (by simp [hvalued])]
  | equals hletter hvalued =>
    simp only [Progress.takeShort, Flag.ofShort_eq_some_iff.mpr hletter, hvalued,
      giveAll_singleton, attachedValue]
    exact takeFlag_attached (by simp [hvalued]) ..
  | waiting hletter hvalued =>
    simp only [Progress.takeShort, Flag.ofShort_eq_some_iff.mpr hletter, hvalued, attachedValue]
    exact takeFlag_waiting hvalued p

/-- An argument gives its flags one after the other, once the flag before it has its value. -/
theorem takeDashed_names (h : Names text these last) (p : Progress) :
    p.takeDashed text =
      p.settle >>= fun d => d.giveAll these >>= fun d => .ok (d.awaiting last) := by
  cases h with
  | equals harity =>
    simp only [Progress.takeDashed, Progress.takeLong, splitValue_equals,
      Flag.ofLong_eq_some_iff.mpr rfl, giveAll_singleton]
    exact takeFlag_attached harity ..
  | alone harity hsets =>
    simp only [Progress.takeDashed, Progress.takeLong, splitValue_long,
      Flag.ofLong_eq_some_iff.mpr rfl, giveAll_singleton]
    exact takeFlag_alone harity hsets p
  | waiting harity =>
    simp only [Progress.takeDashed, Progress.takeLong, splitValue_long,
      Flag.ofLong_eq_some_iff.mpr rfl]
    exact takeFlag_waiting harity p
  | @letters letter letters _ _ h =>
    rw [Progress.takeDashed.eq_def]
    split
    · next heq =>
      obtain ⟨rfl, -⟩ := List.cons.inj heq
      obtain ⟨flag, hflag⟩ := exists_short_of_letters h
      exact absurd hflag flag.short?_ne_dash
    · exact takeShort_letters h (List.cons_ne_nil letter letters) p

/-- Letters that are taken give flags. -/
theorem exists_letters (h : p.takeShort letters = .ok q) :
    ∃ these last, Letters letters these last := by
  induction letters generalizing p with
  | nil => exact ⟨[], none, .nil⟩
  | cons letter letters ih =>
    rw [Progress.takeShort] at h
    split at h
    · cases h
    · next flag hflag =>
      have hletter := Flag.ofShort_eq_some_iff.mp hflag
      rcases Flag.arity_of_short hletter with harity | harity
      · simp only [harity] at h
        obtain ⟨next, hnext, h⟩ := exists_of_bind_ok h
        obtain ⟨these, last, hletters⟩ := ih h
        exact ⟨_, _, .bare hletter harity (sets_of_takeFlag hnext) hletters⟩
      · match letters with
        | [] => exact ⟨_, _, .waiting hletter harity⟩
        | c :: value =>
          by_cases hequals : c = '='
          · subst hequals
            exact ⟨_, _, .equals hletter harity⟩
          · exact ⟨_, _, .attached hletter harity hequals⟩

/-- A long name that is taken is that of a flag. -/
theorem exists_names_of_takeLong (h : p.takeLong text = .ok q) :
    ∃ these last, Names ('-' :: text) these last := by
  rcases hsplit : splitValue text with ⟨name, attached⟩
  simp only [Progress.takeLong, hsplit] at h
  split at h
  · next flag hflag =>
    obtain rfl := Flag.ofLong_eq_some_iff.mp hflag
    cases attached with
    | none =>
      rw [eq_of_splitValue_none hsplit]
      by_cases harity : flag.arity = .valued
      · exact ⟨_, _, .waiting harity⟩
      · exact ⟨_, _, .alone harity (sets_of_takeFlag h)⟩
    | some value =>
      rw [eq_of_splitValue_some hsplit]
      exact ⟨_, _, .equals (arity_of_takeFlag h)⟩
  · cases h

/-- An argument that is taken names flags. -/
theorem exists_names (hne : text ≠ []) (h : p.takeDashed text = .ok q) :
    ∃ these last, Names text these last := by
  rw [Progress.takeDashed.eq_def] at h
  split at h
  · exact exists_names_of_takeLong h
  · obtain ⟨these, last, hletters⟩ := exists_letters h
    obtain ⟨letter, letters, rfl⟩ := List.exists_cons_of_ne_nil hne
    exact ⟨these, last, .letters hletters⟩

/-! ## All arguments -/

theorem ne_nil_of_names (h : Names text these last) : text ≠ [] ∧ text ≠ ['-'] := by
  cases h with
  | equals harity => simp
  | @alone flag harity hsets => cases flag <;> exact ⟨by decide, by decide⟩
  | @waiting flag harity => cases flag <;> exact ⟨by decide, by decide⟩
  | letters h =>
    refine ⟨List.cons_ne_nil _ _, fun heq => ?_⟩
    obtain ⟨flag, hflag⟩ := exists_short_of_letters h
    obtain ⟨rfl, -⟩ := List.cons.inj heq
    exact flag.short?_ne_dash hflag

theorem takeAll_dashed (hargument : argument.toList = '-' :: text) (hne : text ≠ [])
    (hend : text ≠ ['-']) (p : Progress) (rest : List String) :
    p.takeAll (argument :: rest) = p.takeDashed text >>= fun p => p.takeAll rest := by
  rw [Progress.takeAll.eq_def]
  dsimp only
  rw [hargument]
  split
  · next heq => exact absurd (List.cons.inj heq).2 hend
  · next heq =>
    rw [(List.cons.inj heq).2]
    rfl
  · next letter letters _ hletter heq =>
    rw [(List.cons.inj heq).2, Progress.takeDashed.eq_def]
    split
    · next heq => exact absurd (List.cons.inj heq).1 hletter
    · rfl
  · next hletters => exact absurd (by rw [List.cons_head_tail]) (hletters (text.head hne) text.tail)

theorem takeAll_value (h : IsValue argument) (p : Progress) (rest : List String) :
    p.takeAll (argument :: rest) = p.takeValue argument >>= fun p => p.takeAll rest := by
  rw [Progress.takeAll.eq_def]
  dsimp only
  split
  · next heq => exact absurd heq (h _ _)
  · next heq => exact absurd heq (h _ _)
  · next heq => exact absurd heq (h _ _)
  · rfl

/-- **The reader gives what is written**, one use after the other. -/
theorem takeAll_of_spells (h : Spells arguments uses) (p : Progress) :
    p.takeAll arguments =
      p.settle >>= fun d => d.giveAll uses >>= fun d => .ok d.arguments := by
  induction h generalizing p with
  | nil => rfl
  | ended => rfl
  | @flags argument rest text these uses hargument hnames hrest ih =>
    obtain ⟨hne, hend⟩ := ne_nil_of_names hnames
    rw [takeAll_dashed hargument hne hend, takeDashed_names hnames]
    cases p.settle with
    | error stop => rfl
    | ok d =>
      rw [bind_ok, bind_ok, giveAll_append]
      cases d.giveAll these with
      | error stop => rfl
      | ok next => exact ih (next.awaiting none)
  | @valued argument value rest text these uses flag hargument hnames hvalue hrest ih =>
    obtain ⟨hne, hend⟩ := ne_nil_of_names hnames
    rw [takeAll_dashed hargument hne hend, takeDashed_names hnames]
    cases p.settle with
    | error stop => rfl
    | ok d =>
      rw [bind_ok, bind_ok, giveAll_append]
      cases d.giveAll these with
      | error stop => rfl
      | ok next =>
        have htaken : (next.awaiting (some flag)).takeValue value =
          .ok ⟨next, some ⟨flag, some value⟩⟩ := rfl
        rw [bind_ok, bind_ok, bind_ok, takeAll_value hvalue, htaken, bind_ok, ih, Draft.giveAll]
        show next.give flag value >>= _ = _
        cases next.give flag value <;> rfl

/-- Behind two dashes there is nothing. -/
theorem settle_of_ended {a : Arguments} (hargument : argument.toList = ['-', '-'])
    (h : p.takeAll (argument :: rest) = .ok a) : (∃ d, p.settle = .ok d) ∧ rest = [] := by
  rw [Progress.takeAll.eq_def] at h
  dsimp only at h
  rw [hargument] at h
  cases rest with
  | nil =>
    obtain ⟨d, hsettle, -⟩ := exists_of_bind_ok h
    exact ⟨⟨d, hsettle⟩, rfl⟩
  | cons next rest => cases h

/-- What is left is written: where a flag waits for its value, that comes first. -/
def Progress.Written (p : Progress) (arguments : List String) : Prop :=
  match p.pending with
  | some ⟨_, none⟩ => ∃ value rest uses, arguments = value :: rest ∧ IsValue value ∧
      Spells rest uses
  | _ => ∃ uses, Spells arguments uses

theorem settle_of_takeDashed (hnames : Names text these last) (h : p.takeDashed text = .ok q) :
    (∃ d, p.settle = .ok d) ∧ ∃ d : Draft, q = d.awaiting last := by
  rw [takeDashed_names hnames] at h
  obtain ⟨d, hsettle, h⟩ := exists_of_bind_ok h
  obtain ⟨next, -, h⟩ := exists_of_bind_ok h
  cases h
  exact ⟨⟨d, hsettle⟩, next, rfl⟩

/-- If the reader can go on to a flag or to the end, uses are written. -/
theorem written_of_settle (hsettle : p.settle = .ok d) (h : Spells arguments uses) :
    p.Written arguments := by
  rw [Progress.Written]
  split
  · next flag hpending =>
    rw [Progress.settle, hpending] at hsettle
    cases hsettle
  · exact ⟨uses, h⟩

/-- **What the reader takes is written.** -/
theorem written_of_takeAll {a : Arguments} (h : p.takeAll arguments = .ok a) :
    p.Written arguments := by
  induction arguments generalizing p with
  | nil =>
    obtain ⟨d, hsettle, -⟩ := exists_of_bind_ok h
    exact written_of_settle hsettle .nil
  | cons argument rest ih =>
    by_cases hvalue : IsValue argument
    · rw [takeAll_value hvalue, Progress.takeValue.eq_def] at h
      split at h
      · next flag hpending =>
        obtain ⟨uses, hrest⟩ : ∃ uses, Spells rest uses := ih h
        rw [Progress.Written, hpending]
        exact ⟨argument, rest, uses, rfl, hvalue, hrest⟩
      · cases h
    · obtain ⟨c, text, hargument⟩ : ∃ c text, argument.toList = '-' :: c :: text := by
        simpa [IsValue] using hvalue
      by_cases hend : c :: text = ['-']
      · rw [hend] at hargument
        obtain ⟨hsettle, rfl⟩ := settle_of_ended hargument h
        obtain rfl : argument = "--" := String.toList_inj.mp hargument
        exact written_of_settle hsettle.choose_spec .ended
      · rw [takeAll_dashed hargument (List.cons_ne_nil c text) hend] at h
        obtain ⟨q, htaken, h⟩ := exists_of_bind_ok h
        obtain ⟨these, last, hnames⟩ := exists_names (List.cons_ne_nil c text) htaken
        obtain ⟨⟨d, hsettle⟩, next, rfl⟩ := settle_of_takeDashed hnames htaken
        have hrest := ih h
        cases last with
        | none =>
          obtain ⟨uses, hspells⟩ : ∃ uses, Spells rest uses := hrest
          exact written_of_settle hsettle (.flags hargument hnames hspells)
        | some flag =>
          obtain ⟨value, rest, uses, rfl, hvalue, hspells⟩ := hrest
          exact written_of_settle hsettle (.valued hargument hnames hvalue hspells)

/-! ## The command line -/

/-- **What a command line is read as is what it writes.** -/
theorem ofList_of_spells (h : Spells arguments uses) :
    ofList arguments = Draft.blank.giveAll uses >>= fun d => .ok d.arguments :=
  takeAll_of_spells h (Draft.blank.awaiting none)

/-- A command line that is read writes uses of flags. -/
theorem exists_spells {a : Arguments} (h : ofList arguments = .ok a) :
    ∃ uses, Spells arguments uses :=
  written_of_takeAll h

end Arguments

end LinkProbe.CommandLine
