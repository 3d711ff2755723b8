import LinkProbe.Proofs.Json.Naturals

/-!
# Reading metrics

A reader for the text format of Prometheus, apart from how reports are written in it: lines of
help, lines with types, and samples whose labels stand in quotes.

* `Exposition.Line`: what a line says.
* `Exposition.readQuoted`, `Exposition.escaped`: the texts of labels.
* `Exposition.readLine`, `Exposition.read?`: read a line, and a whole text.
* `Exposition.readQuoted_iff`: a label's text stands in quotes in one way only.
-/

namespace LinkProbe.Exposition

/-- What a line says. -/
inductive Line where
  | empty
  /-- A comment of no meaning. -/
  | remark
  | help (metric text : String)
  | type (metric word : String)
  | sample (metric : String) (labels : List (String × String)) (value : Nat)
deriving DecidableEq, Repr

/-! ## Words -/

/-- White space within a line. -/
def isBlank (c : Char) : Bool := c = ' ' || c = '\t'

/-- The text from the next word on. -/
def skipBlanks (text : List Char) : List Char := text.dropWhile isBlank

/-- The next word, and what follows. -/
def readWord (text : List Char) : List Char × List Char := (skipBlanks text).span (!isBlank ·)

/-- A character of a name. -/
def isNameChar (colons : Bool) (c : Char) : Bool := c.isAlphanum || c = '_' || colons && c = ':'

/-- A name. Those of metrics may hold colons, those of labels may not. -/
def isName (colons : Bool) (text : List Char) : Bool :=
  text.all (isNameChar colons) && text.head?.any (!·.isDigit)

/-! ## Samples -/

/-- The letters that stand for a character behind a backslash, with that character. -/
def escapes : List (Char × Char) := [('\\', '\\'), ('"', '"'), ('n', '\n')]

/-- Reads the text of a label up to the quote that ends it. -/
def readQuoted : List Char → Option (List Char × List Char)
  | [] => none
  | '"' :: rest => some ([], rest)
  | '\n' :: _ => none
  | '\\' :: [] => none
  | '\\' :: letter :: rest => do
    let c ← escapes.lookup letter
    let (text, rest) ← readQuoted rest
    return (c :: text, rest)
  | c :: rest => do
    let (text, rest) ← readQuoted rest
    return (c :: text, rest)

/-- Reads a label. -/
def readLabel (text : List Char) : Option ((String × String) × List Char) := do
  let (name, rest) := (skipBlanks text).span (isNameChar false)
  guard (isName false name)
  let '=' :: rest := skipBlanks rest | none
  let '"' :: rest := skipBlanks rest | none
  let (value, rest) ← readQuoted rest
  return ((.ofList name, .ofList value), rest)

/-- Goes on behind a label: with further labels after a comma, or behind the bracket. -/
def afterLabel (further : List Char → Option (List (String × String) × List Char))
    (text : List Char) : Option (List (String × String) × List Char) :=
  match skipBlanks text with
  | '\x7d' :: rest => some ([], rest)
  | ',' :: rest => further rest
  | _ => none

/-- Reads labels, at most `count`, up to the bracket that ends them. -/
def readLabels : Nat → List Char → Option (List (String × String) × List Char)
  | 0, _ => none
  | count + 1, text =>
    match skipBlanks text with
    | '\x7d' :: rest => some ([], rest)
    | text => do
      let (label, rest) ← readLabel text
      let (labels, rest) ← afterLabel (readLabels count) rest
      return (label :: labels, rest)

/-- Reads the number that ends a sample. -/
def readValue (text : List Char) : Option Nat := do
  let (digits, rest) := readWord text
  guard (digits ≠ [] ∧ digits.all Char.isDigit ∧ skipBlanks rest = [])
  return Nat.ofDigitChars 10 digits 0

/-- Reads a sample. -/
def readSample (text : List Char) : Option Line := do
  let (name, rest) := text.span (isNameChar true)
  guard (isName true name)
  match skipBlanks rest with
  | '\x7b' :: rest =>
    let (labels, rest) ← readLabels text.length rest
    return .sample (.ofList name) labels (← readValue rest)
  | rest => return .sample (.ofList name) [] (← readValue rest)

/-! ## Lines -/

/-- Reads a comment behind its sign. -/
def readComment (text : List Char) : Option Line := do
  let (word, rest) := readWord text
  let (metric, rest) := readWord rest
  if word = ['H', 'E', 'L', 'P'] then
    guard (isName true metric)
    return .help (.ofList metric) (.ofList (skipBlanks rest))
  else if word = ['T', 'Y', 'P', 'E'] then
    guard (isName true metric)
    let (type, rest) := readWord rest
    guard (type ≠ [] ∧ skipBlanks rest = [])
    return .type (.ofList metric) (.ofList type)
  else return .remark

/-- Reads a line. -/
def readLine (line : List Char) : Option Line :=
  match skipBlanks line with
  | [] => some .empty
  | '#' :: rest => readComment rest
  | rest => readSample rest

/-- The lines of a text. Each one is ended by a line feed. -/
def lines? : List Char → Option (List (List Char))
  | [] => some []
  | '\n' :: rest => (lines? rest).map ([] :: ·)
  | c :: rest =>
    match lines? rest with
    | some (line :: lines) => some ((c :: line) :: lines)
    | _ => none

/-- What a text says, line by line. -/
def read? (text : String) : Option (List Line) := do (← lines? text.toList).mapM readLine

/-! ## Texts in quotes -/

/-- How a character is written between the quotes. -/
def escapedChar (c : Char) : List Char :=
  if c = '\\' then ['\\', '\\']
  else if c = '"' then ['\\', '"']
  else if c = '\n' then ['\\', 'n']
  else [c]

/-- How a text is written between the quotes. -/
def escaped (text : List Char) : List Char := text.flatMap escapedChar

/-- The text is written as it is. -/
def Plain (text : List Char) : Prop := ∀ c ∈ text, c ≠ '\\' ∧ c ≠ '"' ∧ c ≠ '\n'

instance (text : List Char) : Decidable (Plain text) := List.decidableBAll _ text

variable {text body rest line : List Char} {c : Char}

@[simp] theorem escaped_nil : escaped [] = [] := rfl

@[simp] theorem escaped_cons (c : Char) (text : List Char) :
    escaped (c :: text) = escapedChar c ++ escaped text := List.flatMap_cons

theorem readQuoted_plain (hslash : c ≠ '\\') (hquote : c ≠ '"') (hfeed : c ≠ '\n')
    (rest : List Char) : readQuoted (c :: rest) = do
      let (text, rest) ← readQuoted rest
      return (c :: text, rest) := by
  rw [readQuoted]
  · exact hquote
  · exact hfeed
  · exact fun h => absurd h hslash
  · exact fun _ _ h => absurd h hslash

theorem readQuoted_escaped (text rest : List Char) :
    readQuoted (escaped text ++ '"' :: rest) = some (text, rest) := by
  induction text with
  | nil => rfl
  | cons c text ih =>
    rw [escaped_cons, List.append_assoc]
    unfold escapedChar
    split
    · next h =>
      subst h
      simp [readQuoted, escapes, ih]
    split
    · next h =>
      subst h
      simp [readQuoted, escapes, ih, List.lookup_cons]
    split
    · next h =>
      subst h
      simp [readQuoted, escapes, ih, List.lookup_cons]
    · next hslash hquote hfeed =>
      rw [List.singleton_append, readQuoted_plain hslash hquote hfeed, ih]
      rfl

/-- A letter behind a backslash comes from the character that it stands for. -/
theorem escapedChar_of_lookup {letter : Char} (h : escapes.lookup letter = some c) :
    escapedChar c = ['\\', letter] := by
  obtain ⟨before, after, hmem, -⟩ := List.lookup_eq_some_iff.mp h
  have hmem : (letter, c) ∈ escapes := by rw [hmem]; simp
  simp only [escapes, List.mem_cons, List.not_mem_nil, or_false, Prod.mk.injEq] at hmem
  rcases hmem with ⟨rfl, rfl⟩ | ⟨rfl, rfl⟩ | ⟨rfl, rfl⟩ <;> rfl

theorem eq_escaped_of_readQuoted (h : readQuoted body = some (text, rest)) :
    body = escaped text ++ '"' :: rest := by
  fun_induction readQuoted body generalizing text with
  | case1 => cases h
  | case2 rest =>
    cases h
    rfl
  | case3 => cases h
  | case4 => cases h
  | case5 letter tail ih =>
    simp only [Option.bind_eq_bind, Option.bind_eq_some_iff, Option.pure_def] at h
    obtain ⟨c, hc, ⟨value, rest⟩, hvalue, heq⟩ := h
    cases heq
    rw [escaped_cons, escapedChar_of_lookup hc, ih hvalue]
    rfl
  | case6 c tail hquote hfeed hslash hslash' ih =>
    simp only [Option.bind_eq_bind, Option.bind_eq_some_iff, Option.pure_def] at h
    obtain ⟨⟨value, rest⟩, hvalue, heq⟩ := h
    cases heq
    have hbackslash : c ≠ '\\' := by
      rintro rfl
      cases tail with
      | nil => exact hslash rfl rfl
      | cons letter tail => exact hslash' letter tail rfl rfl
    rw [escaped_cons, escapedChar, if_neg hbackslash, if_neg hquote, if_neg hfeed, ih hvalue]
    rfl

/-- **A text stands in quotes in one way only.** -/
theorem readQuoted_iff :
    readQuoted body = some (text, rest) ↔ body = escaped text ++ '"' :: rest := by
  constructor
  · exact eq_escaped_of_readQuoted
  · rintro rfl
    exact readQuoted_escaped text rest

theorem escaped_of_plain (h : Plain text) : escaped text = text := by
  induction text with
  | nil => rfl
  | cons c text ih =>
    obtain ⟨hslash, hquote, hfeed⟩ := h c List.mem_cons_self
    rw [escaped_cons, escapedChar, if_neg hslash, if_neg hquote, if_neg hfeed,
      ih fun d hd => h d (List.mem_cons_of_mem c hd)]
    rfl

/-- What is escaped fits on a line. -/
theorem not_feed_escaped (text : List Char) : '\n' ∉ escaped text := by
  induction text with
  | nil => simp
  | cons c text ih =>
    have hchar : '\n' ∉ escapedChar c := by
      unfold escapedChar
      split_ifs with hslash hquote hfeed
      · decide
      · decide
      · decide
      · simpa using Ne.symm hfeed
    simp [hchar, ih]

/-- A text that is written as it is and read as itself has nothing in it that is escaped. The
induction runs `count` backslashes ahead of the text that is read: each one in it adds another. -/
theorem plain_of_quoted {after : List Char} {count : Nat}
    (h : text ++ '"' :: after = List.replicate count '\\' ++ (escaped text ++ '"' :: rest)) :
    count = 0 ∧ Plain text := by
  induction text generalizing count with
  | nil =>
    cases count with
    | zero => exact ⟨rfl, by simp [Plain]⟩
    | succ count => simp [List.replicate_succ] at h
  | cons c text ih =>
    cases count with
    | zero =>
      rw [List.replicate_zero, List.nil_append, escaped_cons] at h
      unfold escapedChar at h
      split at h
      · next hc =>
        have htail := (List.cons.inj h).2
        obtain ⟨hcount, -⟩ := @ih 1 htail
        cases hcount
      · next hslash =>
        split at h
        · next hc => exact absurd (List.cons.inj h).1 hslash
        · split at h
          · exact absurd (List.cons.inj h).1 hslash
          · next hquote hfeed =>
            obtain ⟨-, hplain⟩ := @ih 0 (List.cons.inj h).2
            refine ⟨rfl, ?_⟩
            rw [Plain, List.forall_mem_cons]
            exact ⟨⟨hslash, hquote, hfeed⟩, hplain⟩
    | succ count =>
      rw [List.replicate_succ] at h
      obtain ⟨rfl, htail⟩ := List.cons.inj h
      have hmore : text ++ '"' :: after =
          List.replicate (count + 2) '\\' ++ (escaped text ++ '"' :: rest) := by
        rw [← List.replicate_append_replicate, List.append_assoc]
        exact htail
      obtain ⟨hcount, -⟩ := ih hmore
      cases hcount

/-- A text that is not escaped is read as itself if there is nothing to escape. -/
theorem readQuoted_self_iff {after : List Char} :
    (∃ rest, readQuoted (text ++ '"' :: after) = some (text, rest)) ↔ Plain text := by
  constructor
  · rintro ⟨rest, h⟩
    exact (@plain_of_quoted text rest after 0 (readQuoted_iff.mp h)).2
  · intro h
    refine ⟨after, readQuoted_iff.mpr ?_⟩
    rw [escaped_of_plain h]

/-! ## Texts in lines -/

theorem lines?_cons (hc : c ≠ '\n') (rest : List Char) :
    lines? (c :: rest) = match lines? rest with
      | some (line :: lines) => some ((c :: line) :: lines)
      | _ => none := by
  rw [lines?]
  exact hc

/-- A line ends at the first line feed. -/
theorem lines?_append (hline : '\n' ∉ line) (rest : List Char) :
    lines? (line ++ '\n' :: rest) = (lines? rest).map (line :: ·) := by
  induction line with
  | nil => rfl
  | cons c line ih =>
    rw [List.mem_cons, not_or] at hline
    rw [List.cons_append, lines?_cons (Ne.symm hline.1), ih hline.2]
    cases lines? rest <;> rfl

/-- There are as many lines as line feeds. -/
theorem length_of_lines? {lines : List (List Char)} (h : lines? text = some lines) :
    lines.length = text.count '\n' := by
  induction text generalizing lines with
  | nil =>
    cases h
    rfl
  | cons c text ih =>
    by_cases hc : c = '\n'
    · subst hc
      rw [lines?, Option.map_eq_some_iff] at h
      obtain ⟨more, hmore, rfl⟩ := h
      rw [List.length_cons, ih hmore, List.count_cons_self]
    · rw [lines?_cons hc] at h
      split at h
      · next line more hmore =>
        cases h
        rw [List.count_cons_of_ne hc, ← ih hmore]
        rfl
      · cases h

/-- The text that consists of the lines. -/
def unlines (lines : List (List Char)) : List Char := lines.flatMap (· ++ ['\n'])

/-- A text is read as the lines that it consists of. -/
theorem lines?_unlines {lines : List (List Char)} (h : ∀ line ∈ lines, '\n' ∉ line) :
    lines? (unlines lines) = some lines := by
  induction lines with
  | nil => rfl
  | cons line lines ih =>
    have hline := lines?_append (h line List.mem_cons_self) (unlines lines)
    rw [ih fun l hl => h l (List.mem_cons_of_mem line hl)] at hline
    simpa [unlines] using hline

theorem count_unlines (lines : List (List Char)) :
    (unlines lines).count '\n' = lines.length + lines.flatten.count '\n' := by
  induction lines with
  | nil => rfl
  | cons line lines ih =>
    have hcons : unlines (line :: lines) = line ++ '\n' :: unlines lines := by simp [unlines]
    rw [hcons, List.flatten_cons, List.count_append, List.count_append, List.count_cons_self, ih,
      List.length_cons]
    omega

/-- Where a text is read as no more lines than it consists of, none of them holds a line feed. -/
theorem not_feed_of_length {lines out : List (List Char)} (h : lines? (unlines lines) = some out)
    (hlength : out.length = lines.length) : ∀ line ∈ lines, '\n' ∉ line := by
  have hcount := length_of_lines? h
  rw [count_unlines] at hcount
  have hfeeds : '\n' ∉ lines.flatten := List.count_eq_zero.mp (by omega)
  exact fun line hline hmem => hfeeds (List.mem_flatten.mpr ⟨line, hline, hmem⟩)

theorem read?_eq_some_iff {text : String} {said : List Line} : read? text = some said ↔
    ∃ lines, lines? text.toList = some lines ∧ lines.mapM readLine = some said := by
  rw [read?]
  exact Option.bind_eq_some_iff

theorem mapM_readLine_cons {lines : List (List Char)} {first : Line} {more : List Line} :
    (line :: lines).mapM readLine = some (first :: more) ↔
      readLine line = some first ∧ lines.mapM readLine = some more := by
  rw [List.mapM_cons]
  simp only [Option.bind_eq_bind, Option.bind_eq_some_iff, Option.pure_def, Option.some.injEq,
    List.cons.injEq]
  constructor
  · rintro ⟨_, hfirst, _, hmore, rfl, rfl⟩
    exact ⟨hfirst, hmore⟩
  · rintro ⟨hfirst, hmore⟩
    exact ⟨first, hfirst, more, hmore, rfl, rfl⟩

/-- Each line says one thing. -/
theorem length_of_mapM {lines : List (List Char)} {read : List Line}
    (h : lines.mapM readLine = some read) : read.length = lines.length := by
  induction lines generalizing read with
  | nil =>
    cases h
    rfl
  | cons line lines ih =>
    cases read with
    | nil =>
      rw [List.mapM_cons] at h
      simp [Option.bind_eq_some_iff] at h
    | cons first more =>
      obtain ⟨-, hmore⟩ := mapM_readLine_cons.mp h
      rw [List.length_cons, List.length_cons, ih hmore]

/-! ## Names and numbers -/

variable {colons : Bool}

theorem not_isBlank_of_isNameChar (h : isNameChar colons c = true) : isBlank c = false := by
  rw [Bool.eq_false_iff]
  intro hblank
  have hcases : c = ' ' ∨ c = '\t' := by
    simpa only [isBlank, Bool.or_eq_true, decide_eq_true_eq] using hblank
  rcases hcases with rfl | rfl <;> cases colons <;> exact absurd h (by decide)

theorem not_isBlank_of_isDigit (h : c.isDigit = true) : isBlank c = false :=
  @not_isBlank_of_isNameChar c true (by simp [isNameChar, Char.isAlphanum, h])

/-- A name begins with a character that is a name's. -/
theorem exists_cons_of_isName (h : isName colons text = true) :
    ∃ c cs, text = c :: cs ∧ ∀ d ∈ c :: cs, isNameChar colons d = true := by
  cases text with
  | nil => cases h
  | cons c cs =>
    simp only [isName, Bool.and_eq_true, List.all_eq_true] at h
    exact ⟨c, cs, rfl, h.1⟩

theorem skipBlanks_cons (h : isBlank c = false) (rest : List Char) :
    skipBlanks (c :: rest) = c :: rest :=
  List.dropWhile_cons_of_neg (by simp [h])

theorem skipBlanks_name (h : isName colons text = true) (rest : List Char) :
    skipBlanks (text ++ rest) = text ++ rest := by
  obtain ⟨c, cs, rfl, hall⟩ := exists_cons_of_isName h
  exact skipBlanks_cons (not_isBlank_of_isNameChar (hall c List.mem_cons_self)) _

theorem span_name (h : isName colons text = true)
    (hrest : ∀ c ∈ rest.head?, isNameChar colons c = false) :
    (text ++ rest).span (isNameChar colons) = (text, rest) := by
  obtain ⟨c, cs, rfl, hall⟩ := exists_cons_of_isName h
  exact Json.span_append hall hrest

/-- A word without blanks ends at the next one. -/
theorem readWord_append (hword : ∀ c ∈ text, isBlank c = false) (hne : text ≠ [])
    (hrest : ∀ c ∈ rest.head?, isBlank c = true) : readWord (text ++ rest) = (text, rest) := by
  have hskip : skipBlanks (text ++ rest) = text ++ rest := by
    obtain ⟨c, cs, rfl⟩ := List.exists_cons_of_ne_nil hne
    exact skipBlanks_cons (hword c List.mem_cons_self) _
  rw [readWord, hskip]
  exact Json.span_append (fun c hc => by simp [hword c hc]) fun c hc => by simp [hrest c hc]

theorem readWord_name (h : isName colons text = true) (hrest : ∀ c ∈ rest.head?, isBlank c = true) :
    readWord (text ++ rest) = (text, rest) := by
  obtain ⟨c, cs, rfl, hall⟩ := exists_cons_of_isName h
  exact readWord_append (fun d hd => not_isBlank_of_isNameChar (hall d hd)) (by simp) hrest

/-- A number is read as it is written. -/
theorem readValue_toDigits (n : Nat) : readValue (' ' :: Nat.toDigits 10 n) = some n := by
  have hdigits : ∀ c ∈ Nat.toDigits 10 n, c.isDigit = true :=
    fun _ hmem => Nat.isDigit_of_mem_toDigits (by decide) (by decide) hmem
  have hword : readWord (Nat.toDigits 10 n ++ []) = (Nat.toDigits 10 n, []) :=
    readWord_append (fun c hc => not_isBlank_of_isDigit (hdigits c hc)) Nat.toDigits_ne_nil
      (by simp)
  have hword : readWord (' ' :: Nat.toDigits 10 n) = (Nat.toDigits 10 n, []) := by
    rwa [List.append_nil] at hword
  have hguard : Nat.toDigits 10 n ≠ [] ∧ (Nat.toDigits 10 n).all Char.isDigit = true ∧
      skipBlanks [] = [] := ⟨Nat.toDigits_ne_nil, List.all_eq_true.mpr hdigits, rfl⟩
  simp only [readValue, hword, guard]
  rw [if_pos hguard, Nat.ofDigitChars_ten_toDigits]
  rfl

/-! ## Comments and samples -/

variable {name help word : List Char} {count n : Nat}

theorem readWord_blank (rest : List Char) : readWord (' ' :: rest) = readWord rest := rfl

/-- A line of help is read as it is written. -/
theorem readLine_help (hname : isName true name = true) (hhelp : skipBlanks help = help) :
    readLine (['#', ' ', 'H', 'E', 'L', 'P', ' '] ++ (name ++ ' ' :: help)) =
      some (.help (.ofList name) (.ofList help)) := by
  have hsign : readWord ([' ', 'H', 'E', 'L', 'P', ' '] ++ (name ++ ' ' :: help)) =
      (['H', 'E', 'L', 'P'], ' ' :: (name ++ ' ' :: help)) := rfl
  have hmetric : readWord (name ++ ' ' :: help) = (name, ' ' :: help) :=
    readWord_name hname (by simp [isBlank])
  have hskip : skipBlanks (' ' :: help) = help := hhelp
  show readComment ([' ', 'H', 'E', 'L', 'P', ' '] ++ (name ++ ' ' :: help)) = _
  simp only [readComment, hsign, readWord_blank, hmetric, hskip, hname, ↓reduceIte, guard]
  rfl

/-- A line with a type is read as it is written. -/
theorem readLine_type (hname : isName true name = true) (hword : isName true word = true) :
    readLine (['#', ' ', 'T', 'Y', 'P', 'E', ' '] ++ (name ++ ' ' :: word)) =
      some (.type (.ofList name) (.ofList word)) := by
  have hsign : readWord ([' ', 'T', 'Y', 'P', 'E', ' '] ++ (name ++ ' ' :: word)) =
      (['T', 'Y', 'P', 'E'], ' ' :: (name ++ ' ' :: word)) := rfl
  have hmetric : readWord (name ++ ' ' :: word) = (name, ' ' :: word) :=
    readWord_name hname (by simp [isBlank])
  have htype : readWord word = (word, []) := by
    have h : readWord (word ++ []) = (word, []) := readWord_name hword (by simp)
    rwa [List.append_nil] at h
  have hguard : word ≠ [] ∧ skipBlanks [] = [] := by
    obtain ⟨c, cs, rfl, -⟩ := exists_cons_of_isName hword
    exact ⟨List.cons_ne_nil c cs, rfl⟩
  show readComment ([' ', 'T', 'Y', 'P', 'E', ' '] ++ (name ++ ' ' :: word)) = _
  simp only [readComment, hsign, readWord_blank, hmetric, htype, hname, ↓reduceIte, guard]
  rw [if_pos hguard]
  rfl

/-- A sample with labels is read label by label. -/
theorem readLine_sample (hname : isName true name = true) (rest : List Char) :
    readLine (name ++ '\x7b' :: rest) = (do
      let (labels, rest) ← readLabels (name ++ '\x7b' :: rest).length rest
      return .sample (.ofList name) labels (← readValue rest)) := by
  have hspan : (name ++ '\x7b' :: rest).span (isNameChar true) = (name, '\x7b' :: rest) :=
    span_name hname (by simp [isNameChar])
  have hsample : readLine (name ++ '\x7b' :: rest) = readSample (name ++ '\x7b' :: rest) := by
    rw [readLine, skipBlanks_name hname]
    obtain ⟨c, cs, rfl, hall⟩ := exists_cons_of_isName hname
    have hsign : c ≠ '#' := by
      rintro rfl
      exact absurd (hall '#' List.mem_cons_self) (by decide)
    split
    · next heq => cases heq
    · next heq => exact absurd (List.cons.inj heq).1 hsign
    · rfl
  rw [hsample, readSample, hspan]
  simp only [hname, guard, ↓reduceIte]
  rfl

/-- A label is read from the text in its quotes, and then what follows it. -/
theorem readLabels_label (hname : isName false name = true) (rest : List Char) :
    readLabels (count + 1) (name ++ '=' :: '"' :: rest) = (do
      let (value, rest) ← readQuoted rest
      let (labels, rest) ← afterLabel (readLabels count) rest
      return ((.ofList name, .ofList value) :: labels, rest)) := by
  have hlabel : readLabel (name ++ '=' :: '"' :: rest) = (do
      let (value, rest) ← readQuoted rest
      return ((.ofList name, .ofList value), rest)) := by
    have hspan : (name ++ '=' :: '"' :: rest).span (isNameChar false) =
        (name, '=' :: '"' :: rest) := span_name hname (by simp [isNameChar])
    rw [readLabel, skipBlanks_name hname, hspan]
    simp only [hname, guard, ↓reduceIte]
    rfl
  rw [readLabels, skipBlanks_name hname]
  split
  · next heq =>
    obtain ⟨c, cs, rfl, hall⟩ := exists_cons_of_isName hname
    obtain ⟨rfl, -⟩ := List.cons.inj heq
    exact absurd (hall _ List.mem_cons_self) (by decide)
  · rw [hlabel]
    cases readQuoted rest <;> rfl

end LinkProbe.Exposition
