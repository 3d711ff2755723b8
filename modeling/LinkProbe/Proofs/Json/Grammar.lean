import LinkProbe.Json.Printer
import LinkProbe.Json.Reader
import LinkProbe.Number.Digit

/-!
# What is written in a document

The texts that stand for a value, without the readers: white space may stand between tokens, and a
character between quotes may be escaped.

* `Spelled`: the ways to write a text between its quotes.
* `Written`: the ways to write a value.
* `Document`: the documents that hold a value.
* `Ended`: what may follow a value.
-/

namespace LinkProbe.Json

/-- White space between tokens. -/
def Blank (space : List Char) : Prop := ∀ c ∈ space, isSpace c = true

instance (space : List Char) : Decidable (Blank space) := List.decidableBAll _ space

theorem blank_nil : Blank [] := by decide

theorem blank_space : Blank [' '] := by decide

/-! ## Texts -/

/-- The letters that stand for a character after a backslash, with that character. -/
def shortEscapes : List (Char × Char) := [
  ('"', '"'), ('\\', '\\'), ('/', '/'), ('b', '\x08'), ('f', '\x0c'), ('n', '\n'), ('r', '\r'),
  ('t', '\t')]

/-- Four hexadecimal digits write the number. -/
def WritesUnit (digits : List Char) (unit : Nat) : Prop :=
  digits.length = 4 ∧ Digit.number? 16 Digit.hex? digits = some unit

/-- The ways to write a character between quotes. -/
inductive SpelledChar (c : Char) : List Char → Prop
  /-- The character stands for itself. -/
  | plain (hquote : c ≠ '"') (hslash : c ≠ '\\') (hcontrol : ' ' ≤ c) : SpelledChar c [c]
  | short {letter : Char} (h : (letter, c) ∈ shortEscapes) : SpelledChar c ['\\', letter]
  /-- A character below U+10000 is written by its number. -/
  | unit {digits : List Char} (h : WritesUnit digits c.toNat) :
    SpelledChar c ('\\' :: 'u' :: digits)
  /-- Any other character is written by a pair of surrogates. -/
  | pair {leading trailing : List Char} (hwide : 0x10000 ≤ c.toNat)
    (hleading : WritesUnit leading (0xD800 + (c.toNat - 0x10000) / 0x400))
    (htrailing : WritesUnit trailing (0xDC00 + (c.toNat - 0x10000) % 0x400)) :
    SpelledChar c ('\\' :: 'u' :: (leading ++ '\\' :: 'u' :: trailing))

/-- The ways to write a text between its quotes. -/
inductive Spelled : List Char → List Char → Prop
  | nil : Spelled [] []
  | cons {c : Char} {piece text body : List Char} (hc : SpelledChar c piece)
    (h : Spelled text body) : Spelled (c :: text) (piece ++ body)

/-! ## Values -/

/-- The ways to write a member of an object whose values are written by `W`. -/
inductive MemberWritten (W : Value → List Char → Prop) : String × Value → List Char → Prop
  | mk {key : String} {value : Value} {body before after text : List Char}
    (hkey : Spelled key.toList body) (hbefore : Blank before) (hafter : Blank after)
    (hvalue : W value text) :
    MemberWritten W (key, value) ('"' :: (body ++ '"' :: (before ++ ':' :: (after ++ text))))

/-- The ways to write what follows a member: further members, each after a comma, and the end of
the object. -/
inductive FurtherWritten (W : Value → List Char → Prop) : List (String × Value) → List Char → Prop
  | close {before : List Char} (hbefore : Blank before) :
    FurtherWritten W [] (before ++ ['\x7d'])
  | comma {m : String × Value} {ms : List (String × Value)} {before after text texts : List Char}
    (hbefore : Blank before) (hafter : Blank after) (hm : MemberWritten W m text)
    (hms : FurtherWritten W ms texts) :
    FurtherWritten W (m :: ms) (before ++ ',' :: (after ++ (text ++ texts)))

/-- The ways to write a value. -/
inductive Written : Value → List Char → Prop
  | null : Written .null ['n', 'u', 'l', 'l']
  | yes : Written (.boolean true) ['t', 'r', 'u', 'e']
  | no : Written (.boolean false) ['f', 'a', 'l', 's', 'e']
  /-- A number is written in decimal without leading zeros. -/
  | natural (n : Nat) : Written (.natural n) (Nat.toDigits 10 n)
  | text {s : String} {body : List Char} (h : Spelled s.toList body) :
    Written (.text s) ('"' :: (body ++ ['"']))
  | empty {space : List Char} (h : Blank space) : Written (.object []) ('\x7b' :: (space ++ ['\x7d']))
  | object {m : String × Value} {ms : List (String × Value)} {before text texts : List Char}
    (hbefore : Blank before) (hm : MemberWritten Written m text)
    (hms : FurtherWritten Written ms texts) :
    Written (.object (m :: ms)) ('\x7b' :: (before ++ (text ++ texts)))

/-- The document holds the value and nothing else. -/
def Document (value : Value) (document : String) : Prop :=
  ∃ before text after, Blank before ∧ Written value text ∧ Blank after ∧
    document.toList = before ++ (text ++ after)

/-- The value is no object. -/
def Value.IsScalar : Value → Prop
  | .object _ => False
  | _ => True

/-! ## Where values end -/

/-- What may follow a value: the end of the document, white space, a comma or the end of an
object. -/
def Ended (rest : List Char) : Prop := ∀ c ∈ rest.head?, isSpace c = true ∨ c = ',' ∨ c = '\x7d'

theorem Blank.ended {space : List Char} (h : Blank space) : Ended space :=
  fun c hc => .inl (h c (List.mem_of_mem_head? hc))

theorem Blank.ended_append {space rest : List Char} (h : Blank space) (hrest : Ended rest) :
    Ended (space ++ rest) := by
  cases space with
  | nil => exact hrest
  | cons c space => simpa [Ended] using .inl (h c List.mem_cons_self)

theorem FurtherWritten.ended {W : Value → List Char → Prop} {ms : List (String × Value)}
    {texts : List Char} (h : FurtherWritten W ms texts) (rest : List Char) :
    Ended (texts ++ rest) := by
  cases h with
  | close hbefore =>
    rw [List.append_assoc]
    exact hbefore.ended_append (by simp [Ended])
  | comma hbefore =>
    rw [List.append_assoc]
    exact hbefore.ended_append (by simp [Ended])

end LinkProbe.Json
