import LinkProbe.Json.Fault

/-!
# Readers

A reader takes a value from the front of a text and leaves the rest. Where it refuses, it says how
many bytes were left, and the place in the document is computed from that once, at the end.

* `Refusal.here`, `Refusal.atNext`: a refusal before or after the next byte.
* `wordEnd`: the letters of a word that must follow its first one.
* `read`: a document holds one value and nothing else.
-/

namespace LinkProbe.Json

/-- A refusal: why, and how many bytes come after the place. -/
structure Refusal where
  cause : Cause
  left : Nat
deriving DecidableEq, Repr

/-- Takes a value from the front of the text. -/
abbrev Reader (α : Type) := List Char → Except Refusal (α × List Char)

/-- The length of the text in UTF-8. -/
def byteCount (text : List Char) : Nat := text.foldr (fun c count => c.utf8Size + count) 0

/-- A refusal before the rest. -/
def Refusal.here (cause : Cause) (rest : List Char) : Refusal := ⟨cause, byteCount rest⟩

/-- A refusal that counts the next byte of the rest, if there is one, as read. -/
def Refusal.atNext (cause : Cause) (rest : List Char) : Refusal := ⟨cause, byteCount rest - 1⟩

/-- The white space of JSON. -/
def isSpace (c : Char) : Bool := c = ' ' || c = '\n' || c = '\t' || c = '\r'

/-- The text from the next token on. -/
def skipSpace (text : List Char) : List Char := text.dropWhile isSpace

/-- Reads the remaining letters of a word. -/
def wordEnd : List Char → List Char → Except Refusal (List Char)
  | [], rest => .ok rest
  | _ :: _, [] => .error (.here .endInValue [])
  | letter :: letters, c :: rest =>
    if c = letter then wordEnd letters rest else .error (.atNext .badWord (c :: rest))

/-! ## Documents -/

/-- The line and column `count` bytes further on. -/
def place (line column count : Nat) : List Char → Nat × Nat
  | [] => (line, column)
  | c :: rest =>
    if count = 0 then (line, column)
    else if c = '\n' then place (line + 1) 0 (count - 1) rest
    else place line (column + min count c.utf8Size) (count - c.utf8Size) rest

/-- The place of a refusal in the document. -/
def Refusal.locate (document : List Char) (r : Refusal) : Fault :=
  let (line, column) := place 1 0 (byteCount document - r.left) document
  ⟨r.cause, line, column⟩

/-- Reads a document that holds one value. -/
def read {α : Type} (reader : Reader α) (document : String) : Except Fault α :=
  let text := document.toList
  match reader text with
  | .error refusal => .error (refusal.locate text)
  | .ok (value, rest) =>
    match skipSpace rest with
    | [] => .ok value
    | rest => .error (Refusal.locate text (.atNext .trailingText rest))

end LinkProbe.Json
