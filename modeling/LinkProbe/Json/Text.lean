import LinkProbe.Json.Reader
import LinkProbe.Number.Digit

/-!
# Text values

What stands between the quotes of a text, the first quote having been read.

* `readText`: the text, with its escapes resolved.
* `skipText`: only where the text ends; surrogates are not looked at.
-/

namespace LinkProbe.Json

/-- The number of four hexadecimal digits. -/
def hexValues? (a b c d : Char) : Option Nat := Digit.number? 16 Digit.hex? [a, b, c, d]

/-- The refusal where four hexadecimal digits should stand: the text ends within the four bytes, or
they are taken for a bad escape. -/
def badHex (rest : List Char) : Refusal :=
  if byteCount rest < 4 then ⟨.endInText, 0⟩ else ⟨.badEscape, byteCount rest - 4⟩

/-- Reads four hexadecimal digits. -/
def readHex : Reader Nat
  | a :: b :: c :: d :: rest =>
    match hexValues? a b c d with
    | some value => .ok (value, rest)
    | none => .error (badHex (a :: b :: c :: d :: rest))
  | rest => .error (badHex rest)

/-- A code unit that opens a pair of surrogates. -/
def isLeading (unit : Nat) : Bool := 0xD800 ≤ unit && unit ≤ 0xDBFF

/-- A code unit that closes a pair of surrogates. -/
def isTrailing (unit : Nat) : Bool := 0xDC00 ≤ unit && unit ≤ 0xDFFF

/-- The character that a pair of surrogates stands for. -/
def pairChar (leading trailing : Nat) : Char :=
  .ofNat ((leading - 0xD800) * 1024 + (trailing - 0xDC00) + 0x10000)

/-- Reads the second half of a pair of surrogates. -/
def readTrailing (leading : Nat) : Reader Char
  | '\\' :: 'u' :: rest =>
    match readHex rest with
    | .error refusal => .error refusal
    | .ok (unit, rest) =>
      if isTrailing unit then .ok (pairChar leading unit, rest)
      else .error (.here .loneSurrogate rest)
  | '\\' :: [] => .error (.here .endInText [])
  | '\\' :: rest => .error (.atNext .cutSurrogate rest)
  | [] => .error (.here .endInText [])
  | rest => .error (.atNext .cutSurrogate rest)

/-- The character that a letter after a backslash stands for. -/
def escape? : Char → Option Char
  | '"' => some '"'
  | '\\' => some '\\'
  | '/' => some '/'
  | 'b' => some '\x08'
  | 'f' => some '\x0c'
  | 'n' => some '\n'
  | 'r' => some '\r'
  | 't' => some '\t'
  | _ => none

/-- Reads what follows a backslash. -/
def readEscape : Reader Char
  | [] => .error (.here .endInText [])
  | 'u' :: rest =>
    match readHex rest with
    | .error refusal => .error refusal
    | .ok (unit, rest) =>
      if isTrailing unit then .error (.here .loneSurrogate rest)
      else if isLeading unit then readTrailing unit rest
      else .ok (.ofNat unit, rest)
  | c :: rest =>
    match escape? c with
    | some value => .ok (value, rest)
    | none => .error (.atNext .badEscape (c :: rest))

/-- Reads at most `count` characters of a text, up to its closing quote. -/
def readTextWithin : Nat → Reader (List Char)
  | 0, rest => .error (.here .endInText rest)
  | _ + 1, [] => .error (.here .endInText [])
  | _ + 1, '"' :: rest => .ok ([], rest)
  | count + 1, '\\' :: rest =>
    match readEscape rest with
    | .error refusal => .error refusal
    | .ok (c, rest) =>
      match readTextWithin count rest with
      | .error refusal => .error refusal
      | .ok (text, rest) => .ok (c :: text, rest)
  | count + 1, c :: rest =>
    if c < ' ' then .error (.here .controlInText rest)
    else match readTextWithin count rest with
      | .error refusal => .error refusal
      | .ok (text, rest) => .ok (c :: text, rest)

/-- Reads a text of fewer than `count` characters up to its closing quote. -/
def readTextUnder (count : Nat) : Reader String := fun rest =>
  match readTextWithin count rest with
  | .error refusal => .error refusal
  | .ok (text, rest) => .ok (.ofList text, rest)

/-- Reads a text up to its closing quote. -/
def readText : Reader String := fun rest => readTextUnder (rest.length + 1) rest

/-! ## Passing over -/

/-- Passes over what follows a backslash. -/
def skipEscape : List Char → Except Refusal (List Char)
  | [] => .error (.here .endInText [])
  | 'u' :: rest => (readHex rest).map Prod.snd
  | c :: rest =>
    match escape? c with
    | some _ => .ok rest
    | none => .error (.atNext .badEscape (c :: rest))

/-- Passes over a text of fewer than `count` characters up to its closing quote. -/
def skipText : Nat → List Char → Except Refusal (List Char)
  | 0, rest => .error (.here .endInText rest)
  | _ + 1, [] => .error (.here .endInText [])
  | _ + 1, '"' :: rest => .ok rest
  | count + 1, '\\' :: rest => skipEscape rest >>= skipText count
  | count + 1, c :: rest =>
    if c < ' ' then .error (.here .controlInText (c :: rest)) else skipText count rest

end LinkProbe.Json
