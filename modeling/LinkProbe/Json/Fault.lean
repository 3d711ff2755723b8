import LinkProbe.Number.Shortest
import LinkProbe.Text.Quoted

/-!
# What can be wrong with a JSON document

The causes for which a document is refused, the value that stood where another was wanted, and the
wording of both.

* `Cause.message`: the text of a cause.
* `Fault.message`: the text of a cause and the place in the document.
* `floatText`: a double in the fewest digits that read back.
-/

namespace LinkProbe.Json

/-! ## Doubles -/

/-- The exponents of the first digit for which a double is written without an exponent. -/
def plainExponents : Int × Int := (-5, 15)

/-- A whole number with its sign, without a sign when it is not negative. -/
def signed (n : Int) : String := if n < 0 then s!"-{n.natAbs}" else s!"{n.natAbs}"

/-- `digits * 10 ^ exponent` written in full, with at least one decimal. -/
def plainDecimal (digits : String) (exponent : Int) : String :=
  if 0 ≤ exponent then digits ++ "".pushn '0' exponent.toNat ++ ".0"
  else
    let places := exponent.natAbs
    let padded := "".pushn '0' (places + 1 - digits.length) ++ digits
    let whole := padded.length - places
    (padded.take whole).toString ++ "." ++ (padded.drop whole).toString

/-- `digits * 10 ^ exponent` with one digit before the point, where `lead` is the exponent of that
digit. -/
def scientific (digits : String) (lead : Int) : String :=
  let rest := (digits.drop 1).toString
  let mantissa := (digits.take 1).toString ++ (if rest.isEmpty then "" else "." ++ rest)
  mantissa ++ "e" ++ (if 0 ≤ lead then "+" else "") ++ signed lead

/-- A double in the fewest digits that read back. -/
def floatText (negative : Bool) (value : Binary64) : String :=
  (if negative then "-" else "") ++
    if value.significand = 0 then "0.0"
    else
      let (digits, exponent) := value.shortest
      let text := toString digits
      let lead := exponent + text.length - 1
      if plainExponents.1 ≤ lead ∧ lead ≤ plainExponents.2 then plainDecimal text exponent
      else scientific text lead

/-! ## Causes -/

/-- The value found where one of another type was wanted. -/
inductive Found where
  | null
  | boolean (value : Bool)
  | integer (value : Int)
  | float (negative : Bool) (value : Binary64)
  | text (value : String)
  | array
  | object
deriving DecidableEq, Repr

/-- How a message names what was found. -/
def Found.describe : Found → String
  | .null => "null"
  | .boolean value => s!"boolean `{value}`"
  | .integer value => s!"integer `{signed value}`"
  | .float negative value => s!"floating point `{floatText negative value}`"
  | .text value => s!"string {Text.quoted value}"
  | .array => "sequence"
  | .object => "map"

/-- Why a document is refused. -/
inductive Cause where
  /-- The document ends where a value should begin, or inside a word or number. -/
  | endInValue
  | endInObject
  | endInArray
  | endInText
  /-- No value begins with this character. -/
  | noValue
  /-- A word that starts like `null`, `true` or `false` goes on differently. -/
  | badWord
  | noColon
  | noCommaInObject
  | noCommaInArray
  | keyNotText
  | trailingComma
  | trailingText
  | badNumber
  /-- The number is beyond the largest double. -/
  | hugeNumber
  | controlInText
  | badEscape
  /-- A surrogate stands without its partner. -/
  | loneSurrogate
  /-- A first surrogate is not followed by an escape. -/
  | cutSurrogate
  | wrongType (found : Found) (wanted : String)
  | wrongValue (found : Found) (wanted : String)
  | unknownField (name : String) (known : List String)
  | unknownVariant (name : String) (known : List String)
  | duplicateField (name : String)
  | missingField (name : String)
  /-- An array stands for a record and has too few elements. -/
  | wrongLength (found : Nat) (record : String) (wanted : Nat)
deriving DecidableEq, Repr

/-- The accepted names of a message. -/
def oneOf (names : List String) : String :=
  "one of " ++ ", ".intercalate (names.map fun name => s!"`{name}`")

/-- The wording of a cause. -/
def Cause.message : Cause → String
  | .endInValue => "EOF while parsing a value"
  | .endInObject => "EOF while parsing an object"
  | .endInArray => "EOF while parsing a list"
  | .endInText => "EOF while parsing a string"
  | .noValue => "expected value"
  | .badWord => "expected ident"
  | .noColon => "expected `:`"
  | .noCommaInObject => "expected `,` or `\x7d`"
  | .noCommaInArray => "expected `,` or `]`"
  | .keyNotText => "key must be a string"
  | .trailingComma => "trailing comma"
  | .trailingText => "trailing characters"
  | .badNumber => "invalid number"
  | .hugeNumber => "number out of range"
  | .controlInText => "control character (\\u0000-\\u001F) found while parsing a string"
  | .badEscape => "invalid escape"
  | .loneSurrogate => "lone leading surrogate in hex escape"
  | .cutSurrogate => "unexpected end of hex escape"
  | .wrongType found wanted => s!"invalid type: {found.describe}, expected {wanted}"
  | .wrongValue found wanted => s!"invalid value: {found.describe}, expected {wanted}"
  | .unknownField name known => s!"unknown field `{name}`, expected {oneOf known}"
  | .unknownVariant name known => s!"unknown variant `{name}`, expected {oneOf known}"
  | .duplicateField name => s!"duplicate field `{name}`"
  | .missingField name => s!"missing field `{name}`"
  | .wrongLength found record wanted =>
    s!"invalid length {found}, expected struct {record} with {wanted} elements"

/-- A refused document: why, and at which line and column. -/
structure Fault where
  cause : Cause
  line : Nat
  column : Nat
deriving DecidableEq, Repr

/-- The wording of a refusal. -/
def Fault.message (f : Fault) : String :=
  s!"{f.cause.message} at line {f.line} column {f.column}"

end LinkProbe.Json
