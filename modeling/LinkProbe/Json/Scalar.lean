import LinkProbe.Json.Number
import LinkProbe.Json.Text

/-!
# Values of a wanted type

Readers for the types that a record's fields have. Each one says what it wanted where it finds a
value of another type.

* `refuseType`: the refusal of a value of another type, read to its end if it is a scalar.
* `naturalUpTo`, `text`, `boolean`, `nullable`, `variant`: the readers.
-/

namespace LinkProbe.Json

/-- What a message about the number names. -/
def Number.found : Number → Found
  | .natural value => .integer value
  | .negative value => .integer (-value)
  | .float below value => .float below value

/-- The refusal of `found`, which `result` says where it ends or why it is broken. -/
def refuseAfter (wanted : String) (found : Found) (result : Except Refusal (List Char)) : Refusal :=
  match result with
  | .error refusal => refusal
  | .ok rest => .here (.wrongType found wanted) rest

/-- The refusal of a number where `wanted` should stand. -/
def refuseNumber (wanted : String) (result : Except Refusal (Number × List Char)) : Refusal :=
  match result with
  | .error refusal => refusal
  | .ok (number, rest) => .here (.wrongType number.found wanted) rest

/-- The refusal of the value that begins here where `wanted` should stand. -/
def refuseType (wanted : String) (rest : List Char) : Refusal :=
  match rest with
  | 'n' :: after => refuseAfter wanted .null (wordEnd ['u', 'l', 'l'] after)
  | 't' :: after => refuseAfter wanted (.boolean true) (wordEnd ['r', 'u', 'e'] after)
  | 'f' :: after => refuseAfter wanted (.boolean false) (wordEnd ['a', 'l', 's', 'e'] after)
  | '-' :: after => refuseNumber wanted (readNumber true after)
  | '"' :: after =>
    match readText after with
    | .error refusal => refusal
    | .ok (value, rest) => .here (.wrongType (.text value) wanted) rest
  | '[' :: _ => .here (.wrongType .array wanted) rest
  | '\x7b' :: _ => .here (.wrongType .object wanted) rest
  | c :: _ =>
    if c.isDigit then refuseNumber wanted (readNumber false rest) else .atNext .noValue rest
  | [] => .atNext .noValue []

/-- A value of the wanted type or the refusal of what stands there; `accept` sees the text from the
next token on, which is there. -/
def token {α : Type} (accept : Reader α) : Reader α := fun rest =>
  match skipSpace rest with
  | [] => .error (.atNext .endInValue [])
  | rest => accept rest

/-- The number is a whole number up to the limit. -/
def Number.upTo (limit : Nat) (wanted : String) (rest : List Char) :
    Number → Except Refusal (Nat × List Char)
  | .natural value =>
    if value ≤ limit then .ok (value, rest)
    else .error (.here (.wrongValue (.integer value) wanted) rest)
  | .negative value => .error (.here (.wrongValue (.integer (-value)) wanted) rest)
  | .float below value => .error (.here (.wrongType (.float below value) wanted) rest)

/-- Reads a whole number up to the limit; `wanted` names its type. -/
def naturalUpTo (limit : Nat) (wanted : String) : Reader Nat := token fun rest =>
  match rest with
  | '-' :: after => readNumber true after >>= fun (number, rest) => number.upTo limit wanted rest
  | c :: _ =>
    if c.isDigit then
      readNumber false rest >>= fun (number, rest) => number.upTo limit wanted rest
    else .error (refuseType wanted rest)
  | [] => .error (refuseType wanted rest)

/-- Reads a text; `wanted` names what it is for. -/
def textFor (wanted : String) : Reader String := token fun rest =>
  match rest with
  | '"' :: after => readText after
  | _ => .error (refuseType wanted rest)

/-- Reads a text. -/
def text : Reader String := textFor "a string"

/-- Reads a truth value. -/
def boolean : Reader Bool := token fun rest =>
  match rest with
  | 't' :: after => (wordEnd ['r', 'u', 'e'] after).map (true, ·)
  | 'f' :: after => (wordEnd ['a', 'l', 's', 'e'] after).map (false, ·)
  | _ => .error (refuseType "a boolean" rest)

/-- Reads a value that may be `null`. -/
def nullable {α : Type} (reader : Reader α) : Reader (Option α) := fun rest =>
  match skipSpace rest with
  | 'n' :: after => (wordEnd ['u', 'l', 'l'] after).map (none, ·)
  | rest => (reader rest).map fun (value, rest) => (some value, rest)

/-- Reads a `null`. -/
def nothing : Reader Unit := token fun rest =>
  match rest with
  | 'n' :: after => (wordEnd ['u', 'l', 'l'] after).map ((), ·)
  | _ => .error (refuseType "unit" rest)

/-- Reads the colon behind a key. -/
def colon (rest : List Char) : Except Refusal (List Char) :=
  match skipSpace rest with
  | [] => .error (.atNext .endInObject [])
  | ':' :: rest => .ok rest
  | rest => .error (.atNext .noColon rest)

/-- The value of a name. -/
def chosen {α : Type} (options : List (String × α)) (name : String) (rest : List Char) :
    Except Refusal (α × List Char) :=
  match options.lookup name with
  | some value => .ok (value, rest)
  | none => .error (.here (.unknownVariant name (options.map Prod.fst)) rest)

/-- Reads one of several names, either as a text or as the only key of an object whose value is
`null`. -/
def variant {α : Type} (options : List (String × α)) : Reader α := token fun rest =>
  match rest with
  | '"' :: after => readText after >>= fun (name, rest) => chosen options name rest
  | '\x7b' :: after =>
    textFor "variant identifier" after >>= fun (name, rest) =>
      chosen options name rest >>= fun (value, rest) =>
        colon rest >>= nothing >>= fun (_, rest) =>
          match skipSpace rest with
          | '\x7d' :: rest => .ok (value, rest)
          | [] => .error (.here .endInObject [])
          | rest => .error (.here .noValue rest)
  | _ => .error (.atNext .noValue rest)

end LinkProbe.Json
