import LinkProbe.Json.Scalar
import LinkProbe.Json.Skip

/-!
# Records

A record is an object whose keys are field names, or an array of the fields' values in order. The
fields fill a draft; when the object or array ends, the draft becomes the record.

* `Field`, `Record`: what a record is made of.
* `Record.reader`: reads one.
-/

namespace LinkProbe.Json

/-- A field of a record with the draft `σ`. -/
structure Field (σ : Type) where
  name : String
  /-- The draft has a value for the field. -/
  isSet : σ → Bool
  /-- Reads a value for the field and puts it into the draft. -/
  read : σ → Reader σ

/-- A field whose value stands in an optional part of the draft. -/
def Field.of {σ α : Type} (name : String) (get : σ → Option α) (set : σ → α → σ)
    (reader : Reader α) : Field σ where
  name := name
  isSet draft := (get draft).isSome
  read draft rest := (reader rest).map fun (value, rest) => (set draft value, rest)

/-- A record `α` that is read through the draft `σ`. -/
structure Record (σ α : Type) where
  name : String
  fields : List (Field σ)
  /-- The draft before anything is read. -/
  blank : σ
  /-- The record, unless a field is missing that it cannot do without. -/
  build : σ → Option α
  /-- Keys that name no field are refused. -/
  closed : Bool

namespace Record

variable {σ α : Type}

/-- The names of the fields, in order. -/
def fieldNames (r : Record σ α) : List String := r.fields.map Field.name

/-- The rest behind a place where a record is refused as a whole: the bracket that ends it is read
if it comes next. -/
def pastClose (close : Char) (rest : List Char) : List Char :=
  match skipSpace rest with
  | [] => []
  | c :: after => if c = close then after else c :: after

/-- A refusal of an object as a whole. -/
def refuseObject (cause : Cause) (rest : List Char) : Refusal := .here cause (pastClose '\x7d' rest)

/-- A refusal of an array as a whole. -/
def refuseArray (cause : Cause) (rest : List Char) : Refusal := .here cause (pastClose ']' rest)

/-! ## Objects -/

/-- Reads the member with the given key into the draft; there are fewer than `count` characters
left. -/
def member (r : Record σ α) (count : Nat) (draft : σ) (key : String) (rest : List Char) :
    Except Refusal (σ × List Char) :=
  match r.fields.find? (·.name = key) with
  | some field =>
    if field.isSet draft then .error (refuseObject (.duplicateField key) rest)
    else colon rest >>= field.read draft
  | none =>
    if r.closed then .error (refuseObject (.unknownField key r.fieldNames) rest)
    else (colon rest >>= skipWithin count []).map (draft, ·)

/-- Goes on to the next key behind a member, if there is one; gives the rest behind its quote. -/
def nextKey? (rest : List Char) : Except Refusal (Option (List Char) × List Char) :=
  match skipSpace rest with
  | '\x7d' :: rest => .ok (none, '\x7d' :: rest)
  | ',' :: rest =>
    match skipSpace rest with
    | '"' :: rest => .ok (some rest, rest)
    | [] => .error (.atNext .endInValue [])
    | '\x7d' :: rest => .error (.atNext .trailingComma ('\x7d' :: rest))
    | rest => .error (.atNext .keyNotText rest)
  | [] => .error (.atNext .endInObject [])
  | rest => .error (.atNext .noCommaInObject rest)

/-- Goes on to the first key, if there is one; gives the rest behind its quote. -/
def firstKey? (rest : List Char) : Except Refusal (Option (List Char) × List Char) :=
  match skipSpace rest with
  | '\x7d' :: rest => .ok (none, '\x7d' :: rest)
  | '"' :: rest => .ok (some rest, rest)
  | [] => .error (.atNext .endInObject [])
  | rest => .error (.atNext .keyNotText rest)

/-- Reads members into the draft; there are fewer than `count` characters left. The rest begins
with the closing bracket. -/
def members (r : Record σ α) : Nat → σ → Option (List Char) × List Char →
    Except Refusal (σ × List Char)
  | _, draft, (none, rest) => .ok (draft, rest)
  | 0, _, (some _, rest) => .error (.here .endInObject rest)
  | count + 1, draft, (some afterQuote, _) =>
    readTextUnder (count + 1) afterQuote >>= fun (key, rest) =>
      r.member (count + 1) draft key rest >>= fun (draft, rest) =>
        nextKey? rest >>= r.members count draft

/-- Reads a record from an object, its opening bracket having been read. -/
def object (r : Record σ α) : Reader α := fun rest =>
  firstKey? rest >>= r.members (rest.length + 1) r.blank >>= fun (draft, rest) =>
    let after := pastClose '\x7d' rest
    match r.build draft with
    | some value => .ok (value, after)
    | none =>
      let missing := (r.fields.find? (!·.isSet draft)).map Field.name
      .error (.here (.missingField (missing.getD r.name)) after)

/-! ## Arrays -/

/-- Goes on to the next element, if there is one. -/
def nextElement? (first : Bool) (rest : List Char) :
    Except Refusal (Option (List Char) × List Char) :=
  match skipSpace rest with
  | [] => .error (.atNext .endInArray [])
  | ']' :: rest => .ok (none, ']' :: rest)
  | c :: rest =>
    if first then .ok (some (c :: rest), c :: rest)
    else if c ≠ ',' then .error (.atNext .noCommaInArray (c :: rest))
    else match skipSpace rest with
      | [] => .error (.atNext .endInValue [])
      | ']' :: rest => .error (.atNext .trailingComma (']' :: rest))
      | rest => .ok (some rest, rest)

/-- Reads elements for the fields in order. Gives the draft and the number of elements read. -/
def elements (first : Bool) (count : Nat) (draft : σ) :
    List (Field σ) → List Char → Except Refusal (σ × Nat × List Char)
  | [], rest => .ok (draft, count, rest)
  | field :: fields, rest =>
    nextElement? first rest >>= fun
      | (none, rest) => .ok (draft, count, rest)
      | (some element, _) =>
        field.read draft element >>= fun (draft, rest) =>
          elements false (count + 1) draft fields rest

/-- Reads the end of an array that has no more elements to offer. -/
def arrayEnd (rest : List Char) : Except Refusal (List Char) :=
  match skipSpace rest with
  | ']' :: rest => .ok rest
  | [] => .error (.atNext .endInArray [])
  | ',' :: rest =>
    match skipSpace rest with
    | ']' :: rest => .error (.atNext .trailingComma (']' :: rest))
    | rest => .error (.atNext .trailingText rest)
  | rest => .error (.atNext .trailingText rest)

/-- Reads a record from an array, its opening bracket having been read. -/
def array (r : Record σ α) : Reader α := fun rest =>
  elements true 0 r.blank r.fields rest >>= fun (draft, count, rest) =>
    match r.build draft with
    | some value => (arrayEnd rest).map (value, ·)
    | none => .error (refuseArray (.wrongLength count r.name r.fields.length) rest)

/-- Reads a record. -/
def reader (r : Record σ α) : Reader α := token fun rest =>
  match rest with
  | '\x7b' :: rest => r.object rest
  | '[' :: rest => r.array rest
  | rest => .error (refuseType s!"struct {r.name}" rest)

end Record

end LinkProbe.Json
