/-!
# Writing JSON

* `Value`: the values that are written.
* `compact`: one line without white space.
* `pretty`: a line for each member, two spaces deeper than the object.
-/

namespace LinkProbe.Json

/-- A value to be written. -/
inductive Value where
  | null
  | boolean (value : Bool)
  | natural (value : Nat)
  | text (value : String)
  | object (members : List (String × Value))

/-- How a character is written between the quotes. Only quotes, backslashes and controls are
escaped. -/
def writeChar (c : Char) : List Char :=
  match c with
  | '"' => ['\\', '"']
  | '\\' => ['\\', '\\']
  | '\x08' => ['\\', 'b']
  | '\x0c' => ['\\', 'f']
  | '\n' => ['\\', 'n']
  | '\r' => ['\\', 'r']
  | '\t' => ['\\', 't']
  | _ =>
    if c < ' ' then
      ['\\', 'u', '0', '0', Nat.digitChar (c.toNat / 16), Nat.digitChar (c.toNat % 16)]
    else [c]

/-- A text between quotes. -/
def writeText (text : String) : List Char := '"' :: text.toList.flatMap writeChar ++ ['"']

/-- A value without members. -/
def writeScalar : Value → List Char
  | .null => ['n', 'u', 'l', 'l']
  | .boolean true => ['t', 'r', 'u', 'e']
  | .boolean false => ['f', 'a', 'l', 's', 'e']
  | .natural value => Nat.toDigits 10 value
  | .text value => writeText value
  | .object _ => []

mutual

/-- The value on one line without white space. -/
def writeCompact : Value → List Char
  | .object [] => ['\x7b', '\x7d']
  | .object (m :: ms) => '\x7b' :: writeMember m ++ writeMembers ms ++ ['\x7d']
  | value => writeScalar value

/-- A member on one line. -/
def writeMember : String × Value → List Char
  | (key, value) => writeText key ++ ':' :: writeCompact value

/-- Further members on one line, each after a comma. -/
def writeMembers : List (String × Value) → List Char
  | [] => []
  | m :: ms => ',' :: writeMember m ++ writeMembers ms

end

/-- A line break and the indentation of the given depth. -/
def newLine (depth : Nat) : List Char := '\n' :: List.replicate (2 * depth) ' '

mutual

/-- The value with a line for each member, the members at `depth + 1`. -/
def writePretty (depth : Nat) : Value → List Char
  | .object [] => ['\x7b', '\x7d']
  | .object (m :: ms) =>
    '\x7b' :: newLine (depth + 1) ++ writePrettyMember (depth + 1) m ++
      writePrettyMembers (depth + 1) ms ++ newLine depth ++ ['\x7d']
  | value => writeScalar value

/-- A member on its own line. -/
def writePrettyMember (depth : Nat) : String × Value → List Char
  | (key, value) => writeText key ++ ':' :: ' ' :: writePretty depth value

/-- Further members, each after a comma on a line of its own. -/
def writePrettyMembers (depth : Nat) : List (String × Value) → List Char
  | [] => []
  | m :: ms => ',' :: newLine depth ++ writePrettyMember depth m ++ writePrettyMembers depth ms

end

/-- The value on one line without white space. -/
def compact (value : Value) : String := .ofList (writeCompact value)

/-- The value with a line for each member. -/
def pretty (value : Value) : String := .ofList (writePretty 0 value)

end LinkProbe.Json
