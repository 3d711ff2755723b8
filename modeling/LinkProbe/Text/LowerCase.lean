import LinkProbe.Text.Case.Runs
import LinkProbe.Text.Case.Context

/-!
# Lower case

The full lower-case mapping of Unicode for whole texts. A character is mapped by itself, with two
exceptions: the dotted capital I becomes two characters, and a capital sigma takes its final form
at the end of a word.

* `lowerChar_of_ascii`: within ASCII it is the mapping of ASCII.
* `lowerCase`: the mapping of a text.
-/

namespace LinkProbe.Text

/-- The lower case of a character wherever it stands. -/
def lowerChar (c : Char) : List Char :=
  if c.toNat < 0x80 then [c.toLower]
  else if c = 'İ' then ['i', '\u0307']
  else match capitalRuns.find? (·.covers c.toNat) with
    | some r => [Char.ofNat (c.toNat + r.shift).toNat]
    | none => [c]

/-- The nearest character that is not passed over is a letter with case. -/
def meetsCased (around : List Char) : Bool :=
  match around.dropWhile isCaseIgnorable with
  | c :: _ => isCased c
  | [] => false

/-- A sigma between `before` (nearest first) and `after` ends its word: a letter precedes it and
none follows. -/
def endsWord (before after : List Char) : Bool := meetsCased before && !meetsCased after

/-- The lower case of `rest`, where `before` is what precedes it, nearest first. -/
def lowerFrom (before : List Char) : List Char → List Char
  | [] => []
  | c :: rest =>
    if c = 'Σ' then (if endsWord before rest then 'ς' else 'σ') :: lowerFrom (c :: before) rest
    else lowerChar c ++ lowerFrom (c :: before) rest

/-- The lower case of a text. -/
def lowerCase (text : String) : String := .ofList (lowerFrom [] text.toList)

/-! ## ASCII -/

theorem lowerChar_of_ascii {c : Char} (h : c.toNat < 0x80) : lowerChar c = [c.toLower] := by
  simp [lowerChar, h]

end LinkProbe.Text
