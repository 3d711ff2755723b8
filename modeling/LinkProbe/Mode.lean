import LinkProbe.Text.LowerCase

/-!
# Modes

* `Mode.ofText`: the mode that a word names, in capitals or not.
* `Mode.spellings`: the exact words, among them a short one.
-/

namespace LinkProbe

/-- What the probe does once it is connected. -/
inductive Mode where
  /-- Write numbered payloads at a fixed interval. -/
  | send
  /-- Write down what the peer sends. -/
  | receive
deriving DecidableEq, Repr

/-- A word that names no mode, in lower case. -/
structure UnknownMode where
  word : String
deriving DecidableEq, Repr

/-- The refusal of the word. -/
def UnknownMode.message (u : UnknownMode) : String :=
  s!"unsupported mode: {u.word}. Use send or receive"

namespace Mode

/-- The word for the mode. -/
def name : Mode → String
  | .send => "send"
  | .receive => "receive"

/-- The words that name a mode. -/
def spellings : List (String × Mode) := [("send", .send), ("receive", .receive), ("recv", .receive)]

/-- The mode that the text names once it is in lower case. -/
def ofText (text : String) : Except UnknownMode Mode :=
  let word := Text.lowerCase text
  match spellings.lookup word with
  | some mode => .ok mode
  | none => .error ⟨word⟩

end Mode

end LinkProbe
