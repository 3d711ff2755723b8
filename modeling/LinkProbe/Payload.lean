/-!
# Payloads

What the probe sends at its n-th tick, counted from zero.

* `payload`: the word, the number and a separator.
-/

namespace LinkProbe

/-- The word that every payload starts with. -/
def payloadOpening : String := "Hello "

/-- What separates a payload from the next one. -/
def payloadSeparator : String := " "

/-- The payload with the given number. -/
def payload (number : Nat) : String := s!"{payloadOpening}{number}{payloadSeparator}"

/-- The bytes of a text. -/
def bytesOf (text : String) : List UInt8 := text.toUTF8.toList

end LinkProbe
