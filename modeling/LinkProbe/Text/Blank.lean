import LinkProbe.Text.Ranges

/-!
# Blank characters

The twenty-five characters with the Unicode property White_Space.

* `isBlankText`: a text that shows nothing.
-/

namespace LinkProbe.Text

/-- The characters with the property White_Space. -/
def blankRanges : List (Nat × Nat) := [
  (0x9, 0xD), (0x20, 0x20), (0x85, 0x85), (0xA0, 0xA0), (0x1680, 0x1680), (0x2000, 0x200A),
  (0x2028, 0x2029), (0x202F, 0x202F), (0x205F, 0x205F), (0x3000, 0x3000)]

/-- Whether the character is white space. -/
def isBlank (c : Char) : Bool := inRanges blankRanges c

/-- Whether nothing is left of the text once it is trimmed. -/
def isBlankText (text : String) : Bool := text.toList.all isBlank

end LinkProbe.Text
