import LinkProbe.Number.Digit

/-!
# Addresses of four bytes

* `Ipv4.parse?`: the strict dotted form, four decimal numbers without leading zeros.
* `Ipv4.text`: the same form, written.
* `cut`: the parts of a text between separators.
-/

namespace LinkProbe

/-- The parts of a text between separators; a text without a separator is one part. -/
def cut (separator : Char) : List Char → List (List Char)
  | [] => [[]]
  | c :: rest =>
    if c = separator then [] :: cut separator rest
    else match cut separator rest with
      | [] => [[c]]
      | part :: parts => (c :: part) :: parts

/-- An address of four bytes, the first one first. -/
structure Ipv4 where
  first : UInt8
  second : UInt8
  third : UInt8
  fourth : UInt8
deriving DecidableEq, Repr

namespace Ipv4

/-- A decimal number up to 255 of at most three digits and without a leading zero. -/
def byte? (text : List Char) : Option UInt8 :=
  if 3 < text.length ∨ (1 < text.length ∧ text.head? = some '0') then none
  else match Digit.number? 10 Digit.decimal? text with
    | some value => if value < 256 then some (.ofNat value) else none
    | none => none

/-- Reads the dotted form. -/
def parse? (text : List Char) : Option Ipv4 :=
  match cut '.' text with
  | [a, b, c, d] => do return ⟨← byte? a, ← byte? b, ← byte? c, ← byte? d⟩
  | _ => none

/-- The dotted form. -/
def chars (a : Ipv4) : List Char :=
  Nat.toDigits 10 a.first.toNat ++ '.' :: Nat.toDigits 10 a.second.toNat ++
    '.' :: Nat.toDigits 10 a.third.toNat ++ '.' :: Nat.toDigits 10 a.fourth.toNat

/-- The dotted form. -/
def text (a : Ipv4) : String := .ofList a.chars

/-- The address whose bytes make up the number, the first byte the highest. -/
def ofNat (value : Nat) : Ipv4 :=
  ⟨.ofNat (value >>> 24), .ofNat (value >>> 16), .ofNat (value >>> 8), .ofNat value⟩

/-- This machine, as seen from itself. -/
def loopback : Ipv4 := ⟨127, 0, 0, 1⟩

end Ipv4

end LinkProbe
