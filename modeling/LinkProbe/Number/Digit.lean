/-!
# Digits

* `Digit.decimal?`, `Digit.hex?`: the value of a digit; letters count in either case.
* `Digit.number?`: the number that a text of digits writes.
-/

namespace LinkProbe.Digit

/-- The value of a decimal digit. -/
def decimal? (c : Char) : Option Nat :=
  if '0' ≤ c ∧ c ≤ '9' then some (c.toNat - '0'.toNat) else none

/-- The value of a hexadecimal digit. -/
def hex? (c : Char) : Option Nat :=
  if '0' ≤ c ∧ c ≤ '9' then some (c.toNat - '0'.toNat)
  else if 'a' ≤ c ∧ c ≤ 'f' then some (c.toNat - 'a'.toNat + 10)
  else if 'A' ≤ c ∧ c ≤ 'F' then some (c.toNat - 'A'.toNat + 10)
  else none

/-- Appends digits of the given base to a number. -/
def appendTo? (base : Nat) (digit? : Char → Option Nat) (value : Nat) : List Char → Option Nat
  | [] => some value
  | c :: cs =>
    match digit? c with
    | some digit => appendTo? base digit? (value * base + digit) cs
    | none => none

/-- The number that a non-empty text of digits writes. -/
def number? (base : Nat) (digit? : Char → Option Nat) (text : List Char) : Option Nat :=
  if text.isEmpty then none else appendTo? base digit? 0 text

end LinkProbe.Digit
