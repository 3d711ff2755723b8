import LinkProbe.Address.Ipv4

/-!
# Short forms of addresses of four bytes

A machine's resolver takes addresses of one to four numbers between dots. The last number fills all
bytes that the others leave, and a number is octal after a zero and hexadecimal after `0x`.

* `Shorthand.parse?`: the address that a short form stands for.
-/

namespace LinkProbe.Shorthand

/-- A number in the base that its beginning tells. -/
def number? : List Char → Option Nat
  | '0' :: x :: digits =>
    if x = 'x' ∨ x = 'X' then Digit.number? 16 Digit.hex? digits
    else Digit.number? 8 octal? (x :: digits)
  | text => Digit.number? 10 Digit.decimal? text
where
  /-- The value of an octal digit. -/
  octal? (c : Char) : Option Nat := (Digit.decimal? c).filter (· < 8)

/-- The number that the parts make up, `width` bytes long: each part but the last is one byte. -/
def value? (width : Nat) : List Nat → Option Nat
  | [] => none
  | [last] => if last < 1 <<< (8 * width) then some last else none
  | first :: rest =>
    match width with
    | 0 => none
    | width + 1 =>
      if first < 256 then (value? width rest).map (first <<< (8 * width) + ·) else none

/-- The address that a short form stands for. -/
def parse? (text : List Char) : Option Ipv4 := do
  let numbers ← (cut '.' text).mapM number?
  if 4 < numbers.length then none else return .ofNat (← value? 4 numbers)

end LinkProbe.Shorthand
