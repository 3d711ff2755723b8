/-!
# Double-precision numbers without a sign

A finite double is a significand below 2^53 times a power of two. Every operation computes the
exact result and rounds it once, to the nearest double and a tie to the even one.

* `Binary64.round`: the double nearest a quotient, if there is a finite one.
* `Binary64.ofScientific?`: the double that decimal digits with an exponent stand for.
-/

namespace LinkProbe

/-- The quotient rounded to the nearest number, a tie to the even one. -/
def roundDiv (num den : Nat) : Nat :=
  let q := num / den
  let r := num % den
  if 2 * r < den then q
  else if den < 2 * r then q + 1
  else q + q % 2

/-- The number `significand * 2 ^ scale / 2 ^ 1074`. -/
structure Binary64 where
  significand : Nat
  scale : Nat
deriving DecidableEq, Repr

namespace Binary64

def zero : Binary64 := ⟨0, 0⟩

/-- The number in units of 2^-1074, the least positive double. -/
def units (x : Binary64) : Nat := x.significand <<< x.scale

/-- How many low bits a significand cannot hold of a number with the given whole part. -/
def excess (whole : Nat) : Nat := whole.log2 + 1 - 53

/-- The double nearest `num / den`, if it is finite. -/
def round (num den : Nat) : Option Binary64 :=
  let scale := excess ((num <<< 1074) / den)
  let q := roundDiv (num <<< 1074) (den <<< scale)
  let rounded : Binary64 := if q = 1 <<< 53 then ⟨1 <<< 52, scale + 1⟩ else ⟨q, scale⟩
  if rounded.scale ≤ 2045 then some rounded else none

/-- The double nearest a natural number. -/
def ofNat (n : Nat) : Option Binary64 := round n 1

/-- The rounded product. -/
def mul (x y : Binary64) : Option Binary64 := round (x.units * y.units) (1 <<< 2148)

/-- The rounded quotient, for a positive divisor. -/
def div (x y : Binary64) : Option Binary64 := round x.units y.units

/-- The double nearest a power of ten. -/
def powTen (n : Nat) : Option Binary64 := ofNat (Nat.pow 10 n)

/-- Divides by powers of ten of at most 308 digits until nothing is left to divide by or the
number has vanished. -/
def shrink (x : Binary64) (places : Nat) : Option Binary64 :=
  if places ≤ 308 then (powTen places).bind x.div
  else if x.significand = 0 then some x
  else ((powTen 308).bind x.div).bind fun y => y.shrink (places - 308)
termination_by places

/-- `digits * 10 ^ exponent` as a double, with one rounding for the digits, one for the power of
ten and one for the product or quotient; none when it is too large. -/
def ofScientific? (digits : Nat) (exponent : Int) : Option Binary64 :=
  (ofNat digits).bind fun x =>
    if 0 ≤ exponent then
      if exponent ≤ 308 then (powTen exponent.toNat).bind x.mul
      else if x.significand = 0 then some x
      else none
    else x.shrink (-exponent).toNat

end Binary64

end LinkProbe
