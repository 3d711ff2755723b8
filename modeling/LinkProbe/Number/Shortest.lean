import LinkProbe.Number.Binary64

/-!
# Shortest decimals

The fewest digits that still tell a double from its neighbours, and of several such decimals the
one nearest the double.

* `Rounding.holds`: the numbers that round to a double.
* `shortest`: digits and a power of ten; the digits end in no zero.
-/

namespace LinkProbe.Binary64

/-- The numbers that round to one double, in quarters of 2^-1074: from `low` to `high`, the ends
included when `closed`. -/
structure Rounding where
  low : Nat
  value : Nat
  high : Nat
  closed : Bool
deriving Repr

/-- What rounds to the double. The gap below a power of two is half as wide as the gap above. -/
def rounding (x : Binary64) : Rounding where
  low := 4 * x.units - (if x.significand = 1 <<< 52 ∧ 0 < x.scale then 1 else 2) <<< x.scale
  value := 4 * x.units
  high := 4 * x.units + 2 <<< x.scale
  closed := x.significand % 2 = 0

/-- Whether `digits * grid` rounds to the double, all bounds being multiplied by `factor`. -/
def Rounding.holds (r : Rounding) (factor grid digits : Nat) : Bool :=
  let point := digits * grid
  if r.closed then r.low * factor ≤ point && point ≤ r.high * factor
  else r.low * factor < point && point < r.high * factor

/-- The nearest multiple of `10 ^ exponent` that rounds to the double. Only the two multiples next
to the double can be the nearest. -/
def Rounding.onGrid? (r : Rounding) (exponent : Int) : Option Nat :=
  let factor := Nat.pow 10 (-exponent).toNat
  let grid := 4 <<< 1074 * Nat.pow 10 exponent.toNat
  let below := r.value * factor / grid
  let near := roundDiv (r.value * factor) grid
  let far := below + (below + 1) - near
  if r.holds factor grid near then some near
  else if r.holds factor grid far then some far
  else none

/-- The powers of ten to try, the coarsest first. -/
def exponents : List Int := (List.range 660).map fun (i : Nat) => 320 - (i : Int)

/-- The shortest decimal of a positive double: its digits and the power of ten they are multiplied
by. -/
def shortest (x : Binary64) : Nat × Int :=
  let r := x.rounding
  (exponents.findSome? fun e =>
    match r.onGrid? e with
    | some 0 => none
    | found => found.map (·, e)).getD (0, 0)

end LinkProbe.Binary64
