/-!
# The shortest decimal of a double

A positive double is `m · 2^q` with natural `m`, and the reals that round to it form an interval around it: half
a step to either side (a quarter step below, where the steps change), with its ends if `m` is even.
`shortest` looks for a decimal in this interval on ever finer decimal grids. The first grid with a hit has the
fewest digits; of two hits the nearer one is taken, and of two equally near the even one.

All arithmetic is exact, on natural numbers.
-/

namespace ApiCatalog.Decimal

/-- A positive double and the reals that round to it, as numerators over one denominator. -/
structure RoundingInterval where
  low : Nat
  value : Nat
  high : Nat
  denominator : Nat
  closed : Bool
  deriving Repr

/-- The interval of `m · 2^q`. Where `m` is the least normal significand and a smaller exponent exists, the
doubles below are twice as dense. -/
def RoundingInterval.ofBinary (m : Nat) (q : Int) (denserBelow : Bool) : RoundingInterval :=
  let scale := Nat.pow 2 (q - 2).toNat
  { low := (4 * m - if denserBelow then 1 else 2) * scale
    value := 4 * m * scale
    high := (4 * m + 2) * scale
    denominator := Nat.pow 2 (2 - q).toNat
    closed := m % 2 == 0 }

/-- The same numbers in units of `10^p`. -/
def RoundingInterval.inUnits (r : RoundingInterval) (p : Int) : RoundingInterval :=
  let up := Nat.pow 10 (-p).toNat
  { r with
    low := r.low * up
    value := r.value * up
    high := r.high * up
    denominator := r.denominator * Nat.pow 10 p.toNat }

def RoundingInterval.holds (r : RoundingInterval) (n : Nat) : Bool :=
  if r.closed then r.low ≤ n * r.denominator && n * r.denominator ≤ r.high
  else r.low < n * r.denominator && n * r.denominator < r.high

/-- The whole number of units in the interval that is nearest to its value. -/
def RoundingInterval.nearest (r : RoundingInterval) : Option Nat :=
  let below := r.value / r.denominator
  let above := below + 1
  match r.holds below, r.holds above with
  | false, false => none
  | true, false => some below
  | false, true => some above
  | true, true =>
    let down := r.value - below * r.denominator
    let up := above * r.denominator - r.value
    if down < up then some below
    else if up < down then some above
    else if below % 2 == 0 then some below else some above

/-- Looks for a hit on the grids `10^p`, `10^(p-1)`, …, of which it tries `count`. -/
def searchGrid (r : RoundingInterval) : (count : Nat) → (p : Int) → Nat × Int
  | 0, p => (0, p)
  | count + 1, p =>
    match (r.inUnits p).nearest with
    | some digits => (digits, p)
    | none => searchGrid r count (p - 1)

/-- Decimal digits and exponent of the shortest decimal of `m · 2^q`. Doubles lie below `10^309`, and the finest
grid that any of them needs is `10^-324`. -/
def shortest (m : Nat) (q : Int) (denserBelow : Bool) : Nat × Int :=
  searchGrid (.ofBinary m q denserBelow) 634 309

end ApiCatalog.Decimal
