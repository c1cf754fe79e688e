/-
Workspace.Decimal.Shortest — the fewest decimal digits that read back.

Around a positive double lies the interval of the numbers that round to it.
For one, two, … digits, `shortest` looks at the two neighbours of the double
on the grid of that many digits; the first grid with a neighbour inside the
interval wins, and of two such neighbours the nearer one. If any point of a
grid lies in the interval then so does one of the neighbours, so no shorter
decimal reads back.
-/
import Workspace.Decimal.Binary

namespace Workspace.Decimal

/-- `digits · 10 ^ exponent`. -/
structure Scaled where
  digits : Nat
  exponent : Int
  deriving DecidableEq, Repr

/-- The `p` with `10 ^ p ≤ mantissa · 2 ^ exponent < 10 ^ (p + 1)`, for a
positive mantissa: an estimate from the binary logarithm, then corrected. -/
def floorLog10 (mantissa : Nat) (exponent : Int) : Int :=
  let atLeast (p : Int) : Bool :=
    Nat.pow 10 p.toNat * Nat.pow 2 (-exponent).toNat ≤
      mantissa * Nat.pow 2 exponent.toNat * Nat.pow 10 (-p).toNat
  let guess := ((exponent + mantissa.log2) * 1233) / 4096
  if atLeast (guess + 1) then guess + 1
  else if atLeast guess then guess
  else guess - 1

/-- The interval of the numbers that round to a double, in quarters of its
mantissa's unit: the double itself is at `4 · mantissa`. It is half as wide
below a power of two, and the ends belong to an even mantissa. -/
structure Interval where
  low : Nat
  high : Nat
  closed : Bool

def intervalOf (mantissa : Nat) (exponent : Int) : Interval where
  low := if mantissa = Nat.pow 2 52 ∧ exponent ≠ -1074 then 4 * mantissa - 1 else 4 * mantissa - 2
  high := 4 * mantissa + 2
  closed := mantissa % 2 = 0

/-- The grid point in the interval that is nearest to the double, on the grid
of the multiples of `10 ^ k`. -/
def nearestOnGrid? (mantissa : Nat) (exponent : Int) (k : Int) : Option Nat :=
  let x := Nat.pow 2 exponent.toNat * Nat.pow 10 (-k).toNat
  let y := Nat.pow 2 (-exponent).toNat * Nat.pow 10 k.toNat
  let i := intervalOf mantissa exponent
  let inside (c : Nat) : Bool :=
    if i.closed then i.low * x ≤ 4 * c * y && 4 * c * y ≤ i.high * x
    else i.low * x < 4 * c * y && 4 * c * y < i.high * x
  let below := mantissa * x / y
  let rest := mantissa * x % y
  let above := if rest = 0 then below else below + 1
  match inside below, inside above with
  | true, true =>
    if 2 * rest < y then some below
    else if y < 2 * rest then some above
    else some (below + below % 2)
  | true, false => some below
  | false, true => some above
  | false, false => none

/-- Trailing zeros moved into the exponent, at most `fuel` of them. -/
def dropZeros : (fuel : Nat) → Scaled → Scaled
  | 0, d => d
  | fuel + 1, d =>
    if d.digits % 10 = 0 ∧ d.digits ≠ 0 then
      dropZeros fuel ⟨d.digits / 10, d.exponent + 1⟩
    else d

/-- The first grid, from that of `count` digits on, with a point in the
interval; seventeen digits always have one. -/
def searchGrids (mantissa : Nat) (exponent : Int) (top : Int) : (tries count : Nat) → Scaled
  | 0, _ => ⟨mantissa, exponent⟩
  | tries + 1, count =>
    let k := top - count + 1
    match nearestOnGrid? mantissa exponent k with
    | some c => dropZeros 20 ⟨c, k⟩
    | none => searchGrids mantissa exponent top tries (count + 1)

/-- The decimal with the fewest digits among those that round to
`mantissa · 2 ^ exponent`, and the nearest of them. -/
def shortest (mantissa : Nat) (exponent : Int) : Scaled :=
  searchGrids mantissa exponent (floorLog10 mantissa exponent) 17 1

end Workspace.Decimal
