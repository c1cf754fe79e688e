/-
Workspace.Decimal.Binary — binary floating-point numbers as exact ratios.

A finite double is `± mantissa · 2 ^ exponent` (`Finite`). `decompose?` takes
a double apart into that form, and `nearest` goes the other way for any
ratio of natural numbers: it gives the double nearest to the ratio, and of
two equally near ones the one with the even mantissa. A ratio that rounds
beyond the largest double gives infinity.
-/
namespace Workspace.Decimal

/-- A finite double, exactly: `mantissa · 2 ^ exponent`, negated when
`negative`. -/
structure Finite where
  negative : Bool
  mantissa : Nat
  exponent : Int
  deriving DecidableEq, Repr

/-- The bits of a double above its mantissa field and below its sign. -/
def exponentField (x : Float) : Nat :=
  (x.toBits.toNat / Nat.pow 2 52) % 2048

def mantissaField (x : Float) : Nat :=
  x.toBits.toNat % Nat.pow 2 52

/-- The double has its sign bit set. -/
def isNegative (x : Float) : Bool :=
  Nat.pow 2 63 ≤ x.toBits.toNat

/-- The exact value of a double; infinities and not-a-numbers have none. -/
def decompose? (x : Float) : Option Finite :=
  let e := exponentField x
  let m := mantissaField x
  if e = 2047 then none
  else if e = 0 then some ⟨isNegative x, m, -1074⟩
  else some ⟨isNegative x, m + Nat.pow 2 52, (e : Int) - 1075⟩

/-- The larger `n` with `2 ^ n ≤ num / den`, for positive `num` and `den`. -/
def floorLog2 (num den : Nat) : Int :=
  let k : Int := (num.log2 : Int) - den.log2
  if den * Nat.pow 2 k.toNat ≤ num * Nat.pow 2 (-k).toNat then k else k - 1

/-- The natural number nearest to `num / den`, the even one of two. -/
def roundHalfEven (num den : Nat) : Nat :=
  let q := num / den
  let r := num % den
  if 2 * r < den then q
  else if den < 2 * r then q + 1
  else q + q % 2

/-- The bits of the double nearest to the ratio of `num` and `den`. -/
def nearestBits (num den : Nat) : Nat :=
  if num = 0 then 0
  else
    let e := max (floorLog2 num den - 52) (-1074)
    let q := roundHalfEven (num * Nat.pow 2 (-e).toNat) (den * Nat.pow 2 e.toNat)
    let unit := Nat.pow 2 52
    let bits := if q < unit then q else (e + 1075).toNat * unit + (q - unit)
    min bits (2047 * unit)

/-- The double nearest to the ratio of `num` and `den`, with the given sign. -/
def nearest (negative : Bool) (num den : Nat) : Float :=
  let bits := nearestBits num den
  Float.ofBits (UInt64.ofNat (if negative then Nat.pow 2 63 + bits else bits))

/-- The integer nearest to an exact value, if it is an integer. -/
def Finite.toInt? (f : Finite) : Option Int :=
  let magnitude : Option Nat :=
    if 0 ≤ f.exponent then some (f.mantissa * Nat.pow 2 f.exponent.toNat)
    else
      let d := Nat.pow 2 (-f.exponent).toNat
      if f.mantissa % d = 0 then some (f.mantissa / d) else none
  magnitude.map fun n => if f.negative then -(n : Int) else n

/-- The double nearest to an integer; none beyond the largest double. -/
def ofInt? (i : Int) : Option Float :=
  let bits := nearestBits i.natAbs 1
  if bits = 2047 * Nat.pow 2 52 then none else some (nearest (i < 0) i.natAbs 1)

end Workspace.Decimal
