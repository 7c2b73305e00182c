import AdaptiveStep.Number.Extended
import AdaptiveStep.Number.Root

/-!
# Binary floating-point formats

A format is a number of significant binary digits and a range of exponents. `Format.nearest` rounds
an exact rational to the closest number of the format, a tie to the even neighbour, with gradual
underflow and with overflow to infinity. `Format.sqrt` rounds a square root in the same way.
-/

namespace AdaptiveStep

/-- The numbers of the machine formats: finite values are exact rationals. -/
abbrev Number := Extended Rat

/-- The greatest exponent of two whose power is at most the positive rational. -/
def floorLog2 (q : Rat) : Int :=
  let k : Int := (q.num.natAbs.log2 : Int) - (q.den.log2 : Int)
  if (2 : Rat) ^ k ≤ q then k else k - 1

/-- The integer nearest to a rational that is not negative, the even one of two. -/
def roundHalfEven (q : Rat) : Nat :=
  let n := q.num.natAbs / q.den
  let r := q.num.natAbs % q.den
  if 2 * r < q.den then n
  else if q.den < 2 * r then n + 1
  else n + n % 2

/-- A binary format: significant digits, and the exponents of its least normal and of its greatest
numbers. -/
structure Format where
  precision : Nat
  minExponent : Int
  maxExponent : Int
  deriving DecidableEq

namespace Format

/-- The exponent of the spacing of the format's numbers at a positive rational. -/
def spacing (f : Format) (q : Rat) : Int :=
  max (floorLog2 q) f.minExponent - (f.precision - 1)

/-- The number of the format that is nearest to a rational other than zero. -/
def nearest (f : Format) (q : Rat) : Number :=
  let negative : Bool := q < 0
  let m := if negative then -q else q
  let unit : Rat := 2 ^ f.spacing m
  let n := roundHalfEven (m / unit)
  let v := (n : Rat) * unit
  if n = 0 then Extended.zero negative
  else if (2 : Rat) ^ (f.maxExponent + 1) ≤ v then .infinity negative
  else .finite (if negative then -v else v)

/-- The rounded square root of a positive rational. The root is taken with two digits to spare, and
an inexact one is moved off the grid of those digits, so that it rounds as the true root does. -/
def sqrt (f : Format) (q : Rat) : Number :=
  let k : Int := (f.precision : Int) + 1 - floorLog2 q / 2
  let scaled := q * 2 ^ (2 * k)
  let r := integerRoot scaled.floor.toNat
  if ((r * r : Nat) : Rat) = scaled then f.nearest ((r : Rat) / 2 ^ k)
  else f.nearest (((2 * r + 1 : Nat) : Rat) / 2 ^ (k + 1))

end Format

end AdaptiveStep
