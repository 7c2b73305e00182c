import AdaptiveStep.Number.Format

/-!
# Powers of positive numbers

A binary exponent `n / 2 ^ k` is applied as `k` square roots and then an integer power, all with
`workingDigits` binary digits and rounded downward. Both parts are monotone in the base and keep a
base that is at most one at most one.
-/

namespace AdaptiveStep

/-- The binary digits carried through a power: enough for the `2 ^ 53` fold growth of an error that
the integer power of a double-precision exponent can cause. -/
def workingDigits : Nat := 160

/-- The positive number `mantissa * 2 ^ exponent`. -/
structure Scaled where
  mantissa : Nat
  exponent : Int

namespace Scaled

/-- The same number, cut to the working digits. -/
def truncate (x : Scaled) : Scaled :=
  let excess := x.mantissa.log2 + 1 - workingDigits
  ⟨x.mantissa >>> excess, x.exponent + excess⟩

def ofRat (q : Rat) : Scaled :=
  let shift : Int := (workingDigits : Int) - 1 - floorLog2 q
  truncate ⟨(q * 2 ^ shift).floor.toNat, -shift⟩

def mul (x y : Scaled) : Scaled :=
  truncate ⟨x.mantissa * y.mantissa, x.exponent + y.exponent⟩

/-- The square root: the mantissa is first widened to twice the working digits under an even
exponent. -/
def sqrt (x : Scaled) : Scaled :=
  let widening := 2 * workingDigits - (x.mantissa.log2 + 1)
  let shift := if (x.exponent - widening) % 2 = 0 then widening else widening + 1
  truncate ⟨integerRoot (x.mantissa <<< shift), (x.exponent - shift) / 2⟩

/-- The power by squaring, over the binary digits of the exponent. -/
def pow (x : Scaled) (n : Nat) : Scaled :=
  digits (n.log2 + 1) n
where
  digits : Nat → Nat → Scaled
    | 0, _ => ⟨1, 0⟩
    | k + 1, n =>
      let half := digits k (n / 2)
      let squared := half.mul half
      if n % 2 = 1 then squared.mul x else squared

/-- The nearest number of a format. Exponents far outside the format's range are decided without
computing the number itself. -/
def toNumber (f : Format) (x : Scaled) : Number :=
  let top := x.exponent + x.mantissa.log2
  if f.maxExponent < top then .infinity false
  else if top < f.minExponent - f.precision - 1 then .finite 0
  else f.nearest ((x.mantissa : Rat) * 2 ^ x.exponent)

end Scaled

/-- A positive base to an exponent `n / 2 ^ k` other than zero. A negative exponent inverts the
base. -/
def Format.power (f : Format) (base exponent : Rat) : Number :=
  let x := if exponent < 0 then base⁻¹ else base
  let roots := exponent.den.log2
  ((Nat.repeat Scaled.sqrt roots (Scaled.ofRat x)).pow exponent.num.natAbs).toNumber f

end AdaptiveStep
