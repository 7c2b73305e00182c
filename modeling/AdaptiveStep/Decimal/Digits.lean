import AdaptiveStep.Number.FloatType

/-!
# Decimal digits of a number

`Decimal.significant` rounds an exact positive rational to a given count of digits, and
`Decimal.shortest` finds the fewest digits from which a format reads the same number back. Both
work in exact arithmetic.
-/

namespace AdaptiveStep

/-- The positive number `coefficient * 10 ^ exponent`. -/
structure Decimal where
  coefficient : Nat
  exponent : Int

/-- The greatest exponent of ten whose power is at most the positive rational. Five digits of the
logarithm of two give an estimate that is off by at most one. -/
def floorLog10 (q : Rat) : Int :=
  let k := floorLog2 q * 30103 / 100000
  if q < (10 : Rat) ^ k then k - 1
  else if (10 : Rat) ^ (k + 1) ≤ q then k + 1
  else k

namespace Decimal

def toRat (d : Decimal) : Rat :=
  (d.coefficient : Rat) * 10 ^ d.exponent

/-- The decimal digits of the coefficient, leading digit first. -/
def digits (d : Decimal) : List Char :=
  Nat.toDigits 10 d.coefficient

def leadingExponent (d : Decimal) : Int :=
  d.exponent + d.digits.length - 1

/-- A positive rational to the given count of digits. A tie goes to the even digit. -/
def significant (count : Nat) (q : Rat) : Decimal :=
  let e := floorLog10 q - (count - 1)
  let c := roundHalfEven (q / 10 ^ e)
  if c = Nat.pow 10 count then ⟨Nat.pow 10 (count - 1), e + 1⟩ else ⟨c, e⟩

/-- A rational that is not negative to the given count of digits after the decimal point. A tie goes
to the even digit. -/
def atPlaces (places : Nat) (q : Rat) : Decimal :=
  ⟨roundHalfEven (q * 10 ^ (places : Int)), -(places : Int)⟩

/-- The decimals of the given count of digits next to a rational, the nearer one first. -/
def neighbours (count : Nat) (q : Rat) : List Decimal :=
  let e := floorLog10 q - (count - 1)
  let scaled := q / 10 ^ e
  let below := scaled.floor.toNat
  let half : Rat := 1 / 2
  if scaled = below then [⟨below, e⟩]
  else if scaled - below < half || (scaled - below = half && below % 2 = 0) then
    [⟨below, e⟩, ⟨below + 1, e⟩]
  else [⟨below + 1, e⟩, ⟨below, e⟩]

/-- Whether the format reads the decimal as the number. -/
def readsBack (t : FloatType) (q : Rat) (d : Decimal) : Bool :=
  t.convert (.finite d.toRat) = .finite q

/-- The fewest digits that read back as a positive number of the type, and of those the nearest.
Seventeen digits always suffice. -/
def shortest (t : FloatType) (q : Rat) : Decimal :=
  ((List.range 17).findSome? fun n => (neighbours (n + 1) q).find? (readsBack t q)).getD
    (significant 17 q)

end Decimal

/-- The double nearest to a number rounded to the given count of significant digits. -/
def Number.roundSignificant (count : Nat) (x : Number) : Number :=
  match x with
  | .finite q =>
    if q = 0 then x
    else if q < 0 then Number.ofRat (-(Decimal.significant count (-q)).toRat)
    else Number.ofRat (Decimal.significant count q).toRat
  | special => special

end AdaptiveStep
