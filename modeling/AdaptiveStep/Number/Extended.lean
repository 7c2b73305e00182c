/-!
# Extended numbers

`Extended κ` adds to a carrier of finite values the special values of floating-point arithmetic:
a negative zero, two infinities and NaN. `Rounding κ` says how an exact result becomes a number
again. The four operations below follow one set of rules, so a machine format (`κ` rational, every
result rounded) and exact arithmetic (`κ` a field, nothing rounded) differ in the `Rounding` alone.
-/

namespace AdaptiveStep

/-- A number with the special values of floating-point arithmetic. The zero of the carrier is the
positive zero. -/
inductive Extended (κ : Type) where
  | nan
  | infinity (negative : Bool)
  | negativeZero
  | finite (x : κ)
  deriving DecidableEq, Inhabited

namespace Extended

variable {κ : Type}

def zero [OfNat κ 0] (negative : Bool) : Extended κ :=
  if negative then negativeZero else finite 0

/-- The value in the carrier, for both zeros the same. -/
def value? [OfNat κ 0] : Extended κ → Option κ
  | negativeZero => some 0
  | finite x => some x
  | _ => none

def isNaN : Extended κ → Bool
  | nan => true
  | _ => false

def isInfinite : Extended κ → Bool
  | infinity _ => true
  | _ => false

def isZero [OfNat κ 0] [DecidableEq κ] : Extended κ → Bool
  | negativeZero => true
  | finite x => x = 0
  | _ => false

/-- The sign, which the negative zero has and NaN has not. -/
def isNegative [OfNat κ 0] [LT κ] [DecidableLT κ] : Extended κ → Bool
  | nan => false
  | infinity negative => negative
  | negativeZero => true
  | finite x => x < 0

def neg [OfNat κ 0] [Neg κ] [DecidableEq κ] : Extended κ → Extended κ
  | nan => nan
  | infinity negative => infinity !negative
  | negativeZero => finite 0
  | finite x => if x = 0 then negativeZero else finite (-x)

def abs [OfNat κ 0] [Neg κ] [LT κ] [DecidableLT κ] : Extended κ → Extended κ
  | nan => nan
  | infinity _ => infinity false
  | negativeZero => finite 0
  | finite x => if x < 0 then finite (-x) else finite x

/-- The order of the numbers. Both zeros are equal, and NaN is below and above nothing. -/
def lt [OfNat κ 0] [LT κ] [DecidableLT κ] : Extended κ → Extended κ → Bool
  | nan, _ => false
  | _, nan => false
  | infinity a, infinity b => a && !b
  | infinity a, _ => a
  | _, infinity b => !b
  | negativeZero, negativeZero => false
  | negativeZero, finite y => 0 < y
  | finite x, negativeZero => x < 0
  | finite x, finite y => x < y

end Extended

/-- How the exact result of an operation on finite values becomes a number. `nearest` takes a
result that is not zero, `sqrt` a positive radicand, `power` a positive base and an exponent that
is not zero. -/
structure Rounding (κ : Type) where
  embed : Rat → κ
  nearest : κ → Extended κ
  sqrt : κ → Extended κ
  power : κ → κ → Extended κ

namespace Rounding

open Extended

variable {κ : Type} [OfNat κ 0] [DecidableEq κ]

/-- An exact zero is the positive one. -/
def round (R : Rounding κ) (x : κ) : Extended κ :=
  if x = 0 then finite 0 else R.nearest x

def ofRat (R : Rounding κ) (q : Rat) : Extended κ :=
  R.round (R.embed q)

def convert (R : Rounding κ) : Extended κ → Extended κ
  | finite x => R.round x
  | special => special

/-- The sum. Infinities of unlike sign have none, and only two negative zeros give the negative
zero. -/
def add [Add κ] (R : Rounding κ) : Extended κ → Extended κ → Extended κ
  | nan, _ => nan
  | _, nan => nan
  | infinity a, infinity b => if a = b then infinity a else nan
  | infinity a, _ => infinity a
  | _, infinity b => infinity b
  | negativeZero, y => y
  | x, negativeZero => x
  | finite x, finite y => R.round (x + y)

def sub [Add κ] [Neg κ] (R : Rounding κ) (x y : Extended κ) : Extended κ :=
  R.add x y.neg

variable [LT κ] [DecidableLT κ]

/-- The product, whose sign is negative when the factors' signs differ. Zero times infinity has
none. -/
def mul [Mul κ] (R : Rounding κ) (x y : Extended κ) : Extended κ :=
  let negative := x.isNegative ^^ y.isNegative
  match x.value?, y.value? with
  | some a, some b => if a * b = 0 then zero negative else R.nearest (a * b)
  | _, _ =>
    if x.isNaN || y.isNaN || x.isZero || y.isZero then nan else infinity negative

/-- The quotient. Zero over zero and infinity over infinity have none, and another number over
zero is infinite. -/
def div [Div κ] (R : Rounding κ) (x y : Extended κ) : Extended κ :=
  let negative := x.isNegative ^^ y.isNegative
  match x.value?, y.value? with
  | some a, some b =>
    if b = 0 then (if a = 0 then nan else infinity negative)
    else if a / b = 0 then zero negative
    else R.nearest (a / b)
  | none, some _ => if x.isNaN then nan else infinity negative
  | some _, none => if y.isNaN then nan else zero negative
  | none, none => nan

/-- The square root. Both zeros are their own root, and a negative number has none. -/
def squareRoot (R : Rounding κ) : Extended κ → Extended κ
  | nan => nan
  | infinity negative => if negative then nan else infinity false
  | negativeZero => negativeZero
  | finite x => if x = 0 then finite 0 else if x < 0 then nan else R.sqrt x

/-- The power of a base that is zero or positive; a negative base has none. Every base to the
power zero is one, and so is one to every power, NaN included. -/
def pow [Neg κ] (R : Rounding κ) (x y : Extended κ) : Extended κ :=
  let one := R.ofRat 1
  if y.isZero || x = one then one
  else match x, y with
  | nan, _ => nan
  | _, nan => nan
  | infinity true, _ => nan
  | infinity false, y => if y.isNegative then finite 0 else infinity false
  | negativeZero, y => if y.isNegative then infinity false else finite 0
  | finite x, infinity negative =>
    if x < 0 then nan
    else if (finite x).lt one = negative then infinity false else finite 0
  | finite x, negativeZero => if x < 0 then nan else one
  | finite x, finite y =>
    if x < 0 then nan
    else if x = 0 then (if y < 0 then infinity false else finite 0)
    else R.power x y

end Rounding

end AdaptiveStep
