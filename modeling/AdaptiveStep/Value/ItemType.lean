import AdaptiveStep.Number.FloatType

/-!
# Item types of arrays

Arrays hold integers, floats or complex numbers of a fixed width. This module says what an item
becomes in each type, which type two operands share, and how device arrays narrow 64-bit types.
-/

namespace AdaptiveStep

/-- A complex number. As an array item it also stands for a float or an integer, which has the
imaginary part zero. -/
structure ComplexNumber where
  re : Number
  im : Number
  deriving DecidableEq, Inhabited

def ComplexNumber.ofReal (x : Number) : ComplexNumber := ⟨x, .finite 0⟩

def ComplexNumber.ofInt (n : Int) : ComplexNumber := ⟨.finite n, .finite 0⟩

/-- The type of an array's items. A wide integer has 64 binary digits, a narrow one 32; the parts of
a wide complex number are doubles, those of a narrow one are single precision. -/
inductive ItemType where
  | integer (wide : Bool)
  | real (t : FloatType)
  | complex (wide : Bool)
  deriving DecidableEq, Inhabited

/-- Where an array lives. Device arrays narrow 64-bit items unless the wide mode is on. -/
inductive Residence where
  | host
  | device
  deriving DecidableEq, Inhabited

namespace ItemType

def name : ItemType → String
  | integer wide => if wide then "int64" else "int32"
  | real t => t.name
  | complex wide => if wide then "complex128" else "complex64"

def all : List ItemType :=
  [integer false, integer true, complex false, complex true] ++ FloatType.all.map real

def part : ItemType → FloatType
  | integer _ => .float64
  | real t => t
  | complex wide => if wide then .float64 else .float32

def narrowed (wideMode : Bool) (t : ItemType) : ItemType :=
  if wideMode then t
  else match t with
    | integer _ => integer false
    | real .float64 => real .float32
    | real t => real t
    | complex _ => complex false

/-- The binary digits of an integer after the first, which is its sign. -/
def digits (wide : Bool) : Nat := if wide then 63 else 31

/-- The least integer of the width. The greatest is one less than its opposite. -/
def leastInteger (wide : Bool) : Int := -(Nat.pow 2 (digits wide) : Nat)

def holds (wide : Bool) (n : Int) : Bool :=
  leastInteger wide ≤ n && n < -leastInteger wide

def wrap (wide : Bool) (n : Int) : Int :=
  n.bmod (Nat.pow 2 (digits wide + 1))

def integerOf (x : Number) : Int :=
  match x with
  | .finite q => q.num
  | _ => 0

/-- A float cut toward zero. What no integer of the width can hold becomes the least one. -/
def truncated (wide : Bool) (x : Number) : Int :=
  match x with
  | .finite q =>
    let n := q.num.tdiv q.den
    if holds wide n then n else leastInteger wide
  | .negativeZero => 0
  | _ => leastInteger wide

/-- A float cut toward zero and brought into the range of the width. NaN becomes zero. -/
def saturated (wide : Bool) (x : Number) : Int :=
  let least := leastInteger wide
  match x with
  | .finite q => max least (min (q.num.tdiv q.den) (-least - 1))
  | .infinity negative => if negative then least else -least - 1
  | _ => 0

def cast (source target : ItemType) (z : ComplexNumber) : ComplexNumber :=
  match source, target with
  | integer _, integer wide => .ofInt (wrap wide (integerOf z.re))
  | _, integer wide => .ofInt (truncated wide z.re)
  | _, real t => .ofReal (t.convert z.re)
  | _, complex wide =>
    let t := (complex wide).part
    ⟨t.convert z.re, t.convert z.im⟩

/-- As `cast`, on the device, where floats beyond the range of an integer saturate. -/
def castOnDevice (source target : ItemType) (z : ComplexNumber) : ComplexNumber :=
  match source, target with
  | integer _, _ => cast source target z
  | _, integer wide => .ofInt (saturated wide z.re)
  | _, _ => cast source target z

/-- The type that two host operands share: an integer and a float meet in double precision. -/
def joinHost : ItemType → ItemType → ItemType
  | integer a, integer b => integer (a || b)
  | integer _, real _ => real .float64
  | real _, integer _ => real .float64
  | real a, real b => real (a.join b)
  | integer _, complex _ => complex true
  | complex _, integer _ => complex true
  | real t, complex wide => complex (wide || t = .float64)
  | complex wide, real t => complex (wide || t = .float64)
  | complex a, complex b => complex (a || b)

/-- The type that two device operands share: an integer takes the other's type. -/
def joinDevice : ItemType → ItemType → ItemType
  | integer a, integer b => integer (a || b)
  | integer _, t => t
  | t, integer _ => t
  | real a, real b => real (a.join b)
  | real t, complex wide => complex (wide || t = .float64)
  | complex wide, real t => complex (wide || t = .float64)
  | complex a, complex b => complex (a || b)

/-- The type that a weak device operand, one that plain numbers gave its type, and another operand
share, and whether that type is weak again. A weak type yields to another type of its own kind. -/
def yield (weak other : ItemType) : ItemType × Bool :=
  match weak, other with
  | integer _, t => (t, false)
  | t, integer _ => (t, true)
  | real _, t => (t, false)
  | complex _, real t => (complex (t = .float64), false)
  | complex _, complex wide => (complex wide, false)

end ItemType

end AdaptiveStep
