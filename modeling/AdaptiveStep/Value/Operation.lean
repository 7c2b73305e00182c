import AdaptiveStep.Value.Conversion

/-!
# Operations on numbers

The binary operations of a field, on numbers of every kind: integers, rationals, floats under an
arithmetic, complex and dual numbers, and array items. Plain numbers meet in the richer of their
kinds.
-/

namespace AdaptiveStep

/-- The binary operations of a field that the controller uses. -/
inductive Operation where
  | add
  | sub
  | mul
  deriving DecidableEq

namespace Operation

def symbol : Operation → String
  | add => "+"
  | sub => "-"
  | mul => "*"

def name : Operation → String
  | add => "add"
  | sub => "subtract"
  | mul => "multiply"

def integer : Operation → Int → Int → Int
  | add => (· + ·)
  | sub => (· - ·)
  | mul => (· * ·)

def rational : Operation → Rat → Rat → Rat
  | add => (· + ·)
  | sub => (· - ·)
  | mul => (· * ·)

def number (A : Arithmetic Number) : Operation → Number → Number → Number
  | add => A.add
  | sub => A.sub
  | mul => A.mul

/-- Both parts at once; a product rounds each of its partial products. -/
def complex (A : Arithmetic Number) : Operation → ComplexNumber → ComplexNumber → ComplexNumber
  | add, z, w => ⟨A.add z.re w.re, A.add z.im w.im⟩
  | sub, z, w => ⟨A.sub z.re w.re, A.sub z.im w.im⟩
  | mul, z, w =>
    ⟨A.sub (A.mul z.re w.re) (A.mul z.im w.im), A.add (A.mul z.re w.im) (A.mul z.im w.re)⟩

/-- The derivative follows the sum and product rules. -/
def dual : Operation → Dual → Dual → Dual
  | add, a, b => ⟨double.add a.value b.value, double.add a.derivative b.derivative⟩
  | sub, a, b => ⟨double.sub a.value b.value, double.sub a.derivative b.derivative⟩
  | mul, a, b =>
    ⟨double.mul a.value b.value,
      double.add (double.mul a.derivative b.value) (double.mul a.value b.derivative)⟩

def item (t : ItemType) (op : Operation) (z w : ComplexNumber) : ComplexNumber :=
  match t with
  | .integer wide =>
    .ofInt (ItemType.wrap wide (op.integer (ItemType.integerOf z.re) (ItemType.integerOf w.re)))
  | .real t => .ofReal (op.number t.arithmetic z.re w.re)
  | .complex _ => op.complex t.part.arithmetic z w

end Operation

def Dual.neg (d : Dual) : Dual := ⟨d.value.neg, d.derivative.neg⟩

def ComplexNumber.neg (z : ComplexNumber) : ComplexNumber := ⟨z.re.neg, z.im.neg⟩

def ItemType.negItem (t : ItemType) (z : ComplexNumber) : ComplexNumber :=
  match t with
  | integer wide => .ofInt (wrap wide (-integerOf z.re))
  | real _ => .ofReal z.re.neg
  | complex _ => z.neg

/-- A number that belongs to no array. -/
inductive PlainNumber where
  | integer (n : Int)
  | rational (q : Rat)
  | real (x : Number)
  | complex (z : ComplexNumber)

namespace PlainNumber

def toNumber : PlainNumber → Except Failure Number
  | integer n => Value.integerToNumber n
  | rational q => Value.rationalToNumber q
  | real x => .ok x
  | complex z => .ok z.re

def toComplex : PlainNumber → Except Failure ComplexNumber
  | complex z => .ok z
  | p => p.toNumber.map .ofReal

def asRational? : PlainNumber → Option Rat
  | integer n => some n
  | rational q => some q
  | _ => none

def isComplex : PlainNumber → Bool
  | complex _ => true
  | _ => false

/-- Integers stay integers and rationals rationals; everything else meets as doubles or as complex
numbers. -/
def combine (op : Operation) (a b : PlainNumber) : Except Failure Value :=
  match a, b with
  | integer m, integer n => .ok (.integer (op.integer m n))
  | _, _ =>
    match a.asRational?, b.asRational? with
    | some p, some q => .ok (.rational (op.rational p q))
    | _, _ =>
      if a.isComplex || b.isComplex then do
        return .complex (op.complex double (← a.toComplex) (← b.toComplex))
      else do
        return .real (op.number double (← a.toNumber) (← b.toNumber))

end PlainNumber

def Value.plain? : Value → Option PlainNumber
  | real x => some (.real x)
  | integer n => some (.integer n)
  | boolean b => some (.integer (if b then 1 else 0))
  | rational q => some (.rational q)
  | complex z => some (.complex z)
  | _ => none

end AdaptiveStep
