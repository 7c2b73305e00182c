import AdaptiveStep.Number.Arithmetic
import AdaptiveStep.Number.Power

/-!
# The four float types

Half precision, the eight-digit brain float, single and double precision, with their arithmetic and
the conversions between them.
-/

namespace AdaptiveStep

inductive FloatType where
  | float16
  | bfloat16
  | float32
  | float64
  deriving DecidableEq, Inhabited

namespace FloatType

def format : FloatType → Format
  | float16 => ⟨11, -14, 15⟩
  | bfloat16 => ⟨8, -126, 127⟩
  | float32 => ⟨24, -126, 127⟩
  | float64 => ⟨53, -1022, 1023⟩

def name : FloatType → String
  | float16 => "float16"
  | bfloat16 => "bfloat16"
  | float32 => "float32"
  | float64 => "float64"

def all : List FloatType := [float16, bfloat16, float32, float64]

/-- Results are rounded to the nearest number of the type. -/
def rounding (t : FloatType) : Rounding Rat where
  embed := id
  nearest := t.format.nearest
  sqrt := t.format.sqrt
  power := t.format.power

/-- A number in the type. The brain float is reached through single precision, which rounds
twice. -/
def convert (t : FloatType) (x : Number) : Number :=
  match t with
  | bfloat16 => bfloat16.rounding.convert (float32.rounding.convert x)
  | t => t.rounding.convert x

def arithmetic (t : FloatType) : Arithmetic Number :=
  { t.rounding.arithmetic with convert := t.convert }

/-- The type of sums: everything up to single precision is summed in single precision. -/
def accumulator : FloatType → FloatType
  | float64 => float64
  | _ => float32

/-- The narrowest type that holds the numbers of both. -/
def join : FloatType → FloatType → FloatType
  | float16, float16 => float16
  | bfloat16, bfloat16 => bfloat16
  | float64, _ => float64
  | _, float64 => float64
  | _, _ => float32

end FloatType

/-- Double precision, the arithmetic of plain real numbers. -/
def double : Arithmetic Number := FloatType.float64.arithmetic

namespace Number

def ofRat (q : Rat) : Number := FloatType.float64.rounding.ofRat q

/-- An integer as a double, unless it is too large for one. -/
def ofInt? (n : Int) : Option Number :=
  match ofRat n with
  | .infinity _ => none
  | x => some x

end Number

end AdaptiveStep
