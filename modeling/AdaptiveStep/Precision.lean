import AdaptiveStep.Failure

/-!
# Precision settings

The float type of the vectorised error control, and the wide mode of the device. Choosing double
precision turns the wide mode on, and nothing turns it off again.
-/

namespace AdaptiveStep

structure Precision where
  type : FloatType
  wideMode : Bool
  deriving DecidableEq

inductive PrecisionRequest where
  | deviceType (name : String)
  | hostType (name : String)
  | descriptor (name : String)
  | text (name : String)
  | floatKind
  | integerKind
  | nothing

namespace PrecisionRequest

def display : PrecisionRequest → String
  | deviceType name => "<class 'jax.numpy." ++ name ++ "'>"
  | hostType name => "<class 'numpy." ++ name ++ "'>"
  | descriptor name => name
  | text name => name
  | floatKind => "<class 'float'>"
  | integerKind => "<class 'int'>"
  | nothing => "None"

/-- The float type that is meant. A plain text never means one. -/
def floatType? : PrecisionRequest → Option FloatType
  | deviceType name => FloatType.all.find? (·.name = name)
  | hostType name => FloatType.all.find? (·.name = name)
  | descriptor name => FloatType.all.find? (·.name = name)
  | _ => none

end PrecisionRequest

namespace Precision

/-- Single precision, with the wide mode off. -/
def initial : Precision := ⟨.float32, false⟩

def setType (p : Precision) (t : FloatType) : Precision :=
  ⟨t, p.wideMode || t = .float64⟩

def set (p : Precision) (request : PrecisionRequest) : Except Failure Precision :=
  match request.floatType? with
  | some t => .ok (p.setType t)
  | none => .error (.unsupportedPrecision request.display)

end Precision

end AdaptiveStep
