import AdaptiveStep.Value.Text

/-!
# Failures

Every way in which an operation can fail, as a cause with the data that belongs to it.
`Failure.message` is the text of a failure, and `Failure.family` says what kind of failure it is.
Failures that arise on the device, and those of a quotient or an element without a real part, have
no text of their own.
-/

namespace AdaptiveStep

/-- The families that failures fall into. The first four belong to step-size control itself. -/
inductive Failure.Family where
  | control
  | dimension
  | minimalStep
  | budget
  | invalidValue
  | wrongKind
  | unsupportedItems
  | overflow
  | division
  | index
  deriving DecidableEq, Inhabited

inductive Failure where
  /-- A failure of step-size control, as described. -/
  | control (description : String)
  /-- A tolerance, scale or error vector does not match the state. -/
  | dimensionMismatch (expected actual : Value)
  /-- A step is below the minimal step and small steps are not accepted. -/
  | minimalStep (step bound : Value)
  /-- The dynamics may not be evaluated any more. -/
  | budgetExhausted (budget : Value)
  | negativeBudget (budget : Int)
  | noDerivative
  | derivativeCount (expected actual : Nat)
  | orderNotPositive (order : Value)
  /-- One tolerance is a single number, the other one per component. -/
  | mixedTolerances
  | unsupportedPrecision (request : String)
  | unreadableNumber (text : String)
  | notANumber (kind : String)
  | notIterable (kind : String)
  | noLength (kind : String)
  | noAxis
  | noAxisToIterate
  | notOrdered (relation left right : String)
  | ambiguousTruth
  | emptyTruth
  | noMagnitude (kind : String)
  | noNegative (kind : String)
  | unsupportedOperands (symbol left right : String)
  | notRepeatable (factor : String)
  | notJoinable (container kind : String)
  | divisionByZero
  | complexDivisionByZero
  | integerTooLarge
  | magnitudeTooLarge
  | powerTooLarge
  | wholeNaN
  | wholeInfinity
  | wordTooSmall
  /-- An integer does not fit into the items of the named type. -/
  | outOfBounds (number : Int) (type : String)
  | notAnInteger (kind : String)
  | notReal (kind : String)
  | unreadableInteger (text : String)
  | unreadableComplex
  /-- A list has parts of unlike shapes below the axes of the given lengths. -/
  | ragged (shape : List Nat)
  /-- Arrays of the named item types have no such operation. -/
  | noItemOperation (operation left right : String)
  /-- A value of the named kind has no scientific notation. -/
  | noScientific (kind : String)
  | textScientific
  | shapesDiffer (left right : List Nat)
  | arrayWithAxes
  | notSubscriptable (kind : String)
  | indexOutOfRange (container : String)
  | noAxisToIndex
  | scalarIndexed
  | indexOutOfBounds (index size : Nat)
  | singularDynamics
  | noRealPart
  | rationalTooLarge
  | rationalTooSmall
  /-- A failure on the device, of which only the family is known. -/
  | onDevice (family : Failure.Family)
  deriving Inhabited

namespace Failure

/-- The lengths of the axes in parentheses, a single one with a comma. -/
def shapeText (shape : List Nat) : String :=
  match shape with
  | [n] => "(" ++ toString n ++ ",)"
  | ns => "(" ++ ",".intercalate (ns.map toString) ++ ")"

def stepText (v : Value) : String :=
  v.scientific?.getD v.print

def message : Failure → Option String
  | control description => some description
  | dimensionMismatch expected actual =>
    some ("Dimension mismatch: expected " ++ expected.format ++ ", got " ++ actual.format)
  | minimalStep step bound =>
    some ("Minimal step size (" ++ stepText bound ++ ") reached, integration needs " ++
      stepText step)
  | budgetExhausted budget =>
    some ("Maximal count (" ++ budget.format ++ ") of evaluations exceeded")
  | negativeBudget budget => some ("max_evaluations must be >= 0, got " ++ toString budget)
  | noDerivative => some "ODEState has no derivative attached"
  | derivativeCount expected actual =>
    some ("Expected " ++ toString expected ++ " secondary derivatives, got " ++ toString actual)
  | orderNotPositive order => some ("Method order must be positive, got " ++ order.format)
  | mixedTolerances =>
    some "absolute_tolerance and relative_tolerance must both be scalars or both be sequences"
  | unsupportedPrecision request =>
    some ("Unsupported dtype " ++ request ++
      ". Must be one of: jnp.float16, jnp.bfloat16, jnp.float32, jnp.float64")
  | unreadableNumber text => some ("could not convert string to float: " ++ quoted text)
  | notANumber kind =>
    some ("float() argument must be a string or a real number, not '" ++ kind ++ "'")
  | notIterable kind => some ("'" ++ kind ++ "' object is not iterable")
  | noLength kind => some ("object of type '" ++ kind ++ "' has no len()")
  | noAxis => some "len() of unsized object"
  | noAxisToIterate => some "iteration over a 0-d array"
  | notOrdered relation left right =>
    some ("'" ++ relation ++ "' not supported between instances of '" ++ left ++ "' and '" ++
      right ++ "'")
  | ambiguousTruth =>
    some ("The truth value of an array with more than one element is ambiguous. " ++
      "Use a.any() or a.all()")
  | emptyTruth =>
    some ("The truth value of an empty array is ambiguous. " ++
      "Use `array.size > 0` to check that an array is not empty.")
  | noMagnitude kind => some ("bad operand type for abs(): '" ++ kind ++ "'")
  | noNegative kind => some ("bad operand type for unary -: '" ++ kind ++ "'")
  | unsupportedOperands symbol left right =>
    some ("unsupported operand type(s) for " ++ symbol ++ ": '" ++ left ++ "' and '" ++ right ++
      "'")
  | notRepeatable factor => some ("can't multiply sequence by non-int of type '" ++ factor ++ "'")
  | notJoinable container kind =>
    some ("can only concatenate " ++ container ++ " (not \"" ++ kind ++ "\") to " ++ container)
  | divisionByZero => some "float division by zero"
  | complexDivisionByZero => some "complex division by zero"
  | integerTooLarge => some "int too large to convert to float"
  | magnitudeTooLarge => some "absolute value too large"
  | powerTooLarge => some "(34, 'Numerical result out of range')"
  | wholeNaN => some "cannot convert float NaN to integer"
  | wholeInfinity => some "cannot convert float infinity to integer"
  | wordTooSmall => some "Python int too large to convert to C long"
  | outOfBounds number type =>
    some ("Python integer " ++ toString number ++ " out of bounds for " ++ type)
  | notAnInteger kind =>
    some ("int() argument must be a string, a bytes-like object or a real number, not '" ++ kind ++
      "'")
  | notReal kind => some ("must be real number, not " ++ kind)
  | unreadableInteger text =>
    some ("invalid literal for int() with base 10: " ++
      String.ofList ((quoted text).toList.take 200))
  | unreadableComplex => some "complex() arg is a malformed string"
  | ragged shape =>
    some ("setting an array element with a sequence. The requested array has an inhomogeneous " ++
      "shape after " ++ toString shape.length ++ " dimensions. The detected shape was " ++
      tupleText shape ++ " + inhomogeneous part.")
  | noItemOperation operation left right =>
    some ("ufunc '" ++ operation ++ "' did not contain a loop with signature matching types " ++
      "(<class 'numpy.dtypes." ++ left ++ "'>, <class 'numpy.dtypes." ++ right ++ "'>) -> None")
  | noScientific kind => some ("unsupported format string passed to " ++ kind ++ ".__format__")
  | textScientific => some "Unknown format code 'e' for object of type 'str'"
  | shapesDiffer left right =>
    some ("operands could not be broadcast together with shapes " ++ shapeText left ++ " " ++
      shapeText right ++ " ")
  | arrayWithAxes => some "only 0-dimensional arrays can be converted to Python scalars"
  | notSubscriptable kind => some ("'" ++ kind ++ "' object is not subscriptable")
  | indexOutOfRange container => some (container ++ " index out of range")
  | noAxisToIndex =>
    some "too many indices for array: array is 0-dimensional, but 1 were indexed"
  | scalarIndexed => some "invalid index to scalar variable."
  | indexOutOfBounds index size =>
    some ("index " ++ toString index ++ " is out of bounds for axis 0 with size " ++ toString size)
  | singularDynamics => some "singular dynamics"
  | noRealPart => none
  | rationalTooLarge => none
  | rationalTooSmall => none
  | onDevice _ => none

def family : Failure → Family
  | control _ => .control
  | dimensionMismatch _ _ => .dimension
  | minimalStep _ _ => .minimalStep
  | budgetExhausted _ => .budget
  | negativeBudget _ => .invalidValue
  | noDerivative => .invalidValue
  | derivativeCount _ _ => .invalidValue
  | orderNotPositive _ => .invalidValue
  | unsupportedPrecision _ => .invalidValue
  | unreadableNumber _ => .invalidValue
  | ambiguousTruth => .invalidValue
  | shapesDiffer _ _ => .invalidValue
  | wholeNaN => .invalidValue
  | emptyTruth => .invalidValue
  | unreadableInteger _ => .invalidValue
  | unreadableComplex => .invalidValue
  | ragged _ => .invalidValue
  | textScientific => .invalidValue
  | noItemOperation _ _ _ => .unsupportedItems
  | outOfBounds _ _ => .overflow
  | integerTooLarge => .overflow
  | magnitudeTooLarge => .overflow
  | powerTooLarge => .overflow
  | wholeInfinity => .overflow
  | wordTooSmall => .overflow
  | rationalTooLarge => .overflow
  | divisionByZero => .division
  | complexDivisionByZero => .division
  | rationalTooSmall => .division
  | singularDynamics => .division
  | indexOutOfRange _ => .index
  | noAxisToIndex => .index
  | scalarIndexed => .index
  | indexOutOfBounds _ _ => .index
  | onDevice family => family
  | _ => .wrongKind

end Failure

end AdaptiveStep
