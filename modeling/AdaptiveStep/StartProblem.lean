import AdaptiveStep.InitialStep
import AdaptiveStep.State
import AdaptiveStep.Value.Order
import AdaptiveStep.Value.Projection
import AdaptiveStep.Value.RealVector
import AdaptiveStep.Value.Reciprocal

/-!
# The first step of a problem

The estimate of `AdaptiveStep.InitialStep` for states made of elements of any kind. The Euler step
is taken in the elements themselves, and everything that sizes the step in double precision on
their real parts.
-/

namespace AdaptiveStep

/-- A problem at its start: the state with its derivative, the scale of its leading components, the
order of the method that will take the step, and the direction of integration. -/
structure StartProblem where
  state : State
  scale : Value
  order : Value
  forward : Bool

/-- The bounds of a first step, and the step that the caller prescribes, if any. -/
structure StepBounds where
  least : Value
  greatest : Value
  prescribed : Option Value

/-- A state advanced along its derivative: numeric arrays as a whole, other vectors element by
element as far as both reach. -/
def eulerStep (wideMode : Bool) (y slope h : Value) : Except Failure Value :=
  let advance (y slope : Value) := do
    y.combine wideMode .add (← slope.combine wideMode .mul h)
  if y.isNumericArray && slope.isNumericArray then advance y slope
  else do
    let pairs := (← y.elements).zip (← slope.elements)
    return .list (← pairs.mapM fun p => advance p.1 p.2)

/-- A double to the power of array items, in the float type of the items. -/
def NumericArray.exponentOf (wideMode : Bool) (base : Number) (a : NumericArray) : NumericArray :=
  let t := a.type.part
  let base := if a.residence = .device && !wideMode then FloatType.float32.convert base else base
  { a with items := a.items.map fun z => .ofReal (t.arithmetic.pow (t.convert base) z.re) }

namespace Value

/-- A double to the power of a value that is not an array. -/
def plainExponentOf (base : Number) (v : Value) : Except Failure Value := do
  return real (← InitialStep.boundedPower double base (← v.toNumber))

def exponentOf (wideMode : Bool) (base : Number) : Value → Except Failure Value
  | scalar t z => .ok ((NumericArray.single t z).exponentOf wideMode base).toValue
  | array a => .ok (a.exponentOf wideMode base).toValue
  | objects shape items => do return ofElements shape (← items.mapM (plainExponentOf base))
  | v => v.plainExponentOf base

/-- Candidates for a first step that are values, for a method of the given order. -/
def candidates (wideMode : Bool) (order : Value) : InitialStep.Candidates Number Value where
  ofNumber := .real
  root x := do (← order.reciprocal wideMode).exponentOf wideMode x
  isBelow := compare wideMode .below
  isAbove := compare wideMode .above

end Value

namespace StartProblem

variable {σ : Type}

def directed (P : StartProblem) (h : Value) : Except Failure Value :=
  if P.forward then .ok h else h.neg

def vectors (wideMode : Bool) (P : StartProblem) : Except Failure (Value × Value) := do
  return (← P.state.completeState wideMode, ← P.state.completeDerivative wideMode)

/-- The real parts of state, derivative and scale. The scale may be shorter than the state, but not
longer. -/
def realVectors (wideMode : Bool) (P : StartProblem) (y slope : Value) :
    Except Failure (StartVectors Number) := do
  let scale ← P.scale.doubleVector wideMode
  let state ← y.doubleVector wideMode
  if state.length < scale.length then
    throw (.dimensionMismatch (.integer state.length) (.integer scale.length))
  return StartVectors.leading ⟨state, ← slope.doubleVector wideMode, scale⟩

/-- The real parts of the derivative at the end of an Euler step. -/
def probe (wideMode : Bool) (P : StartProblem) (dynamics : Dynamics σ Value Value)
    (y slope : Value) (count : Nat) (h : Number) : Action σ (List Number) := do
  let next ← eulerStep wideMode y slope (.real h)
  let time ← P.state.time.combine wideMode .add (.real h)
  let result ← dynamics time next
  return (← result.doubleVector wideMode).take count

/-- The first step, estimated with one evaluation of the dynamics. -/
def estimate (wideMode : Bool) (P : StartProblem) (dynamics : Dynamics σ Value Value)
    (least greatest : Value) : Action σ Value := do
  if ← P.order.compare wideMode .atMost (.integer 0) then throw (.orderNotPositive P.order)
  let (y, slope) ← P.vectors wideMode
  let v ← P.realVectors wideMode y slope
  let candidates := P.order.candidates wideMode
  let h ← InitialStep.magnitude double candidates P.forward v
    (P.probe wideMode dynamics y slope v.scale.length) (P.state.time.realPart wideMode)
  P.directed (← InitialStep.bounded candidates least greatest h)

/-- The first step: the prescribed one in the direction of integration, else the estimate. -/
def firstStep (wideMode : Bool) (P : StartProblem) (dynamics : Dynamics σ Value Value)
    (bounds : StepBounds) : Action σ Value :=
  match bounds.prescribed with
  | some h => P.directed h
  | none => P.estimate wideMode dynamics bounds.least bounds.greatest

/-- What the search for the first step reports when it is over: an estimate. -/
def notes (wideMode : Bool) (P : StartProblem) (bounds : StepBounds)
    (result : Except Failure Value) : List Note :=
  match bounds.prescribed, result, P.state.time.realPart wideMode with
  | none, .ok h, .ok start => [.initialStepEstimated h P.order start]
  | _, _, _ => []

end StartProblem

end AdaptiveStep
