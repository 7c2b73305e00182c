import AdaptiveStep.Controls
import AdaptiveStep.ElementControl
import AdaptiveStep.Record
import AdaptiveStep.StartProblem
import AdaptiveStep.StepFilter

/-!
# Step-size policies

A policy holds the control settings of one integration and the context of its current step. Its
settings are changed one after the other, so a change that fails half way keeps what it had already
done.
-/

namespace AdaptiveStep

structure Policy where
  controls : Controls Number
  /-- The number of components under error control, known after the first validation. -/
  mainDimension : Option Nat
  stepStart : Option State
  stepSize : Value

namespace Policy

def blank : Policy := ⟨.blank (.finite 0), none, none, .absent⟩

def change (f : Controls Number → Controls Number) : Action Policy Unit :=
  modify fun p => { p with controls := f p.controls }

def setBounds (least greatest : Value) : Action Policy Unit := do
  let least ← least.toNumber
  change (·.setLeast double least)
  let greatest ← greatest.toNumber
  change (·.setGreatest double greatest)

/-- New bounds, and one pair of tolerances for all components. -/
def configureScalar (least greatest absolute relative : Value) : Action Policy Unit := do
  setBounds least greatest
  let absolute ← absolute.toNumber
  let relative ← relative.toNumber
  change fun c =>
    { c with scalarAbsolute := absolute, scalarRelative := relative, vector := none }

def configureVector (least greatest absolute relative : Value) : Action Policy Unit := do
  setBounds least greatest
  change fun c => { c with scalarAbsolute := .finite 0, scalarRelative := .finite 0 }
  let absolute ← absolute.numbers
  let relative ← relative.numbers
  change fun c => { c with vector := some (absolute, relative) }

/-- New bounds and tolerances, the latter both single numbers or both one per component. -/
def setStepSizeControl (least greatest absolute relative : Value) : Action Policy Unit :=
  if absolute.isSequence != relative.isSequence then throw .mixedTolerances
  else if absolute.isSequence then configureVector least greatest absolute relative
  else configureScalar least greatest absolute relative

/-- A fresh step context: no step yet, and the geometric mean of the bounds as its size. -/
def reset (p : Policy) : Policy :=
  let size := double.sqrt (double.mul p.controls.least p.controls.greatest)
  { p with stepStart := none, stepSize := .real size }

def create (least greatest absolute relative : Value) : Except Failure Policy :=
  match (setStepSizeControl least greatest absolute relative).outcome blank with
  | (.ok _, p) => .ok p.reset
  | (.error e, _) => .error e

/-- Whether a first step is refused. -/
def ignores (wideMode : Bool) (p : Policy) (step : Value) : Except Failure Bool :=
  p.controls.ignores (step.compare wideMode .atMost (.integer 0))
    (fun least => step.compare wideMode .below (.real least))
    fun greatest => step.compare wideMode .above (.real greatest)

/-- A prescribed first step, or none if it is refused. -/
def setInitialStep (wideMode : Bool) (step : Value) : Action Policy Unit := do
  if ← (← get).ignores wideMode step then change fun c => { c with initialStep := none }
  else
    let h ← step.toNumber
    change fun c => { c with initialStep := some h }

def initialStepNotes (wideMode : Bool) (p : Policy) (step : Value) : List Note :=
  match p.ignores wideMode step with
  | .ok true => [.initialStepIgnored step p.controls.least p.controls.greatest]
  | _ => []

/-- The state that an integration starts from fixes the number of components under error control,
which tolerances per component have to match. -/
def validate (state : State) : Action Policy Unit := do
  let n ← state.primaryDimension
  modify fun p => { p with mainDimension := some n }
  (← get).controls.requireDimension n

def setStep (start : Option State) (size : Value) (p : Policy) : Policy :=
  { p with stepStart := start, stepSize := size }

def bounds (p : Policy) : StepBounds :=
  ⟨.real p.controls.least, .real p.controls.greatest, p.controls.initialStep.map .real⟩

def firstStep {σ : Type} (wideMode : Bool) (p : Policy) (dynamics : Dynamics σ Value Value)
    (P : StartProblem) : Action σ Value :=
  P.firstStep wideMode dynamics p.bounds

def filterStep (wideMode : Bool) (p : Policy) (h : Value) (forward acceptSmall : Bool) :
    Except Failure (FilteredStep Value) :=
  h.filterStep wideMode forward acceptSmall (.real p.controls.least) (.real p.controls.greatest)

def toleranceValue : Tolerance Number → Value
  | .uniform x => .real x
  | .perComponent xs => .tuple (xs.map .real)

/-- The allowed error of every component between two states. -/
def thresholds (q : Precision) (p : Policy) (old new : Value) : Except Failure Grid :=
  Value.thresholds q old new (toleranceValue p.controls.absolute)
    (toleranceValue p.controls.relative)

/-- The error of a step between two states in units of the allowed error. -/
def errorNorm (q : Precision) (p : Policy) (errors old new : Value) : Except Failure Number :=
  Value.errorNorm q errors old new (toleranceValue p.controls.absolute)
    (toleranceValue p.controls.relative)

def toleranceText (c : Controls Number) : String :=
  match c.vector with
  | none =>
    RecordKind.scalarTolerance.text
      [("absolute", .real c.scalarAbsolute), ("relative", .real c.scalarRelative)]
  | some (xs, ys) =>
    RecordKind.vectorTolerance.text
      [("absolute", .tuple (xs.map .real)), ("relative", .tuple (ys.map .real))]

def text (p : Policy) : String :=
  recordText "StepSizePolicy"
    [("min_step", p.controls.least.text), ("max_step", p.controls.greatest.text),
      ("tolerance", toleranceText p.controls),
      ("initial_step", (p.controls.initialStep.map Number.text).getD "None")]

end Policy

end AdaptiveStep
