import AdaptiveStep.Number.Arithmetic
import AdaptiveStep.Evaluation

/-!
# The magnitude of the first step

A first step of the right size is found from the state, its derivative and one evaluation of the
dynamics. A rough guess, a hundredth of the ratio of the scaled state to its scaled derivative,
drives an Euler step; the derivative at its end estimates the second derivative; and the step `h`
is chosen such that `h ^ order` times the greater of the two scaled derivatives is a hundredth.
-/

namespace AdaptiveStep

/-- An operation on the components of two vectors. Vectors of unlike length do not meet, unless one
of them has a single component, which is then repeated. -/
def pairwise {α β γ : Type} (f : α → β → γ) (xs : List α) (ys : List β) :
    Except Failure (List γ) :=
  if xs.length = ys.length then .ok (List.zipWith f xs ys)
  else
    match xs, ys with
    | [x], ys => .ok (ys.map (f x))
    | xs, [y] => .ok (xs.map (f · y))
    | xs, ys => .error (.shapesDiffer [xs.length] [ys.length])

/-- What the estimate knows of a problem: the state, its derivative and the scale. -/
structure StartVectors (α : Type) where
  state : List α
  slope : List α
  scale : List α

/-- Only the components that have a scale. -/
def StartVectors.leading {α : Type} (v : StartVectors α) : StartVectors α :=
  ⟨v.state.take v.scale.length, v.slope.take v.scale.length, v.scale⟩

namespace InitialStep

variable {α : Type}

/-- A magnitude with the sign of the direction of integration. -/
def directed (A : Arithmetic α) (forward : Bool) (h : α) : α :=
  if forward then h else A.neg h

/-- The sum of the squares of a vector's components, each divided by its scale. -/
def scaledSquares (A : Arithmetic α) (scale xs : List α) : Except Failure α := do
  return A.pairwiseSum ((← pairwise A.div xs scale).map A.square)

/-- The rough guess for the Euler step, from the scaled squares of the state and its derivative. If
one of them is tiny the guess is a small constant. -/
def roughGuess (A : Arithmetic α) (size slopeSize : α) : α :=
  let tiny := A.ofRat (1 / 10000000000)
  if A.lt size tiny || A.lt slopeSize tiny then A.ofRat (1 / 1000000)
  else A.mul (A.ofRat (1 / 100)) (A.sqrt (A.div size slopeSize))

/-- The scaled second derivative, from the derivatives at both ends of the Euler step. -/
def curvature (A : Arithmetic α) (v : StartVectors α) (guess : α) (endSlope : List α) :
    Except Failure α := do
  let change ← pairwise A.sub endSlope v.slope
  let distance := A.sqrt (← scaledSquares A v.scale change)
  if A.isZero guess then throw .divisionByZero
  return A.div distance guess

/-- A power that has to be finite when its operands are. -/
def boundedPower (A : Arithmetic α) (base exponent : α) : Except Failure α :=
  let p := A.pow base exponent
  if A.isInfinite p && !A.isInfinite base && !A.isInfinite exponent then .error .powerTooLarge
  else .ok p

/-- What is asked of the candidates `β` for the first step, whose bounds come from the caller while
the estimates are numbers `α`: a number as a candidate, a number to the power of the order's
reciprocal, and the order of candidates. -/
structure Candidates (α β : Type) where
  ofNumber : α → β
  root : α → Except Failure β
  isBelow : β → β → Except Failure Bool
  isAbove : β → β → Except Failure Bool

/-- Candidates that are numbers, for the given reciprocal of the order. -/
def Candidates.numbers (A : Arithmetic α) (exponent : Except Failure α) : Candidates α α where
  ofNumber := id
  root x := do boundedPower A x (← exponent)
  isBelow x y := .ok (A.lt x y)
  isAbove x y := .ok (A.lt y x)

variable {β : Type}

/-- The step at which the greater of the scaled derivatives takes effect. -/
def proposal (A : Arithmetic α) (C : Candidates α β) (greatest guess : α) : Except Failure β :=
  if A.lt greatest (A.ofRat (1 / 1000000000000000)) then
    .ok (C.ofNumber (A.max (A.ofRat (1 / 1000000)) (A.mul (A.ofRat (1 / 1000)) (A.abs guess))))
  else C.root (A.div (A.ofRat (1 / 100)) greatest)

/-- A candidate, at most a hundred times the guess and large enough to move the start time. -/
def limited (A : Arithmetic α) (C : Candidates α β) (guess : α) (h : β)
    (start : Except Failure α) : Except Failure β := do
  let widest := C.ofNumber (A.mul (A.ofRat 100) (A.abs guess))
  let h := if ← C.isBelow h widest then h else widest
  let least := C.ofNumber (A.mul (A.ofRat (1 / 1000000000000)) (A.abs (← start)))
  if ← C.isAbove least h then return least else return h

/-- The magnitude of the first step before it is brought between the bounds. `probe` gives the
derivative at the end of an Euler step; the reciprocal of the order and the start time are looked
at only when they are needed. -/
def magnitude {σ : Type} (A : Arithmetic α) (C : Candidates α β) (forward : Bool)
    (v : StartVectors α) (probe : α → Action σ (List α)) (start : Except Failure α) :
    Action σ β := do
  let size ← scaledSquares A v.scale v.state
  let slopeSize ← scaledSquares A v.scale v.slope
  let guess := directed A forward (roughGuess A size slopeSize)
  let endSlope ← probe guess
  let bend ← curvature A v guess endSlope
  let h ← proposal A C (A.max (A.sqrt slopeSize) bend) guess
  limited A C guess h start

/-- A magnitude raised to the minimal step and then cut to the maximal step. -/
def bounded (C : Candidates α β) (least greatest h : β) : Except Failure β := do
  let h := if ← C.isBelow h least then least else h
  if ← C.isAbove h greatest then return greatest else return h

end InitialStep

end AdaptiveStep
