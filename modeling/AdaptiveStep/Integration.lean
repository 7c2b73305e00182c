import AdaptiveStep.Controls
import AdaptiveStep.InitialStep
import AdaptiveStep.StepFilter
import AdaptiveStep.StepProposal

/-!
# Adaptive integration

Heun's method with an embedded Euler step, under step-size control. Every attempted step is
recorded with its error and with the time and state after it. A step is accepted when its error is
at most one; accepted or not, its error sizes the next step, which the filter brings between the
bounds.
-/

namespace AdaptiveStep

structure Attempt (α : Type) where
  step : α
  error : α
  accepted : Bool
  time : α
  state : List α

/-- The attempted steps in order, and how the integration ended: whether it reached the end time,
or why it broke off. -/
structure Integration (α : Type) where
  attempts : List (Attempt α)
  ending : Except Failure Bool

/-- An initial value problem with the settings of its integration. -/
structure IntegrationProblem (α : Type) where
  start : α
  finish : α
  initial : List α
  scale : List α
  order : Int
  acceptSmall : Bool
  maxSteps : Nat

/-- The arithmetic of an integration, that of its sums, and its filter. -/
structure Setting (α : Type) where
  arithmetic : Arithmetic α
  sums : Arithmetic α
  steps : StepField α α

def Setting.double : Setting Number := ⟨AdaptiveStep.double, AdaptiveStep.double, doubleSteps⟩

variable {σ α : Type}

/-- A state advanced along its derivative, as far as both reach. -/
def advance (A : Arithmetic α) (h : α) (y slope : List α) : List α :=
  List.zipWith (fun y slope => A.add y (A.mul h slope)) y slope

namespace IntegrationProblem

def forward (A : Arithmetic α) (P : IntegrationProblem α) : Bool :=
  A.lt P.start P.finish

def remaining (A : Arithmetic α) (P : IntegrationProblem α) (t : α) : α :=
  A.abs (A.sub P.finish t)

/-- Whether hardly any time is left. Where it is not known how much is left there is no more to do. -/
def isFinished (A : Arithmetic α) (P : IntegrationProblem α) (t : α) : Bool :=
  !A.lt (A.ofRat (1 / 1000000000000)) (P.remaining A t)

def truncated (A : Arithmetic α) (P : IntegrationProblem α) (t h : α) : α :=
  if A.lt (P.remaining A t) (A.abs h) then A.sub P.finish t else h

/-- The first step: the prescribed one, else the estimate. -/
def firstStep (A : Arithmetic α) (P : IntegrationProblem α) (c : Controls α)
    (f : Dynamics σ α (List α)) (slope : List α) : Action σ α := do
  match c.initialStep with
  | some h => return InitialStep.directed A (P.forward A) h
  | none => do
    if P.order ≤ 0 then throw (.orderNotPositive (.integer P.order))
    let n := P.scale.length
    if P.initial.length < n then throw (.dimensionMismatch (.integer P.initial.length) (.integer n))
    let probe (h : α) : Action σ (List α) := do
      return (← f (A.add P.start h) (advance A h P.initial slope)).take n
    let candidates := InitialStep.Candidates.numbers A (.ok (A.div (A.ofRat 1) (A.ofRat P.order)))
    let h ← InitialStep.magnitude A candidates (P.forward A)
      (StartVectors.leading ⟨P.initial, slope, P.scale⟩) probe (.ok P.start)
    let h ← InitialStep.bounded candidates c.least c.greatest h
    return InitialStep.directed A (P.forward A) h

def attempt (S : Setting α) (P : IntegrationProblem α) (c : Controls α)
    (f : Dynamics σ α (List α)) (t : α) (y : List α) (h : α) : Action σ (Attempt α) := do
  let A := S.arithmetic
  let h := P.truncated A t h
  let slope ← f t y
  let euler := advance A h y slope
  let endSlope ← f (A.add t h) euler
  let half := A.mul (A.ofRat (1 / 2)) h
  let errors := List.zipWith (fun s e => A.mul half (A.sub e s)) slope endSlope
  let next := List.zipWith A.add euler errors
  let error ← errorNorm A S.sums errors y next c.absolute c.relative
  if A.le error (A.ofRat 1) then return ⟨h, error, true, A.add t h, next⟩
  else return ⟨h, error, false, t, y⟩

def nextStep (S : Setting α) (P : IntegrationProblem α) (c : Controls α) (a : Attempt α) :
    Except Failure α := do
  let A := S.arithmetic
  let order := A.add (A.ofRat (P.order - 1)) (A.ofRat 1)
  if A.isZero order then throw .divisionByZero
  let h := proposeStep A (.standard A) (A.div (A.ofRat 1) order) a.error a.step
  return (← S.steps.filterStep h (P.forward A) P.acceptSmall c.least c.greatest).step

def attempts (S : Setting α) (P : IntegrationProblem α) (c : Controls α)
    (f : Dynamics σ α (List α)) : Nat → α → List α → α → StateM σ (Integration α)
  | 0, t, _, _ => return ⟨[], .ok (P.isFinished S.arithmetic t)⟩
  | n + 1, t, y, h => do
    if P.isFinished S.arithmetic t then return ⟨[], .ok true⟩
    match ← (P.attempt S c f t y h).run with
    | .error e => return ⟨[], .error e⟩
    | .ok a =>
      match P.nextStep S c a with
      | .error e => return ⟨[a], .error e⟩
      | .ok h =>
        let rest ← attempts S P c f n a.time a.state h
        return ⟨a :: rest.attempts, rest.ending⟩

/-- The derivative at the start and the first step, once the tolerances fit the state. -/
def prepare (S : Setting α) (P : IntegrationProblem α) (c : Controls α)
    (f : Dynamics σ α (List α)) : Action σ α := do
  let slope ← f P.start P.initial
  c.requireDimension P.initial.length
  P.firstStep S.arithmetic c f slope

def integrate (S : Setting α) (P : IntegrationProblem α) (c : Controls α)
    (f : Dynamics σ α (List α)) : StateM σ (Integration α) := do
  match ← (P.prepare S c f).run with
  | .error e => return ⟨[], .error e⟩
  | .ok h => P.attempts S c f P.maxSteps P.start P.initial h

end IntegrationProblem

end AdaptiveStep
