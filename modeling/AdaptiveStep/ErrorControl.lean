import AdaptiveStep.Number.Arithmetic
import AdaptiveStep.Failure

/-!
# Error control

The allowed error of a component is `absolute + relative * max |old| |new|`, and the error of a step
is the root mean square of its components' errors, each divided by the allowed one. A step is
acceptable when that is at most one. No vector is broadcast: all of them have as many components as
the old state.
-/

namespace AdaptiveStep

/-- A tolerance: one number for all components, or one per component. -/
inductive Tolerance (α : Type) where
  | uniform (x : α)
  | perComponent (xs : List α)
  deriving DecidableEq

namespace Tolerance

variable {α : Type}

/-- The number of components, if the tolerance fixes one. -/
def size? : Tolerance α → Option Nat
  | uniform _ => none
  | perComponent xs => some xs.length

def spread (n : Nat) : Tolerance α → List α
  | uniform x => List.replicate n x
  | perComponent xs => xs

def map {β : Type} (f : α → β) : Tolerance α → Tolerance β
  | uniform x => uniform (f x)
  | perComponent xs => perComponent (xs.map f)

end Tolerance

/-- Fails unless a vector has the expected number of components. -/
def requireSize (expected actual : Nat) : Except Failure Unit :=
  if actual = expected then .ok () else
    .error (.dimensionMismatch (.integer expected) (.integer actual))

/-- Fails unless a tolerance fits the expected number of components. -/
def Tolerance.requireSize {α : Type} (expected : Nat) (t : Tolerance α) : Except Failure Unit :=
  match t.size? with
  | none => .ok ()
  | some actual => AdaptiveStep.requireSize expected actual

variable {α : Type}

def threshold (A : Arithmetic α) (absolute relative old new : α) : α :=
  A.add absolute (A.mul relative (A.maxNaN (A.abs old) (A.abs new)))

def thresholds (A : Arithmetic α) (old new : List α) (absolute relative : Tolerance α) :
    Except Failure (List α) := do
  let n := old.length
  requireSize n new.length
  absolute.requireSize n
  relative.requireSize n
  return List.zipWith (fun tolerance y => threshold A tolerance.1 tolerance.2 y.1 y.2)
    ((absolute.spread n).zip (relative.spread n)) (old.zip new)

/-- The root mean square of quotients; the mean is taken in the arithmetic `S` of sums. -/
def rootMeanSquare (A S : Arithmetic α) (qs : List α) : α :=
  A.sqrt (A.convert (S.div (S.sum (qs.map A.square)) (S.ofRat qs.length)))

/-- The root mean square of a step's errors, each in units of its allowed error. -/
def scaledError (A S : Arithmetic α) (allowed errors : List α) : Except Failure α := do
  requireSize allowed.length errors.length
  return rootMeanSquare A S (List.zipWith A.div errors allowed)

/-- The error of a step in units of the allowed error. -/
def errorNorm (A S : Arithmetic α) (errors old new : List α) (absolute relative : Tolerance α) :
    Except Failure α := do
  scaledError A S (← thresholds A old new absolute relative) errors

end AdaptiveStep
