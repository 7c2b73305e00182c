import AdaptiveStep.ErrorControl

/-!
# Control settings

The bounds of a step, the tolerances, and the first step that the caller prescribes. A pair of
scalar tolerances applies to all components, until tolerances per component take its place.
-/

namespace AdaptiveStep

structure Controls (α : Type) where
  least : α
  greatest : α
  scalarAbsolute : α
  scalarRelative : α
  /-- The absolute and the relative tolerance of every component. -/
  vector : Option (List α × List α)
  initialStep : Option α
  deriving DecidableEq

namespace Controls

variable {α : Type}

def blank (zero : α) : Controls α := ⟨zero, zero, zero, zero, none, none⟩

/-- A new minimal step, of which only the magnitude counts. -/
def setLeast (A : Arithmetic α) (x : α) (c : Controls α) : Controls α :=
  { c with least := A.abs x }

/-- A new maximal step, of which only the magnitude counts. A prescribed first step is forgotten. -/
def setGreatest (A : Arithmetic α) (x : α) (c : Controls α) : Controls α :=
  { c with greatest := A.abs x, initialStep := none }

/-- Whether a first step is refused: it is not positive or not between the bounds. How it compares
depends on the type in which it comes. -/
def ignores {m : Type → Type} [Monad m] (c : Controls α) (isNotPositive : m Bool)
    (isBelow isAbove : α → m Bool) : m Bool := do
  if ← isNotPositive then return true
  if ← isBelow c.least then return true
  isAbove c.greatest

def absolute (c : Controls α) : Tolerance α :=
  match c.vector with
  | some (xs, _) => .perComponent xs
  | none => .uniform c.scalarAbsolute

def relative (c : Controls α) : Tolerance α :=
  match c.vector with
  | some (_, xs) => .perComponent xs
  | none => .uniform c.scalarRelative

/-- Fails unless the tolerances fit a state with `n` components under error control. -/
def requireDimension (c : Controls α) (n : Nat) : Except Failure Unit := do
  c.absolute.requireSize n
  c.relative.requireSize n

end Controls

end AdaptiveStep
