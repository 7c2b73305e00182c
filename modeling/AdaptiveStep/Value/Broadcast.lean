import AdaptiveStep.Value.Basic

/-!
# Broadcasting

Two arrays meet axis by axis from the last one. Axes agree when their lengths are equal or one of
them is one, and an axis of length one is repeated.
-/

namespace AdaptiveStep

/-- A shape with axes of length one in front, up to the given number of axes. -/
def padShape (rank : Nat) (shape : List Nat) : List Nat :=
  List.replicate (rank - shape.length) 1 ++ shape

def joinAxes : List Nat → List Nat → Option (List Nat)
  | [], [] => some []
  | d :: ds, e :: es =>
    if d = e || e = 1 then (joinAxes ds es).map (d :: ·)
    else if d = 1 then (joinAxes ds es).map (e :: ·)
    else none
  | _, _ => none

/-- Items in a shape, repeated along its axes of length one to fill the target shape. -/
def stretch {α : Type} : List Nat → List Nat → List α → List α
  | d :: ds, e :: es, xs =>
    let parts := ((NumericArray.pieces ds xs d).map (stretch ds es)).flatten
    if d = e then parts else (List.replicate e parts).flatten
  | _, _, xs => xs

/-- An operation on the items of two arrays, with the common shape. -/
def broadcastWith {α β γ : Type} (f : α → β → γ) (shape₁ : List Nat) (xs : List α)
    (shape₂ : List Nat) (ys : List β) : Option (List Nat × List γ) :=
  let rank := max shape₁.length shape₂.length
  let s₁ := padShape rank shape₁
  let s₂ := padShape rank shape₂
  (joinAxes s₁ s₂).map fun s => (s, List.zipWith f (stretch s₁ s xs) (stretch s₂ s ys))

end AdaptiveStep
