import AdaptiveStep.Number.Extended

/-!
# Arithmetic as a parameter

The numerical rules of step-size control are written once, over an `Arithmetic α`. A machine format
gives one such arithmetic, exact numbers give another.
-/

namespace AdaptiveStep

/-- The operations that the numerical rules use. `convert` takes over a number of another
arithmetic, and `lt` is false when either side is NaN. -/
structure Arithmetic (α : Type) where
  ofRat : Rat → α
  convert : α → α
  neg : α → α
  abs : α → α
  sqrt : α → α
  add : α → α → α
  sub : α → α → α
  mul : α → α → α
  div : α → α → α
  pow : α → α → α
  lt : α → α → Bool
  isNaN : α → Bool
  isZero : α → Bool
  isInfinite : α → Bool

namespace Arithmetic

variable {α : Type}

/-- The first of two numbers unless the second is strictly greater. -/
def max (A : Arithmetic α) (x y : α) : α :=
  if A.lt x y then y else x

/-- The first of two numbers unless the second is strictly smaller. -/
def min (A : Arithmetic α) (x y : α) : α :=
  if A.lt y x then y else x

/-- The greater of two numbers, NaN if either is. -/
def maxNaN (A : Arithmetic α) (x y : α) : α :=
  if A.isNaN x then x else if A.isNaN y then y else A.max x y

/-- The smaller of two numbers, NaN if either is. -/
def minNaN (A : Arithmetic α) (x y : α) : α :=
  if A.isNaN x then x else if A.isNaN y then y else A.min x y

def sum (A : Arithmetic α) (xs : List α) : α :=
  xs.foldl A.add (A.ofRat 0)

/-- The sums of neighbours, two by two. -/
def addNeighbours (A : Arithmetic α) : List α → List α
  | x :: y :: rest => A.add x y :: addNeighbours A rest
  | rest => rest

/-- Eight sums at a time: the next eight items are added to them, until fewer are left. -/
def addLanes (A : Arithmetic α) (lanes xs : List α) : List α × List α :=
  if xs.length < 8 then (lanes, xs)
  else addLanes A (List.zipWith A.add lanes (xs.take 8)) (xs.drop 8)
termination_by xs.length
decreasing_by rw [List.length_drop]; omega

/-- The sum of a block, which has eight items at least. -/
def blockSum (A : Arithmetic α) (xs : List α) : α :=
  let (lanes, rest) := A.addLanes (xs.take 8) (xs.drop 8)
  A.sum (A.addNeighbours (A.addNeighbours (A.addNeighbours lanes)) ++ rest)

/-- The sum of many items: those of two halves, until there are blocks of at most 128. -/
def halvedSum (A : Arithmetic α) (xs : List α) : α :=
  if xs.length ≤ 128 then A.blockSum xs
  else
    let half := xs.length / 2 / 8 * 8
    A.add (halvedSum A (xs.take half)) (halvedSum A (xs.drop half))
termination_by xs.length
decreasing_by
  · rw [List.length_take]; omega
  · rw [List.length_drop]; omega

/-- A sum that rounds less: fewer than eight items are added in a row, more of them pairwise. -/
def pairwiseSum (A : Arithmetic α) (xs : List α) : α :=
  if xs.length < 8 then A.sum xs else A.halvedSum xs

def square (A : Arithmetic α) (x : α) : α :=
  A.mul x x

/-- Less or equal, false when either side is NaN. -/
def le (A : Arithmetic α) (x y : α) : Bool :=
  !A.isNaN x && !A.isNaN y && !A.lt y x

end Arithmetic

def Rounding.arithmetic {κ : Type} [OfNat κ 0] [DecidableEq κ] [Add κ] [Neg κ] [Mul κ] [Div κ]
    [LT κ] [DecidableLT κ] (R : Rounding κ) : Arithmetic (Extended κ) where
  ofRat := R.ofRat
  convert := R.convert
  neg := Extended.neg
  abs := Extended.abs
  sqrt := R.squareRoot
  add := R.add
  sub := R.sub
  mul := R.mul
  div := R.div
  pow := R.pow
  lt := Extended.lt
  isNaN := Extended.isNaN
  isZero := Extended.isZero
  isInfinite := Extended.isInfinite

end AdaptiveStep
