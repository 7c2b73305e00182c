import AdaptiveStep.Evaluation
import AdaptiveStep.Value.RealVector

/-!
# A catalogue of right-hand sides

Simple dynamics over elements of any kind. Most of them act on each component by itself: on a
numeric array as a whole, on anything else element by element.
-/

namespace AdaptiveStep

inductive RightHandSide where
  /-- The derivative is the opposite of the state. -/
  | decay
  | linear (factor : Value)
  | square
  /-- A linear right-hand side with the time added. -/
  | forced (factor : Value)
  /-- The harmonic oscillator, a position and a velocity. -/
  | oscillator
  | constant (derivative : Value)
  /-- The first components of a decay. -/
  | truncate (count : Int)
  | fail

namespace Value

/-- An operation on a numeric array as a whole, or on each element of another vector. -/
def onComponents (f : Value → Except Failure Value) (v : Value) : Except Failure Value :=
  if v.isNumericArray then f v else do return .list (← (← v.elements).mapM f)

/-- The component at an index. Beyond the end an array on the device gives its last component. -/
def component (v : Value) (index : Nat) : Except Failure Value :=
  let pick (items : List Value) (failure : Failure) : Except Failure Value :=
    match items[index]? with
    | some item => .ok item
    | none => .error failure
  match v with
  | list items => pick items (.indexOutOfRange "list")
  | tuple items => pick items (.indexOutOfRange "tuple")
  | text s => do pick (← (text s).elements) (.indexOutOfRange "string")
  | array a =>
    match a.residence, a.rows? with
    | .host, some rows =>
      pick (rows.map NumericArray.toValue) (.indexOutOfBounds index rows.length)
    | .host, none => .error .noAxisToIndex
    | .device, some rows =>
      match rows[index]?.or rows.getLast? with
      | some row => .ok row.toValue
      | none => .error (.onDevice .wrongKind)
    | .device, none => .error (.onDevice .index)
  | objects [] _ => .error .noAxisToIndex
  | objects shape items => do
    let rows ← (objects shape items).elements
    pick rows (.indexOutOfBounds index rows.length)
  | scalar _ _ => .error .scalarIndexed
  | v => .error (.notSubscriptable v.kind)

/-- The components before the given place, counted from the end if it is negative. -/
def leading (count : Int) (v : Value) : Except Failure Value :=
  let take (n : Nat) : Nat := if count < 0 then n - count.natAbs else min count.toNat n
  match v with
  | list items => .ok (.list (items.take (take items.length)))
  | array a =>
    match a.shape with
    | n :: shape =>
      let items := a.items.take (take n * NumericArray.itemCount shape)
      .ok (.array { a with shape := take n :: shape, items })
    | [] => .error (if a.residence = .host then .noAxisToIndex else .onDevice .index)
  | scalar _ _ => .error .scalarIndexed
  | v => .error (.notSubscriptable v.kind)

end Value

def RightHandSide.apply (wideMode : Bool) (f : RightHandSide) (t y : Value) :
    Except Failure Value :=
  let times (k v : Value) := v.combine wideMode .mul k
  match f with
  | decay => y.onComponents Value.neg
  | linear k => y.onComponents (times k)
  | square => y.onComponents fun v => times v v
  | forced k => y.onComponents fun v => do (← times k v).combine wideMode .add t
  | oscillator => do
    let velocity ← y.component 1
    let position ← y.component 0
    return .list [velocity, ← position.neg]
  | constant derivative => .ok derivative
  | truncate count => do (← y.onComponents Value.neg).leading count
  | fail => .error .singularDynamics

def RightHandSide.onNumbers (wideMode : Bool) (f : RightHandSide) (t : Number) (y : List Number) :
    Except Failure (List Number) := do
  (← f.apply wideMode (.real t) (.ofNumbers y)).doubleVector wideMode

end AdaptiveStep
