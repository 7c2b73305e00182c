import AdaptiveStep.Precision
import AdaptiveStep.Value.Projection

/-!
# Real vectors

The real parts of a vector of elements: in the configured float type for error control
(`Value.realVector`), and always in double precision for the initial step (`Value.doubleVector`).
A numeric array is converted as a whole, anything else element by element.
-/

namespace AdaptiveStep

namespace Value

/-- The real parts in the configured type. Arrays pass through the device first. -/
def realVector (p : Precision) (v : Value) : Except Failure (List Number) :=
  match v with
  | array a => .ok ((a.onDevice p.wideMode).items.map fun z => p.type.convert z.re)
  | v => do
    let xs ← (← v.elements).mapM (realPart p.wideMode)
    return xs.map p.type.convert

def doubleVector (wideMode : Bool) (v : Value) : Except Failure (List Number) :=
  match v with
  | array a => .ok (a.items.map fun z => FloatType.float64.convert z.re)
  | v => do (← v.elements).mapM (realPart wideMode)

/-- The real parts as a vector of the configured type on the device. -/
def realArray (p : Precision) (v : Value) : Except Failure NumericArray :=
  (v.realVector p).map (.deviceVector p.type)

def doubleArray (wideMode : Bool) (v : Value) : Except Failure NumericArray := do
  return { NumericArray.deviceVector .float64 (← v.doubleVector wideMode) with residence := .host }

/-- Numbers in the configured type, to which the device converts them at once, as a shape and its
items. -/
def deviceReals (p : Precision) (v : Value) : Except Failure (List Nat × List Number) := do
  let (shape, items) ← v.deviceItems (.real p.type)
  return (shape, items.map (·.re))

end Value

end AdaptiveStep
