import AdaptiveStep.Value.Arithmetic

/-!
# Reciprocals

One divided by a value. A plain number has no reciprocal if it is zero; an array item has one in the
float type of its array, which is infinite for zero.
-/

namespace AdaptiveStep

/-- The float type in which host items of a type are divided, none for complex items. -/
def ItemType.quotientType? : ItemType → Option FloatType
  | integer _ => some .float64
  | real t => some t
  | complex _ => none

/-- A dual number divides one if neither its value nor the square of its value is zero. -/
def Dual.reciprocal (d : Dual) : Except Failure Dual := do
  if d.value.isZero then throw .divisionByZero
  let square := double.mul d.value d.value
  if square.isInfinite && !d.value.isInfinite then throw .powerTooLarge
  if square.isZero then throw .divisionByZero
  let one := double.ofRat 1
  let slope := double.sub (double.mul (double.ofRat 0) d.value) (double.mul one d.derivative)
  return ⟨double.div one d.value, double.div slope square⟩

namespace NumericArray

/-- One divided by every item. Nothing bounds complex items, which are no valid values here. -/
def reciprocal (wideMode : Bool) (a : NumericArray) : Except Failure NumericArray :=
  match a.residence, a.type.quotientType? with
  | _, none => .error (.onDevice .invalidValue)
  | .host, some t =>
    let b := a.cast (.real t)
    .ok { b with
      items := b.items.map fun z => .ofReal (t.arithmetic.div (t.arithmetic.ofRat 1) z.re) }
  | .device, some _ =>
    let unit : ItemType := .real (if wideMode then .float64 else .float32)
    let one : NumericArray := ⟨.device, unit, true, [], [.ofReal (Number.ofRat 1)]⟩
    let (one, b) := one.meetOnDevice a
    one.zipItems (fun z w => .ofReal (b.type.part.arithmetic.div z.re w.re)) b

end NumericArray

namespace Value

def plainReciprocal : Value → Except Failure Value
  | rational q => do
    let x ← rationalToNumber q
    if x.isZero then throw .rationalTooSmall
    return real (double.div (double.ofRat 1) x)
  | complex z =>
    if z.re.isZero && z.im.isZero then .error .complexDivisionByZero
    else .error (.onDevice .invalidValue)
  | dual d => do return dual (← d.reciprocal)
  | v => do
    let x ← v.toNumber
    if x.isZero then throw .divisionByZero
    return real (double.div (double.ofRat 1) x)

def reciprocal (wideMode : Bool) : Value → Except Failure Value
  | scalar t z => do return (← (NumericArray.single t z).reciprocal wideMode).toValue
  | array a => do return (← a.reciprocal wideMode).toValue
  | objects shape items => do return ofElements shape (← items.mapM plainReciprocal)
  | v => v.plainReciprocal

end Value

end AdaptiveStep
