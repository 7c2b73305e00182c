import AdaptiveStep.Value.Arithmetic

/-!
# What the controller asks of an element

The real part, on which elements are compared; the magnitude in the element's own metric; and the
element that equals a real constant.
-/

namespace AdaptiveStep

/-- The magnitude of a complex number, rounded once. It is infinite if either part is, even beside
NaN. -/
def ComplexNumber.magnitude (t : FloatType) (z : ComplexNumber) : Number :=
  match z.re, z.im with
  | .infinity _, _ => .infinity false
  | _, .infinity _ => .infinity false
  | x, y =>
    match x.value?, y.value? with
    | some a, some b =>
      let s := a * a + b * b
      if s = 0 then .finite 0 else t.format.sqrt s
    | _, _ => .nan

/-- The magnitude of a dual number: the derivative changes its sign with the value. -/
def Dual.magnitude (d : Dual) : Dual :=
  let sign := if d.value.isNegative then double.ofRat (-1) else double.ofRat 1
  ⟨d.value.abs, double.mul sign d.derivative⟩

def ItemType.magnitudeType : ItemType → ItemType
  | complex wide => real (complex wide).part
  | t => t

def ItemType.magnitude (t : ItemType) (z : ComplexNumber) : ComplexNumber :=
  match t with
  | integer wide => .ofInt (wrap wide (integerOf z.re).natAbs)
  | real _ => .ofReal z.re.abs
  | complex _ => .ofReal (z.magnitude t.part)

namespace Value

/-- The real part of a value as a double. An array without axes and a complex number pass through
the device, which narrows them unless the wide mode is on. -/
def realPart (wideMode : Bool) : Value → Except Failure Number
  | dual d => .ok d.value
  | real x => .ok x
  | integer n => integerToNumber n
  | boolean b => .ok (.finite (if b then 1 else 0))
  | rational q => rationalToNumber q
  | complex z => .ok (onDevice (.complex true) z)
  | scalar t z =>
    match t with
    | .complex _ => .ok (onDevice t z)
    | _ => .ok (FloatType.float64.convert z.re)
  | array a =>
    match a.shape, a.items with
    | [], [z] => .ok (onDevice a.type z)
    | _, _ => .error .noRealPart
  | _ => .error .noRealPart
where
  onDevice (t : ItemType) (z : ComplexNumber) : Number :=
    FloatType.float64.convert (t.cast (t.narrowed wideMode) z).re

/-- The magnitude of an element other than an array of elements. -/
def elementMagnitude : Value → Except Failure Value
  | dual d => .ok (.dual d.magnitude)
  | real x => .ok (.real x.abs)
  | integer n => .ok (.integer n.natAbs)
  | boolean b => .ok (.integer (if b then 1 else 0))
  | rational q => .ok (.rational q.abs)
  | complex z =>
    match z.magnitude .float64 with
    | .infinity _ =>
      if z.re.isInfinite || z.im.isInfinite then .ok (.real (.infinity false))
      else .error .magnitudeTooLarge
    | x => .ok (.real x)
  | scalar t z => .ok (.scalar t.magnitudeType (t.magnitude z))
  | array a =>
    .ok { a with type := a.type.magnitudeType, items := a.items.map a.type.magnitude
          : NumericArray }.toValue
  | v => .error (.noMagnitude v.kind)

/-- The magnitude of a value. An array of elements has plain magnitudes only, and a dual number in
one has none. -/
def magnitude : Value → Except Failure Value
  | objects shape items => do
    let sizes ← items.mapM fun v =>
      match v with
      | dual _ => .error (.noMagnitude v.kind)
      | v => elementMagnitude v
    match shape, sizes with
    | [], [v] => return v
    | _, _ => return .objects shape sizes
  | v => elementMagnitude v

/-- A real constant as an element of the template's field: a double for real elements, an array of
the same item type for arrays, and for other elements `template * 0 + constant`. -/
def constantLike (wideMode : Bool) (template constant : Value) : Except Failure Value :=
  match template with
  | real _ => constant.toNumber.map .real
  | integer _ => constant.toNumber.map .real
  | boolean _ => constant.toNumber.map .real
  | rational _ => constant.toNumber.map .real
  | scalar (.real _) _ => constant.toNumber.map .real
  | scalar (.integer _) _ => constant.toNumber.map .real
  | array a => do
    let (shape, items) ←
      if a.residence = .device then constant.deviceItems a.type else constant.items a.type
    return .array ⟨a.residence, a.type, false, shape, items⟩
  | objects _ _ => .ok constant.elementArray
  | v => do
    combine wideMode .add (← combine wideMode .mul v (.real (.finite 0))) constant

/-- Whether the constant itself is the element that `constantLike` gives: a double for a real
template, and an array where the template is one of the same kind. -/
def isOwnConstant (template constant : Value) : Bool :=
  match template, constant with
  | array a, array b => a.residence = b.residence && a.type = b.type
  | objects _ _, objects _ _ => true
  | array _, _ => false
  | objects _ _, _ => false
  | complex _, _ => false
  | dual _, _ => false
  | scalar (.complex _) _, _ => false
  | _, real _ => true
  | _, _ => false

end Value

end AdaptiveStep
