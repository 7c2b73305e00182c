import AdaptiveStep.Failure
import AdaptiveStep.Decimal.Reading

/-!
# Conversions of values

How a value becomes a double, how it is iterated, and how long it is.
-/

namespace AdaptiveStep

namespace Value

def integerToNumber (n : Int) : Except Failure Number :=
  match Number.ofInt? n with
  | some x => .ok x
  | none => .error .integerTooLarge

def rationalToNumber (q : Rat) : Except Failure Number :=
  match Number.ofRat q with
  | .infinity _ => .error .rationalTooLarge
  | x => .ok x

/-- The double that the only item of an array without axes converts to. A complex item has none. -/
def itemToNumber (a : NumericArray) (z : ComplexNumber) : Except Failure Number :=
  match a.type, a.residence with
  | .complex _, .host => .error (.notANumber "complex")
  | .complex _, .device => .error (.onDevice .wrongKind)
  | _, _ => .ok (FloatType.float64.convert z.re)

/-- The double that a value other than an object array converts to. Text is read as a number, and
only the real part of a complex scalar counts. -/
def elementToNumber : Value → Except Failure Number
  | real x => .ok x
  | integer n => integerToNumber n
  | boolean b => .ok (.finite (if b then 1 else 0))
  | rational q => rationalToNumber q
  | scalar _ z => .ok (FloatType.float64.convert z.re)
  | array a =>
    match a.shape, a.items with
    | [], [z] => itemToNumber a z
    | _, _ => .error (if a.residence = .host then .arrayWithAxes else .onDevice .wrongKind)
  | text s =>
    match Number.read? s with
    | some x => .ok x
    | none => .error (.unreadableNumber s)
  | v => .error (.notANumber v.kind)

def toNumber : Value → Except Failure Number
  | objects [] [v] => elementToNumber v
  | objects _ _ => .error .arrayWithAxes
  | v => elementToNumber v

/-- The elements of a value in order: the items of a list, the characters of a text, and the parts
of an array along its first axis. -/
def elements : Value → Except Failure (List Value)
  | list items => .ok items
  | tuple items => .ok items
  | text s => .ok (s.toList.map fun c => text (String.ofList [c]))
  | array a =>
    match a.rows? with
    | some rows => .ok (rows.map NumericArray.toValue)
    | none => .error (if a.residence = .host then .noAxisToIterate else .onDevice .wrongKind)
  | objects shape items =>
    match shape with
    | [] => .error .noAxisToIterate
    | [_] => .ok items
    | n :: rest => .ok ((NumericArray.pieces rest items n).map (objects rest))
  | v => .error (.notIterable v.kind)

def numbers (v : Value) : Except Failure (List Number) := do
  (← v.elements).mapM toNumber

def size : Value → Except Failure Nat
  | list items => .ok items.length
  | tuple items => .ok items.length
  | text s => .ok s.length
  | array a =>
    match a.shape with
    | n :: _ => .ok n
    | [] => .error (if a.residence = .host then .noAxis else .onDevice .wrongKind)
  | objects shape _ =>
    match shape with
    | n :: _ => .ok n
    | [] => .error .noAxis
  | v => .error (.noLength v.kind)

def isSequence : Value → Bool
  | list _ => true
  | tuple _ => true
  | array a => !a.shape.isEmpty
  | objects shape _ => !shape.isEmpty
  | _ => false

end Value

end AdaptiveStep
