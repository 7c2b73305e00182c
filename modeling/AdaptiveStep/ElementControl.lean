import AdaptiveStep.ErrorControl
import AdaptiveStep.StepProposal
import AdaptiveStep.Value.RealVector
import AdaptiveStep.Value.Reciprocal

/-!
# Error control of elements

The rules of `AdaptiveStep.ErrorControl` and `AdaptiveStep.StepProposal` for vectors of elements of
any kind. Everything is converted to the configured float type first, and the results are arrays of
that type on the device. Tolerances with more than one axis, and settings of the step update that
are arrays themselves, follow the device's rules for arrays that meet.
-/

namespace AdaptiveStep

def Precision.deviceArray (p : Precision) (shape : List Nat) (xs : List Number) : NumericArray :=
  ⟨.device, .real p.type, false, shape, xs.map .ofReal⟩

def Precision.arithmetic (p : Precision) : Arithmetic Number :=
  p.type.arithmetic

def Precision.sums (p : Precision) : Arithmetic Number :=
  p.type.accumulator.arithmetic

structure Grid where
  shape : List Nat
  numbers : List Number

namespace Grid

def zipWith (f : Number → Number → Number) (x y : Grid) : Except Failure Grid :=
  match broadcastWith f x.shape x.numbers y.shape y.numbers with
  | some (shape, zs) => .ok ⟨shape, zs⟩
  | none => .error (NumericArray.deviceMismatch x.shape y.shape)

/-- Fails unless the first axis, if there is one, has the expected length. -/
def requireSize (expected : Nat) (x : Grid) : Except Failure Unit :=
  match x.shape with
  | [] => .ok ()
  | actual :: _ => AdaptiveStep.requireSize expected actual

/-- The tolerance that a grid without further axes stands for: a number, or one per component. -/
def tolerance? (x : Grid) : Option (Tolerance Number) :=
  match x.shape, x.numbers with
  | [], [t] => some (.uniform t)
  | [_], ts => some (.perComponent ts)
  | _, _ => none

def thresholds (A : Arithmetic Number) (old new : List Number) (absolute relative : Grid) :
    Except Failure Grid := do
  let n := old.length
  AdaptiveStep.requireSize n new.length
  absolute.requireSize n
  relative.requireSize n
  let sizes := List.zipWith (fun x y => A.maxNaN (A.abs x) (A.abs y)) old new
  absolute.zipWith A.add (← relative.zipWith A.mul ⟨[n], sizes⟩)

end Grid

namespace Value

/-- Numbers that the device converts to the configured type. -/
def grid (p : Precision) (v : Value) : Except Failure Grid := do
  let (shape, xs) ← v.deviceReals p
  return ⟨shape, xs⟩

/-- The allowed error of every component between two states. -/
def thresholds (p : Precision) (old new absolute relative : Value) : Except Failure Grid := do
  let old ← old.realVector p
  let new ← new.realVector p
  let absolute ← absolute.grid p
  let relative ← relative.grid p
  match absolute.tolerance?, relative.tolerance? with
  | some a, some r => do
    let allowed ← AdaptiveStep.thresholds p.arithmetic old new a r
    return ⟨[allowed.length], allowed⟩
  | _, _ => Grid.thresholds p.arithmetic old new absolute relative

/-- The error of a step between two states in units of the allowed error. -/
def errorNorm (p : Precision) (errors old new absolute relative : Value) :
    Except Failure Number := do
  let allowed ← thresholds p old new absolute relative
  let errors ← errors.realVector p
  match allowed.shape with
  | [_] => scaledError p.arithmetic p.sums allowed.numbers errors
  | shape =>
    requireSize (shape.headD 0) errors.length
    let quotients ← Grid.zipWith p.arithmetic.div ⟨[errors.length], errors⟩ allowed
    return rootMeanSquare p.arithmetic p.sums quotients.numbers

/-- The exponent of the update formula, one over the order plus one. -/
def stepExponent (wideMode : Bool) (order : Value) : Except Failure Value := do
  (← order.combine wideMode .add (.real (.finite 1))).reciprocal wideMode

/-- A plain real number, which the device takes in its default float type before it rounds it to the
configured one. -/
def setting? (p : Precision) (v : Value) : Option Number :=
  match v.plain? with
  | some (.complex _) => none
  | some x =>
    match x.onDevice p.wideMode with
    | some (.ok a) => (a.cast (.real p.type)).items.head?.map (·.re)
    | _ => none
  | none => none

end Value

namespace NumericArray

/-- An operation on the items of two device arrays in their common type. -/
def onDeviceWith (f : Arithmetic Number → Number → Number → Number) (a b : NumericArray) :
    Except Failure NumericArray :=
  let (a, b) := a.meetOnDevice b
  a.zipItems (fun z w => .ofReal (f a.type.part.arithmetic z.re w.re)) b

/-- The items of one array where the condition holds, those of another elsewhere. -/
def select (condition : NumericArray) (holds : Number → Bool) (a b : NumericArray) :
    Except Failure NumericArray :=
  let (a, b) := a.meetOnDevice b
  let pairs := broadcastWith Prod.mk a.shape a.items b.shape b.items
  match pairs.bind fun (shape, items) =>
      broadcastWith (fun (z : ComplexNumber) (p : ComplexNumber × ComplexNumber) =>
        if holds z.re then p.1 else p.2) condition.shape condition.items shape items with
  | some (shape, items) => .ok { a with shape, items }
  | none => .error (.onDevice .invalidValue)

def isComplex (a : NumericArray) : Bool :=
  match a.type with
  | .complex _ => true
  | _ => false

end NumericArray

namespace Value

def settingArray (p : Precision) (v : Value) : Except Failure NumericArray :=
  match v.deviceOperand? p.wideMode with
  | some a => a
  | none => .error (.onDevice .wrongKind)

/-- The factor that takes the place of the power of the error, which may not be missing. -/
def greatestSetting (p : Precision) (v : Value) : Except Failure NumericArray :=
  match v with
  | absent => .error (.onDevice .invalidValue)
  | v => v.settingArray p

/-- The next steps when settings or the exponent are arrays: every operation takes place in the
common type of its operands. A missing least factor bounds nothing. -/
def proposeOnDevice (p : Precision) (c : ScaleFactors Value) (exponent : Value)
    (errors steps : NumericArray) : Except Failure NumericArray := do
  let inverse ← { steps with shape := [], items := [.ofReal (Number.ofRat 1)] : NumericArray
    }.onDeviceWith Arithmetic.div errors
  let power ← inverse.onDeviceWith Arithmetic.pow (← exponent.settingArray p)
  let greatest ← c.greatest.greatestSetting p
  let raw ← errors.select (Extended.finite 0).lt power greatest
  let factor ←
    match c.safety.deviceOperand? p.wideMode with
    | some safety => (← safety).onDeviceWith Arithmetic.mul raw
    | none =>
      match ← c.safety.combine p.wideMode .mul (.array raw) with
      | array a => pure a
      | _ => throw (.onDevice .wrongKind)
  if factor.isComplex then throw (.onDevice .invalidValue)
  let factor ←
    match c.least with
    | absent => pure factor
    | least => factor.onDeviceWith Arithmetic.maxNaN (← least.settingArray p)
  if factor.isComplex then throw (.onDevice .invalidValue)
  let factor ← factor.onDeviceWith Arithmetic.minNaN greatest
  steps.onDeviceWith Arithmetic.mul factor

/-- The next steps for errors and steps that are numbers or arrays of numbers. -/
def proposeStep (p : Precision) (c : ScaleFactors Value) (error h order : Value) :
    Except Failure NumericArray := do
  let errors ← error.grid p
  let steps ← h.grid p
  let exponent ← order.stepExponent p.wideMode
  match exponent.setting? p, c.safety.setting? p, c.least.setting? p, c.greatest.setting? p with
  | some exponent, some safety, some least, some greatest => do
    let factors : ScaleFactors Number := ⟨safety, least, greatest⟩
    let next ← Grid.zipWith (AdaptiveStep.proposeStep p.arithmetic factors exponent) errors steps
    return p.deviceArray next.shape next.numbers
  | _, _, _, _ =>
    proposeOnDevice p c exponent (p.deviceArray errors.shape errors.numbers)
      (p.deviceArray steps.shape steps.numbers)

end Value

end AdaptiveStep
