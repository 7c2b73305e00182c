import AdaptiveStep.Value.Broadcast
import AdaptiveStep.Value.Items
import AdaptiveStep.Value.Operation

/-!
# Operands of arrays

What the two sides of an operation bring along when at least one of them is an array. On the host a
plain number takes its item type from the array that it meets, arrays meet in a common item type,
and numbers of other kinds meet the items one by one. On the device plain numbers become weak
arrays.
-/

namespace AdaptiveStep

/-- The item type of a host array after it met a plain number. -/
def PlainNumber.meet (t : ItemType) : PlainNumber → ItemType
  | integer _ => t
  | rational _ => t
  | real _ =>
    match t with
    | .integer _ => .real .float64
    | t => t
  | complex _ =>
    match t with
    | .integer _ => .complex true
    | .real t => .complex (t = .float64)
    | t => t

/-- One side of an operation on the host: a plain number, an array of numbers, texts, or elements of
any kind. In a weak array of numbers there are truth values only. -/
inductive HostOperand where
  | plain (p : PlainNumber)
  | numbers (a : NumericArray)
  | texts
  | elements (shape : List Nat) (items : List Value)

namespace HostOperand

def leafType? : Value → Option ItemType
  | .real _ => some (.real .float64)
  | .integer n => if ItemType.holds true n then some (.integer true) else none
  | .complex _ => some (.complex true)
  | .scalar t _ => some t
  | .array a => some a.type
  | _ => none

def isText : Value → Bool
  | .text _ => true
  | _ => false

def isBoolean : Value → Bool
  | .boolean _ => true
  | _ => false

/-- Lists hold numbers of a common item type, truth values, texts, or elements of any kind. -/
def ofSpread (s : Spread) : Except Failure HostOperand := do
  if !s.isEven then throw (.ragged s.shape)
  let numeric (v : Value) : Bool := isBoolean v || (leafType? v).isSome
  if s.leaves.all numeric then
    match s.leaves.filterMap leafType? with
    | [] =>
      let t : ItemType := if s.leaves.isEmpty then .real .float64 else .integer false
      return numbers ⟨.host, t, !s.leaves.isEmpty, s.shape, ← s.leaves.mapM t.itemOf⟩
    | t :: ts =>
      let t := ts.foldl ItemType.joinHost t
      return numbers ⟨.host, t, false, s.shape, ← s.leaves.mapM t.itemOf⟩
  else if s.leaves.all fun v => numeric v || isText v then return texts
  else return elements s.shape s.leaves

def ofValue (v : Value) : Except Failure HostOperand :=
  match v with
  | .array a => .ok (numbers a)
  | .scalar t z => .ok (numbers (.single t z))
  | .objects shape items => .ok (elements shape items)
  | .text _ => .ok texts
  | .list _ => ofSpread v.spread
  | .tuple _ => ofSpread v.spread
  | .rational _ => .ok (elements [] [v])
  | v =>
    match v.plain? with
    | some p => .ok (plain p)
    | none => .ok (elements [] [v])

/-- The operand as elements of any kind; `v` is the value that it comes from. -/
def toElements (v : Value) : HostOperand → List Nat × List Value
  | plain _ => ([], [v])
  | numbers a => (a.shape, a.items.map a.type.element)
  | texts => (v.spread.shape, v.spread.leaves)
  | elements shape items => (shape, items)

def className : HostOperand → String
  | plain _ => "Float64DType"
  | numbers a =>
    if a.weak then "BoolDType"
    else match a.type with
      | .integer wide => if wide then "Int64DType" else "Int32DType"
      | .real .float16 => "Float16DType"
      | .real .float32 => "Float32DType"
      | .real _ => "Float64DType"
      | .complex wide => if wide then "Complex128DType" else "Complex64DType"
  | texts => "StrDType"
  | elements _ _ => "ObjectDType"

/-- Two operands met: as arrays of one item type, or as elements in their shapes. -/
inductive Meeting where
  | numeric (a b : NumericArray)
  | elementwise (shape₁ : List Nat) (xs : List Value) (shape₂ : List Nat) (ys : List Value)

/-- Brings the values on both sides of an operation together. -/
def meet (operation : String) (v w : Value) : Except Failure Meeting := do
  match ← ofValue v, ← ofValue w with
  | numbers a, numbers b =>
    let t := if a.weak then b.type else if b.weak then a.type else a.type.joinHost b.type
    return .numeric (a.cast t) (b.cast t)
  | numbers a, plain p =>
    let t := p.meet a.type
    return .numeric (a.cast t) (.single t (← t.itemOf w))
  | plain p, numbers b =>
    let t := p.meet b.type
    return .numeric (.single t (← t.itemOf v)) (b.cast t)
  | left, right =>
    match left, right with
    | elements _ _, _ => return both left right
    | _, elements _ _ => return both left right
    | _, _ => throw (.noItemOperation operation left.className right.className)
where
  both (left right : HostOperand) : Meeting :=
    let (shape₁, xs) := left.toElements v
    let (shape₂, ys) := right.toElements w
    .elementwise shape₁ xs shape₂ ys

end HostOperand

/-- A plain number on the device, as a weak array. -/
def PlainNumber.onDevice (wideMode : Bool) (p : PlainNumber) :
    Option (Except Failure NumericArray) :=
  let weak (t : ItemType) (source : ItemType) (z : ComplexNumber) : NumericArray :=
    ⟨.device, t, true, [], [source.cast t z]⟩
  match p with
  | integer n =>
    some (if ItemType.holds wideMode n then
        .ok (weak (.integer wideMode) (.integer true) (.ofInt n))
      else .error (.onDevice .overflow))
  | rational _ => none
  | real x =>
    let t : ItemType := .real (if wideMode then .float64 else .float32)
    some (.ok (weak t (.real .float64) (.ofReal x)))
  | complex z => some (.ok (weak (.complex wideMode) (.complex true) z))

/-- A value as one side of an operation on the device, if it can be one. -/
def Value.deviceOperand? (wideMode : Bool) : Value → Option (Except Failure NumericArray)
  | array a => some (.ok (a.onDevice wideMode))
  | scalar t z => some (.ok ((NumericArray.single t z).onDevice wideMode))
  | v => v.plain?.bind (·.onDevice wideMode)

namespace NumericArray

/-- The item type in which two device arrays meet, and whether it is weak. -/
def deviceType (a b : NumericArray) : ItemType × Bool :=
  match a.weak, b.weak with
  | true, false => a.type.yield b.type
  | false, true => b.type.yield a.type
  | weak, _ => (a.type.joinDevice b.type, weak)

def meetOnDevice (a b : NumericArray) : NumericArray × NumericArray :=
  let (t, weak) := a.deviceType b
  ({ a.cast t with weak }, { b.cast t with weak })

/-- Why two shapes do not meet on the device: arrays with as many axes are of the wrong kind, others
have an invalid value. -/
def deviceMismatch (shape₁ shape₂ : List Nat) : Failure :=
  .onDevice (if shape₁.length = shape₂.length then .wrongKind else .invalidValue)

def zipItems (f : ComplexNumber → ComplexNumber → ComplexNumber) (a b : NumericArray) :
    Except Failure NumericArray :=
  match broadcastWith f a.shape a.items b.shape b.items with
  | some (shape, items) => .ok { a with shape, items }
  | none =>
    .error (if a.residence = .host then .shapesDiffer a.shape b.shape
      else deviceMismatch a.shape b.shape)

end NumericArray

end AdaptiveStep
