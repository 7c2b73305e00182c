import AdaptiveStep.Value.Operands

/-!
# Arithmetic of values

Addition, subtraction, multiplication and negation over all kinds of elements. An array on the
device takes whatever it meets there, a host array decides among host values, a dual number lifts
what it meets, and values without arrays meet as they are.
-/

namespace AdaptiveStep

namespace Value

/-- The dual number with the derivative zero, unless the value is dual itself. -/
def toDual : Value → Except Failure Dual
  | dual d => .ok d
  | v => v.toNumber.map fun x => ⟨x, .finite 0⟩

def combineDual (op : Operation) (v w : Value) : Except Failure Value := do
  return .dual (op.dual (← v.toDual) (← w.toDual))

/-- Whether a value is repeated by a product and continued by a sum. -/
def isContainer : Value → Bool
  | text _ => true
  | list _ => true
  | tuple _ => true
  | _ => false

def refusal (op : Operation) (v w : Value) : Failure :=
  match op with
  | .mul =>
    if v.isContainer then .notRepeatable w.kind
    else if w.isContainer then .notRepeatable v.kind
    else .unsupportedOperands op.symbol v.kind w.kind
  | .add =>
    if v.isContainer then .notJoinable v.kind w.kind
    else .unsupportedOperands op.symbol v.kind w.kind
  | .sub => .unsupportedOperands op.symbol v.kind w.kind

def count? : Value → Option Int
  | integer n => some n
  | boolean b => some (if b then 1 else 0)
  | scalar (.integer _) z => some (ItemType.integerOf z.re)
  | array a =>
    match a.residence, a.type, a.shape, a.items with
    | .device, .integer _, [], [z] => some (ItemType.integerOf z.re)
    | _, _, _, _ => none
  | _ => none

/-- A text or list repeated, not at all if the count is negative. -/
def repeated (count : Int) : Value → Value
  | text s => text (String.join (List.replicate count.toNat s))
  | list items => list (List.replicate count.toNat items).flatten
  | tuple items => tuple (List.replicate count.toNat items).flatten
  | v => v

def repetition? (v w : Value) : Option Value :=
  if v.isContainer then w.count?.map v.repeated
  else if w.isContainer then v.count?.map w.repeated
  else none

def continuation? : Value → Value → Option Value
  | text s, text t => some (text (s ++ t))
  | list xs, list ys => some (list (xs ++ ys))
  | tuple xs, tuple ys => some (tuple (xs ++ ys))
  | _, _ => none

/-- A sum, difference or product of two texts or lists, or of one with another value. -/
def combineContainers (op : Operation) (v w : Value) : Except Failure Value :=
  let result :=
    match op with
    | .add => continuation? v w
    | .sub => none
    | .mul => repetition? v w
  match result with
  | some r => .ok r
  | none => .error (refusal op v w)

/-- A sum, difference or product of values that are no arrays. -/
def combinePlain (op : Operation) (v w : Value) : Except Failure Value :=
  match v, w with
  | dual _, _ => combineDual op v w
  | _, dual _ => combineDual op v w
  | _, _ =>
    match v.plain?, w.plain? with
    | some p, some q => p.combine op q
    | _, _ => combineContainers op v w

def isObjects : Value → Bool
  | objects _ _ => true
  | _ => false

def isList : Value → Bool
  | list _ => true
  | tuple _ => true
  | _ => false

/-- A sum, difference or product with an array on the device, where neither lists nor arrays of
elements are taken. -/
def combineOnDevice (wideMode : Bool) (op : Operation) (v w : Value) : Except Failure Value :=
  match v.deviceOperand? wideMode, w.deviceOperand? wideMode with
  | some a, some b => do
    let (a, b) := (← a).meetOnDevice (← b)
    return .array (← a.zipItems (op.item a.type) b)
  | _, _ =>
    if v.isObjects || w.isObjects || v.isList || w.isList then .error (.onDevice .wrongKind)
    else
      match op with
      | .add => .error (refusal op v w)
      | .sub => .error (refusal op v w)
      | .mul =>
        if v.isContainer || w.isContainer then
          match repetition? v w with
          | some r => .ok r
          | none => .error (.onDevice .wrongKind)
        else .error (refusal op v w)

def combineOnHost (itemOp : Value → Value → Except Failure Value) (op : Operation) (v w : Value) :
    Except Failure Value := do
  match ← HostOperand.meet op.name v w with
  | .numeric a b => return (← a.zipItems (op.item a.type) b).toValue
  | .elementwise shape₁ xs shape₂ ys =>
    match broadcastWith itemOp shape₁ xs shape₂ ys with
    | some (shape, items) => return ofElements shape (← items.mapM id)
    | none => throw (.shapesDiffer shape₁ shape₂)

/-- A sum, difference or product with a number out of a host array. A plain complex number takes a
double for a plain one, and so does a rational number; texts and lists take no number that is not an
integer. -/
def combineScalar (itemOp : Value → Value → Except Failure Value) (op : Operation) (v w : Value) :
    Except Failure Value :=
  match v, w with
  | complex _, scalar (.real .float64) z => combinePlain op v (real z.re)
  | rational q, scalar (.real .float64) _ => do
    combineOnHost itemOp op (real (← rationalToNumber q)) w
  | rational q, scalar (.complex true) _ => do
    combineOnHost itemOp op (real (← rationalToNumber q)) w
  | _, _ =>
    match op, v with
    | .mul, _ =>
      if v.isContainer || w.isContainer then combineContainers op v w
      else combineOnHost itemOp op v w
    | .add, text _ => combineContainers op v w
    | _, _ => combineOnHost itemOp op v w

/-- What decides how two values meet. -/
inductive Side where
  | device
  | array
  | scalar
  | plain
  deriving DecidableEq

def side : Value → Side
  | array a => if a.residence = .device then .device else .array
  | objects _ _ => .array
  | scalar _ _ => .scalar
  | _ => .plain

/-- A sum, difference or product; `itemOp` is the operation on the elements of arrays. -/
def combineWith (itemOp : Value → Value → Except Failure Value) (wideMode : Bool) (op : Operation)
    (v w : Value) : Except Failure Value :=
  match v, w with
  | dual _, _ => combineDual op v w
  | _, _ =>
    match v.side, w.side, w with
    | .device, _, dual _ => combineDual op v w
    | .device, _, _ => combineOnDevice wideMode op v w
    | _, .device, _ => combineOnDevice wideMode op v w
    | .array, _, _ => combineOnHost itemOp op v w
    | _, .array, _ => combineOnHost itemOp op v w
    | .plain, .plain, _ => combinePlain op v w
    | _, _, _ => combineScalar itemOp op v w

/-- A sum, difference or product. The elements of an array may be array items again. -/
def combine (wideMode : Bool) (op : Operation) (v w : Value) : Except Failure Value :=
  combineWith (combineWith (combinePlain op) wideMode op) wideMode op v w

/-- The opposite of a value that is not an array of elements. -/
def negElement : Value → Except Failure Value
  | real x => .ok (.real x.neg)
  | integer n => .ok (.integer (-n))
  | boolean b => .ok (.integer (if b then -1 else 0))
  | rational q => .ok (.rational (-q))
  | complex z => .ok (.complex z.neg)
  | dual d => .ok (.dual d.neg)
  | scalar t z => .ok (.scalar t (t.negItem z))
  | array a => .ok { a with items := a.items.map a.type.negItem : NumericArray }.toValue
  | v => .error (.noNegative v.kind)

def neg : Value → Except Failure Value
  | objects shape items => do return ofElements shape (← items.mapM negElement)
  | v => v.negElement

end Value

end AdaptiveStep
