import AdaptiveStep.Value.Arithmetic

/-!
# Comparison of values

Plain real numbers are compared exactly, and NaN with nothing. Array items are compared in the type
in which they meet the other side, complex ones by their real parts first. Arrays of elements
compare element by element. A comparison has to have a single answer.
-/

namespace AdaptiveStep

inductive Relation where
  | below
  | above
  | atMost
  | atLeast
  deriving DecidableEq

namespace Relation

def symbol : Relation → String
  | below => "<"
  | above => ">"
  | atMost => "<="
  | atLeast => ">="

def name : Relation → String
  | below => "less"
  | above => "greater"
  | atMost => "less_equal"
  | atLeast => "greater_equal"

/-- The relation seen from the other side. -/
def swapped : Relation → Relation
  | below => above
  | above => below
  | atMost => atLeast
  | atLeast => atMost

/-- Whether two numbers are related, which NaN never is. -/
def number (r : Relation) (x y : Number) : Bool :=
  match r with
  | below => x.lt y
  | above => y.lt x
  | atMost => double.le x y
  | atLeast => double.le y x

/-- Whether one number is strictly on the side of the relation. -/
def strictly (r : Relation) (x y : Number) : Bool :=
  match r with
  | below => x.lt y
  | above => y.lt x
  | atMost => x.lt y
  | atLeast => y.lt x

/-- Complex numbers compare by their real parts, and by the imaginary ones if those are equal. -/
def complex (r : Relation) (z w : ComplexNumber) : Bool :=
  (r.strictly z.re w.re && !z.im.isNaN && !w.im.isNaN) ||
    (double.le z.re w.re && double.le w.re z.re && r.number z.im w.im)

def item (t : ItemType) (r : Relation) (z w : ComplexNumber) : Bool :=
  match t with
  | .complex _ => r.complex z w
  | _ => r.number z.re w.re

end Relation

namespace Value

/-- The real number that a plain value is. -/
def realNumber? : Value → Option Number
  | real x => some x
  | integer n => some (.finite n)
  | boolean b => some (.finite (if b then 1 else 0))
  | rational q => some (.finite q)
  | _ => none

def soleAnswer : List Bool → Except Failure Bool
  | [] => .error .emptyTruth
  | [b] => .ok b
  | _ => .error .ambiguousTruth

def comparePlain (r : Relation) (v w : Value) : Except Failure Bool :=
  match v.realNumber?, w.realNumber?, v, w with
  | some x, some y, _, _ => .ok (r.number x y)
  | _, _, _, _ => .error (.notOrdered r.symbol v.kind w.kind)

def compareOnDevice (wideMode : Bool) (r : Relation) (v w : Value) : Except Failure Bool :=
  match v.deviceOperand? wideMode, w.deviceOperand? wideMode with
  | some a, some b => do
    let (a, b) := (← a).meetOnDevice (← b)
    match broadcastWith (r.item a.type) a.shape a.items b.shape b.items with
    | some (_, answers) => (soleAnswer answers).mapError fun e => .onDevice e.family
    | none => throw (NumericArray.deviceMismatch a.shape b.shape)
  | _, _ =>
    if v.isObjects || w.isObjects || v.isList || w.isList then .error (.onDevice .wrongKind)
    else .error (.notOrdered r.symbol v.kind w.kind)

/-- The integers on both sides, if all items are integers. They compare exactly, whatever their
width. -/
def integers? (v : Value) : Option (List Nat × List Number) :=
  match v with
  | integer n => some ([], [.finite n])
  | boolean b => some ([], [.finite (if b then 1 else 0)])
  | scalar (.integer _) z => some ([], [z.re])
  | array a =>
    match a.type with
    | .integer _ => some (a.shape, a.items.map (·.re))
    | _ => none
  | _ => none

def compareOnHost (itemRelation : Relation → Value → Value → Except Failure Bool) (r : Relation)
    (v w : Value) : Except Failure Bool := do
  match v.integers?, w.integers? with
  | some (shape₁, xs), some (shape₂, ys) =>
    answer shape₁ shape₂ (broadcastWith r.number shape₁ xs shape₂ ys)
  | _, _ =>
    match ← HostOperand.meet r.name v w with
    | .numeric a b =>
      answer a.shape b.shape (broadcastWith (r.item a.type) a.shape a.items b.shape b.items)
    | .elementwise shape₁ xs shape₂ ys =>
      match broadcastWith (itemRelation r) shape₁ xs shape₂ ys with
      | some (_, answers) => soleAnswer (← answers.mapM id)
      | none => throw (.shapesDiffer shape₁ shape₂)
where
  answer (shape₁ shape₂ : List Nat) (result : Option (List Nat × List Bool)) :
      Except Failure Bool :=
    match result with
    | some (_, answers) => soleAnswer answers
    | none => .error (.shapesDiffer shape₁ shape₂)

/-- Whether two values are related; `itemRelation` is the relation of the elements of arrays. A
plain value on the left of an array is compared from the array's side. -/
def compareWith (itemRelation : Relation → Value → Value → Except Failure Bool) (wideMode : Bool)
    (r : Relation) (v w : Value) : Except Failure Bool :=
  match v.side, w.side with
  | .device, _ => compareOnDevice wideMode r v w
  | _, .device => compareOnDevice wideMode r v w
  | .plain, .plain => comparePlain r v w
  | .plain, _ => compareOnHost itemRelation r.swapped w v
  | _, _ => compareOnHost itemRelation r v w

/-- Whether two values are related. The elements of an array may be array items again. -/
def compare (wideMode : Bool) (r : Relation) (v w : Value) : Except Failure Bool :=
  compareWith (compareWith comparePlain wideMode) wideMode r v w

end Value

end AdaptiveStep
