import AdaptiveStep.Value.ItemType

/-!
# Values

The elements a differential equation may be integrated over, and the vectors made of them. The
controller takes whatever elements the caller supplies, so elements and vectors are one type.
-/

namespace AdaptiveStep

/-- A number with its derivative with respect to one parameter. -/
structure Dual where
  value : Number
  derivative : Number
  deriving DecidableEq, Inhabited

/-- An array of numbers, its items in row-major order. A `weak` device array has its item type from
plain numbers, and gives it up beside an array that has one of its own. -/
structure NumericArray where
  residence : Residence
  type : ItemType
  weak : Bool
  shape : List Nat
  items : List ComplexNumber
  deriving DecidableEq, Inhabited

/-- An element or a vector of elements. `scalar` is a number taken out of a host array, which keeps
the array's item type; `objects` is a host array of arbitrary elements. -/
inductive Value where
  | real (x : Number)
  | integer (n : Int)
  | boolean (b : Bool)
  | rational (q : Rat)
  | complex (z : ComplexNumber)
  | dual (d : Dual)
  | scalar (type : ItemType) (z : ComplexNumber)
  | array (a : NumericArray)
  | objects (shape : List Nat) (items : List Value)
  | text (s : String)
  | list (items : List Value)
  | tuple (items : List Value)
  | absent
  deriving Inhabited

namespace Value

/-- Whether a value is an element with a magnitude and a real projection of its own. -/
def isFieldElement : Value → Bool
  | dual _ => true
  | _ => false

def isNumericArray : Value → Bool
  | array _ => true
  | _ => false

/-- An array without axes is the element it holds. -/
def ofElements (shape : List Nat) (items : List Value) : Value :=
  match shape, items with
  | [], [v] => v
  | shape, items => objects shape items

def ofNumbers (xs : List Number) : Value :=
  .list (xs.map .real)

end Value

def ItemType.element (t : ItemType) (z : ComplexNumber) : Value :=
  match t with
  | integer _ => .integer (integerOf z.re)
  | real _ => .real z.re
  | complex _ => .complex z

namespace NumericArray

def deviceVector (t : FloatType) (xs : List Number) : NumericArray :=
  ⟨.device, .real t, false, [xs.length], xs.map .ofReal⟩

def single (t : ItemType) (z : ComplexNumber) : NumericArray :=
  ⟨.host, t, false, [], [z]⟩

/-- An array without axes on the host is the scalar it holds. -/
def toValue (a : NumericArray) : Value :=
  match a.residence, a.shape, a.items with
  | .host, [], [z] => .scalar a.type z
  | _, _, _ => .array a

def cast (t : ItemType) (a : NumericArray) : NumericArray :=
  { a with type := t, items := a.items.map (a.type.cast t) }

def onDevice (wideMode : Bool) (a : NumericArray) : NumericArray :=
  { a.cast (a.type.narrowed wideMode) with residence := .device }

def leaves (a : NumericArray) : List Value :=
  a.items.map fun z => { a with shape := [], items := [z] : NumericArray }.toValue

def itemCount (shape : List Nat) : Nat :=
  shape.foldr (· * ·) 1

/-- The given number of consecutive pieces, each with the items of one shape. -/
def pieces {α : Type} (shape : List Nat) (xs : List α) : Nat → List (List α)
  | 0 => []
  | count + 1 => xs.take (itemCount shape) :: pieces shape (xs.drop (itemCount shape)) count

/-- The parts of an array along its first axis, none if it has no axis. -/
def rows? (a : NumericArray) : Option (List NumericArray) :=
  match a.shape with
  | [] => none
  | n :: shape =>
    some ((pieces shape a.items n).map fun items => { a with shape, items })

end NumericArray

end AdaptiveStep
