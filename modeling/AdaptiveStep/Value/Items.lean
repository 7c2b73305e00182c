import AdaptiveStep.Value.Conversion

/-!
# Values as array items

`Value.items` turns a value into items of a given type in a shape: numbers and text item by item,
lists with all that they hold, arrays by their items. `Value.deviceItems` does so on the device.
-/

namespace AdaptiveStep

namespace ComplexNumber

/-- The imaginary unit at the front of a text, and what follows it. -/
def dropUnit? : List Char → Option (List Char)
  | 'j' :: rest => some rest
  | 'J' :: rest => some rest
  | _ => none

/-- A number in front of the imaginary unit, one if there is only a sign. -/
def scanImaginary? (cs : List Char) : Option (Number × List Char) :=
  match Number.scan? cs with
  | some (x, rest) => (dropUnit? rest).map (x, ·)
  | none =>
    let (negative, rest) := Number.splitSign cs
    (dropUnit? rest).map (Number.ofRat (if negative then -1 else 1), ·)

/-- A complex number at the front of a text: a real part, an imaginary part, or both. -/
def scan? (cs : List Char) : Option (ComplexNumber × List Char) :=
  match Number.scan? cs with
  | none => (scanImaginary? cs).map fun (y, rest) => (⟨.finite 0, y⟩, rest)
  | some (x, rest) =>
    match dropUnit? rest with
    | some rest => some (⟨.finite 0, x⟩, rest)
    | none =>
      match rest with
      | '+' :: _ => (scanImaginary? rest).map fun (y, rest) => (⟨x, y⟩, rest)
      | '-' :: _ => (scanImaginary? rest).map fun (y, rest) => (⟨x, y⟩, rest)
      | rest => some (⟨x, .finite 0⟩, rest)

/-- The complex number that a whole text stands for, which may be in parentheses. -/
def read? (s : String) : Option ComplexNumber := do
  let cs ← Number.withoutSeparators (Number.plainDigits s)
  match cs with
  | '(' :: cs =>
    let (z, rest) ← scan? (cs.dropWhile isBlank)
    if rest.dropWhile isBlank = [')'] then some z else none
  | cs =>
    match ← scan? cs with
    | (z, []) => some z
    | _ => none

end ComplexNumber

namespace ItemType

def itemOfInteger (wide : Bool) (n : Int) : Except Failure ComplexNumber :=
  if holds wide n then .ok (.ofInt n)
  else if holds true n then .error (.outOfBounds n (integer wide).name)
  else .error .wordTooSmall

/-- A value as an item of an integer type: the part of a number before the decimal point. -/
def integerItem (wide : Bool) (v : Value) : Except Failure ComplexNumber :=
  match v with
  | .integer n => itemOfInteger wide n
  | .boolean b => itemOfInteger wide (if b then 1 else 0)
  | .rational q => itemOfInteger wide (q.num.tdiv q.den)
  | .real x =>
    match x with
    | .nan => .error .wholeNaN
    | .infinity _ => .error .wholeInfinity
    | .negativeZero => itemOfInteger wide 0
    | .finite q => itemOfInteger wide (q.num.tdiv q.den)
  | .text s =>
    match Number.readInteger? s with
    | some n => itemOfInteger wide n
    | none => .error (.unreadableInteger s)
  | v => .error (.notAnInteger v.kind)

/-- A value as an item of a float type. A missing value is NaN. The brain float takes plain numbers
only. -/
def floatItem (t : FloatType) (v : Value) : Except Failure ComplexNumber :=
  match t, v with
  | .bfloat16, .integer n => do return .ofReal (t.convert (← itemOfInteger true n).re)
  | .bfloat16, .rational _ => .error (.notANumber v.kind)
  | .bfloat16, .text _ => .error (.notANumber v.kind)
  | .bfloat16, .absent => .error (.notANumber v.kind)
  | _, .absent => .ok (.ofReal .nan)
  | t, v => do return .ofReal (t.convert (← v.toNumber))

def complexItem (t : FloatType) (v : Value) : Except Failure ComplexNumber :=
  let convert (z : ComplexNumber) : ComplexNumber := ⟨t.convert z.re, t.convert z.im⟩
  match v with
  | .complex z => .ok (convert z)
  | .absent => .ok ⟨.nan, .nan⟩
  | .text s =>
    match ComplexNumber.read? s with
    | some z => .ok (convert z)
    | none => .error .unreadableComplex
  | v =>
    match v.toNumber with
    | .ok x => .ok (convert (.ofReal x))
    | .error (.notANumber kind) => .error (.notReal kind)
    | .error e => .error e

/-- A value without parts as an item of the type. Array items are cast, those on the device by its
rule. -/
def itemOf (t : ItemType) (v : Value) : Except Failure ComplexNumber :=
  match v with
  | .scalar s z => .ok (s.cast t z)
  | .array a =>
    match a.items with
    | [z] => .ok (a.type.castOnDevice t z)
    | _ => .error (.onDevice .wrongKind)
  | v =>
    match t with
    | integer wide => integerItem wide v
    | real t => floatItem t v
    | complex wide => complexItem (complex wide).part v

end ItemType

/-- The axes that all shapes begin with. -/
def commonAxes : List (List Nat) → List Nat
  | [] => []
  | [shape] => shape
  | shape :: shapes =>
    let rest := commonAxes shapes
    ((shape.zip rest).takeWhile fun p => p.1 = p.2).map (·.1)

/-- What a value holds: the values without parts of their own, in the shape of the lists and arrays
around them. If parts are of unlike shapes, only the axes that they share count. -/
structure Spread where
  shape : List Nat
  leaves : List Value
  isEven : Bool

namespace Spread

def stack (parts : List Spread) : Spread :=
  match parts with
  | [] => ⟨[0], [], true⟩
  | part :: rest =>
    ⟨parts.length :: commonAxes (parts.map (·.shape)), (parts.map (·.leaves)).flatten,
      part.isEven && rest.all fun other => other.isEven && other.shape = part.shape⟩

end Spread

namespace Value

mutual

def spread : Value → Spread
  | list items => .stack (spreadAll items)
  | tuple items => .stack (spreadAll items)
  | array a => ⟨a.shape, a.leaves, true⟩
  | objects shape items => ⟨shape, items, true⟩
  | v => ⟨[], [v], true⟩

def spreadAll : List Value → List Spread
  | [] => []
  | v :: vs => spread v :: spreadAll vs

end

/-- The parts of nested lists at a depth. -/
def partsAt : Nat → Value → List Value
  | n + 1, list items => items.flatMap (partsAt n)
  | n + 1, tuple items => items.flatMap (partsAt n)
  | _, v => [v]

mutual

/-- Whether a value is of a kind or a list that holds one, however deep. -/
def holds (p : Value → Bool) : Value → Bool
  | list items => holdsAny p items
  | tuple items => holdsAny p items
  | v => p v

def holdsAny (p : Value → Bool) : List Value → Bool
  | [] => false
  | v :: vs => holds p v || holdsAny p vs

end

def isAbsent : Value → Bool
  | absent => true
  | _ => false

def isOnDevice : Value → Bool
  | array a => a.residence = .device
  | _ => false

def itemsOf (t : ItemType) (s : Spread) : Except Failure (List Nat × List ComplexNumber) := do
  if s.isEven then return (s.shape, ← s.leaves.mapM t.itemOf) else throw (.ragged s.shape)

def toHost : Value → Value
  | array a =>
    match a.items with
    | [z] => scalar a.type z
    | _ => array a
  | v => v

def items (t : ItemType) (v : Value) : Except Failure (List Nat × List ComplexNumber) :=
  itemsOf t { v.spread with leaves := v.spread.leaves.map toHost }

/-- A value as items of a type on the device, where nothing may be missing and parts that live there
already have to be alike. -/
def deviceItems (t : ItemType) (v : Value) : Except Failure (List Nat × List ComplexNumber) :=
  if v.holds isAbsent then .error (.onDevice .invalidValue)
  else
    match itemsOf t v.spread with
    | .ok r => .ok r
    | .error (.ragged _) =>
      .error (.onDevice (if v.holds isOnDevice then .wrongKind else .invalidValue))
    | .error e => .error (.onDevice e.family)

/-- A value as an array of elements. Lists of unlike parts have these parts for their elements. -/
def elementArray (v : Value) : Value :=
  match v with
  | objects shape items => objects shape items
  | array a => objects a.shape (a.items.map a.type.element)
  | v =>
    let s := v.spread
    objects s.shape (if s.isEven then s.leaves else partsAt s.shape.length v)

end Value

end AdaptiveStep
