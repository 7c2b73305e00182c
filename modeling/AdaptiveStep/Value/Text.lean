import AdaptiveStep.Value.ArrayText
import AdaptiveStep.Decimal.Characters

/-!
# Written values

`Value.print` is a value as messages show it, `Value.display` as it shows inside a record or a
container, and `Value.format` as it shows in the middle of a sentence. `Value.scientific?` writes
numbers in scientific notation, and `Value.kind` names the kind of a value in error messages.
-/

namespace AdaptiveStep

def withSign (s : String) : String :=
  if s.startsWith "-" then s else "+" ++ s

/-- The two parts with the imaginary unit, only the imaginary one if the real one is the positive
zero. -/
def ComplexNumber.partTexts (t : FloatType) (z : ComplexNumber) : String :=
  let im := Number.textAs t (.part t) z.im ++ "j"
  if z.re = .finite 0 then im else Number.textAs t (.part t) z.re ++ withSign im

/-- A complex number by itself, in parentheses if it shows both parts. -/
def ComplexNumber.textAs (t : FloatType) (z : ComplexNumber) : String :=
  if z.re = .finite 0 then z.partTexts t else "(" ++ z.partTexts t ++ ")"

def ComplexNumber.scientific (z : ComplexNumber) : String :=
  z.re.scientific ++ withSign z.im.scientific ++ "j"

def Dual.text (d : Dual) : String :=
  "Dual(" ++ d.value.text ++ ", " ++ d.derivative.text ++ ")"

def Rational.text (q : Rat) : String :=
  if q.den = 1 then toString q.num else toString q.num ++ "/" ++ toString q.den

namespace ItemType

def text (t : ItemType) (z : ComplexNumber) : String :=
  match t with
  | integer _ => toString (integerOf z.re)
  | real t => z.re.itemText t
  | complex _ => z.textAs t.part

def display (t : ItemType) (z : ComplexNumber) : String :=
  let text :=
    match t with
    | complex _ => z.partTexts t.part
    | t => t.text z
  "np." ++ t.name ++ "(" ++ text ++ ")"

/-- An array item as the plain number that it equals. -/
def plainText (t : ItemType) (z : ComplexNumber) : String :=
  match t with
  | integer _ => toString (integerOf z.re)
  | real _ => z.re.text
  | complex _ => z.textAs .float64

/-- Whether items show their type without its name. -/
def isShown : ItemType → Bool
  | integer wide => wide
  | real t => t = .float64
  | complex wide => wide

def scientific (t : ItemType) (z : ComplexNumber) : String :=
  match t with
  | complex _ => z.scientific
  | _ => z.re.scientific

end ItemType

namespace NumericArray

def print (a : NumericArray) : String :=
  match a.shape, a.items with
  | [], [z] => a.type.text z
  | shape, items => arrayText " " "" 0 shape (a.type.columns items)

/-- The items in rows and columns, with the names of the kind and of the item type. -/
def display (a : NumericArray) : String :=
  match a.residence with
  | .host => hostText a.type.name a.type.isShown a.shape (a.type.columns a.items)
  | .device => deviceText a.type.name a.weak a.shape (a.type.columns a.items)

end NumericArray

namespace Value

/-- The name of a value's kind in error messages. -/
def kind : Value → String
  | real _ => "float"
  | integer _ => "int"
  | boolean _ => "bool"
  | rational _ => "Fraction"
  | complex _ => "complex"
  | dual _ => "Dual"
  | scalar t _ => "numpy." ++ t.name
  | array a => match a.residence with
    | .host => "numpy.ndarray"
    | .device => "jaxlib._jax.ArrayImpl"
  | objects _ _ => "numpy.ndarray"
  | text _ => "str"
  | list _ => "list"
  | tuple _ => "tuple"
  | absent => "NoneType"

/-- An element of an array. A list in an array is marked as one. -/
def markList (v : Value) (display : String) : String :=
  match v with
  | list _ => "list(" ++ display ++ ")"
  | _ => display

mutual

def display : Value → String
  | real x => x.text
  | integer n => toString n
  | boolean b => if b then "True" else "False"
  | rational q => "Fraction(" ++ toString q.num ++ ", " ++ toString q.den ++ ")"
  | complex z => z.textAs .float64
  | dual d => d.text
  | scalar t z => t.display z
  | array a => a.display
  | objects shape items =>
    hostText "object" false shape (List.zipWith markList items (displayAll items))
  | text s => quoted s
  | list items => "[" ++ ", ".intercalate (displayAll items) ++ "]"
  | tuple items =>
    match displayAll items with
    | [s] => "(" ++ s ++ ",)"
    | ss => "(" ++ ", ".intercalate ss ++ ")"
  | absent => "None"

def displayAll : List Value → List String
  | [] => []
  | v :: vs => display v :: displayAll vs

end

def printElement : Value → String
  | rational q => Rational.text q
  | scalar t z => t.text z
  | array a => a.print
  | text s => s
  | v => v.display

def print : Value → String
  | objects [] [v] => v.printElement
  | objects shape items => arrayText " " "" 0 shape (List.zipWith markList items (displayAll items))
  | v => v.printElement

/-- A value within a sentence, where an array item shows as a plain number. -/
def format : Value → String
  | scalar t z => t.plainText z
  | array a =>
    match a.shape, a.items with
    | [], [z] => a.type.plainText z
    | _, _ => a.print
  | objects [] [scalar t z] => t.plainText z
  | v => v.print

/-- A number in scientific notation, which arrays with axes and numbers of other kinds do not
have. -/
def elementScientific? : Value → Option String
  | real x => some x.scientific
  | integer n => (Number.ofInt? n).map Number.scientific
  | boolean b => some (Number.ofRat (if b then 1 else 0)).scientific
  | complex z => some z.scientific
  | scalar t z => some (t.scientific z)
  | array a =>
    match a.shape, a.items with
    | [], [z] => some (a.type.scientific z)
    | _, _ => none
  | _ => none

def scientific? : Value → Option String
  | objects [] [v] => v.elementScientific?
  | v => v.elementScientific?

end Value

end AdaptiveStep
