import AdaptiveStep.Value.Basic
import AdaptiveStep.Decimal.Layout

/-!
# Arrays as text

The items of an array are written in columns of one width and then arranged in rows, one pair of
brackets for every axis. `ItemType.columns` gives the texts of the items, `arrangeRows` arranges
texts in a shape, and `hostText` and `deviceText` name the kind of the array and its item type.
-/

namespace AdaptiveStep

def padFront (width : Nat) (s : String) : String :=
  String.ofList (List.replicate (width - s.length) ' ') ++ s

def dropTrailingSpaces (s : String) : String :=
  String.ofList (s.toList.reverse.dropWhile (· = ' ')).reverse

def greatestLength (ns : List Nat) : Nat :=
  ns.foldl max 0

/-- How a column of floats is laid out: the characters before the decimal point, with room for a
sign, the digits after it, and in scientific notation the digits of the exponents. -/
structure FloatColumn where
  type : FloatType
  showsPlus : Bool
  scientific : Bool
  before : Nat
  fraction : Nat
  power : Nat

namespace FloatColumn

/-- The most digits after a decimal point. Longer fractions are rounded. -/
def fractionLimit : Nat := 8

/-- The magnitude from which a column is written in scientific notation. -/
def limit : FloatType → Rat
  | .float16 => 1000
  | .float32 => 1000000
  | _ => 100000000

/-- Whether magnitudes other than zero ask for scientific notation: a large or a small one, or two
of unlike size. -/
def isScientific (t : FloatType) (sizes : List Number) : Bool :=
  match sizes with
  | [] => false
  | s :: ss =>
    let greatest := ss.foldl double.max s
    let least := ss.foldl double.min s
    !greatest.lt (.finite (limit t)) || least.lt (t.convert (Number.ofRat (1 / 10000))) ||
      (Extended.finite 1000).lt (t.arithmetic.div greatest least)

/-- The digits of a finite number before and after the decimal point. -/
def places (t : FloatType) (x : Number) : List Char × List Char :=
  match x.abs with
  | .finite q =>
    let digits (d : Decimal) := Decimal.split d.trimmed d.leadingExponent
    if q = 0 then (['0'], [])
    else
      let (whole, fraction) := digits (Decimal.shortest t q)
      if fraction.length ≤ fractionLimit then (whole, fraction)
      else digits (Decimal.atPlaces fractionLimit q)
  | _ => ([], [])

/-- The leading digit of a finite number, the digits after it, and its exponent. -/
def mantissa (t : FloatType) (x : Number) : List Char × List Char × Int :=
  match x.abs with
  | .finite q =>
    let digits (d : Decimal) := (d.trimmed.take 1, d.trimmed.drop 1, d.leadingExponent)
    if q = 0 then (['0'], [], 0)
    else
      let d := Decimal.shortest t q
      if d.trimmed.length ≤ fractionLimit + 1 then digits d
      else digits (Decimal.significant (fractionLimit + 1) q)
  | _ => ([], [], 0)

def sign (showsPlus : Bool) (x : Number) : String :=
  if x.isNegative then "-" else if showsPlus then "+" else ""

/-- The digits of an exponent, two at least. -/
def powerDigits (e : Int) : List Char :=
  let ds := Nat.toDigits 10 e.natAbs
  List.replicate (2 - ds.length) '0' ++ ds

def isFinite (x : Number) : Bool :=
  !x.isNaN && !x.isInfinite

def after (c : FloatColumn) : Nat :=
  if c.scientific then c.power + 2 + c.fraction else c.fraction

/-- The column made wide enough for the numbers that are not finite. -/
def widened (c : FloatColumn) (xs : List Number) : FloatColumn :=
  if xs.all isFinite then c
  else
    let signWidth := if c.showsPlus || xs.contains (.infinity true) then 1 else 0
    { c with before := max c.before (3 + signWidth - (c.after + 1)) }

def ofNumbers (t : FloatType) (showsPlus : Bool) (xs : List Number) : FloatColumn :=
  let finite := xs.filter isFinite
  let wholeWidth (x : Number) (ds : List Char) := (sign showsPlus x).length + ds.length
  if isScientific t ((finite.filter (!·.isZero)).map Extended.abs) then
    let parts := finite.map fun x => (x, mantissa t x)
    widened ⟨t, showsPlus, true, greatestLength (parts.map fun p => wholeWidth p.1 p.2.1),
      greatestLength (parts.map fun p => p.2.2.1.length),
      greatestLength (parts.map fun p => (powerDigits p.2.2.2).length)⟩ xs
  else
    let parts := finite.map fun x => (x, places t x)
    widened ⟨t, showsPlus, false, greatestLength (parts.map fun p => wholeWidth p.1 p.2.1),
      greatestLength (parts.map fun p => p.2.2.length), 0⟩ xs

def write (c : FloatColumn) (x : Number) : String :=
  let front := sign c.showsPlus x
  let fill (width : Nat) (filler : Char) (ds : List Char) :=
    String.ofList (ds ++ List.replicate (width - ds.length) filler)
  if x.isNaN then padFront (c.before + c.after + 1) (front ++ "nan")
  else if x.isInfinite then padFront (c.before + c.after + 1) (front ++ "inf")
  else if c.scientific then
    let (whole, fraction, e) := mantissa c.type x
    let power := powerDigits e
    padFront c.before (front ++ String.ofList whole) ++ "." ++ fill c.fraction '0' fraction ++
      (if e < 0 then "e-" else "e+") ++
      String.ofList (List.replicate (c.power - power.length) '0' ++ power)
  else
    let (whole, fraction) := places c.type x
    padFront c.before (front ++ String.ofList whole) ++ "." ++ fill c.fraction ' ' fraction

def texts (t : FloatType) (showsPlus : Bool) (xs : List Number) : List String :=
  xs.map (ofNumbers t showsPlus xs).write

end FloatColumn

/-- The texts of an array's items. The imaginary unit stands before the spaces that fill up a
column. -/
def ItemType.columns (t : ItemType) (items : List ComplexNumber) : List String :=
  match t with
  | integer _ =>
    let texts := items.map fun z => toString (integerOf z.re)
    texts.map (padFront (greatestLength (texts.map String.length)))
  | real .bfloat16 => items.map fun z => z.re.general
  | real t => FloatColumn.texts t false (items.map (·.re))
  | complex wide =>
    let t := (complex wide).part
    let withUnit (s : String) : String :=
      let digits := dropTrailingSpaces s
      digits ++ "j" ++ String.ofList (List.replicate (s.length - digits.length) ' ')
    List.zipWith (fun re im => re ++ withUnit im) (FloatColumn.texts t false (items.map (·.re)))
      (FloatColumn.texts t true (items.map (·.im)))

/-- Another word on a line, or on a new line if it would pass the width. The text holds the lines
before it. -/
def extendLine (width : Nat) (indent : String) (text line word : String) : String × String :=
  if width < line.length + word.length && indent.length < line.length then
    (text ++ dropTrailingSpaces line ++ "\n", indent ++ word)
  else (text, line ++ word)

/-- Words in lines of a width, the first of which is already begun. -/
def fillLines (separator : String) (width : Nat) (indent : String) :
    List String → String → String → String
  | [], text, line => text ++ line
  | [word], text, line =>
    let (text, line) := extendLine width indent text line word
    text ++ line
  | word :: words, text, line =>
    let (text, line) := extendLine width indent text line word
    fillLines separator width indent words text (line ++ separator)

/-- Words in a shape. Every axis has its brackets; the parts along the last axis share lines, those
along the axes before it begin new ones. -/
def arrangeRows (separator : String) : List Nat → List String → String → Nat → String
  | [], words, _, _ => words.headD ""
  | [_], words, indent, width =>
    let row := fillLines separator (width - 1) indent words "" indent
    "[" ++ String.ofList (row.toList.drop indent.length) ++ "]"
  | n :: shape, words, indent, width =>
    let parts := (NumericArray.pieces shape words n).map fun part =>
      arrangeRows separator shape part (indent ++ " ") (width - 1)
    let lineBreak := String.ofList (List.replicate shape.length '\n')
    "[" ++ (dropTrailingSpaces separator ++ lineBreak ++ indent).intercalate parts ++ "]"

def lineWidth : Nat := 75

/-- The items of an array in its shape, between a text in front and one behind it. -/
def arrayText (separator front : String) (behind : Nat) (shape : List Nat)
    (words : List String) : String :=
  if words.isEmpty then "[]"
  else
    let indent := String.ofList (List.replicate (front.length + 1) ' ')
    arrangeRows separator shape words indent (lineWidth - behind)

def lastLineLength (s : String) : Nat :=
  (s.toList.reverse.takeWhile (· != '\n')).length

def tupleText (ns : List Nat) : String :=
  match ns with
  | [n] => "(" ++ toString n ++ ",)"
  | ns => "(" ++ ", ".intercalate (ns.map toString) ++ ")"

/-- A host array with the name of its kind. The item type is named unless the items show it, and
so is the shape of an empty array unless it has a single axis. -/
def hostText (typeName : String) (isShown : Bool) (shape : List Nat) (words : List String) :
    String :=
  let front := "array("
  let body := front ++ arrayText ", " front 1 shape words
  let shapes := if words.isEmpty && shape != [0] then ["shape=" ++ tupleText shape] else []
  let types := if isShown && !words.isEmpty then [] else ["dtype=" ++ typeName]
  match shapes ++ types with
  | [] => body ++ ")"
  | notes =>
    let behind := ", ".intercalate notes ++ ")"
    let gap :=
      if lineWidth < lastLineLength body + 1 + behind.length + 1 then
        "\n" ++ String.ofList (List.replicate front.length ' ')
      else " "
    body ++ "," ++ gap ++ behind

/-- A device array with the name of its kind and of its item type. -/
def deviceText (typeName : String) (isWeak : Bool) (shape : List Nat) (words : List String) :
    String :=
  let front := "Array("
  let body :=
    if words.isEmpty then "[], shape=" ++ tupleText shape else arrayText ", " front 1 shape words
  let behind := "dtype=" ++ typeName ++ (if isWeak then ", weak_type=True)" else ")")
  let room := lastLineLength body + 2
  let gap := if lineWidth < room + behind.length + 1 then front.length else 1
  front ++ body ++ "," ++ String.ofList (List.replicate gap ' ') ++ behind

end AdaptiveStep
