import AdaptiveStep.Decimal.Digits

/-!
# Written numbers

The layouts in which numbers are written: in full (`Number.text`), as a part of a complex number,
with six significant digits (`Number.general`), and in scientific notation with two decimals
(`Number.scientific`).
-/

namespace AdaptiveStep

/-- How the digits of a number are laid out: the magnitudes written positionally, and whether a
whole number keeps its decimal point. -/
structure NumberStyle where
  least : Rat
  limit : Rat
  wholePoint : Bool

/-- The magnitude from which the numbers of a type are written in scientific notation. -/
def FloatType.positionalLimit : FloatType → Rat
  | float16 => 1000
  | float32 => 1000000
  | _ => 10000000000000000

/-- Positional from `0.0001` to below the limit of the type, always with a decimal point. -/
def NumberStyle.full (t : FloatType) : NumberStyle := ⟨1 / 10000, t.positionalLimit, true⟩

/-- As `full`, but a whole number has no decimal point. -/
def NumberStyle.part (t : FloatType) : NumberStyle := ⟨1 / 10000, t.positionalLimit, false⟩

/-- Positional from `0.0001` to below a million, without trailing zeros. -/
def NumberStyle.six : NumberStyle := ⟨1 / 10000, 1000000, false⟩

namespace Decimal

def trimmed (d : Decimal) : List Char :=
  match (d.digits.reverse.dropWhile (· = '0')).reverse with
  | [] => ['0']
  | ds => ds

/-- The digits before and after the decimal point, filled up with zeros. -/
def split (digits : List Char) (leading : Int) : List Char × List Char :=
  if leading < 0 then (['0'], List.replicate (-leading - 1).toNat '0' ++ digits)
  else
    let whole := leading.toNat + 1
    (digits.take whole ++ List.replicate (whole - digits.length) '0', digits.drop whole)

def positional (digits : List Char) (leading : Int) (wholePoint : Bool) : String :=
  let (whole, fraction) := split digits leading
  if fraction.isEmpty then String.ofList whole ++ (if wholePoint then ".0" else "")
  else String.ofList whole ++ "." ++ String.ofList fraction

/-- One digit before the point, and an exponent of at least two digits with its sign. -/
def exponential (digits : List Char) (leading : Int) : String :=
  let mantissa :=
    match digits with
    | [] => "0"
    | [c] => String.ofList [c]
    | c :: cs => String.ofList (c :: '.' :: cs)
  let power := toString leading.natAbs
  mantissa ++ "e" ++ (if leading < 0 then "-" else "+") ++
    (if power.length < 2 then "0" ++ power else power)

/-- A decimal laid out; `size` is the magnitude that decides between the two notations. -/
def layout (style : NumberStyle) (size : Rat) (d : Decimal) : String :=
  if style.least ≤ size && size < style.limit then
    positional d.trimmed d.leadingExponent style.wholePoint
  else exponential d.trimmed d.leadingExponent

end Decimal

namespace Number

def signed (x : Number) (zero : String) (magnitude : Rat → String) : String :=
  match x with
  | .nan => "nan"
  | .infinity negative => if negative then "-inf" else "inf"
  | .negativeZero => "-" ++ zero
  | .finite q =>
    if q = 0 then zero else if q < 0 then "-" ++ magnitude (-q) else magnitude q

/-- The fewest digits that read back as the number of the type. -/
def textAs (t : FloatType) (style : NumberStyle) (x : Number) : String :=
  x.signed (if style.wholePoint then "0.0" else "0") fun q =>
    (Decimal.shortest t q).layout style q

def text (x : Number) : String :=
  Number.textAs .float64 (.full .float64) x

/-- At most six significant digits. -/
def general (x : Number) : String :=
  x.signed "0" fun q =>
    let d := Decimal.significant 6 q
    d.layout .six d.toRat

/-- Three significant digits in scientific notation. -/
def scientific (x : Number) : String :=
  x.signed "0.00e+00" fun q =>
    let d := Decimal.significant 3 q
    Decimal.exponential d.digits d.leadingExponent

/-- The text of a number of a type. The brain float is written with six significant digits. -/
def itemText (t : FloatType) (x : Number) : String :=
  match t with
  | .bfloat16 => x.general
  | t => x.textAs t (.full t)

end Number

end AdaptiveStep
