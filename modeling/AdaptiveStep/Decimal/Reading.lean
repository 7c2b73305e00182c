import AdaptiveStep.Number.FloatType
import AdaptiveStep.Decimal.Characters

/-!
# Reading numbers

`Number.read?` reads a text as a double. Blanks may surround it, one underscore may stand between
two digits, and the words `inf`, `infinity` and `nan` are numbers in any case. `Number.scan?` reads
the number at the front of a text, and `Number.readInteger?` a whole text as an integer.
-/

namespace AdaptiveStep

namespace Number

/-- The text without surrounding blanks, every decimal digit as its ASCII one. -/
def plainDigits (s : String) : List Char :=
  let inner := (s.toList.dropWhile isBlank).reverse.dropWhile isBlank
  inner.reverse.map fun c =>
    match digitValue? c with
    | some d => Nat.digitChar d
    | none => c

/-- The text without its underscores, if each stands between two digits. -/
def withoutSeparators (cs : List Char) : Option (List Char) :=
  go false cs
where
  go (afterDigit : Bool) : List Char → Option (List Char)
    | [] => some []
    | '_' :: d :: rest => if afterDigit && d.isDigit then go false (d :: rest) else none
    | '_' :: [] => none
    | c :: rest => (go c.isDigit rest).map (c :: ·)

def natOfDigits (ds : List Char) : Nat :=
  ds.foldl (fun n c => 10 * n + (c.toNat - '0'.toNat)) 0

/-- The sign in front of a number, negative if there is a minus, and the rest. -/
def splitSign : List Char → Bool × List Char
  | '-' :: rest => (true, rest)
  | '+' :: rest => (false, rest)
  | rest => (false, rest)

/-- The double nearest to `coefficient * 10 ^ exponent`. Exponents far outside the range are decided
without computing the power. -/
def ofDecimal (negative : Bool) (coefficient : Nat) (exponent : Int) : Number :=
  let top := exponent + (Nat.toDigits 10 coefficient).length
  if coefficient = 0 || top < -400 then Extended.zero negative
  else if 400 < top then .infinity negative
  else
    let q := (coefficient : Rat) * 10 ^ exponent
    FloatType.float64.format.nearest (if negative then -q else q)

/-- The exponent at the front of a text: `e` with a sign and at least one digit. Anything else is no
exponent and stays. -/
def scanExponent (cs : List Char) : Int × List Char :=
  match cs with
  | [] => (0, [])
  | c :: rest =>
    let (negative, rest) := splitSign rest
    let ds := rest.takeWhile Char.isDigit
    if (c = 'e' || c = 'E') && !ds.isEmpty then
      let n : Int := natOfDigits ds
      (if negative then -n else n, rest.dropWhile Char.isDigit)
    else (0, cs)

/-- The digits at the front of a text, with an optional point and an optional exponent. -/
def scanUnsigned? (negative : Bool) (cs : List Char) : Option (Number × List Char) :=
  let whole := cs.takeWhile Char.isDigit
  let rest := cs.dropWhile Char.isDigit
  let (fraction, rest) :=
    match rest with
    | '.' :: rest => (rest.takeWhile Char.isDigit, rest.dropWhile Char.isDigit)
    | rest => ([], rest)
  if whole.isEmpty && fraction.isEmpty then none
  else
    let (e, rest) := scanExponent rest
    some (ofDecimal negative (natOfDigits (whole ++ fraction)) (e - fraction.length), rest)

/-- What follows a word at the front of a text, in any case. -/
def dropWord? (word : String) (cs : List Char) : Option (List Char) :=
  if (cs.take word.length).map Char.toLower = word.toList then some (cs.drop word.length) else none

/-- The longest number at the front of a text, and what follows it. -/
def scan? (cs : List Char) : Option (Number × List Char) :=
  let (negative, cs) := splitSign cs
  match dropWord? "nan" cs, dropWord? "infinity" cs, dropWord? "inf" cs with
  | some rest, _, _ => some (.nan, rest)
  | _, some rest, _ => some (.infinity negative, rest)
  | _, _, some rest => some (.infinity negative, rest)
  | none, none, none => scanUnsigned? negative cs

def read? (s : String) : Option Number := do
  match ← scan? (← withoutSeparators (plainDigits s)) with
  | (x, []) => some x
  | _ => none

/-- The integer that a whole text stands for: digits with an optional sign. -/
def readInteger? (s : String) : Option Int := do
  let (negative, ds) := splitSign (← withoutSeparators (plainDigits s))
  if ds.isEmpty || !ds.all Char.isDigit then none
  else if negative then some (-(natOfDigits ds : Int))
  else some (natOfDigits ds)

end Number

end AdaptiveStep
