import AdaptiveStep.Note
import AdaptiveStep.Value.Projection

/-!
# Filtered steps

A signed step is bounded in magnitude. The rule is written over a `StepField`, the operations it
needs of the elements that steps are made of, and is used with elements of every kind as well as
with plain numbers.
-/

namespace AdaptiveStep

/-- What the filter needs of steps `ε` and of bounds `ν`. `isNegative` and `isPositive` look at the
real part. -/
structure StepField (ε ν : Type) where
  magnitude : ε → Except Failure ε
  isNegative : ε → Except Failure Bool
  isPositive : ε → Except Failure Bool
  addBound : ε → ν → Except Failure ε
  subBound : ε → ν → Except Failure ε
  constantLike : ε → ν → Except Failure ε
  negBound : ν → Except Failure ν
  tooSmall : ε → ν → Except Failure Failure

/-- Where a filtered step comes from: the proposed step, a bound, or the opposite of a bound. -/
inductive StepSource where
  | proposal
  | least
  | greatest
  | opposite
  deriving DecidableEq

structure FilteredStep (ε : Type) where
  step : ε
  source : StepSource
  deriving DecidableEq

namespace StepField

variable {ε ν : Type}

def isBelow (F : StepField ε ν) (h : ε) (least : ν) : Except Failure Bool := do
  F.isNegative (← F.subBound (← F.magnitude h) least)

/-- The minimal step in the direction of the integration. -/
def minimal (F : StepField ε ν) (h : ε) (forward : Bool) (least : ν) :
    Except Failure (FilteredStep ε) := do
  if forward then return ⟨← F.constantLike h least, .least⟩
  else return ⟨← F.constantLike h (← F.negBound least), .opposite⟩

/-- A step cut to the maximal step under its own sign. -/
def clamp (F : StepField ε ν) (h : ε) (filtered : FilteredStep ε) (greatest : ν) :
    Except Failure (FilteredStep ε) := do
  if ← F.isPositive (← F.subBound filtered.step greatest) then
    return ⟨← F.constantLike h greatest, .greatest⟩
  else if ← F.isNegative (← F.addBound filtered.step greatest) then
    return ⟨← F.constantLike h (← F.negBound greatest), .opposite⟩
  else return filtered

/-- A step below the minimal step is raised to it, or refused if small steps are not accepted; then
a step above the maximal step is cut to it. -/
def filterStep (F : StepField ε ν) (h : ε) (forward acceptSmall : Bool) (least greatest : ν) :
    Except Failure (FilteredStep ε) := do
  if ← F.isBelow h least then
    if acceptSmall then F.clamp h (← F.minimal h forward least) greatest
    else throw (← F.tooSmall h least)
  else F.clamp h ⟨h, .proposal⟩ greatest

end StepField

/-- The steps that are plain numbers; `tooSmall` names the failure of a step below the bound. -/
def Arithmetic.stepField {α : Type} (A : Arithmetic α) (tooSmall : α → α → Failure) :
    StepField α α where
  magnitude h := .ok (A.abs h)
  isNegative x := .ok (A.lt x (A.ofRat 0))
  isPositive x := .ok (A.lt (A.ofRat 0) x)
  addBound x bound := .ok (A.add x bound)
  subBound x bound := .ok (A.sub x bound)
  constantLike _ bound := .ok bound
  negBound bound := .ok (A.neg bound)
  tooSmall h bound := .ok (tooSmall (A.abs h) bound)

/-- Steps that are doubles. -/
def doubleSteps : StepField Number Number :=
  double.stepField fun h bound => .minimalStep (.real h) (.real bound)

namespace Value

/-- Why a value has no scientific notation. -/
def noScientificText : Value → Failure
  | integer _ => .integerTooLarge
  | text _ => .textScientific
  | array a => if a.residence = .device then .onDevice .wrongKind else .noScientific (array a).kind
  | objects [] [v] => noScientificElement v
  | v => .noScientific v.kind
where
  noScientificElement : Value → Failure
    | text _ => .textScientific
    | integer _ => .integerTooLarge
    | v => .noScientific v.kind

/-- The failure of a step below the minimal step. Both are reported in scientific notation, and
where there is none that is the failure instead. -/
def belowMinimum (step bound : Value) : Except Failure Failure :=
  match bound.scientific?, step.scientific? with
  | some _, some _ => .ok (.minimalStep step bound)
  | some _, none => .error step.noScientificText
  | none, _ => .error bound.noScientificText

/-- Steps that are elements of any kind. -/
def stepField (wideMode : Bool) : StepField Value Value where
  magnitude := magnitude
  isNegative v := do return (← v.realPart wideMode).lt (.finite 0)
  isPositive v := do return (Extended.finite 0).lt (← v.realPart wideMode)
  addBound := combine wideMode .add
  subBound := combine wideMode .sub
  constantLike := constantLike wideMode
  negBound := neg
  tooSmall h bound := do belowMinimum (.real (← h.realPart wideMode).abs) bound

def filterStep (wideMode : Bool) (h : Value) (forward acceptSmall : Bool) (least greatest : Value) :
    Except Failure (FilteredStep Value) :=
  (stepField wideMode).filterStep h forward acceptSmall least greatest

/-- What the filter reports: a step that is raised to the minimal step. -/
def filterNotes (wideMode : Bool) (h : Value) (acceptSmall : Bool) (least : Value) : List Note :=
  match (stepField wideMode).isBelow h least with
  | .ok true => if acceptSmall then [.belowMinimum h least] else []
  | _ => []

end Value

/-- One application in a row of filterings: what it gives, what it reports, and whether the result
is the very step that came in. -/
structure Filtering where
  result : Except Failure Value
  notes : List Note
  unchanged : Bool

namespace Filtering

/-- The filter applied to its own result again and again. A step that fails stays as it was. The
maximal step that comes in again and is cut again is the very step that came in. -/
def repeated (wideMode forward acceptSmall : Bool) (least greatest : Value) :
    Nat → FilteredStep Value → List Filtering
  | 0, _ => []
  | n + 1, h =>
    let notes := Value.filterNotes wideMode h.step acceptSmall least
    match Value.filterStep wideMode h.step forward acceptSmall least greatest with
    | .error e =>
      ⟨.error e, notes, false⟩ :: repeated wideMode forward acceptSmall least greatest n h
    | .ok r =>
      let unchanged := r.source = .proposal || (r.source = .greatest && h.source = .greatest &&
        h.step.isOwnConstant greatest)
      let next := if r.source = .proposal then h else r
      ⟨.ok r.step, notes, unchanged⟩ ::
        repeated wideMode forward acceptSmall least greatest n next

end Filtering

end AdaptiveStep
