import AdaptiveStep.Value.Conversion

/-!
# States

The state of a differential equation is a primary block, which error control looks at, and
secondary blocks, which follow it in the complete state and are only carried along. Each block may
have its derivative attached.
-/

namespace AdaptiveStep

/-- A state at a time. The derivative of the primary block is `absent` before the dynamics were
evaluated. -/
structure State where
  time : Value
  primary : Value
  derivative : Value
  secondary : List Value
  secondaryDerivatives : List Value
  deriving Inhabited

namespace Value

def numericArray? : Value → Option NumericArray
  | array a => some a
  | _ => none

end Value

/-- The items of arrays one after the other, as one vector on the device. -/
def NumericArray.joined (wideMode : Bool) (as : List NumericArray) : NumericArray :=
  let as := as.map (·.onDevice wideMode)
  let type := as.foldl (fun t a => t.joinDevice a.type) (.integer false)
  let items := (as.map fun a => (a.cast type).items).flatten
  ⟨.device, type, false, [items.length], items⟩

namespace State

/-- The blocks as one vector. A single block stays as it is, numeric arrays become one array, and
blocks of other kinds a list of all their elements. -/
def joinBlocks (wideMode : Bool) (blocks : List Value) : Except Failure Value :=
  match blocks with
  | [block] => .ok block
  | blocks =>
    match blocks.mapM Value.numericArray? with
    | some as => .ok (.array (.joined wideMode as))
    | none => do return .list (← blocks.mapM Value.elements).flatten

/-- The number of components under error control. -/
def primaryDimension (s : State) : Except Failure Nat :=
  s.primary.size

def completeDimension (s : State) : Except Failure Nat := do
  let sizes ← (s.primary :: s.secondary).mapM Value.size
  return sizes.foldl (· + ·) 0

def completeState (wideMode : Bool) (s : State) : Except Failure Value :=
  joinBlocks wideMode (s.primary :: s.secondary)

/-- The derivative of the primary block followed by those of the secondary blocks. There has to be
one of every block. -/
def completeDerivative (wideMode : Bool) (s : State) : Except Failure Value :=
  match s.derivative with
  | .absent => .error .noDerivative
  | derivative =>
    if s.secondaryDerivatives.length = s.secondary.length then
      joinBlocks wideMode (derivative :: s.secondaryDerivatives)
    else .error (.derivativeCount s.secondary.length s.secondaryDerivatives.length)

end State

end AdaptiveStep
