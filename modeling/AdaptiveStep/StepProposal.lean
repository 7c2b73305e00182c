import AdaptiveStep.Number.Arithmetic

/-!
# The next step

After a step with error `e` and length `h`, the next one is `h` times
`safety * (1 / e) ^ (1 / (order + 1))`, where the factor is kept between two bounds. A step without
error takes the greatest factor.
-/

namespace AdaptiveStep

/-- The factors of the update formula: the safety factor and the bounds of the change. -/
structure ScaleFactors (α : Type) where
  safety : α
  least : α
  greatest : α

namespace ScaleFactors

/-- Nine tenths, between a fifth and ten. -/
def standard {α : Type} (A : Arithmetic α) : ScaleFactors α :=
  ⟨A.ofRat (9 / 10), A.ofRat (1 / 5), A.ofRat 10⟩

def map {α β : Type} (f : α → β) (c : ScaleFactors α) : ScaleFactors β :=
  ⟨f c.safety, f c.least, f c.greatest⟩

end ScaleFactors

variable {α : Type}

/-- The factor by which a step changes. An error that is not positive, NaN included, takes the
greatest factor. -/
def stepFactor (A : Arithmetic α) (c : ScaleFactors α) (exponent error : α) : α :=
  let raw :=
    if A.lt (A.ofRat 0) error then A.pow (A.div (A.ofRat 1) error) exponent else c.greatest
  A.minNaN (A.maxNaN (A.mul c.safety raw) c.least) c.greatest

/-- The next step, whose bounds and direction are not yet those of the integration. -/
def proposeStep (A : Arithmetic α) (c : ScaleFactors α) (exponent error h : α) : α :=
  A.mul h (stepFactor A c exponent error)

end AdaptiveStep
