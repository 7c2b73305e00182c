import AdaptiveStep.Value.Conversion

/-!
# Notes

What the controller reports while it works. A note whose text cannot show its data is dropped:
`Note.text` is then `none`.
-/

namespace AdaptiveStep

inductive Note where
  /-- A step below the minimal step was replaced by the minimal step. -/
  | belowMinimum (step bound : Value)
  /-- An initial step outside the bounds was not stored. -/
  | initialStepIgnored (step : Value) (least greatest : Number)
  | initialStepEstimated (step order : Value) (start : Number)
  | budgetExhausted (budget : Int) (time : Value)

namespace Value

def general? : Value → Option String
  | text _ => none
  | v => v.toNumber.toOption.map Number.general

def wholePart? : Value → Option Int
  | integer n => some n
  | boolean b => some (if b then 1 else 0)
  | rational q => some (q.num.tdiv q.den)
  | v =>
    match v with
    | text _ => none
    | v =>
      match v.toNumber with
      | .ok (.finite q) => some (q.num.tdiv q.den)
      | .ok .negativeZero => some 0
      | _ => none

end Value

def Note.text : Note → Option String
  | belowMinimum step bound => do
    return "Step " ++ step.print ++ " below minimal step " ++ (← bound.general?) ++
      ", using minimal step"
  | initialStepIgnored step least greatest => do
    return "Ignoring initial step " ++ (← step.general?) ++ " outside [" ++ least.general ++ ", " ++
      greatest.general ++ "], it will be estimated"
  | initialStepEstimated step order start => do
    return "Estimated initial step " ++ (← step.general?) ++ " for order " ++
      toString (← order.wholePart?) ++ " at t0=" ++ start.general
  | budgetExhausted budget time =>
    some ("Evaluation budget of " ++ toString budget ++ " exhausted at t=" ++ time.print)

end AdaptiveStep
