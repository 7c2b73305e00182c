import AdaptiveStep.StepProposal
import AdaptiveStep.Value.Text

/-!
# Records of settings

The named settings that callers pass around, with their defaults and their text.
-/

namespace AdaptiveStep

def recordText (name : String) (fields : List (String × String)) : String :=
  name ++ "(" ++ ", ".intercalate (fields.map fun f => f.1 ++ "=" ++ f.2) ++ ")"

inductive RecordKind where
  | scalarTolerance
  | vectorTolerance
  | stepControl
  deriving DecidableEq

namespace RecordKind

def name : RecordKind → String
  | scalarTolerance => "ScalarTolerance"
  | vectorTolerance => "VectorTolerance"
  | stepControl => "StepControlConfig"

def all : List RecordKind := [scalarTolerance, vectorTolerance, stepControl]

/-- The fields in order, with the values they have when nothing else is given. -/
def fields : RecordKind → List (String × Option Value)
  | stepControl =>
    let c := ScaleFactors.standard double
    [("safety_factor", some (.real c.safety)), ("min_scale_factor", some (.real c.least)),
      ("max_scale_factor", some (.real c.greatest))]
  | _ => [("absolute", none), ("relative", none)]

/-- The fields of a record made of the given values in order. Later fields take their defaults. -/
def fill : List (String × Option Value) → List Value → Option (List (String × Value))
  | [], [] => some []
  | [], _ :: _ => none
  | (name, _) :: fields, v :: vs => (fill fields vs).map ((name, v) :: ·)
  | (name, some v) :: fields, [] => (fill fields []).map ((name, v) :: ·)
  | (_, none) :: _, [] => none

def text (kind : RecordKind) (fields : List (String × Value)) : String :=
  recordText kind.name (fields.map fun f => (f.1, f.2.display))

end RecordKind

end AdaptiveStep
