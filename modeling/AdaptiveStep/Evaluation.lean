import AdaptiveStep.Note

/-!
# Evaluations of the dynamics

The dynamics of a differential equation are an action: they may fail, and they may act on a state
of their own. `counted` lets them run as long as a budget of evaluations lasts. An evaluation is
counted before the dynamics run, so one that fails is counted too, while one that is refused is not
and leaves the dynamics untouched.
-/

namespace AdaptiveStep

/-- A computation on a state that may fail. A failure keeps the state that was reached. -/
abbrev Action (σ : Type) := ExceptT Failure (StateM σ)

def Action.outcome {σ α : Type} (p : Action σ α) (s : σ) : Except Failure α × σ :=
  p.run.run s

/-- A right-hand side: the derivative at a time and a state. -/
abbrev Dynamics (σ τ ε : Type) := τ → ε → Action σ ε

structure EvaluationCounter where
  limit : Nat
  count : Nat
  deriving DecidableEq

namespace EvaluationCounter

/-- The limit that stands for no limit. -/
def unlimited : Nat := Nat.pow 2 63 - 1

/-- A counter with the given limit, which may not be negative. -/
def ofLimit : Option Int → Except Failure EvaluationCounter
  | none => .ok ⟨unlimited, 0⟩
  | some n => if n < 0 then .error (.negativeBudget n) else .ok ⟨n.toNat, 0⟩

def isExhausted (c : EvaluationCounter) : Bool :=
  c.limit ≤ c.count

def increment (c : EvaluationCounter) : EvaluationCounter :=
  { c with count := c.count + 1 }

def reset (c : EvaluationCounter) : EvaluationCounter :=
  { c with count := 0 }

def text (c : EvaluationCounter) : String :=
  "EvaluationCounter(count=" ++ toString c.count ++ ", max_evaluations=" ++
    (if c.limit = unlimited then "unlimited" else toString c.limit) ++ ")"

end EvaluationCounter

/-- What counted dynamics act on: the counter, what was reported, and the state of the dynamics. -/
structure Counted (σ : Type) where
  counter : EvaluationCounter
  notes : List Note
  world : σ

namespace Counted

variable {σ : Type}

def start (c : EvaluationCounter) (world : σ) : Counted σ := ⟨c, [], world⟩

def refuse (s : Counted σ) (time : Value) : Counted σ :=
  { s with notes := s.notes ++ [.budgetExhausted s.counter.limit time] }

end Counted

variable {σ τ ε : Type}

/-- Dynamics that count their evaluations and refuse to run beyond the limit. `shown` is the time as
reports show it. -/
def counted (shown : τ → Value) (f : Dynamics σ τ ε) : Dynamics (Counted σ) τ ε := fun t y =>
  ExceptT.mk fun s =>
    if s.counter.isExhausted then
      (.error (.budgetExhausted (.integer s.counter.limit)), s.refuse (shown t))
    else
      let (result, world) := (f t y).outcome s.world
      (result, { s with counter := s.counter.increment, world })

/-- Dynamics that remember what they were evaluated at. -/
def recorded (f : τ → ε → Except Failure ε) : Dynamics (List (τ × ε)) τ ε := fun t y =>
  ExceptT.mk fun calls => (f t y, calls ++ [(t, y)])

end AdaptiveStep
