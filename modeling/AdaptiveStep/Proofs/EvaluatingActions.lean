import AdaptiveStep.Proofs.Actions

/-!
# Actions that evaluate the dynamics

An action that evaluates dynamics once computes the place, evaluates them there, and computes its
result from what they give. Its outcome is then known from the outcome of the evaluation, and the
dynamics may be counted ones, whose outcome depends on the budget that is left.
-/

namespace AdaptiveStep

variable {σ τ ε α β : Type}

namespace Action

/-- The action leaves the world alone, whose state does not matter to its result. -/
def Computes (p : Action σ α) (x : Except Failure α) : Prop :=
  ∀ s, p.outcome s = (x, s)

lemma computes_lift (x : Except Failure α) : Computes (liftM x : Action σ α) x := fun _ => rfl

lemma computes_pure (a : α) : Computes (pure a : Action σ α) (.ok a) := fun _ => rfl

lemma Computes.bind {p : Action σ α} {x : Except Failure α} {g : α → Action σ β}
    {y : α → Except Failure β} (hp : p.Computes x) (hg : ∀ a, (g a).Computes (y a)) :
    (p >>= g).Computes (x >>= y) := by
  intro s
  rw [outcome_bind, hp]
  cases x with
  | error e => rfl
  | ok a => exact hg a s

/-- The action computes where to evaluate the dynamics, evaluates them there, and computes its result
from what they give. It fails where any of the three does. -/
def EvaluatesOnce (f : Dynamics σ τ ε) (place : Except Failure (τ × ε)) (p : Action σ α) : Prop :=
  ∃ finish : ε → Except Failure α, ∀ s, p.outcome s =
    match place with
    | .error e => (.error e, s)
    | .ok (t, y) => (((f t y).outcome s).1 >>= finish, ((f t y).outcome s).2)

variable {f : Dynamics σ τ ε} {place : Except Failure (τ × ε)} {p : Action σ α}

lemma evaluatesOnce_throw (e : Failure) : EvaluatesOnce f (.error e) (throw e : Action σ α) :=
  ⟨fun _ => .error e, fun _ => rfl⟩

lemma evaluatesOnce_call (t : τ) (y : ε) : EvaluatesOnce f (.ok (t, y)) (f t y) := by
  refine ⟨.ok, fun s => ?_⟩
  dsimp only
  rcases (f t y).outcome s with ⟨_ | v, s'⟩ <;> rfl

/-- What is computed before the evaluation takes part in finding its place. -/
lemma EvaluatesOnce.lift_bind {x : Except Failure α} {g : α → Action σ β}
    {place : α → Except Failure (τ × ε)} (h : ∀ a, EvaluatesOnce f (place a) (g a)) :
    EvaluatesOnce f (x >>= place) (liftM x >>= g) := by
  cases x with
  | error e => exact ⟨fun _ => .error e, fun s => outcome_bind _ _⟩
  | ok a =>
    obtain ⟨finish, hfinish⟩ := h a
    refine ⟨finish, fun s => ?_⟩
    rw [outcome_ok_bind rfl, hfinish]
    rfl

/-- What is computed after the evaluation takes part in the result. -/
lemma EvaluatesOnce.bind {g : α → Action σ β} {y : α → Except Failure β}
    (h : EvaluatesOnce f place p) (hg : ∀ a, (g a).Computes (y a)) :
    EvaluatesOnce f place (p >>= g) := by
  obtain ⟨finish, hfinish⟩ := h
  refine ⟨fun v => finish v >>= y, fun s => ?_⟩
  rw [outcome_bind, hfinish]
  rcases place with _ | ⟨t, u⟩
  · rfl
  · dsimp only
    rcases (f t u).outcome s with ⟨_ | v, s'⟩
    · rfl
    · simp only [bind, Except.bind]
      cases finish v with
      | error e => rfl
      | ok a => exact hg a s'

end Action

/-! ### Counted dynamics -/

/-- The counter and the world after an evaluation that was not refused. -/
def Counted.evaluated (s : Counted σ) (world : σ) : Counted σ :=
  { s with counter := s.counter.increment, world }

lemma EvaluationCounter.isExhausted_iff {c : EvaluationCounter} :
    c.isExhausted = true ↔ c.limit ≤ c.count := by
  simp [isExhausted]

namespace Action

/-- Counted dynamics are refused beyond the limit, and run as they are otherwise. -/
lemma outcome_counted (shown : τ → Value) (f : Dynamics σ τ ε) (t : τ) (y : ε) (s : Counted σ) :
    (counted shown f t y).outcome s =
      if s.counter.limit ≤ s.counter.count then
        (.error (.budgetExhausted (.integer s.counter.limit)), s.refuse (shown t))
      else (((f t y).outcome s.world).1, s.evaluated ((f t y).outcome s.world).2) := by
  change (if s.counter.isExhausted = true then _ else _) = _
  simp only [EvaluationCounter.isExhausted_iff]
  split_ifs <;> rfl

end Action

end AdaptiveStep
