import AdaptiveStep.Proofs.FirstStepBounds
import AdaptiveStep.Proofs.VectorLengths

/-!
# What the first step takes from the budget

A prescribed step is free. An estimate that is refused for its order, its derivative or its scale is
refused before the dynamics are reached, and so takes nothing. Otherwise it takes one evaluation as
soon as it reaches the dynamics, whatever they and the rest of the estimate do, unless the budget is
used up: then the dynamics are not evaluated and nothing is counted.
-/

namespace AdaptiveStep

namespace Value

/-- How many real parts a vector has, if it is one: one for each item of an array, and one for each
element of anything else. -/
def componentCount? : Value → Option ℕ
  | array a => some a.items.length
  | v => v.elements.toOption.map List.length

lemma componentCount_of_doubleVector {v : Value} {wideMode : Bool} {xs : List Number}
    (h : v.doubleVector wideMode = .ok xs) : v.componentCount? = some xs.length := by
  have helements (h : (do (← v.elements).mapM (realPart wideMode)) = Except.ok xs) :
      v.elements.toOption.map List.length = some xs.length := by
    obtain ⟨vs, hvs, hmap⟩ := Except.bind_eq_ok.mp h
    rw [hvs, length_of_mapM_ok hmap]
    rfl
  cases v with
  | array a =>
    rw [← Except.ok.inj h, List.length_map]
    rfl
  | _ => exact helements h

end Value

namespace StartProblem

variable {σ : Type} {wideMode : Bool} {P : StartProblem}

/-- What an estimate refuses: an order that is not positive, a derivative that is missing or has not
as many blocks as the state, and a scale that is longer than the complete state. -/
inductive Refuses (wideMode : Bool) (P : StartProblem) : Prop where
  | order (h : P.order.compare wideMode .atMost (.integer 0) = .ok true)
  | noDerivative (h : P.state.derivative = .absent)
  | derivativeCount (h : P.state.secondaryDerivatives.length ≠ P.state.secondary.length)
  | scale {y : Value} {n k : ℕ} (hy : P.state.completeState wideMode = .ok y)
    (hn : y.componentCount? = some n) (hk : P.scale.componentCount? = some k) (h : n < k)

/-- What is refused is refused before the dynamics are reached. -/
lemma Refuses.evaluation (h : P.Refuses wideMode) : ∃ e, P.evaluation wideMode = .error e := by
  cases hevaluation : P.evaluation wideMode with
  | error e => exact ⟨e, rfl⟩
  | ok call =>
    obtain ⟨y, slope, v, -, horder, hvectors, hv, -⟩ := evaluation_eq_ok hevaluation
    obtain ⟨y', hy, hvectors⟩ := Except.bind_eq_ok.mp hvectors
    obtain ⟨slope', hslope, hvectors⟩ := Except.bind_eq_ok.mp hvectors
    obtain ⟨rfl, rfl⟩ := Prod.mk.inj (Except.ok.inj hvectors)
    cases h with
    | order h => simp [h] at horder
    | noDerivative h => simp [State.completeDerivative, h] at hslope
    | derivativeCount h =>
      unfold State.completeDerivative at hslope
      split at hslope
      · cases hslope
      · simp [h] at hslope
    | scale hy' hn hk h =>
      obtain rfl := Except.ok.inj (hy.symm.trans hy')
      obtain ⟨scale, state, slopes, hscale, hstate, -, hlength, -⟩ := realVectors_eq_ok hv
      rw [Value.componentCount_of_doubleVector hstate, Option.some.injEq] at hn
      rw [Value.componentCount_of_doubleVector hscale, Option.some.injEq] at hk
      omega

/-- An estimate with counted dynamics breaks off before it reaches them, or it reaches them with the
budget used up, or it takes one evaluation. -/
lemma estimate_counted_cases {f : Dynamics σ Value Value} {least greatest : Value} {s s' : Counted σ}
    {r : Except Failure Value}
    (h : (P.estimate wideMode (counted id f) least greatest).outcome s = (r, s')) :
    (∃ e, P.evaluation wideMode = .error e ∧ r = .error e ∧ s' = s) ∨
    (∃ t y, P.evaluation wideMode = .ok (t, y) ∧ s.counter.limit ≤ s.counter.count ∧
      r = .error (.budgetExhausted (.integer s.counter.limit)) ∧ s' = s.refuse t) ∨
    (∃ t y, P.evaluation wideMode = .ok (t, y) ∧ s.counter.count < s.counter.limit ∧
      s' = s.evaluated ((f t y).outcome s.world).2 ∧
        ∀ e, ((f t y).outcome s.world).1 = .error e → r = .error e) := by
  obtain ⟨finish, houtcome⟩ := estimate_evaluatesOnce wideMode P (counted id f) least greatest
  rw [houtcome] at h
  rcases hevaluation : P.evaluation wideMode with e | ⟨t, y⟩
  · rw [hevaluation, Prod.mk.injEq] at h
    exact .inl ⟨e, rfl, h.1.symm, h.2.symm⟩
  · rw [hevaluation] at h
    simp only [Action.outcome_counted, Prod.mk.injEq] at h
    obtain ⟨rfl, rfl⟩ := h
    split_ifs with hexhausted
    · exact .inr (.inl ⟨t, y, rfl, hexhausted, rfl, rfl⟩)
    · refine .inr (.inr ⟨t, y, rfl, Nat.lt_of_not_le hexhausted, rfl, fun e he => ?_⟩)
      rw [he]
      rfl

end StartProblem

namespace Policy

variable {σ : Type} {wideMode : Bool}

/-- What the first step takes from the budget. A prescribed step is returned in the direction of
integration and takes nothing. An estimate that is refused, or fails before it reaches the dynamics,
takes nothing either, and neither does one that reaches them with the budget used up. Every other
estimate takes one evaluation of the dynamics, whose failure is its own. -/
theorem firstStep_counted (p : Policy) (P : StartProblem) (f : Dynamics σ Value Value)
    {s s' : Counted σ} {r : Except Failure Value}
    (h : (p.firstStep wideMode (counted id f) P).outcome s = (r, s')) :
    (∀ x, p.controls.initialStep = some x →
      r = .ok (.real (InitialStep.directed double P.forward x)) ∧ s' = s) ∧
    (p.controls.initialStep = none →
      (P.Refuses wideMode → (∃ e, r = .error e) ∧ s' = s) ∧
      (∀ e, P.evaluation wideMode = .error e → r = .error e ∧ s' = s) ∧
      (∀ t y, P.evaluation wideMode = .ok (t, y) → s.counter.limit ≤ s.counter.count →
        r = .error (.budgetExhausted (.integer s.counter.limit)) ∧
          s'.counter = s.counter ∧ s'.world = s.world) ∧
      (∀ t y, P.evaluation wideMode = .ok (t, y) → s.counter.count < s.counter.limit →
        s'.counter = s.counter.increment ∧ s'.world = ((f t y).outcome s.world).2 ∧
          ∀ e, ((f t y).outcome s.world).1 = .error e → r = .error e) ∧
      s'.counter.count ≤ s.counter.count + 1 ∧
      ∀ v, r = .ok v → s'.counter.count = s.counter.count + 1) := by
  constructor
  · intro x hx
    have hdirected : P.directed (.real x) = .ok (.real (InitialStep.directed double P.forward x)) := by
      unfold StartProblem.directed InitialStep.directed
      cases P.forward <;> rfl
    rw [firstStep_of_prescribed hx, hdirected, Prod.mk.injEq] at h
    exact ⟨h.1.symm, h.2.symm⟩
  · intro hnone
    have hestimate : (P.estimate wideMode (counted id f) (.real p.controls.least)
        (.real p.controls.greatest)).outcome s = (r, s') := by
      simpa only [firstStep, StartProblem.firstStep, bounds, hnone, Option.map_none] using h
    rcases StartProblem.estimate_counted_cases hestimate with
      ⟨e, hevaluation, rfl, rfl⟩ | ⟨t, y, hevaluation, hexhausted, rfl, rfl⟩ |
        ⟨t, y, hevaluation, hleft, rfl, hfailure⟩
    · refine ⟨fun _ => ⟨⟨e, rfl⟩, rfl⟩, ?_, ?_, ?_, Nat.le_succ _, ?_⟩ <;> simp [hevaluation]
    · refine ⟨fun hrefuses => ?_, ?_, ?_, ?_, Nat.le_succ _, ?_⟩
      · obtain ⟨e, he⟩ := hrefuses.evaluation
        simp [he] at hevaluation
      · simp [hevaluation]
      · exact fun _ _ _ _ => ⟨rfl, rfl, rfl⟩
      · intro _ _ _ hleft
        omega
      · simp
    · refine ⟨fun hrefuses => ?_, ?_, ?_, ?_, le_rfl, fun _ _ => rfl⟩
      · obtain ⟨e, he⟩ := hrefuses.evaluation
        simp [he] at hevaluation
      · simp [hevaluation]
      · intro _ _ _ hexhausted
        omega
      · intro t' y' h' _
        obtain ⟨rfl, rfl⟩ := Prod.mk.inj (Except.ok.inj (hevaluation.symm.trans h'))
        exact ⟨rfl, rfl, hfailure⟩

/-- Dynamics that fail take one evaluation from a budget of one, and none from an empty one. -/
theorem firstStep_counted_singular :
    let f : Dynamics Unit Value Value := fun _ _ => throw .singularDynamics
    let first (c : EvaluationCounter) :=
      (wideSteps.firstStep false (counted id f) StartProblem.pairStart).outcome (.start c ())
    (first ⟨1, 0⟩).1 = .error .singularDynamics ∧ (first ⟨1, 0⟩).2.counter = ⟨1, 1⟩ ∧
      (first ⟨1, 1⟩).1 = .error (.budgetExhausted (.integer 1)) ∧
      (first ⟨1, 1⟩).2.counter = ⟨1, 1⟩ := by
  intro f first
  have hreaches : (StartProblem.pairStart.evaluation false).toOption.isSome = true := by
    decide +kernel
  cases hevaluation : StartProblem.pairStart.evaluation false with
  | error e => simp [hevaluation, Except.toOption] at hreaches
  | ok call =>
    rcases hleft : first ⟨1, 0⟩ with ⟨r, s'⟩
    obtain ⟨-, -, -, hcounted, -⟩ := (firstStep_counted wideSteps _ f hleft).2 rfl
    obtain ⟨hcounter, -, hfailure⟩ := hcounted call.1 call.2 hevaluation Nat.zero_lt_one
    rcases hexhausted : first ⟨1, 1⟩ with ⟨r', s''⟩
    obtain ⟨-, -, hrefused, -⟩ := (firstStep_counted wideSteps _ f hexhausted).2 rfl
    obtain ⟨hresult, hunchanged, -⟩ := hrefused call.1 call.2 hevaluation le_rfl
    exact ⟨hfailure _ rfl, hcounter, hresult, hunchanged⟩

end Policy

end AdaptiveStep
