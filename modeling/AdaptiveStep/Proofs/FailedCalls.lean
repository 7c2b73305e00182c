import AdaptiveStep.Proofs.FirstStepBounds

/-!
# What a failed call leaves behind

A policy stores the settings of a call one after the other. A call that fails has stored what came
before the argument that does not convert, and the number of components is recorded before the
tolerances are held against it. The context of the step and the tolerances per component are never
touched by a call that fails.
-/

namespace AdaptiveStep

open Extended FloatType

namespace Controls

/-- The settings after new bounds were stored as far as they convert. A call with tolerances per
component clears the scalar ones before it looks at its own. -/
def rebounded (perComponent : Bool) (least greatest : Value) (c : Controls Number) :
    Controls Number :=
  match least.toNumber, greatest.toNumber with
  | .error _, _ => c
  | .ok x, .error _ => { c with least := x.abs }
  | .ok x, .ok y =>
    let c := { c with least := x.abs, greatest := y.abs, initialStep := none }
    if perComponent then { c with scalarAbsolute := .finite 0, scalarRelative := .finite 0 } else c

variable {perComponent : Bool} {least greatest : Value} {x : Number} {e : Failure}
  (c : Controls Number)

lemma rebounded_of_least_error (h : least.toNumber = .error e) :
    c.rebounded perComponent least greatest = c := by
  simp [rebounded, h]

lemma rebounded_of_greatest_error (hx : least.toNumber = .ok x) (h : greatest.toNumber = .error e) :
    c.rebounded perComponent least greatest = { c with least := x.abs } := by
  simp [rebounded, hx, h]

@[simp] lemma rebounded_vector : (c.rebounded perComponent least greatest).vector = c.vector := by
  unfold rebounded
  split
  · rfl
  · rfl
  · split_ifs <;> rfl

end Controls

namespace Policy

variable {p q : Policy} {e : Failure} {wideMode : Bool} {least greatest absolute relative : Value}

namespace Call

/-- The number of components that a call records, if its state has one. -/
def dimension? : Call → Option Nat
  | validate state => state.primaryDimension.toOption
  | _ => none

/-- The settings that a call leaves when it fails. -/
def controlsAfterFailure (call : Call) (c : Controls Number) : Controls Number :=
  match call.newBounds? with
  | some (perComponent, least, greatest) => c.rebounded perComponent least greatest
  | none => c

@[simp] lemma controlsAfterFailure_vector (call : Call) (c : Controls Number) :
    (call.controlsAfterFailure c).vector = c.vector := by
  unfold controlsAfterFailure
  split
  · exact Controls.rebounded_vector _
  · rfl

end Call

lemma setBounds_cases (perComponent : Bool) (p : Policy) (least greatest : Value) :
    (∃ e, (setBounds least greatest).outcome p =
      (.error e, { p with controls := p.controls.rebounded perComponent least greatest })) ∨
    ∃ x y, least.toNumber = .ok x ∧ greatest.toNumber = .ok y ∧
      (setBounds least greatest).outcome p = (.ok (), { p with
        controls := { p.controls with least := x.abs, greatest := y.abs, initialStep := none } }) := by
  simp only [setBounds, change, Action.outcome_bind, Action.outcome_lift, Action.outcome_modify]
  cases hleast : least.toNumber with
  | error e => exact .inl ⟨e, by rw [Controls.rebounded_of_least_error _ hleast]⟩
  | ok x =>
    cases hgreatest : greatest.toNumber with
    | error e =>
      refine .inl ⟨e, ?_⟩
      rw [Controls.rebounded_of_greatest_error _ hleast hgreatest]
      rfl
    | ok y => exact .inr ⟨x, y, rfl, rfl, rfl⟩

lemma configureScalar_error
    (h : (configureScalar least greatest absolute relative).outcome p = (.error e, q)) :
    q = { p with controls := p.controls.rebounded false least greatest } := by
  simp only [configureScalar, change, Action.outcome_bind, Action.outcome_lift] at h
  rcases setBounds_cases false p least greatest with ⟨e', hbounds⟩ | ⟨x, y, hx, hy, hbounds⟩
  · simp_all
  · -- both tolerances convert before the first of them is stored
    cases habsolute : absolute.toNumber <;> cases hrelative : relative.toNumber <;>
      simp_all [Controls.rebounded]

lemma configureVector_error
    (h : (configureVector least greatest absolute relative).outcome p = (.error e, q)) :
    q = { p with controls := p.controls.rebounded true least greatest } := by
  simp only [configureVector, change, Action.outcome_bind, Action.outcome_lift,
    Action.outcome_modify] at h
  rcases setBounds_cases true p least greatest with ⟨e', hbounds⟩ | ⟨x, y, hx, hy, hbounds⟩
  · simp_all
  · cases habsolute : absolute.numbers <;> cases hrelative : relative.numbers <;>
      simp_all [Controls.rebounded]

lemma setInitialStep_error {step : Value}
    (h : (setInitialStep wideMode step).outcome p = (.error e, q)) : q = p := by
  simp only [setInitialStep, change, Action.outcome_bind, Action.outcome_get, Action.outcome_lift] at h
  rcases hignored : p.ignores wideMode step with _ | ignored
  · simp_all
  · cases ignored
    · cases hstep : step.toNumber <;> simp_all [Action.outcome_bind]
    · simp_all

/-- The dimension is recorded before the tolerances are held against it. -/
lemma validate_outcome (state : State) (p : Policy) : (validate state).outcome p =
    match state.primaryDimension with
    | .error e => (.error e, p)
    | .ok n => (p.controls.requireDimension n, { p with mainDimension := some n }) := by
  simp only [validate, Action.outcome_bind, Action.outcome_lift, Action.outcome_modify,
    Action.outcome_get]
  cases state.primaryDimension <;> rfl

lemma validate_error {state : State} (h : (validate state).outcome p = (.error e, q)) :
    q = { p with mainDimension := state.primaryDimension.toOption.or p.mainDimension } := by
  rw [validate_outcome] at h
  cases hsize : state.primaryDimension with
  | error => simp_all [Except.toOption]
  | ok n => simp_all [Except.toOption]

/-- The policy after a call that failed, whatever the reason. -/
lemma perform_error {c : Call} (h : (c.perform wideMode).outcome p = (.error e, q)) :
    q = { p with
      mainDimension := c.dimension?.or p.mainDimension
      controls := c.controlsAfterFailure p.controls } := by
  cases c with
  | setStepSizeControl least greatest absolute relative =>
    simp only [Call.perform, setStepSizeControl] at h
    split_ifs at h with hmixed hsequence
    · have hne : ¬absolute.isSequence = relative.isSequence := by simpa using hmixed
      simp only [Action.outcome_throw, Prod.mk.injEq] at h
      simp [Call.dimension?, Call.controlsAfterFailure, Call.newBounds?, hne, ← h.2]
    · have heq : absolute.isSequence = relative.isSequence := by simpa using hmixed
      rw [configureVector_error h]
      simp [Call.dimension?, Call.controlsAfterFailure, Call.newBounds?, ← heq, hsequence]
    · have heq : absolute.isSequence = relative.isSequence := by simpa using hmixed
      rw [configureScalar_error h]
      simp [Call.dimension?, Call.controlsAfterFailure, Call.newBounds?, ← heq, hsequence]
  | configureScalar least greatest absolute relative => exact configureScalar_error h
  | configureVector least greatest absolute relative => exact configureVector_error h
  | setInitialStep step => exact setInitialStep_error h
  | validate state => exact validate_error h
  | setStep start size => simp [Call.perform] at h
  | reset => simp [Call.perform] at h

/-- A call that fails touches neither the context of the step nor the tolerances per component. It
has recorded the number of components, if it validates a state that has one, and it has stored its
bounds as far as they convert; all other settings are as they were. -/
theorem failed_call_leaves {c : Call} (h : (c.perform wideMode).outcome p = (.error e, q)) :
    q.stepStart = p.stepStart ∧ q.stepSize = p.stepSize ∧ q.controls.vector = p.controls.vector ∧
      q.mainDimension = c.dimension?.or p.mainDimension ∧
      q.controls = c.controlsAfterFailure p.controls := by
  rw [perform_error h]
  exact ⟨rfl, rfl, c.controlsAfterFailure_vector p.controls, rfl, rfl⟩

/-- New settings whose second bound is no number. -/
def unreadableBounds : Call :=
  .configureScalar (.real (.finite 1)) (.text "x") (.real (.finite 1)) (.real (.finite 1))

lemma unreadableBounds_outcome :
    (unreadableBounds.perform false).outcome wideSteps =
      (.error (.unreadableNumber "x"),
        { wideSteps with controls := { wideSteps.controls with least := .finite 1 } }) := by
  have hread : Number.read? "x" = none := by decide +kernel
  have hone : double.abs (finite 1) = finite 1 := by decide +kernel
  simp [unreadableBounds, Call.perform, configureScalar, setBounds, change, Action.outcome_bind,
    Value.toNumber, Value.elementToNumber, Controls.setLeast, hread, hone]

theorem failed_call_leaves_wideSteps :
    ∃ e q, (unreadableBounds.perform false).outcome wideSteps = (.error e, q) ∧
      q.controls.vector = none ∧ q.mainDimension = none ∧
      q.controls = wideSteps.controls.rebounded false (.real (.finite 1)) (.text "x") := by
  obtain ⟨-, -, hvector, hdimension, hcontrols⟩ := failed_call_leaves unreadableBounds_outcome
  exact ⟨_, _, unreadableBounds_outcome, hvector, hdimension, hcontrols⟩

theorem unreadableBounds_changes_least :
    Reached Call.HoldsDoubles wideSteps ∧
      ∃ e q, (unreadableBounds.perform false).outcome wideSteps = (.error e, q) ∧
        q.controls.least ≠ wideSteps.controls.least := by
  refine ⟨reached_wideSteps, _, _, unreadableBounds_outcome, ?_⟩
  decide +kernel

end Policy

end AdaptiveStep
