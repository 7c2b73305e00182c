import AdaptiveStep.Proofs.FailedCalls

/-!
# Reconfigured policies

New settings are a function of the arguments alone: `Controls.ofArguments` gives them, or the failure
of a call that does not store them. Whatever a policy has been through, a call that succeeds leaves
the settings of a policy created with the same arguments, and nothing but the settings changes.
-/

namespace AdaptiveStep

namespace Controls

/-- The settings with one pair of tolerances for all components. -/
def scalarForm (least greatest absolute relative : Value) : Except Failure (Controls Number) := do
  let least ← least.toNumber
  let greatest ← greatest.toNumber
  let absolute ← absolute.toNumber
  let relative ← relative.toNumber
  return ⟨least.abs, greatest.abs, absolute, relative, none, none⟩

/-- The settings with tolerances per component, beside which the scalar ones are zero. -/
def vectorForm (least greatest absolute relative : Value) : Except Failure (Controls Number) := do
  let least ← least.toNumber
  let greatest ← greatest.toNumber
  let absolute ← absolute.numbers
  let relative ← relative.numbers
  return ⟨least.abs, greatest.abs, .finite 0, .finite 0, some (absolute, relative), none⟩

/-- The settings that arguments stand for. Their tolerances have to be of one form. -/
def ofArguments (least greatest absolute relative : Value) : Except Failure (Controls Number) :=
  if absolute.isSequence != relative.isSequence then .error .mixedTolerances
  else if absolute.isSequence then vectorForm least greatest absolute relative
  else scalarForm least greatest absolute relative

end Controls

namespace Policy

variable {least greatest absolute relative : Value}

/-- The policy with new settings, or with the bounds as far as they convert. -/
def configured (p : Policy) (perComponent : Bool) (least greatest : Value)
    (settings : Except Failure (Controls Number)) : Except Failure Unit × Policy :=
  match settings with
  | .ok c => (.ok (), { p with controls := c })
  | .error e => (.error e, { p with controls := p.controls.rebounded perComponent least greatest })

lemma configureScalar_outcome (p : Policy) :
    (configureScalar least greatest absolute relative).outcome p =
      p.configured false least greatest (Controls.scalarForm least greatest absolute relative) := by
  simp only [configureScalar, setBounds, change, Action.outcome_bind, Action.outcome_lift,
    Action.outcome_modify, configured, Controls.scalarForm, Controls.rebounded]
  cases least.toNumber with
  | error e => rfl
  | ok x =>
    cases greatest.toNumber with
    | error e => rfl
    | ok y => cases absolute.toNumber <;> cases relative.toNumber <;> rfl

lemma configureVector_outcome (p : Policy) :
    (configureVector least greatest absolute relative).outcome p =
      p.configured true least greatest (Controls.vectorForm least greatest absolute relative) := by
  simp only [configureVector, setBounds, change, Action.outcome_bind, Action.outcome_lift,
    Action.outcome_modify, configured, Controls.vectorForm, Controls.rebounded]
  cases least.toNumber with
  | error e => rfl
  | ok x =>
    cases greatest.toNumber with
    | error e => rfl
    | ok y => cases absolute.numbers <;> cases relative.numbers <;> rfl

lemma setStepSizeControl_mixed (h : absolute.isSequence ≠ relative.isSequence) (p : Policy) :
    (setStepSizeControl least greatest absolute relative).outcome p =
      (.error .mixedTolerances, p) := by
  simp [setStepSizeControl, h]

lemma setStepSizeControl_outcome (h : absolute.isSequence = relative.isSequence) (p : Policy) :
    (setStepSizeControl least greatest absolute relative).outcome p =
      p.configured absolute.isSequence least greatest
        (Controls.ofArguments least greatest absolute relative) := by
  cases hsequence : absolute.isSequence
  · simp [setStepSizeControl, Controls.ofArguments, ← h, hsequence, configureScalar_outcome]
  · simp [setStepSizeControl, Controls.ofArguments, ← h, hsequence, configureVector_outcome]

/-- New settings leave the rest of the policy. -/
lemma configured_frame (p : Policy) (perComponent : Bool) (least greatest : Value)
    (settings : Except Failure (Controls Number)) :
    ∃ c, (p.configured perComponent least greatest settings).2 = { p with controls := c } := by
  cases settings <;> exact ⟨_, rfl⟩

/-- The start of the step after a call. -/
def Call.startAfter (p : Policy) : Call → Option State
  | setStep start _ => start
  | reset => none
  | _ => p.stepStart

/-- The step size after a call. Only a reset computes one. -/
def Call.sizeAfter (p : Policy) : Call → Value
  | setStep _ size => size
  | reset => p.reset.stepSize
  | _ => p.stepSize

/-- What a call makes of a policy apart from its settings, whether or not it fails. -/
theorem perform_frame (call : Call) (wideMode : Bool) (p : Policy) :
    ∃ c, ((call.perform wideMode).outcome p).2 =
      ⟨c, call.dimension?.or p.mainDimension, call.startAfter p, call.sizeAfter p⟩ := by
  cases call with
  | setStepSizeControl least greatest absolute relative =>
    simp only [Call.perform]
    by_cases h : absolute.isSequence = relative.isSequence
    · rw [setStepSizeControl_outcome h]
      exact configured_frame ..
    · rw [setStepSizeControl_mixed h]
      exact ⟨_, rfl⟩
  | configureScalar least greatest absolute relative =>
    simp only [Call.perform, configureScalar_outcome]
    exact configured_frame ..
  | configureVector least greatest absolute relative =>
    simp only [Call.perform, configureVector_outcome]
    exact configured_frame ..
  | setInitialStep step =>
    simp only [Call.perform, setInitialStep, change, Action.outcome_bind, Action.outcome_get,
      Action.outcome_lift]
    cases p.ignores wideMode step with
    | error e => exact ⟨_, rfl⟩
    | ok ignored => cases ignored <;> cases step.toNumber <;> exact ⟨_, rfl⟩
  | validate state =>
    simp only [Call.perform, validate_outcome, Call.dimension?]
    cases state.primaryDimension <;> exact ⟨_, rfl⟩
  | setStep start size => exact ⟨_, rfl⟩
  | reset => exact ⟨_, rfl⟩

/-- A policy is created with the settings that its arguments stand for. -/
lemma create_eq (least greatest absolute relative : Value) :
    create least greatest absolute relative =
      (Controls.ofArguments least greatest absolute relative).map fun c =>
        reset { blank with controls := c } := by
  by_cases h : absolute.isSequence = relative.isSequence
  · unfold create
    rw [setStepSizeControl_outcome h]
    cases Controls.ofArguments least greatest absolute relative <;> rfl
  · simp [create, setStepSizeControl_mixed h, Controls.ofArguments, h, Except.map]

/-- A call stores new settings exactly if its arguments create a policy. It leaves the settings of
that policy, and the number of components and the context of the step as they were. Tolerances of two
forms are refused and change nothing. -/
theorem setStepSizeControl_as_created (p q : Policy) (least greatest absolute relative : Value) :
    ((setStepSizeControl least greatest absolute relative).outcome p = (.ok (), q) ↔
      ∃ fresh, create least greatest absolute relative = .ok fresh ∧
        q.controls = fresh.controls ∧ q.mainDimension = p.mainDimension ∧
        q.stepStart = p.stepStart ∧ q.stepSize = p.stepSize) ∧
    (absolute.isSequence ≠ relative.isSequence →
      (setStepSizeControl least greatest absolute relative).outcome p =
        (.error .mixedTolerances, p) ∧ Failure.mixedTolerances.family = .wrongKind) := by
  refine ⟨?_, fun h => ⟨setStepSizeControl_mixed h p, rfl⟩⟩
  rw [create_eq]
  by_cases h : absolute.isSequence = relative.isSequence
  · rw [setStepSizeControl_outcome h]
    cases Controls.ofArguments least greatest absolute relative with
    | error e => simp [configured, Except.map]
    | ok c =>
      obtain ⟨controls, dimension, start, size⟩ := q
      simp [configured, Except.map, reset, eq_comm]
  · simp [setStepSizeControl_mixed h, Controls.ofArguments, h, Except.map]

/-- The policy that a call leaves whose second bound is no number. -/
def halfConfigured : Policy :=
  { wideSteps with controls := { wideSteps.controls with least := .finite 1 } }

/-- Settings for two components, from arguments with one tolerance per component. -/
lemma create_perComponent : ∃ fresh,
    create (.real (.finite 1)) (.real (.finite 2)) (.list [.real (.finite 3), .real (.finite 4)])
      (.list [.real (.finite 5), .real (.finite 6)]) = .ok fresh ∧
    fresh.controls = ⟨.finite 1, .finite 2, .finite 0, .finite 0,
      some ([.finite 3, .finite 4], [.finite 5, .finite 6]), none⟩ := by
  have habs : (Extended.finite 1 : Number).abs = .finite 1 ∧
      (Extended.finite 2 : Number).abs = .finite 2 := by decide +kernel
  refine ⟨_, by rw [create_eq]; rfl, ?_⟩
  simp [reset, habs]

theorem setStepSizeControl_as_created_halfConfigured :
    (unreadableBounds.perform false).outcome wideSteps =
      (.error (.unreadableNumber "x"), halfConfigured) ∧
    (setStepSizeControl (.real (.finite 1)) (.real (.finite 2)) (.list [.real (.finite 3)])
      (.real (.finite 4))).outcome halfConfigured = (.error .mixedTolerances, halfConfigured) ∧
    ∃ q, (setStepSizeControl (.real (.finite 1)) (.real (.finite 2))
        (.list [.real (.finite 3), .real (.finite 4)])
        (.list [.real (.finite 5), .real (.finite 6)])).outcome halfConfigured = (.ok (), q) ∧
      q.controls.vector = some ([.finite 3, .finite 4], [.finite 5, .finite 6]) ∧
      q.stepSize = wideSteps.stepSize := by
  refine ⟨unreadableBounds_outcome, ?_, ?_⟩
  · exact ((setStepSizeControl_as_created halfConfigured halfConfigured _ _ _ _).2 (by decide)).1
  · obtain ⟨fresh, hcreate, hcontrols⟩ := create_perComponent
    let q : Policy := { halfConfigured with controls := fresh.controls }
    have hstored := (setStepSizeControl_as_created halfConfigured q _ _ _ _).1.mpr
      ⟨fresh, hcreate, rfl, rfl, rfl, rfl⟩
    exact ⟨q, hstored, by rw [hcontrols], rfl⟩

end Policy

end AdaptiveStep
