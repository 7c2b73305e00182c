import AdaptiveStep.Policy
import AdaptiveStep.Proofs.Actions
import AdaptiveStep.Proofs.Conversions

/-!
# Policies that runs of calls lead to

A policy is created and then changed by calls. `Policy.Reached` describes the policies that calls
without failures lead to. Their bounds are doubles that are not negative, and a first step that was
prescribed by a plain real number lies between them.
-/

namespace AdaptiveStep

open Extended FloatType

namespace Controls

/-- The bounds and the prescribed step are doubles, and no bound is negative. -/
structure Proper (c : Controls Number) : Prop where
  least_holds : float64.Holds c.least
  greatest_holds : float64.Holds c.greatest
  least_sign : c.least.isNegative = false
  greatest_sign : c.greatest.isNegative = false
  initial_holds : ∀ h, c.initialStep = some h → float64.Holds h

/-- Whether a first step is refused that is a number of the arithmetic. -/
def refuses {α : Type} (A : Arithmetic α) (c : Controls α) (h : α) : Bool :=
  Id.run (c.ignores (pure (A.le h (A.ofRat 0))) (fun least => pure (A.lt h least))
    fun greatest => pure (A.lt greatest h))

lemma refuses_eq_false_iff {α : Type} {A : Arithmetic α} {c : Controls α} {h : α} :
    c.refuses A h = false ↔
      A.le h (A.ofRat 0) = false ∧ A.lt h c.least = false ∧ A.lt c.greatest h = false := by
  cases hle : A.le h (A.ofRat 0) <;> cases hlt : A.lt h c.least <;>
    simp [refuses, ignores, hle, hlt]

/-- The prescribed step, if there is one, is neither below nor above the bounds. -/
def StepWithin {κ : Type} [OfNat κ 0] [LT κ] [DecidableLT κ] (c : Controls (Extended κ)) : Prop :=
  ∀ h, c.initialStep = some h → h.lt c.least = false ∧ c.greatest.lt h = false

/-- The magnitude of the prescribed step is neither below nor above the bounds. -/
def StepFits (c : Controls Number) : Prop :=
  ∀ h, c.initialStep = some h → h.abs.lt c.least = false ∧ c.greatest.lt h.abs = false

end Controls

namespace Policy

/-- The calls that change a policy. -/
inductive Call where
  | setStepSizeControl (least greatest absolute relative : Value)
  | configureScalar (least greatest absolute relative : Value)
  | configureVector (least greatest absolute relative : Value)
  | setInitialStep (step : Value)
  | validate (state : State)
  | setStep (start : Option State) (size : Value)
  | reset

namespace Call

def perform (wideMode : Bool) : Call → Action Policy Unit
  | setStepSizeControl least greatest absolute relative =>
    Policy.setStepSizeControl least greatest absolute relative
  | configureScalar least greatest absolute relative =>
    Policy.configureScalar least greatest absolute relative
  | configureVector least greatest absolute relative =>
    Policy.configureVector least greatest absolute relative
  | setInitialStep step => Policy.setInitialStep wideMode step
  | validate state => Policy.validate state
  | setStep start size => modify (Policy.setStep start size)
  | reset => modify Policy.reset

/-- The bounds that a call stores unless it is refused, and whether it has tolerances per
component. -/
def newBounds? : Call → Option (Bool × Value × Value)
  | setStepSizeControl least greatest absolute relative =>
    if absolute.isSequence = relative.isSequence then some (absolute.isSequence, least, greatest)
    else none
  | configureScalar least greatest _ _ => some (false, least, greatest)
  | configureVector least greatest _ _ => some (true, least, greatest)
  | _ => none

/-- The floats among the bounds and prescribed steps of a call are doubles. -/
def HoldsDoubles : Call → Prop
  | setStepSizeControl least greatest _ _ => least.HoldsDouble ∧ greatest.HoldsDouble
  | configureScalar least greatest _ _ => least.HoldsDouble ∧ greatest.HoldsDouble
  | configureVector least greatest _ _ => least.HoldsDouble ∧ greatest.HoldsDouble
  | setInitialStep step => step.HoldsDouble
  | _ => True

/-- A first step is prescribed by a plain real number only. -/
def PrescribesReal : Call → Prop
  | setInitialStep step => step.realNumber?.isSome = true
  | _ => True

end Call

/-- The policies that admitted calls lead to, none of which fails. The wide mode may change from one
call to the next. -/
inductive Reached (admits : Call → Prop) : Policy → Prop where
  | create {least greatest absolute relative : Value} {p : Policy} :
    admits (.setStepSizeControl least greatest absolute relative) →
    Policy.create least greatest absolute relative = .ok p → Reached admits p
  | call {p q : Policy} {c : Call} (wideMode : Bool) :
    Reached admits p → admits c → (c.perform wideMode).outcome p = (.ok (), q) →
    Reached admits q

structure Rebounded (least greatest : Value) (c : Controls Number) : Prop where
  least_eq : ∃ x, least.toNumber = .ok x ∧ c.least = x.abs
  greatest_eq : ∃ x, greatest.toNumber = .ok x ∧ c.greatest = x.abs
  initialStep_eq : c.initialStep = none

variable {p q : Policy} {least greatest absolute relative : Value}

lemma Rebounded.proper {c : Controls Number} (h : Rebounded least greatest c)
    (hargs : least.HoldsDouble ∧ greatest.HoldsDouble) : c.Proper := by
  obtain ⟨⟨x, hx, hleast⟩, ⟨y, hy, hgreatest⟩, hinitial⟩ := h
  constructor
  · rw [hleast]
    exact holds_abs (Value.holds_toNumber hargs.1 hx)
  · rw [hgreatest]
    exact holds_abs (Value.holds_toNumber hargs.2 hy)
  · rw [hleast, isNegative_abs]
  · rw [hgreatest, isNegative_abs]
  · simp [hinitial]

lemma setBounds_ok (h : (setBounds least greatest).outcome p = (.ok (), q)) :
    Rebounded least greatest q.controls := by
  simp only [setBounds, change, Action.outcome_bind_eq_ok, Action.outcome_lift,
    Action.outcome_modify, Prod.mk.injEq] at h
  obtain ⟨x, _, ⟨hx, rfl⟩, _, _, ⟨-, rfl⟩, y, _, ⟨hy, rfl⟩, -, rfl⟩ := h
  exact ⟨⟨x, hx, rfl⟩, ⟨y, hy, rfl⟩, rfl⟩

lemma configureScalar_ok
    (h : (configureScalar least greatest absolute relative).outcome p = (.ok (), q)) :
    Rebounded least greatest q.controls := by
  simp only [configureScalar, change, Action.outcome_bind_eq_ok, Action.outcome_lift,
    Action.outcome_modify, Prod.mk.injEq] at h
  obtain ⟨_, p', hbounds, x, _, ⟨hx, rfl⟩, y, _, ⟨hy, rfl⟩, -, rfl⟩ := h
  obtain ⟨hleast, hgreatest, hinitial⟩ := setBounds_ok hbounds
  exact ⟨hleast, hgreatest, hinitial⟩

lemma configureVector_ok
    (h : (configureVector least greatest absolute relative).outcome p = (.ok (), q)) :
    Rebounded least greatest q.controls := by
  simp only [configureVector, change, Action.outcome_bind_eq_ok, Action.outcome_lift,
    Action.outcome_modify, Prod.mk.injEq] at h
  obtain ⟨_, p', hbounds, _, _, ⟨-, rfl⟩, x, _, ⟨hx, rfl⟩, y, _, ⟨hy, rfl⟩, -, rfl⟩ := h
  obtain ⟨hleast, hgreatest, hinitial⟩ := setBounds_ok hbounds
  exact ⟨hleast, hgreatest, hinitial⟩

lemma setStepSizeControl_ok
    (h : (setStepSizeControl least greatest absolute relative).outcome p = (.ok (), q)) :
    Rebounded least greatest q.controls := by
  unfold setStepSizeControl at h
  split_ifs at h
  · simp at h
  · exact configureVector_ok h
  · exact configureScalar_ok h

lemma create_ok (h : create least greatest absolute relative = .ok p) :
    Rebounded least greatest p.controls := by
  unfold create at h
  split at h
  · rename_i _ p' hcontrol
    have hbounds : Rebounded least greatest p'.controls := setStepSizeControl_ok hcontrol
    rw [← Except.ok.inj h]
    exact hbounds
  · simp at h

variable {c : Call} {wideMode perComponent : Bool}

lemma Call.HoldsDoubles.newBounds (hc : c.HoldsDoubles)
    (hnew : c.newBounds? = some (perComponent, least, greatest)) :
    least.HoldsDouble ∧ greatest.HoldsDouble := by
  cases c <;> simp only [newBounds?, reduceCtorEq, Option.some.injEq, Prod.mk.injEq] at hnew
  case setStepSizeControl =>
    split_ifs at hnew
    simp only [Option.some.injEq, Prod.mk.injEq] at hnew
    obtain ⟨-, rfl, rfl⟩ := hnew
    exact hc
  all_goals
    obtain ⟨-, rfl, rfl⟩ := hnew
    exact hc

lemma rebounded_of_newBounds (hnew : c.newBounds? = some (perComponent, least, greatest))
    (h : (c.perform wideMode).outcome p = (.ok (), q)) : Rebounded least greatest q.controls := by
  cases c <;> simp only [Call.newBounds?, reduceCtorEq, Option.some.injEq, Prod.mk.injEq] at hnew
  case setStepSizeControl =>
    split_ifs at hnew
    simp only [Option.some.injEq, Prod.mk.injEq] at hnew
    obtain ⟨-, rfl, rfl⟩ := hnew
    exact setStepSizeControl_ok h
  case configureScalar =>
    obtain ⟨-, rfl, rfl⟩ := hnew
    exact configureScalar_ok h
  case configureVector =>
    obtain ⟨-, rfl, rfl⟩ := hnew
    exact configureVector_ok h

/-- What a call does to the control settings: it gives new bounds, it prescribes or forgets the
first step, or it leaves them. -/
lemma perform_ok (h : (c.perform wideMode).outcome p = (.ok (), q)) :
    (∃ perComponent least greatest, c.newBounds? = some (perComponent, least, greatest) ∧
      Rebounded least greatest q.controls) ∨
    (∃ step x, c = .setInitialStep step ∧ p.ignores wideMode step = .ok false ∧
      step.toNumber = .ok x ∧ q.controls = { p.controls with initialStep := some x }) ∨
    q.controls = { p.controls with initialStep := none } ∨ q.controls = p.controls := by
  cases c with
  | setStepSizeControl least greatest absolute relative =>
    have hsame : absolute.isSequence = relative.isSequence := by
      by_contra hne
      simp [Call.perform, setStepSizeControl, hne] at h
    have hnew : (Call.setStepSizeControl least greatest absolute relative).newBounds? =
        some (absolute.isSequence, least, greatest) := if_pos hsame
    exact .inl ⟨_, _, _, hnew, rebounded_of_newBounds hnew h⟩
  | configureScalar least greatest absolute relative =>
    exact .inl ⟨_, _, _, rfl, configureScalar_ok h⟩
  | configureVector least greatest absolute relative =>
    exact .inl ⟨_, _, _, rfl, configureVector_ok h⟩
  | setInitialStep step =>
    simp only [Call.perform, setInitialStep, change, Action.outcome_bind_eq_ok, Action.outcome_lift,
      Action.outcome_get, Prod.mk.injEq] at h
    obtain ⟨_, _, ⟨hp, rfl⟩, ignored, _, ⟨hignored, rfl⟩, hrest⟩ := h
    obtain rfl := Except.ok.inj hp
    cases ignored
    · simp only [Bool.false_eq_true, if_false, Action.outcome_bind_eq_ok, Action.outcome_lift,
        Action.outcome_modify, Prod.mk.injEq] at hrest
      obtain ⟨x, _, ⟨hx, rfl⟩, -, rfl⟩ := hrest
      exact .inr (.inl ⟨step, x, rfl, hignored, hx, rfl⟩)
    · simp only [if_true, Action.outcome_modify, Prod.mk.injEq] at hrest
      exact .inr (.inr (.inl (by rw [← hrest.2])))
  | validate state =>
    simp only [Call.perform, validate, Action.outcome_bind_eq_ok, Action.outcome_lift,
      Action.outcome_modify, Action.outcome_get, Prod.mk.injEq] at h
    obtain ⟨n, _, ⟨-, rfl⟩, _, _, ⟨-, rfl⟩, _, _, ⟨-, rfl⟩, -, rfl⟩ := h
    exact .inr (.inr (.inr rfl))
  | setStep start size =>
    simp only [Call.perform, Action.outcome_modify, Prod.mk.injEq] at h
    exact .inr (.inr (.inr (by rw [← h.2]; rfl)))
  | reset =>
    simp only [Call.perform, Action.outcome_modify, Prod.mk.injEq] at h
    exact .inr (.inr (.inr (by rw [← h.2]; rfl)))

/-- The settings that calls without failures lead to. -/
theorem Reached.proper {admits : Call → Prop} (hp : Reached admits p)
    (hdoubles : ∀ c, admits c → c.HoldsDoubles) : p.controls.Proper := by
  induction hp with
  | create hadmits hcreate =>
    exact (create_ok hcreate).proper (hdoubles _ hadmits)
  | @call p q c wideMode _ hadmits hcall ih =>
    rcases perform_ok hcall with ⟨_, _, _, hnew, hbounds⟩ | ⟨step, x, rfl, -, hx, hq⟩ | hq | hq
    · exact hbounds.proper ((hdoubles _ hadmits).newBounds hnew)
    · rw [hq]
      refine { ih with initial_holds := fun h hh => ?_ }
      obtain rfl := Option.some.inj hh
      exact Value.holds_toNumber (hdoubles _ hadmits) hx
    · rw [hq]
      exact { ih with initial_holds := fun h hh => by simp at hh }
    · rw [hq]
      exact ih

/-- A prescribed step that is a plain real number is compared exactly. -/
lemma ignores_plain {step : Value} {x : Number} {wideMode : Bool}
    (hx : step.realNumber? = some x) :
    p.ignores wideMode step = .ok (p.controls.refuses double x) := by
  have hzero : (Value.integer 0).realNumber? = some (double.ofRat 0) :=
    congrArg some (Rounding.round_zero float64.rounding).symm
  have hbound (b : Number) : (Value.real b).realNumber? = some b := rfl
  have hatMost := Value.compare_plain wideMode .atMost hx hzero
  have hbelow (b : Number) := Value.compare_plain wideMode .below hx (hbound b)
  have habove (b : Number) := Value.compare_plain wideMode .above hx (hbound b)
  simp only [ignores, hatMost, hbelow, habove, Relation.number]
  simp only [Controls.refuses, Controls.ignores, pure, Except.pure, bind, Except.bind, Id.run]
  cases double.le x (double.ofRat 0)
  · cases hlt : x.lt p.controls.least <;> simp [double, hlt]
  · rfl

/-- The double that is stored for a plain real number is not negative and between the bounds. -/
lemma kept_within {step : Value} {x y : Number} {wideMode : Bool} (hproper : p.controls.Proper)
    (hdouble : step.HoldsDouble) (hx : step.realNumber? = some x)
    (hkept : p.ignores wideMode step = .ok false) (hy : step.toNumber = .ok y) :
    y.lt (.finite 0) = false ∧ y.lt p.controls.least = false ∧ p.controls.greatest.lt y = false := by
  rw [ignores_plain hx, Except.ok.injEq, Controls.refuses_eq_false_iff] at hkept
  obtain ⟨hpositive, hleast, hgreatest⟩ := hkept
  obtain rfl := Value.toNumber_eq_convert hdouble hx hy
  have hofRat : double.ofRat 0 = .finite 0 := Rounding.round_zero float64.rounding
  have hzero : x.lt (.finite 0) = false := by
    by_contra hlt
    have hle : double.le x (.finite 0) = true := arithmetic_le_of_lt (by simpa using hlt)
    rw [hofRat, hle] at hpositive
    exact Bool.noConfusion hpositive
  exact ⟨convert_lt_of_holds (by simpa [zero] using holds_zero float64 false) hzero,
    convert_lt_of_holds hproper.least_holds hleast,
    lt_convert_of_holds hproper.greatest_holds hgreatest⟩

/-- Calls that prescribe plain real numbers store only steps that are not negative and lie between
the bounds. -/
theorem Reached.stored_step {admits : Call → Prop} (hp : Reached admits p)
    (hdoubles : ∀ c, admits c → c.HoldsDoubles) (hplain : ∀ c, admits c → c.PrescribesReal)
    {h : Number} (hstored : p.controls.initialStep = some h) :
    h.lt (.finite 0) = false ∧ h.lt p.controls.least = false ∧
      p.controls.greatest.lt h = false := by
  induction hp with
  | create hadmits hcreate => simp [(create_ok hcreate).initialStep_eq] at hstored
  | @call p q c wideMode hreached hadmits hcall ih =>
    rcases perform_ok hcall with ⟨_, _, _, -, hbounds⟩ | ⟨step, y, rfl, hkept, hy, hq⟩ | hq | hq
    · simp [hbounds.initialStep_eq] at hstored
    · obtain ⟨x, hx⟩ := Option.isSome_iff_exists.mp (hplain _ hadmits)
      rw [hq] at hstored ⊢
      obtain rfl := Option.some.inj hstored
      exact kept_within (hreached.proper hdoubles) (hdoubles _ hadmits) hx hkept hy
    · simp [hq] at hstored
    · rw [hq] at hstored ⊢
      exact ih hstored

theorem Reached.stepWithin {admits : Call → Prop} (hp : Reached admits p)
    (hdoubles : ∀ c, admits c → c.HoldsDoubles) (hplain : ∀ c, admits c → c.PrescribesReal) :
    p.controls.StepWithin :=
  fun _ hh => (hp.stored_step hdoubles hplain hh).2

theorem Reached.stepFits {admits : Call → Prop} (hp : Reached admits p)
    (hdoubles : ∀ c, admits c → c.HoldsDoubles) (hplain : ∀ c, admits c → c.PrescribesReal) :
    p.controls.StepFits := by
  intro h hh
  obtain ⟨hzero, hleast, hgreatest⟩ := hp.stored_step hdoubles hplain hh
  rw [abs_lt hzero, lt_abs hzero]
  exact ⟨hleast, hgreatest⟩

end Policy

end AdaptiveStep
