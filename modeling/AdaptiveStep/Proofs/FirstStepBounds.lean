import AdaptiveStep.Proofs.FilteredSteps
import AdaptiveStep.Proofs.PolicyRuns

/-!
# The first step and its bounds

For a method whose order is a plain real number the estimate is a real step between the bounds, so
the filter passes it on unchanged. A prescribed step passes the filter exactly if it lies between the
bounds. It does unless it was prescribed by an array item, which is compared in a precision of its
own.
-/

namespace AdaptiveStep

open Extended FloatType

namespace Value

variable {wideMode : Bool} {order : Value} {x : Number} {v : Value}

lemma candidates_isBelow (x y : Number) :
    (order.candidates wideMode).isBelow (real x) (real y) = .ok (x.lt y) :=
  compare_plain (v := real x) (w := real y) wideMode .below rfl rfl

lemma candidates_isAbove (x y : Number) :
    (order.candidates wideMode).isAbove (real x) (real y) = .ok (y.lt x) :=
  compare_plain (v := real x) (w := real y) wideMode .above rfl rfl

/-- A plain real number has a real reciprocal, if it has one. -/
lemma reciprocal_real (horder : order.realNumber?.isSome = true)
    (h : order.reciprocal wideMode = .ok v) : ∃ y, v = real y := by
  have hconvert {p : Except Failure Number}
      (h : (do let x ← p; if x.isZero then throw .divisionByZero
               return real (double.div (double.ofRat 1) x)) = Except.ok v) : ∃ y, v = real y := by
    obtain ⟨x, -, hx⟩ := Except.bind_eq_ok.mp h
    split_ifs at hx
    · exact absurd hx Except.throw_bind_ne_ok
    · exact ⟨_, (Except.ok.inj hx).symm⟩
  cases order with
  | real x => exact hconvert h
  | integer n => exact hconvert h
  | boolean b => exact hconvert h
  | rational q =>
    obtain ⟨x, -, hx⟩ := Except.bind_eq_ok.mp h
    split_ifs at hx
    · exact absurd hx Except.throw_bind_ne_ok
    · exact ⟨_, (Except.ok.inj hx).symm⟩
  | _ => simp [realNumber?] at horder

lemma candidates_root_real (horder : order.realNumber?.isSome = true)
    (h : (order.candidates wideMode).root x = .ok v) : ∃ y, v = real y := by
  obtain ⟨e, he, hv⟩ := Except.bind_eq_ok.mp h
  obtain ⟨y, rfl⟩ := reciprocal_real horder he
  obtain ⟨z, -, hz⟩ := Except.bind_eq_ok.mp hv
  obtain ⟨p, -, hp⟩ := Except.bind_eq_ok.mp hz
  exact ⟨_, (Except.ok.inj hp).symm⟩

end Value

namespace InitialStep

variable {wideMode : Bool} {order : Value}

lemma proposal_real (horder : order.realNumber?.isSome = true) {greatest guess : Number} {v : Value}
    (h : proposal double (order.candidates wideMode) greatest guess = .ok v) :
    ∃ y, v = .real y := by
  unfold proposal at h
  split_ifs at h
  · exact ⟨_, (Except.ok.inj h).symm⟩
  · exact Value.candidates_root_real horder h

lemma limited_real {guess h : Number} {v : Value} {start : Except Failure Number}
    (hv : limited double (order.candidates wideMode) guess (.real h) start = .ok v) :
    ∃ y, v = .real y := by
  have hnumber (x : Number) : (order.candidates wideMode).ofNumber x = .real x := rfl
  simp only [limited, hnumber, Value.candidates_isBelow, Except.bind_eq_ok, Except.ok.injEq,
    exists_eq_left'] at hv
  obtain ⟨t, -, b, hb, hv⟩ := hv
  split_ifs at hv <;> exact ⟨_, (Except.ok.inj hv).symm⟩

/-- A magnitude is brought between the bounds. `e` shows numbers as candidates. -/
lemma bounded_ok {κ α β : Type} [Field κ] [LinearOrder κ] [IsStrictOrderedRing κ]
    {C : Candidates α β} {e : Extended κ → β} (hbelow : ∀ x y, C.isBelow (e x) (e y) = .ok (x.lt y))
    (habove : ∀ x y, C.isAbove (e x) (e y) = .ok (y.lt x)) {least greatest y : Extended κ} {v : β}
    (hle : greatest.lt least = false) (h : bounded C (e least) (e greatest) (e y) = .ok v) :
    ∃ z, v = e z ∧ z.lt least = false ∧ greatest.lt z = false := by
  simp only [bounded, hbelow, Except.bind_eq_ok, Except.ok.injEq, exists_eq_left'] at h
  cases hlt : y.lt least
  · simp only [hlt, Bool.false_eq_true, if_false, habove, Except.ok.injEq, exists_eq_left'] at h
    cases hgt : greatest.lt y
    · simp only [hgt, Bool.false_eq_true, if_false] at h
      exact ⟨y, (Except.ok.inj h).symm, hlt, hgt⟩
    · simp only [hgt, if_true] at h
      exact ⟨greatest, (Except.ok.inj h).symm, hle, lt_self _⟩
  · simp only [hlt, if_true, habove, hle, Bool.false_eq_true, if_false, Except.ok.injEq,
      exists_eq_left'] at h
    exact ⟨least, (Except.ok.inj h).symm, lt_self _, hle⟩

lemma magnitude_real {σ : Type} {s s' : σ} (horder : order.realNumber?.isSome = true)
    {forward : Bool} {vectors : StartVectors Number} {probe : Number → Action σ (List Number)}
    {start : Except Failure Number} {v : Value}
    (h : (magnitude double (order.candidates wideMode) forward vectors probe start).outcome s =
      (.ok v, s')) : ∃ y, v = .real y := by
  simp only [magnitude, Action.outcome_bind_eq_ok, Action.outcome_lift, Prod.mk.injEq] at h
  obtain ⟨size, _, -, slopeSize, _, -, endSlope, _, -, bend, _, -, w, _, ⟨hw, -⟩, hv, -⟩ := h
  obtain ⟨y, rfl⟩ := proposal_real horder hw
  exact limited_real hv

end InitialStep

namespace StartProblem

variable {σ : Type} {s s' : σ} {wideMode : Bool} {P : StartProblem}
  {dynamics : Dynamics σ Value Value} {least greatest : Number} {v : Value}

/-- A real step in the direction of integration is the step or its opposite. -/
lemma directed_real {h : Number} (hv : P.directed (.real h) = .ok v) :
    ∃ x, v = .real x ∧ x.abs = h.abs := by
  unfold directed at hv
  split_ifs at hv
  · exact ⟨h, (Except.ok.inj hv).symm, rfl⟩
  · exact ⟨h.neg, (Except.ok.inj hv).symm, abs_neg h⟩

/-- The estimate is a real step with a magnitude between the bounds. -/
theorem estimate_real (horder : P.order.realNumber?.isSome = true)
    (hnumber : least.isNaN = false) (hsign : least.isNegative = false)
    (hle : greatest.lt least = false)
    (h : (P.estimate wideMode dynamics (.real least) (.real greatest)).outcome s = (.ok v, s')) :
    ∃ x, v = .real x ∧ x.abs.lt least = false ∧ greatest.lt x.abs = false := by
  simp only [estimate, Action.outcome_bind_eq_ok, Action.outcome_lift, Prod.mk.injEq] at h
  obtain ⟨refused, _, ⟨-, rfl⟩, h⟩ := h
  cases refused
  case true => simp at h
  simp only [Bool.false_eq_true, if_false, Action.outcome_bind_eq_ok, Action.outcome_lift,
    Prod.mk.injEq] at h
  obtain ⟨_, _, -, _, _, -, w, _, hw, bound, _, ⟨hbound, -⟩, hv, -⟩ := h
  obtain ⟨y, rfl⟩ := InitialStep.magnitude_real horder hw
  obtain ⟨z, rfl, hleast, hgreatest⟩ := InitialStep.bounded_ok (e := Value.real)
    Value.candidates_isBelow Value.candidates_isAbove hle hbound
  obtain ⟨x, rfl, hx⟩ := directed_real hv
  have hzero : z.lt (.finite 0) = false := by
    by_contra hlt
    simp [lt_of_lt_of_not_lt (by simpa using hlt) hnumber (lt_zero_of_isNegative hsign)] at hleast
  refine ⟨x, rfl, ?_, ?_⟩
  · rwa [hx, abs_lt hzero]
  · rwa [hx, lt_abs hzero]

end StartProblem

namespace Policy

variable {p : Policy}

/-- Every first step that the policy gives, prescribed or estimated, comes back from its filter as
it is. -/
def PassesFirstSteps (p : Policy) : Prop :=
  ∀ (σ : Type) (s s' : σ) (wideMode : Bool) (dynamics : Dynamics σ Value Value) (P : StartProblem)
    (h : Value) (acceptSmall : Bool), P.order.realNumber?.isSome = true →
    (p.firstStep wideMode dynamics P).outcome s = (.ok h, s') →
    p.filterStep wideMode h P.forward acceptSmall = .ok ⟨h, .proposal⟩

lemma firstStep_of_prescribed {σ : Type} {s : σ} {wideMode : Bool}
    {dynamics : Dynamics σ Value Value} {P : StartProblem} {v : Number}
    (hv : p.controls.initialStep = some v) :
    (p.firstStep wideMode dynamics P).outcome s = (P.directed (.real v), s) := by
  simp only [firstStep, StartProblem.firstStep, bounds, hv, Option.map_some, Action.outcome_lift]

lemma PassesFirstSteps.stepFits (h : p.PassesFirstSteps) (hproper : p.controls.Proper) :
    p.controls.StepFits := by
  intro v hv
  let P : StartProblem := ⟨default, .absent, .integer 1, true⟩
  have hpass := h Unit () () false (fun _ _ => throw .divisionByZero) P (.real v) false rfl
    (firstStep_of_prescribed hv)
  exact Value.fits_of_filterStep_real (hproper.initial_holds v hv) hproper.least_holds
    hproper.greatest_holds hproper.greatest_sign hpass

/-- The filter passes the first steps of a policy whose bounds are in order exactly if the stored
step, if there is one, fits the bounds. A step fits them if it was a plain real number when it was
prescribed. -/
theorem passesFirstSteps_iff {admits : Call → Prop} (hp : Reached admits p)
    (hdoubles : ∀ c, admits c → c.HoldsDoubles) (hnumber : p.controls.least.isNaN = false)
    (hle : p.controls.greatest.lt p.controls.least = false) :
    (p.PassesFirstSteps ↔ p.controls.StepFits) ∧
      ((∀ c, admits c → c.PrescribesReal) → p.controls.StepFits) := by
  have hproper := hp.proper hdoubles
  refine ⟨⟨fun h => h.stepFits hproper, ?_⟩, fun hplain => hp.stepFits hdoubles hplain⟩
  intro hfits σ s s' wideMode dynamics P h acceptSmall horder hstep
  have hreal : ∃ x, h = .real x ∧ x.abs.lt p.controls.least = false ∧
      p.controls.greatest.lt x.abs = false := by
    cases hinitial : p.controls.initialStep with
    | none =>
      simp only [firstStep, StartProblem.firstStep, bounds, hinitial, Option.map_none] at hstep
      exact StartProblem.estimate_real horder hnumber hproper.least_sign hle hstep
    | some v =>
      rw [firstStep_of_prescribed hinitial, Prod.mk.injEq] at hstep
      obtain ⟨x, rfl, hx⟩ := StartProblem.directed_real hstep.1
      exact ⟨x, rfl, by rw [hx]; exact hfits v hinitial⟩
  obtain ⟨x, rfl, hleast, hgreatest⟩ := hreal
  exact Value.filterStep_real_of_fits hproper.greatest_sign hleast hgreatest _ _

/-- A policy with steps from seven tenths to ten. -/
def wideSteps : Policy where
  controls := ⟨Number.ofRat (7 / 10), .finite 10, .finite 1, .finite 1, none, none⟩
  mainDimension := none
  stepStart := none
  stepSize := .real (double.sqrt (double.mul (Number.ofRat (7 / 10)) (.finite 10)))

lemma create_wideSteps : create (.real (Number.ofRat (7 / 10))) (.real (.finite 10))
    (.real (.finite 1)) (.real (.finite 1)) = .ok wideSteps := by
  have hleast : double.abs (Number.ofRat (7 / 10)) = Number.ofRat (7 / 10) := by decide +kernel
  have hgreatest : double.abs (finite 10) = finite 10 := by decide +kernel
  simp [create, setStepSizeControl, configureScalar, setBounds, change, Action.outcome_bind,
    Value.isSequence, Value.toNumber, Value.elementToNumber, Controls.setLeast,
    Controls.setGreatest, hleast, hgreatest, reset, wideSteps, blank, Controls.blank]

lemma admits_wideSteps : (Call.setStepSizeControl (.real (Number.ofRat (7 / 10))) (.real (.finite 10))
    (.real (.finite 1)) (.real (.finite 1))).HoldsDoubles := by
  have hten : Number.ofRat 10 = finite 10 := by decide +kernel
  exact ⟨Value.holdsDouble_real (holds_ofRat _), Value.holdsDouble_real (hten ▸ holds_ofRat _)⟩

lemma reached_wideSteps : Reached Call.HoldsDoubles wideSteps :=
  Reached.create admits_wideSteps create_wideSteps

theorem passesFirstSteps_wideSteps :
    Reached Call.HoldsDoubles wideSteps ∧ wideSteps.PassesFirstSteps := by
  refine ⟨reached_wideSteps, ?_⟩
  have hiff := passesFirstSteps_iff reached_wideSteps (fun _ h => h) (by decide +kernel)
    (by decide +kernel)
  exact hiff.1.mpr (by simp [Controls.StepFits, wideSteps])

/-- Seven tenths as an item of a single precision array. -/
def narrowStep : Value :=
  .scalar (.real .float32) (.ofReal (float32.convert (Number.ofRat (7 / 10))))

/-- The policy after the narrow step was prescribed. It is below the minimal step, but it is compared
in single precision, where it equals that step. -/
def narrowSteps : Policy :=
  { wideSteps with
    controls := { wideSteps.controls with
      initialStep := some (float32.convert (Number.ofRat (7 / 10))) } }

lemma reached_narrowSteps : Reached Call.HoldsDoubles narrowSteps := by
  have hkept : wideSteps.ignores false narrowStep = .ok false := by
    have h : (wideSteps.ignores false narrowStep).toOption = some false := by decide +kernel
    cases hi : wideSteps.ignores false narrowStep <;> simp_all [Except.toOption]
  have hnumber : narrowStep.toNumber = .ok (float32.convert (Number.ofRat (7 / 10))) := by
    simp only [narrowStep, Value.toNumber, Value.elementToNumber, ComplexNumber.ofReal]
    rw [convert_of_holds (holds_float64 (holds_convert _))]
  refine Reached.call (c := .setInitialStep narrowStep) false reached_wideSteps ?_ ?_
  · rintro x (h | h) <;> simp [narrowStep] at h
  · simp [Call.perform, setInitialStep, change, Action.outcome_bind, hkept, hnumber, narrowSteps]

theorem narrowSteps_not_passed :
    Reached Call.HoldsDoubles narrowSteps ∧ narrowSteps.controls.least.isNaN = false ∧
      narrowSteps.controls.greatest.isNaN = false ∧
      narrowSteps.controls.greatest.lt narrowSteps.controls.least = false ∧
      ¬narrowSteps.PassesFirstSteps := by
  refine ⟨reached_narrowSteps, by decide +kernel, by decide +kernel, by decide +kernel, ?_⟩
  intro h
  have hfits := h.stepFits (reached_narrowSteps.proper fun _ hc => hc) _ rfl
  have hbelow : (float32.convert (Number.ofRat (7 / 10))).abs.lt narrowSteps.controls.least =
      true := by decide +kernel
  exact absurd hfits.1 (by rw [hbelow]; decide)

end Policy

end AdaptiveStep
