import AdaptiveStep.Proofs.DeviceNumbers

/-!
# The step after a rejected attempt

After a rejected attempt whose error is a number the next step is smaller or the integration ends,
if the step is normal in the configured type. An error that is NaN is rejected as well, but it makes
the next step nine times as long, so the integration may go on with the same step for ever.
-/

namespace AdaptiveStep

open Extended FloatType

namespace Precision

variable {q : Precision} {x y : Number}

/-- The step that is proposed after an attempt, for the exponent of the update formula. -/
def proposed (q : Precision) (error h exponent : Number) : Number :=
  proposeStep q.arithmetic q.standardFactors (q.plain exponent) (q.type.convert error)
    (q.type.convert h)

lemma holds_proposed (error h exponent : Number) : q.type.Holds (q.proposed error h exponent) :=
  holds_mul _ _

lemma lt_of_plain_lt (h : (q.plain x).lt (q.plain y) = true) : x.lt y = true :=
  lt_of_convert_lt (lt_of_convert_lt h)

/-- The numbers of the configured type are among those of the default type of the device. -/
lemma plain_of_holds (hq : q.Wide) (hx : q.type.Holds x) : q.plain x = x := by
  obtain ⟨t, wideMode⟩ := q
  cases wideMode
  · have hsingle : float32.Holds x := by
      cases t
      case float16 =>
        cases x
        case finite a => exact holdsWithin_of_le (by decide) (by decide) (by decide) hx
        all_goals trivial
      case bfloat16 => exact holds_float32_of_bfloat16 hx
      case float32 => exact hx
      case float64 => exact absurd (hq rfl) Bool.false_ne_true
    change t.convert (float32.convert x) = x
    rw [convert_of_holds hsingle, convert_of_holds hx]
  · change t.convert (float64.convert x) = x
    rw [convert_of_holds (holds_float64 hx), convert_of_holds hx]

end Precision

namespace Policy

/-- The step after an attempt with the given error, if steps below the minimal one end the
integration. -/
def stepAfter (q : Precision) (p : Policy) (error h : Number) (order : Value) (forward : Bool) :
    Except Failure (FilteredStep Value) := do
  let next ← Value.proposeStep q ((ScaleFactors.standard double).map .real)
    (.array (q.number error)) (.real h) order
  p.filterStep q.wideMode (.array next) forward false

/-- Either the integration ends because of the minimal step, or the next step is strictly smaller
than the last one. -/
def Shrinks (h : Number) : Except Failure (FilteredStep Value) → Prop
  | .error e => ∃ x y, e = .minimalStep x y
  | .ok r => ∃ x, r.step.toNumber = .ok x ∧ x.abs.lt h.abs = true

variable {q : Precision} {p : Policy} {error h exponent : Number} {order : Value} {forward : Bool}

/-- The next step shrinks exactly if the proposal is too small for the integration to go on, or
smaller than the last step, or cut to a maximal step that rounds to a smaller one. -/
theorem shrinks_stepAfter_iff (hq : q.Wide) (hsign : p.controls.greatest.isNegative = false)
    (hh : p.controls.greatest.lt h.abs = false)
    (hexponent : order.stepExponent q.wideMode = .ok (.real exponent)) :
    Shrinks h (p.stepAfter q error h order forward) ↔
      (q.proposed error h exponent).abs.lt (q.plain p.controls.least) = true ∨
        (q.proposed error h exponent).abs.lt h.abs = true ∨
        ((q.plain p.controls.greatest).lt (q.proposed error h exponent).abs = true ∧
          (q.type.convert p.controls.greatest).lt h.abs = true) := by
  have hheld := q.holds_proposed error h exponent
  have hstep : p.stepAfter q error h order forward =
      p.filterStep q.wideMode (.array (q.number (q.proposed error h exponent))) forward false := by
    simp only [stepAfter, Value.proposeStep_number hexponent, bind, Except.bind]
    rfl
  generalize q.proposed error h exponent = x at hheld hstep ⊢
  -- a proposal that is smaller than the last step is not cut
  have huncut : x.abs.lt h.abs = true → (q.plain p.controls.greatest).lt x.abs = false := by
    intro hlt
    by_contra hcut
    have hheld' : q.plain x.abs = x.abs := Precision.plain_of_holds hq (holds_abs hheld)
    have hgreatest : p.controls.greatest.lt x.abs = true :=
      Precision.lt_of_plain_lt (by rw [hheld']; simpa using hcut)
    rw [lt_trans hgreatest hlt] at hh
    simp at hh
  have hplain : (q.plain p.controls.greatest).isNegative = false := by
    rw [Precision.plain, isNegative_convert, isNegative_convert, hsign]
  have hgreatest : (q.type.convert p.controls.greatest).abs = q.type.convert p.controls.greatest :=
    abs_eq_self (by rw [isNegative_convert, hsign])
  have hopposite : (q.type.convert p.controls.greatest.neg).abs =
      q.type.convert p.controls.greatest := by
    rw [convert_neg, Extended.abs_neg, hgreatest]
  have hshrinks {y : Number} (hy : q.type.Holds y) (source : StepSource) :
      Shrinks h (.ok ⟨.array (q.number y), source⟩) ↔ y.abs.lt h.abs = true := by
    simp [Shrinks, Value.toNumber_number hy]
  rw [hstep, filterStep, Value.filterStep_number hq hheld, lt_abs_eq hplain]
  rw [lt_abs_eq hplain] at huncut
  split_ifs with hleast habove hbelow
  · simp [Shrinks, hleast]
  · have hnot : x.abs.lt h.abs = false := by
      by_contra hlt
      simpa [habove] using huncut (by simpa using hlt)
    rw [hshrinks (holds_convert _), hgreatest]
    simp [hleast, habove, hnot]
  · have hnot : x.abs.lt h.abs = false := by
      by_contra hlt
      simpa [hbelow] using huncut (by simpa using hlt)
    rw [hshrinks (holds_convert _), hopposite]
    simp [hleast, hbelow, hnot]
  · rw [hshrinks hheld]
    simp [hleast, habove, hbelow]

lemma holds_leastNormal (t : FloatType) : t.Holds (finite (2 ^ t.format.minExponent)) := by
  refine ⟨⟨1, t.format.minExponent, ?_, ?_, ?_⟩, ?_⟩
  · rw [abs_of_pos (two_zpow_pos _), Nat.cast_one, one_mul]
  · cases t <;> decide
  · cases t <;> decide
  · rw [abs_of_pos (two_zpow_pos _), two_zpow_lt_iff]
    cases t <;> decide

/-- After an error that is a number the proposal is smaller than a step that is normal in the
configured type. -/
lemma proposed_lt_of_number (hq : q.Wide) (hnumber : error.isNaN = false)
    (herror : error.lt (finite 1) = false) (hexponent : exponent.isNaN = false)
    (hexponent0 : exponent.isNegative = false)
    (hnormal : h.abs.lt (finite (2 ^ q.type.format.minExponent)) = false)
    (hfinite : (q.type.convert h).isInfinite = false) (hh : h.isNaN = false) :
    (q.proposed error h exponent).abs.lt h.abs = true := by
  have herror' : (q.type.convert error).lt (finite 1) = false :=
    convert_lt_of_holds (holds_one q.type) herror
  have hnumber' : (q.type.convert error).isNaN = false := by rwa [isNaN_convert]
  have hplain : (q.plain exponent).isNaN = false ∧ (q.plain exponent).isNegative = false := by
    simp [Precision.plain, isNegative_convert, hexponent, hexponent0]
  obtain ⟨s, hs, hs0, hs1⟩ :=
    stepFactor_number hq hnumber' herror' hplain.1 (lt_zero_of_isNegative hplain.2)
  have hproposed : q.proposed error h exponent =
      q.type.rounding.mul (q.type.convert h) (finite s) := by
    rw [Precision.proposed, proposeStep, hs]
    rfl
  have hbounded := convert_lt_of_holds (holds_leastNormal q.type) hnormal
  have hconvert : q.type.convert h.abs = (q.type.convert h).abs := convert_abs h
  have hsmaller : (q.proposed error h exponent).abs.lt (q.type.convert h.abs) = true := by
    rw [hproposed, abs_mul (by simp [isNegative, hs0.le, not_lt]), ← hconvert]
    have hnumber : (q.type.convert h.abs).isNaN = false := by rwa [isNaN_convert, isNaN_abs]
    have hheld := holds_convert (t := q.type) h.abs
    rw [hconvert] at hheld hbounded hnumber ⊢
    have hfinite' : (q.type.convert h).abs.isInfinite = false := by rwa [isInfinite_abs]
    have hsigned := isNegative_abs (q.type.convert h)
    generalize (q.type.convert h).abs = x at hheld hbounded hnumber hfinite' hsigned ⊢
    cases x
    case finite a => exact mul_lt_self hheld (by simpa [lt] using hbounded) hs0 hs1
    all_goals simp_all [isNaN, isInfinite, isNegative]
  by_contra hnot
  rw [lt_convert_of_holds (holds_abs (q.holds_proposed error h exponent))
    (by simpa using hnot)] at hsmaller
  simp at hsmaller

/-- After an error that is NaN the proposal is nine times as long. -/
lemma proposed_nan (hq : q.Wide) :
    (q.proposed .nan h exponent).abs = q.type.rounding.mul (q.type.convert h).abs (finite 9) := by
  have hnan : q.type.convert .nan = .nan := by
    obtain ⟨t, wideMode⟩ := q
    cases t <;> rfl
  rw [Precision.proposed, hnan, proposeStep, stepFactor_nan hq]
  exact abs_mul (by simp [isNegative])

lemma lt_proposed_nan (hq : q.Wide) (hzero : (q.type.convert h).isZero = false)
    (hh : h.isNaN = false) (hfinite : h.isInfinite = false) :
    h.abs.lt (q.proposed .nan h exponent).abs = true := by
  have hpositive : (finite 0).lt (q.type.convert h).abs = true :=
    zero_lt_abs (by rwa [isNaN_convert]) hzero
  have hheld := holds_abs (holds_convert (t := q.type) h)
  rw [proposed_nan hq]
  rcases lt_mul_nine hheld hpositive with hlt | hinfinite
  · have hproduct := holds_mul (t := q.type) (q.type.convert h).abs (finite 9)
    rw [← convert_abs] at hlt hproduct ⊢
    by_contra hnot
    rw [convert_lt_of_holds hproduct (by simpa using hnot)] at hlt
    simp at hlt
  · have hnine : q.type.rounding.mul (.infinity false) (finite 9) = .infinity false := by
      simp [Rounding.mul, value?, isNaN, isZero, isNegative]
    rw [hinfinite, hnine]
    have hnumber : h.abs.isNaN = false := by rwa [isNaN_abs]
    have hfinite' : h.abs.isInfinite = false := by rwa [isInfinite_abs]
    generalize h.abs = x at hnumber hfinite' ⊢
    rcases x with _ | _ | _ | a <;> simp_all [isNaN, isInfinite, lt]

/-- An order that is too large for a double ends the computation of the step. -/
lemma not_shrinks_of_tooLarge {e : Failure} {r : Number} (hreal : order.realNumber? = some r)
    (horder : order.toNumber = .error e) : ¬Shrinks h (p.stepAfter q error h order forward) := by
  obtain ⟨hexponent, hminimal⟩ := Value.stepExponent_error q.wideMode hreal horder
  simp [stepAfter, Value.proposeStep_error hexponent, bind, Except.bind, Shrinks, hminimal]

/-- The exact condition for the step after a rejected attempt to shrink. It holds for every error that
is a number, if the step is normal in the configured type. For an error that is NaN it is that the
step vanishes in the configured type, or that nine times the step is still below the minimal step, or
that it is cut to a maximal step that rounds to less than the step. -/
theorem stepAfter_shrinks (hq : q.Wide) {errors old new : Value}
    (herror : p.errorNorm q errors old new = .ok error)
    (hrejected : q.arithmetic.le error (q.arithmetic.ofRat 1) = false)
    (hsign : p.controls.greatest.isNegative = false)
    (hh : p.controls.greatest.lt h.abs = false) (hnumber : h.isNaN = false)
    (hnonzero : h.isZero = false) (hfinite : h.isInfinite = false) {r : Number}
    (hreal : order.realNumber? = some r) (hr : r.isNaN = false) (hr0 : r.lt (finite 0) = false) :
    (∀ x, order.toNumber = .ok x → error.isNaN = false →
      h.abs.lt (finite (2 ^ q.type.format.minExponent)) = false →
      (q.type.convert h).isInfinite = false → Shrinks h (p.stepAfter q error h order forward)) ∧
    (∀ x, order.toNumber = .ok x → error.isNaN = true →
      (Shrinks h (p.stepAfter q error h order forward) ↔
        (q.type.convert h).isZero = true ∨
        (q.type.rounding.mul (q.type.convert h).abs (finite 9)).lt
          (q.plain p.controls.least) = true ∨
        ((q.plain p.controls.greatest).lt
            (q.type.rounding.mul (q.type.convert h).abs (finite 9)) = true ∧
          (q.type.convert p.controls.greatest).lt h.abs = true))) ∧
    (Shrinks h (p.stepAfter q error h order forward) ↔
      ∃ exponent, order.stepExponent q.wideMode = .ok (.real exponent) ∧
        ((q.proposed error h exponent).abs.lt (q.plain p.controls.least) = true ∨
          (q.proposed error h exponent).abs.lt h.abs = true ∨
          ((q.plain p.controls.greatest).lt (q.proposed error h exponent).abs = true ∧
            (q.type.convert p.controls.greatest).lt h.abs = true))) := by
  have hexponent {x : Number} (horder : order.toNumber = .ok x) :
      ∃ y, order.stepExponent q.wideMode = .ok (.real (finite y)) ∧ 0 ≤ y ∧ y ≤ 1 :=
    Value.stepExponent_real hreal hr hr0 horder
  have hiff {y : Number} (hy : order.stepExponent q.wideMode = .ok (.real y)) :
      Shrinks h (p.stepAfter q error h order forward) ↔
        (q.proposed error h y).abs.lt (q.plain p.controls.least) = true ∨
          (q.proposed error h y).abs.lt h.abs = true ∨
          ((q.plain p.controls.greatest).lt (q.proposed error h y).abs = true ∧
            (q.type.convert p.controls.greatest).lt h.abs = true) :=
    shrinks_stepAfter_iff hq hsign hh hy
  refine ⟨fun x horder hnumberError hnormal hfinite' => ?_, fun x horder hnan => ?_, ?_⟩
  · obtain ⟨y, hy, hy0, -⟩ := hexponent horder
    have hone : q.arithmetic.ofRat 1 = finite 1 := round_one
    have habove : error.lt (finite 1) = false := by
      have hlt : (finite 1).lt error = true := by
        rw [hone] at hrejected
        simpa [Arithmetic.le, Precision.arithmetic, Rounding.arithmetic, hnumberError,
          show (finite (1 : ℚ)).isNaN = false from rfl] using hrejected
      exact lt_asymm hlt
    have hsign' : (finite y).isNegative = false := by simp [isNegative, hy0]
    have hsmaller : (q.proposed error h (finite y)).abs.lt h.abs = true :=
      proposed_lt_of_number hq hnumberError habove rfl hsign' hnormal hfinite' hnumber
    exact (hiff hy).mpr (.inr (.inl hsmaller))
  · obtain ⟨y, hy, -, -⟩ := hexponent horder
    obtain rfl : error = .nan := by
      cases error <;> first | rfl | simp [isNaN] at hnan
    rw [hiff hy, proposed_nan hq]
    cases hzero : (q.type.convert h).isZero
    · have hlonger : h.abs.lt (q.proposed .nan h (finite y)).abs = true :=
        lt_proposed_nan hq hzero hnumber hfinite
      rw [proposed_nan hq] at hlonger
      simp [lt_asymm hlonger]
    · -- a step that vanishes is proposed again, and is smaller than the step
      have hproduct : (q.type.rounding.mul (q.type.convert h).abs (finite 9)).lt h.abs = true := by
        have hvanished : q.type.rounding.mul (q.type.convert h).abs (finite 9) = finite 0 := by
          rw [abs_of_isZero hzero]
          simp [Rounding.mul, value?, zero, isNegative]
        rw [hvanished]
        exact zero_lt_abs hnumber hnonzero
      simp [hproduct]
  · cases horder : order.toNumber with
    | error e =>
      obtain ⟨hfailed, -⟩ := Value.stepExponent_error q.wideMode hreal horder
      simp [not_shrinks_of_tooLarge hreal horder, hfailed]
    | ok x =>
      obtain ⟨y, hy, -, -⟩ := hexponent horder
      rw [hiff hy]
      simp [hy]

/-- A policy whose steps are all one half, with an absolute tolerance only. -/
def halfSteps (tolerance : Number) : Policy where
  controls := ⟨finite (1 / 2), finite (1 / 2), tolerance, finite 0, none, none⟩
  mainDimension := none
  stepStart := none
  stepSize := .real (finite (1 / 2))

lemma errorNorm_halfSteps {tolerance x y : Number} {old : Value}
    (h : ((halfSteps tolerance).errorNorm ⟨.float64, true⟩ (.list [.real x]) old old).toOption =
      some y) :
    (halfSteps tolerance).errorNorm ⟨.float64, true⟩ (.list [.real x]) old old = .ok y := by
  cases herror : (halfSteps tolerance).errorNorm ⟨.float64, true⟩ (.list [.real x]) old old <;>
    simp_all [Except.toOption]

/-- An error of two ends an integration that has a single step size. -/
theorem stepAfter_shrinks_halfSteps :
    (halfSteps (finite 1)).errorNorm ⟨.float64, true⟩ (.list [.real (finite 2)])
        (.list [.real (finite 1)]) (.list [.real (finite 1)]) = .ok (finite 2) ∧
      Shrinks (finite (1 / 2)) ((halfSteps (finite 1)).stepAfter ⟨.float64, true⟩ (finite 2)
        (finite (1 / 2)) (.integer 0) true) := by
  have herror : (halfSteps (finite 1)).errorNorm ⟨.float64, true⟩ (.list [.real (finite 2)])
      (.list [.real (finite 1)]) (.list [.real (finite 1)]) = .ok (finite 2) :=
    errorNorm_halfSteps (by decide +kernel)
  have hzero : (Value.integer 0).toNumber = .ok (finite 0) := by
    have hvalue : (Value.integer 0).toNumber.toOption = some (finite 0) := by decide +kernel
    cases hn : (Value.integer 0).toNumber <;> simp_all [Except.toOption]
  have hreal : (Value.integer 0).realNumber? = some (finite 0) := by simp [Value.realNumber?]
  refine ⟨herror, (stepAfter_shrinks (fun _ => rfl) herror ?_ ?_ ?_ rfl ?_ rfl hreal rfl ?_).1 _
    hzero rfl ?_ ?_⟩
  all_goals decide +kernel

lemma not_shrinks_of_step {r : Except Failure (FilteredStep Value)} {x : Number}
    (hr : (r.toOption.bind fun r => r.step.toNumber.toOption) = some x)
    (hx : x.abs.lt h.abs = false) : ¬Shrinks h r := by
  cases r with
  | error e => simp [Except.toOption] at hr
  | ok r =>
    rintro ⟨y, hy, hlt⟩
    obtain rfl : y = x := by simpa [Except.toOption, hy] using hr
    simp [hx] at hlt

/-- Without a tolerance the error of an exact step is NaN. The step is rejected and tried again. -/
theorem halfSteps_retried :
    create (.real (finite (1 / 2))) (.real (finite (1 / 2))) (.real (finite 0)) (.real (finite 0)) =
        .ok (halfSteps (finite 0)) ∧
      (halfSteps (finite 0)).errorNorm ⟨.float64, true⟩ (.list [.real (finite 0)])
        (.list [.real (finite 1)]) (.list [.real (finite 1)]) = .ok .nan ∧
      (Precision.arithmetic ⟨.float64, true⟩).le .nan
        ((Precision.arithmetic ⟨.float64, true⟩).ofRat 1) = false ∧
      ¬Shrinks (finite (1 / 2)) ((halfSteps (finite 0)).stepAfter ⟨.float64, true⟩ .nan
        (finite (1 / 2)) (.integer 0) true) := by
  have hhalf : double.abs (finite (1 / 2)) = finite (1 / 2) := by decide +kernel
  have hsize : double.sqrt (double.mul (finite (1 / 2)) (finite (1 / 2))) = finite (1 / 2) := by
    decide +kernel
  refine ⟨?_, errorNorm_halfSteps (by decide +kernel), by decide +kernel,
    not_shrinks_of_step (x := finite (1 / 2)) (by decide +kernel) (by decide +kernel)⟩
  simp [-one_div, create, setStepSizeControl, configureScalar, setBounds, change,
    Action.outcome_bind, Value.isSequence, Value.toNumber, Value.elementToNumber,
    Controls.setLeast, Controls.setGreatest, hhalf, hsize, reset, halfSteps, blank, Controls.blank]

end Policy

end AdaptiveStep
