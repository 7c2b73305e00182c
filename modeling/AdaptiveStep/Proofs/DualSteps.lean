import AdaptiveStep.Proofs.RealSteps
import AdaptiveStep.Proofs.StableSteps

/-!
# The filter on dual numbers

The filter tests a dual number by its value alone, and a constant in the field of a dual number is that
number times zero, to which the bound is added. If the value is finite this is the bound without a
derivative, and NaN passes like any other number that is beyond no bound. So the filter commutes with the
projection on the value, up to signs of zeros. Infinity times zero is NaN, and an infinite step, which is
always cut, is cut to NaN.
-/

namespace AdaptiveStep

open Extended FloatType InitialStep

namespace Extended

variable {x y : Number}

/-- Numbers that are the same, as far as signs of zeros are not looked at. -/
def Alike (x y : Number) : Prop := x = y ∨ (x.isZero = true ∧ y.isZero = true)

lemma place_of_isZero (hx : x.isZero = true) : x.isNaN = false ∧ x.place = (finite 0 : Number).place := by
  rcases x with _ | _ | _ | q
  case finite =>
    obtain rfl : q = 0 := by simpa [isZero] using hx
    exact ⟨rfl, rfl⟩
  case negativeZero => exact ⟨rfl, rfl⟩
  all_goals simp [isZero] at hx

/-- Numbers that are alike are on the same side of every other number. -/
lemma Alike.lt (h : Alike x y) (b : Number) : x.lt b = y.lt b ∧ b.lt x = b.lt y := by
  rcases h with rfl | ⟨hx, hy⟩
  · exact ⟨rfl, rfl⟩
  · obtain ⟨hxnan, hxplace⟩ := place_of_isZero hx
    obtain ⟨hynan, hyplace⟩ := place_of_isZero hy
    constructor <;> rw [Bool.eq_iff_iff, lt_iff, lt_iff, hxnan, hynan, hxplace, hyplace]

end Extended

/-- A zero in front of a number changes at most the sign of a zero. -/
lemma FloatType.alike_add {t : FloatType} {x y : Number} (hx : x.isZero = true) (hy : t.Holds y) :
    Alike (t.rounding.add x y) y := by
  rcases x with _ | _ | _ | a
  case negativeZero => cases y <;> exact .inl rfl
  case finite =>
    obtain rfl : a = 0 := by simpa [isZero] using hx
    cases y
    case finite b =>
      left
      rw [Rounding.add, zero_add, round_eq_self hy]
    case negativeZero => exact .inr ⟨hx, rfl⟩
    all_goals exact .inl rfl
  all_goals simp [isZero] at hx

namespace Value

variable {wideMode : Bool} {d e : Dual} {y b least greatest : Number}

/-- A dual number without a derivative, with a value like that of the real number. -/
def IsConstantDual (v w : Value) : Prop :=
  ∃ e y, v = dual e ∧ w = real y ∧ Alike e.value y ∧ e.derivative.isZero = true

lemma sameSide_dual (he : float64.Holds e.value) (hy : float64.Holds y) (halike : Alike e.value y) :
    SameSide wideMode (dual e) (real y) := by
  intro b hb
  have hsub {x : Number} (hx : float64.Holds x) : (finite 0).lt (double.sub x b) = b.lt x :=
    (sign_sub hx hb).2
  have hadd {x : Number} (hx : float64.Holds x) : (double.add x b).lt (finite 0) = x.lt b.neg := by
    rw [double, arithmetic_add, add_eq_sub_neg]
    exact (sign_sub hx (holds_neg hb)).1
  constructor
  · change Except.ok ((finite 0).lt (double.sub e.value b)) = .ok ((finite 0).lt (double.sub y b))
    rw [hsub he, hsub hy, (halike.lt b).2]
  · change Except.ok ((double.add e.value b).lt (finite 0)) = .ok ((double.add y b).lt (finite 0))
    rw [hadd he, hadd hy, (halike.lt b.neg).1]

/-- What the filter makes of a bound in the field of a dual number. -/
def constantDual (d : Dual) (b : Number) : Dual :=
  Operation.add.dual (Operation.mul.dual d ⟨finite 0, finite 0⟩) ⟨b, finite 0⟩

lemma constantLike_dual (d : Dual) (b : Number) :
    constantLike wideMode (dual d) (real b) = .ok (dual (constantDual d b)) := rfl

lemma constantDual_of_finite (hvalue : float64.HoldsFinite d.value)
    (hderivative : float64.HoldsFinite d.derivative) (hb : float64.Holds b) :
    float64.Holds (constantDual d b).value ∧ Alike (constantDual d b).value b ∧
      (constantDual d b).derivative.isZero = true := by
  have hzero : (finite 0 : Number).isZero = true := by simp [isZero]
  have hproduct := isZero_mul_zero hvalue
  refine ⟨(add_of_isZero hproduct hb).1, alike_add hproduct hb, ?_⟩
  exact isZero_add (isZero_add (isZero_mul_zero hderivative) hproduct) hzero

/-- The filter cannot tell a dual number with finite parts from its value. -/
lemma imitates_dual (hvalue : float64.HoldsFinite d.value)
    (hderivative : float64.HoldsFinite d.derivative) :
    Imitates wideMode IsConstantDual (dual d) (real d.value) where
  below := fun _ => rfl
  tooSmall := fun _ => rfl
  side := sameSide_dual hvalue.1 hvalue.1 (.inl rfl)
  constant := fun b hb => by
    obtain ⟨hholds, halike, hzero⟩ := constantDual_of_finite hvalue hderivative hb
    exact ⟨_, _, constantLike_dual d b, rfl, ⟨_, b, rfl, rfl, halike, hzero⟩,
      sameSide_dual hholds hb halike⟩

/-- A bound in the field of an infinite dual number is NaN. -/
lemma constantDual_of_infinite (hinfinite : d.value.isInfinite = true) (b : Number) :
    (constantDual d b).value = .nan := by
  have hproduct : double.mul d.value (finite 0) = .nan := by
    cases hvalue : d.value <;> simp_all [isInfinite, double, Rounding.mul, value?, isNaN, isZero]
  change double.add (double.mul d.value (finite 0)) b = .nan
  rw [hproduct]
  exact Rounding.nan_add (R := float64.rounding) b

/-- NaN is beyond no bound, so that the filter gives it back. -/
lemma agree_of_nan (hnan : d.value.isNaN = true) (hsign : greatest.lt (finite 0) = false)
    (forward acceptSmall : Bool) :
    Agree IsConstantDual (dual d) (real d.value)
      (filterStep wideMode (dual d) forward acceptSmall (real least) (real greatest))
      (filterStep wideMode (real d.value) forward acceptSmall (real least) (real greatest)) := by
  have habs : d.value.abs = .nan := by
    cases h : d.value <;> simp_all [isNaN, Extended.abs]
  have hleast : d.value.abs.lt least = false := by rw [habs, nan_lt]
  have hgreatest : greatest.lt d.value.abs = false := by rw [habs, lt_nan]
  have hdual : (dual d).TestsAs wideMode float64 id d.value := testsAs_dual d
  have hreal : (real d.value).TestsAs wideMode float64 id d.value := testsAs_real d.value
  rw [filterStep, filterStep, (hdual.passes hsign hleast hgreatest).filterStep,
    (hreal.passes hsign hleast hgreatest).filterStep]
  exact ⟨rfl, rfl, rfl⟩

/-- An infinite step is cut, in the field of a dual number to NaN. -/
lemma not_agree_of_infinite (hinfinite : d.value.isInfinite = true)
    (hlimits : StepLimits least greatest) (hfinite : greatest.isInfinite = false)
    (forward acceptSmall : Bool) :
    ¬Agree IsConstantDual (dual d) (real d.value)
      (filterStep wideMode (dual d) forward acceptSmall (real least) (real greatest))
      (filterStep wideMode (real d.value) forward acceptSmall (real least) (real greatest)) := by
  intro hagree
  obtain ⟨-, hnumber, -⟩ := double_le_iff.mp hlimits.ordered
  have hvalue : float64.Holds d.value := by
    cases h : d.value <;> simp_all [isInfinite, Holds]
  have habs : d.value.abs = .infinity false := by
    cases h : d.value <;> simp_all [isInfinite, Extended.abs]
  have hlarge : d.value.abs.lt least = false := by rw [habs, infinity_lt]
  have hbeyond : greatest.lt d.value.abs = true := by
    rw [habs]
    cases greatest <;> simp_all [isInfinite, isNaN, lt]
  have hcut : (directed double (!d.value.isNegative) greatest).isNaN = false := by
    cases d.value.isNegative
    · exact hnumber
    · exact (isNaN_neg greatest).trans hnumber
  obtain ⟨source, hsource, hreal⟩ := (filterStep_real_cases wideMode hvalue
    hlimits.holds_least hlimits.holds_greatest hlimits.greatest_not_lt_zero forward acceptSmall).2.2.1
      hlarge hbeyond
  rw [hreal] at hagree
  obtain ⟨c, hdual, e, y, rfl, hy, halike, -⟩ := hagree.of_constant hsource
  obtain rfl := Value.real.inj hy
  rcases StepField.filterStep_cases hdual with ⟨hproposal, -⟩ | ⟨-, bound, hbound, hconstant⟩
  · exact hsource (congrArg FilteredStep.source hproposal)
  obtain ⟨b, rfl, -⟩ := exists_limit hbound
  obtain rfl : constantDual d b = e := Value.dual.inj (Except.ok.inj hconstant)
  rw [constantDual_of_infinite hinfinite] at halike
  rcases halike with hnan | ⟨hzero, -⟩
  · rw [← hnan] at hcut
    cases hcut
  · cases hzero

/-- The filter commutes with the projection of a dual number on its value exactly if the value is not
infinite: the same failure, or results with the same value, of which the dual one is the step that came in
or has no derivative. -/
theorem filterStep_dual_iff (hvalue : float64.Holds d.value)
    (hderivative : float64.HoldsFinite d.derivative) (hlimits : StepLimits least greatest)
    (hfinite : greatest.isInfinite = false) (forward acceptSmall : Bool) :
    Agree IsConstantDual (dual d) (real d.value)
        (filterStep wideMode (dual d) forward acceptSmall (real least) (real greatest))
        (filterStep wideMode (real d.value) forward acceptSmall (real least) (real greatest)) ↔
      d.value.isInfinite = false := by
  cases hinfinite : d.value.isInfinite
  · refine ⟨fun _ => rfl, fun _ => ?_⟩
    cases hnan : d.value.isNaN
    · have hnumber : d.value.value?.isSome = true := by
        cases h : d.value <;> simp_all [isInfinite, isNaN, value?]
      exact (imitates_dual ⟨hvalue, hnumber⟩ hderivative).filterStep hlimits.holds_least
        hlimits.holds_greatest forward acceptSmall
    · exact agree_of_nan hnan hlimits.greatest_not_lt_zero forward acceptSmall
  · exact iff_of_false (not_agree_of_infinite hinfinite hlimits hfinite forward acceptSmall) (by simp)

/-- A large dual step is cut to the maximal step and loses its derivative. -/
theorem filterStep_dual_twenty :
    (finite 20 : Number).isInfinite = false ∧ StepLimits (finite 1) (finite 10) ∧
      Agree IsConstantDual (dual ⟨finite 20, finite 3⟩) (real (finite 20))
        (filterStep false (dual ⟨finite 20, finite 3⟩) true false (real (finite 1)) (real (finite 10)))
        (filterStep false (real (finite 20)) true false (real (finite 1)) (real (finite 10))) ∧
      filterStep false (dual ⟨finite 20, finite 3⟩) true false (real (finite 1)) (real (finite 10)) =
        .ok ⟨dual ⟨finite 10, finite 0⟩, .greatest⟩ := by
  have hvalue : float64.Holds (finite 20) := holds_of_convert_eq (by decide +kernel)
  have hderivative : float64.HoldsFinite (finite 3) := ⟨holds_of_convert_eq (by decide +kernel), rfl⟩
  have hconstant : constantDual ⟨finite 20, finite 3⟩ (finite 10) = ⟨finite 10, finite 0⟩ := by
    decide +kernel
  refine ⟨rfl, limits_one_ten,
    (filterStep_dual_iff (d := ⟨finite 20, finite 3⟩) hvalue hderivative limits_one_ten rfl true false).mpr
      rfl, ?_⟩
  rw [← hconstant]
  exact StepField.filterStep_above (ok_of_toOption (by decide +kernel)) (ok_of_toOption (by decide +kernel))
    (constantLike_dual _ _) true false

/-- An infinite dual step is cut to NaN, while an infinite real step is cut to the maximal step. -/
theorem infiniteDual_not_cut :
    StepLimits (finite 1) (finite 10) ∧ float64.HoldsFinite (finite 1) ∧
      filterStep false (dual ⟨.infinity false, finite 1⟩) true false (real (finite 1)) (real (finite 10)) =
        .ok ⟨dual ⟨.nan, .nan⟩, .greatest⟩ ∧
      filterStep false (real (.infinity false)) true false (real (finite 1)) (real (finite 10)) =
        .ok ⟨real (finite 10), .greatest⟩ := by
  have hconstant : constantDual ⟨.infinity false, finite 1⟩ (finite 10) = ⟨.nan, .nan⟩ := by
    decide +kernel
  refine ⟨limits_one_ten, ⟨holds_of_convert_eq (by decide +kernel), rfl⟩, ?_, ?_⟩
  · rw [← hconstant]
    exact StepField.filterStep_above (ok_of_toOption (by decide +kernel))
      (ok_of_toOption (by decide +kernel)) (constantLike_dual _ _) true false
  · exact StepField.filterStep_above (ok_of_toOption (by decide +kernel))
      (ok_of_toOption (by decide +kernel)) rfl true false

end Value

end AdaptiveStep
