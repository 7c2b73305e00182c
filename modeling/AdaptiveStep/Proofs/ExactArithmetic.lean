import AdaptiveStep.Integration
import AdaptiveStep.Proofs.OddRounding

/-!
# Exact arithmetic

The rules of step-size control over the real numbers, where nothing is rounded. The special values
stay, with the rules of floating-point arithmetic: a division by zero is infinite, and NaN is below
and above nothing.
-/

namespace AdaptiveStep

open Extended

/-- Nothing is rounded, and roots and powers are those of the real numbers. -/
noncomputable def exactRounding : Rounding ℝ where
  embed q := q
  nearest x := .finite x
  sqrt x := .finite (Real.sqrt x)
  power x y := .finite (x ^ y)

noncomputable def exact : Arithmetic (Extended ℝ) := exactRounding.arithmetic

/-- Everything in exact arithmetic. `tooSmall` names the failure of a step below the minimal step. -/
noncomputable def Setting.exact (tooSmall : Extended ℝ → Extended ℝ → Failure) :
    Setting (Extended ℝ) :=
  ⟨AdaptiveStep.exact, AdaptiveStep.exact, AdaptiveStep.exact.stepField tooSmall⟩

/-- A machine number as an exact one. -/
noncomputable def Extended.toReal : Number → Extended ℝ
  | nan => nan
  | infinity negative => infinity negative
  | negativeZero => negativeZero
  | finite q => finite q

namespace Extended

@[simp] lemma toReal_finite (q : ℚ) : toReal (finite q) = finite (q : ℝ) := rfl

@[simp] lemma isNaN_toReal (x : Number) : x.toReal.isNaN = x.isNaN := by
  cases x <;> rfl

@[simp] lemma isZero_toReal (x : Number) : x.toReal.isZero = x.isZero := by
  cases x <;> simp [toReal, isZero]

@[simp] lemma isNegative_toReal (x : Number) : x.toReal.isNegative = x.isNegative := by
  cases x <;> simp [toReal, isNegative]

@[simp] lemma toReal_lt (x y : Number) : x.toReal.lt y.toReal = x.lt y := by
  cases x <;> cases y <;> simp [toReal, lt]

end Extended

section

variable {a b : ℝ} {x y : Extended ℝ}

@[simp] lemma exact_round (a : ℝ) : exactRounding.round a = .finite a := by
  by_cases h : a = 0 <;> simp [Rounding.round, exactRounding, h]

@[simp] lemma exact_ofRat (q : ℚ) : exact.ofRat q = .finite (q : ℝ) := exact_round q

lemma exact_one : exact.ofRat 1 = .finite 1 := by
  rw [exact_ofRat, Rat.cast_one]

@[simp] lemma exact_lt : exact.lt = Extended.lt := rfl

@[simp] lemma exact_abs : exact.abs = Extended.abs := rfl

@[simp] lemma exact_neg : exact.neg = Extended.neg := rfl

@[simp] lemma exact_isNaN : exact.isNaN = Extended.isNaN := rfl

@[simp] lemma exact_isZero : exact.isZero = Extended.isZero := rfl

@[simp] lemma exact_add_finite : exact.add (.finite a) (.finite b) = .finite (a + b) :=
  exact_round (a + b)

@[simp] lemma exact_sub_finite : exact.sub (.finite a) (.finite b) = .finite (a - b) := by
  by_cases h : b = 0
  · simp [h, exact, Rounding.arithmetic, Rounding.sub, Rounding.add]
  · simp [exact, Rounding.arithmetic, Rounding.sub, Rounding.add, neg_finite h, sub_eq_add_neg]

lemma abs_finite (a : ℝ) : (Extended.finite a).abs = .finite |a| := by
  rcases lt_or_ge a 0 with h | h
  · simp [Extended.abs, h, abs_of_neg]
  · simp [Extended.abs, h.not_gt, abs_of_nonneg h]

lemma exact_mul_finite (h : a * b ≠ 0) : exact.mul (.finite a) (.finite b) = .finite (a * b) := by
  simp [exact, Rounding.arithmetic, Rounding.mul, value?, h, exactRounding]

lemma exact_div_finite (h : b ≠ 0) (ha : a ≠ 0) :
    exact.div (.finite a) (.finite b) = .finite (a / b) := by
  simp [exact, Rounding.arithmetic, Rounding.div, value?, h, ha, exactRounding]

lemma exact_mul_of_pos {a : ℝ} (ha : 0 < a) (b : ℝ) :
    exact.mul (finite a) (finite b) = finite (a * b) := by
  by_cases hb : b = 0
  · simp [exact, Rounding.arithmetic, Rounding.mul, value?, isNegative, zero, hb, ha.not_gt]
  · exact exact_mul_finite (mul_ne_zero ha.ne' hb)

lemma exact_div_of_pos {b : ℝ} (a : ℝ) (hb : 0 < b) :
    exact.div (finite a) (finite b) = finite (a / b) := by
  by_cases ha : a = 0
  · simp [exact, Rounding.arithmetic, Rounding.div, value?, isNegative, zero, ha, hb.ne', hb.not_gt]
  · exact exact_div_finite hb.ne' ha

lemma exact_convert_finite (a : ℝ) : exact.convert (finite a) = finite a := exact_round a

lemma exact_sqrt_finite (ha : 0 ≤ a) : exact.sqrt (.finite a) = .finite (Real.sqrt a) := by
  by_cases h : a = 0 <;>
    simp [exact, Rounding.arithmetic, Rounding.squareRoot, exactRounding, h, ha.not_gt]

lemma exact_sign_sub (x y : Extended ℝ) :
    (exact.sub x y).lt (.finite 0) = x.lt y ∧ (Extended.finite 0).lt (exact.sub x y) = y.lt x := by
  refine Rounding.sign_sub fun a b _ _ => ?_
  simp [lt, ← sub_eq_add_neg]

/-! ### The factor of the next step -/

lemma isNaN_exact_pow {y : ℝ} (hx : x.isNaN = false) (hsign : x.lt (.finite 0) = false) :
    (exact.pow x (.finite y)).isNaN = false := by
  have hone : exactRounding.ofRat 1 = .finite 1 := exact_one
  simp only [exact, Rounding.arithmetic, Rounding.pow, hone]
  split_ifs
  · rfl
  · rcases x with _ | (_ | _) | _ | a
    case finite =>
      have ha : ¬a < 0 := by simpa [lt] using hsign
      simp only [ha, if_false]
      split_ifs <;> rfl
    all_goals simp_all [isNaN, lt]
    all_goals split_ifs <;> rfl

lemma exact_reciprocal (hx : (Extended.finite 0).lt x = true) :
    (exact.div (.finite 1) x).isNaN = false ∧ (exact.div (.finite 1) x).lt (.finite 0) = false := by
  rcases x with _ | (_ | _) | _ | a
  case finite =>
    have ha : 0 < a := by simpa [lt] using hx
    rw [exact_div_finite ha.ne' one_ne_zero]
    simpa [isNaN, lt] using ha.le
  all_goals
    simp_all [exact, Rounding.arithmetic, Rounding.div, value?, isNaN, lt, zero, isNegative,
      not_lt.mpr (zero_le_one' ℝ)]

lemma isNaN_exact_mul_left (ha : a ≠ 0) (hx : x.isNaN = false) :
    (exact.mul (.finite a) x).isNaN = false := by
  cases x
  case finite b =>
    by_cases hb : b = 0
    · cases hs : ((Extended.finite a).isNegative ^^ (Extended.finite b).isNegative) <;>
        simp_all [exact, Rounding.arithmetic, Rounding.mul, value?, zero, isNaN]
    · rw [exact_mul_finite (mul_ne_zero ha hb)]
      rfl
  case negativeZero =>
    cases hs : ((Extended.finite a).isNegative ^^ (negativeZero : Extended ℝ).isNegative) <;>
      simp_all [exact, Rounding.arithmetic, Rounding.mul, value?, zero, isNaN]
  all_goals simp_all [exact, Rounding.arithmetic, Rounding.mul, value?, isNaN, isZero]

lemma exact_pow_one {a : ℝ} (ha : 0 < a) : exact.pow (finite a) (finite 1) = finite a := by
  have hone : exactRounding.ofRat 1 = finite 1 := exact_one
  have hpower : exactRounding.power a 1 = finite a := congrArg finite (Real.rpow_one a)
  simp [exact, Rounding.arithmetic, Rounding.pow, hone, hpower, isZero, ha.not_gt, ha.ne', eq_comm]

lemma exact_clip_self {l r u : ℝ} (hl : l ≤ r) (hu : r ≤ u) :
    exact.minNaN (exact.maxNaN (finite r) (finite l)) (finite u) = finite r := by
  simp [Arithmetic.minNaN, Arithmetic.maxNaN, Arithmetic.min, Arithmetic.max, isNaN, lt, hl.not_gt, hu.not_gt]

lemma exact_clip {l u : ℝ} (hl : 0 < l) (hlu : l ≤ u) (hx : x.isNaN = false) :
    ∃ r, exact.minNaN (exact.maxNaN x (.finite l)) (.finite u) = .finite r ∧ l ≤ r ∧ r ≤ u := by
  have hmin {r : ℝ} (hr : l ≤ r) :
      ∃ r', exact.minNaN (.finite r) (.finite u) = .finite r' ∧ l ≤ r' ∧ r' ≤ u := by
    by_cases h : u < r
    · exact ⟨u, by simp [Arithmetic.minNaN, Arithmetic.min, isNaN, lt, h], hlu, le_rfl⟩
    · exact ⟨r, by simp [Arithmetic.minNaN, Arithmetic.min, isNaN, lt, h], hr, not_lt.mp h⟩
  have hmax : exact.maxNaN x (.finite l) = if x.lt (.finite l) then .finite l else x := by
    have hnumber : (Extended.finite l).isNaN = false := rfl
    simp only [Arithmetic.maxNaN, Arithmetic.max, exact_isNaN, exact_lt, hx, hnumber,
      Bool.false_eq_true, if_false]
    rfl
  rw [hmax]
  rcases x with _ | (_ | _) | _ | a
  case finite =>
    by_cases h : a < l
    · simpa [lt, h] using hmin le_rfl
    · simpa [lt, h] using hmin (not_lt.mp h)
  case infinity.false =>
    exact ⟨u, by simp [Arithmetic.minNaN, Arithmetic.min, isNaN, lt], hlu, le_rfl⟩
  case infinity.true => simpa [lt] using hmin le_rfl
  case negativeZero => simpa [lt, hl] using hmin le_rfl
  case nan => simp [isNaN] at hx

/-- The factor by which a step changes lies between its bounds, whatever the error. -/
theorem stepFactor_clamped {s l u : ℝ} (hs : s ≠ 0) (hl : 0 < l) (hlu : l ≤ u) (y : ℝ)
    (error : Extended ℝ) :
    ∃ r, stepFactor exact ⟨.finite s, .finite l, .finite u⟩ (.finite y) error = .finite r ∧
      l ≤ r ∧ r ≤ u := by
  have hraw : (if exact.lt (exact.ofRat 0) error then
      exact.pow (exact.div (exact.ofRat 1) error) (.finite y) else .finite u).isNaN = false := by
    split_ifs with h
    · have herror : (Extended.finite 0).lt error = true := by simpa using h
      obtain ⟨hnumber, hsign⟩ := exact_reciprocal herror
      simpa using isNaN_exact_pow (y := y) hnumber hsign
    · rfl
  exact exact_clip hl hlu (isNaN_exact_mul_left hs hraw)

lemma standard_exact :
    ScaleFactors.standard exact = ⟨.finite (9 / 10), .finite (1 / 5), .finite 10⟩ := by
  norm_num [ScaleFactors.standard]

/-- With the standard factors it lies between a fifth and ten. -/
theorem stepFactor_exact (y : ℝ) (error : Extended ℝ) :
    ∃ r, stepFactor exact (.standard exact) (.finite y) error = .finite r ∧ 1 / 5 ≤ r ∧ r ≤ 10 := by
  rw [standard_exact]
  exact stepFactor_clamped (by norm_num) (by norm_num) (by norm_num) y error

/-- Between the bounds the factor is the safety factor over the error, for a method of order one. -/
lemma stepFactor_single {e : ℝ} (he : 0 < e) (hlow : 1 / 5 ≤ 9 / 10 / e) (hhigh : 9 / 10 / e ≤ 10) :
    stepFactor exact (.standard exact) (finite 1) (finite e) = finite (9 / 10 / e) := by
  have hpositive : exact.lt (exact.ofRat 0) (finite e) = true := by simpa [lt] using he
  rw [standard_exact, stepFactor, hpositive, if_pos rfl, exact_one, exact_div_of_pos 1 he,
    exact_pow_one (one_div_pos.mpr he), exact_mul_of_pos (by norm_num), mul_one_div,
    exact_clip_self hlow hhigh]

/-- A step without error takes the greatest factor, less the safety. -/
lemma stepFactor_zero (y : Extended ℝ) :
    stepFactor exact (.standard exact) y (finite 0) = finite 9 := by
  have hzero : exact.lt (exact.ofRat 0) (finite 0) = false := by simp [lt]
  rw [standard_exact, stepFactor, hzero, if_neg Bool.false_ne_true, exact_mul_of_pos (by norm_num),
    exact_clip_self (by norm_num) (by norm_num)]
  norm_num

end

end AdaptiveStep
