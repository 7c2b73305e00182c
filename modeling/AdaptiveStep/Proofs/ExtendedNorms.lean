import AdaptiveStep.Proofs.ExactArithmetic
import AdaptiveStep.Proofs.RoughGuess

/-!
# Magnitudes of exact numbers

The magnitude of an exact number is an extended non-negative real, where zero has no sign and there is
no NaN. On numbers that are not below zero the order and the operations of exact arithmetic are those of
`ℝ≥0∞`, as long as a result is not NaN. So what is monotone there is monotone in exact arithmetic, with
infinities and zeros included.
-/

namespace AdaptiveStep

open Extended
open scoped ENNReal

namespace Extended

/-- The magnitude of a number. NaN has none and is given zero. -/
noncomputable instance : ENorm (Extended ℝ) where
  enorm
    | nan => 0
    | infinity _ => ⊤
    | negativeZero => 0
    | finite a => ‖a‖ₑ

@[simp] lemma enorm_nan : ‖(nan : Extended ℝ)‖ₑ = 0 := rfl

@[simp] lemma enorm_infinity (negative : Bool) : ‖(infinity negative : Extended ℝ)‖ₑ = ⊤ := rfl

@[simp] lemma enorm_negativeZero : ‖(negativeZero : Extended ℝ)‖ₑ = 0 := rfl

@[simp] lemma enorm_finite (a : ℝ) : ‖finite a‖ₑ = ‖a‖ₑ := rfl

@[simp] lemma enorm_signedZero (negative : Bool) : ‖(zero negative : Extended ℝ)‖ₑ = 0 := by
  cases negative <;> simp [zero]

/-- A number that is not below zero. -/
structure Nonneg (x : Extended ℝ) : Prop where
  number : x.isNaN = false
  sign : x.lt (finite 0) = false

variable {x y : Extended ℝ} {a b : ℝ}

lemma nonneg_infinity : (infinity false : Extended ℝ).Nonneg := ⟨rfl, rfl⟩

lemma nonneg_negativeZero : (negativeZero : Extended ℝ).Nonneg := ⟨rfl, by simp [lt]⟩

@[simp] lemma nonneg_finite_iff : (finite a).Nonneg ↔ 0 ≤ a :=
  ⟨fun h => by simpa [lt] using h.sign, fun h => ⟨rfl, by simpa [lt] using h⟩⟩

/-- Up to the sign of zero these numbers are the extended non-negative reals. -/
lemma Nonneg.cases (hx : x.Nonneg) :
    x = infinity false ∨ x = negativeZero ∨ ∃ a, 0 ≤ a ∧ x = finite a := by
  obtain ⟨hnumber, hsign⟩ := hx
  rcases x with _ | (_ | _) | _ | a
  case finite => exact .inr (.inr ⟨a, by simpa [lt] using hsign, rfl⟩)
  all_goals simp_all [isNaN, lt]

lemma nonneg_of_pos (h : (finite 0).lt x = true) : x.Nonneg :=
  ⟨(lt_iff.mp h).2.1, lt_asymm h⟩

lemma isZero_of_pos (h : (finite 0).lt x = true) : x.isZero = false := by
  cases x <;> simp_all [isZero, lt, ne_of_gt]

lemma nonneg_abs (hx : x.isNaN = false) : x.abs.Nonneg :=
  ⟨(isNaN_abs x).trans hx, lt_zero_of_isNegative (isNegative_abs x)⟩

@[simp] lemma enorm_abs (x : Extended ℝ) : ‖x.abs‖ₑ = ‖x‖ₑ := by
  cases x
  case finite a => rw [abs_finite, enorm_finite, enorm_finite, Real.enorm_abs]
  all_goals simp [Extended.abs]

lemma enorm_eq_zero (hx : x.isNaN = false) : ‖x‖ₑ = 0 ↔ x.isZero = true := by
  cases x <;> simp_all [isZero]

lemma enorm_eq_top : ‖x‖ₑ = ⊤ ↔ x.isInfinite = true := by
  cases x <;> simp [isInfinite]

/-! ### The order -/

lemma lt_iff_enorm (hx : x.Nonneg) (hy : y.Nonneg) : x.lt y = true ↔ ‖x‖ₑ < ‖y‖ₑ := by
  rcases hx.cases with rfl | rfl | ⟨a, ha, rfl⟩ <;> rcases hy.cases with rfl | rfl | ⟨b, hb, rfl⟩
  case inr.inr.inr.inr =>
    simp [lt, Real.enorm_of_nonneg, ha, hb, ENNReal.ofReal_lt_ofReal_iff_of_nonneg ha]
  all_goals simp [lt, Real.enorm_of_nonneg, *]

lemma exact_le_iff :
    exact.le x y = true ↔ x.isNaN = false ∧ y.isNaN = false ∧ y.lt x = false := by
  simp [Arithmetic.le, and_assoc]

lemma le_iff_enorm (hx : x.Nonneg) (hy : y.Nonneg) : exact.le x y = true ↔ ‖x‖ₑ ≤ ‖y‖ₑ := by
  rw [exact_le_iff, ← Bool.not_eq_true (y.lt x), lt_iff_enorm hy hx, not_lt]
  simp [hx.number, hy.number]

lemma nonneg_iff_le : x.Nonneg ↔ exact.le (finite 0) x = true := by
  rw [exact_le_iff]
  exact ⟨fun h => ⟨rfl, h.number, h.sign⟩, fun h => ⟨h.2.1, h.2.2⟩⟩

lemma pos_iff_enorm (hx : x.Nonneg) : (finite 0).lt x = true ↔ ‖x‖ₑ ≠ 0 := by
  rw [lt_iff_enorm (by simp) hx, enorm_finite, enorm_zero, pos_iff_ne_zero]

lemma Nonneg.isZero_of_not_pos (hx : x.Nonneg) (h : ¬(finite 0).lt x = true) : x.isZero = true := by
  rw [pos_iff_enorm hx, not_not, enorm_eq_zero hx.number] at h
  exact h

lemma le_abs_iff : exact.le x.abs y.abs = true ↔
    x.isNaN = false ∧ y.isNaN = false ∧ ‖x‖ₑ ≤ ‖y‖ₑ := by
  by_cases hx : x.isNaN = true
  · simp [exact_le_iff, hx]
  by_cases hy : y.isNaN = true
  · simp [exact_le_iff, hy]
  rw [Bool.not_eq_true] at hx hy
  simp [le_iff_enorm (nonneg_abs hx) (nonneg_abs hy), hx, hy]

/-! ### Products and sums -/

lemma numbers_of_exact_mul (h : (exact.mul x y).isNaN = false) : x.isNaN = false ∧ y.isNaN = false := by
  cases x <;> cases y <;> simp_all [exact, Rounding.arithmetic, Rounding.mul, value?]

lemma numbers_of_exact_add (h : (exact.add x y).isNaN = false) : x.isNaN = false ∧ y.isNaN = false := by
  cases x <;> cases y <;> simp_all [exact, Rounding.arithmetic, Rounding.add]

lemma enorm_exact_mul (h : (exact.mul x y).isNaN = false) : ‖exact.mul x y‖ₑ = ‖x‖ₑ * ‖y‖ₑ := by
  rcases x with _ | _ | _ | a <;> rcases y with _ | _ | _ | b
  case finite.finite =>
    by_cases hab : a * b = 0
    · have hzero : ‖a‖ₑ * ‖b‖ₑ = 0 := by rw [← enorm_mul, hab, enorm_zero]
      simp [exact, Rounding.arithmetic, Rounding.mul, value?, hab, hzero]
    · rw [exact_mul_finite hab, enorm_finite, enorm_mul]
      rfl
  case infinity.finite =>
    have hb : b ≠ 0 := by
      rintro rfl
      simp [exact, Rounding.arithmetic, Rounding.mul, value?, isZero] at h
    simp [exact, Rounding.arithmetic, Rounding.mul, value?, isZero, hb]
  case finite.infinity =>
    have ha : a ≠ 0 := by
      rintro rfl
      simp [exact, Rounding.arithmetic, Rounding.mul, value?, isZero] at h
    simp [exact, Rounding.arithmetic, Rounding.mul, value?, isZero, ha]
  all_goals simp_all [exact, Rounding.arithmetic, Rounding.mul, value?, isZero]

/-- A product of numbers that are not below zero is not the negative zero. -/
lemma exact_mul_finite_of_nonneg (ha : 0 ≤ a) (hb : 0 ≤ b) :
    exact.mul (finite a) (finite b) = finite (a * b) := by
  by_cases hab : a * b = 0
  · simp [exact, Rounding.arithmetic, Rounding.mul, value?, isNegative, zero, hab, ha.not_gt, hb.not_gt]
  · exact exact_mul_finite hab

lemma nonneg_exact_mul (hx : x.Nonneg) (hy : y.Nonneg) (h : (exact.mul x y).isNaN = false) :
    (exact.mul x y).Nonneg := by
  refine ⟨h, ?_⟩
  rcases hx.cases with rfl | rfl | ⟨a, ha, rfl⟩ <;> rcases hy.cases with rfl | rfl | ⟨b, hb, rfl⟩
  case inr.inr.inr.inr =>
    rw [exact_mul_finite_of_nonneg ha hb]
    simpa [lt] using mul_nonneg ha hb
  all_goals
    simp_all [exact, Rounding.arithmetic, Rounding.mul, value?, isNegative, isZero, zero, lt,
      not_lt_of_ge]
  all_goals split_ifs <;> simp_all

lemma nonneg_exact_square (hx : x.isNaN = false) : (exact.square x).Nonneg := by
  unfold Arithmetic.square
  rcases x with _ | (_ | _) | _ | a
  case finite =>
    by_cases ha : a = 0
    · simp [exact, Rounding.arithmetic, Rounding.mul, value?, ha, zero]
    · rw [exact_mul_finite (mul_ne_zero ha ha), nonneg_finite_iff]
      exact mul_self_nonneg a
  all_goals simp_all [exact, Rounding.arithmetic, Rounding.mul, value?, isZero, zero, nonneg_infinity]

lemma enorm_exact_square (hx : x.isNaN = false) : ‖exact.square x‖ₑ = ‖x‖ₑ ^ 2 := by
  rw [sq]
  exact enorm_exact_mul (nonneg_exact_square hx).number

lemma nonneg_exact_add (hx : x.Nonneg) (hy : y.Nonneg) : (exact.add x y).Nonneg := by
  rcases hx.cases with rfl | rfl | ⟨a, ha, rfl⟩ <;> rcases hy.cases with rfl | rfl | ⟨b, hb, rfl⟩
  case inr.inr.inr.inr =>
    rw [exact_add_finite, nonneg_finite_iff]
    exact add_nonneg ha hb
  all_goals simpa [exact, Rounding.arithmetic, Rounding.add]

lemma enorm_exact_add (hx : x.Nonneg) (hy : y.Nonneg) : ‖exact.add x y‖ₑ = ‖x‖ₑ + ‖y‖ₑ := by
  rcases hx.cases with rfl | rfl | ⟨a, ha, rfl⟩ <;> rcases hy.cases with rfl | rfl | ⟨b, hb, rfl⟩
  case inr.inr.inr.inr =>
    rw [exact_add_finite, enorm_finite, enorm_finite, enorm_finite,
      Real.enorm_of_nonneg (add_nonneg ha hb), Real.enorm_of_nonneg ha, Real.enorm_of_nonneg hb,
      ENNReal.ofReal_add ha hb]
  all_goals simp [exact, Rounding.arithmetic, Rounding.add]

lemma exact_sum_nonneg {xs : List (Extended ℝ)} (hxs : ∀ x ∈ xs, x.Nonneg) :
    (exact.sum xs).Nonneg ∧ ‖exact.sum xs‖ₑ = (xs.map fun x => ‖x‖ₑ).sum := by
  have hsum : exact.IsSum xs (exact.sum xs) := Arithmetic.isSum_sum xs
  exact ⟨hsum.closed (by simp) (fun _ _ => nonneg_exact_add) hxs,
    hsum.total (by simp) (by simp)
      (fun _ _ hx hy => ⟨nonneg_exact_add hx hy, enorm_exact_add hx hy⟩) hxs⟩

lemma exact_sum_nan {xs : List (Extended ℝ)} (h : nan ∈ xs) : exact.sum xs = nan := by
  have hstart (ys : List (Extended ℝ)) : ys.foldl exact.add nan = nan := by
    induction ys with
    | nil => rfl
    | cons y ys ih =>
      exact (congrArg (ys.foldl exact.add) (Rounding.nan_add (R := exactRounding) y)).trans ih
  obtain ⟨before, after, rfl⟩ := List.mem_iff_append.mp h
  rw [Arithmetic.sum, List.foldl_append, List.foldl_cons]
  exact (congrArg (after.foldl exact.add) (Rounding.add_nan (R := exactRounding) _)).trans (hstart after)

/-! ### Quotients, roots and powers -/

lemma isNaN_exact_div_iff : (exact.div x y).isNaN = true ↔ x.Indeterminate y :=
  Rounding.isNaN_div_iff fun _ => rfl

lemma enorm_exact_div (h : (exact.div x y).isNaN = false) : ‖exact.div x y‖ₑ = ‖x‖ₑ / ‖y‖ₑ := by
  rcases x with _ | _ | _ | a <;> rcases y with _ | _ | _ | b
  case finite.finite =>
    by_cases hb : b = 0
    · have ha : a ≠ 0 := by
        rintro rfl
        simp [exact, Rounding.arithmetic, Rounding.div, value?, hb] at h
      simp [exact, Rounding.arithmetic, Rounding.div, value?, hb, ha, ENNReal.div_zero]
    · have hquotient : ‖a / b‖ₑ = ‖a‖ₑ / ‖b‖ₑ := by
        rw [div_eq_mul_inv, enorm_mul, enorm_inv hb, div_eq_mul_inv]
      rw [enorm_finite, enorm_finite, ← hquotient]
      by_cases ha : a = 0
      · simp [exact, Rounding.arithmetic, Rounding.div, value?, hb, ha]
      · rw [exact_div_finite hb ha, enorm_finite]
  case negativeZero.finite =>
    have hb : b ≠ 0 := by
      rintro rfl
      simp [exact, Rounding.arithmetic, Rounding.div, value?] at h
    simp [exact, Rounding.arithmetic, Rounding.div, value?, hb]
  case finite.negativeZero =>
    have ha : a ≠ 0 := by
      rintro rfl
      simp [exact, Rounding.arithmetic, Rounding.div, value?] at h
    simp [exact, Rounding.arithmetic, Rounding.div, value?, ha, ENNReal.div_zero]
  all_goals simp_all [exact, Rounding.arithmetic, Rounding.div, value?, ENNReal.top_div]

/-- A divisor that is not zero keeps the sign. -/
lemma nonneg_exact_div (hx : x.Nonneg) (hy : (finite 0).lt y = true)
    (h : (exact.div x y).isNaN = false) : (exact.div x y).Nonneg := by
  refine ⟨h, ?_⟩
  rcases hx.cases with rfl | rfl | ⟨a, ha, rfl⟩ <;>
    rcases (nonneg_of_pos hy).cases with rfl | rfl | ⟨b, hb, rfl⟩
  case inr.inr.inr.inr =>
    have hb : 0 < b := by simpa [lt] using hy
    by_cases hab : a / b = 0
    · simp [exact, Rounding.arithmetic, Rounding.div, value?, hab, isNegative, ha.not_gt, hb.not_gt,
        hb.ne', zero, lt]
    · rw [exact_div_finite hb.ne' (by rintro rfl; simp at hab)]
      simpa [lt] using div_nonneg ha hb.le
  all_goals
    simp_all [exact, Rounding.arithmetic, Rounding.div, value?, isNegative, zero, lt, not_lt_of_ge]
  all_goals split_ifs <;> simp_all

@[simp] lemma exact_convert (x : Extended ℝ) : exact.convert x = x := by
  cases x
  case finite a => exact exact_round a
  all_goals rfl

lemma exact_sqrt (hx : x.Nonneg) :
    (exact.sqrt x).Nonneg ∧ ‖exact.sqrt x‖ₑ = ‖x‖ₑ ^ (2⁻¹ : ℝ) := by
  rcases hx.cases with rfl | rfl | ⟨a, ha, rfl⟩
  · simp [exact, Rounding.arithmetic, Rounding.squareRoot, nonneg_infinity]
  · simp [exact, Rounding.arithmetic, Rounding.squareRoot, nonneg_negativeZero]
  · rw [exact_sqrt_finite ha, nonneg_finite_iff, enorm_finite, enorm_finite, Real.enorm_of_nonneg ha,
      Real.enorm_of_nonneg (Real.sqrt_nonneg a), ENNReal.ofReal_rpow_of_nonneg ha (by norm_num),
      Real.sqrt_eq_rpow, one_div]
    exact ⟨Real.rpow_nonneg ha _, rfl⟩

lemma exact_pow_finite (ha : 0 ≤ a) (hb : 0 < b) : exact.pow (finite a) (finite b) = finite (a ^ b) := by
  have hone : exactRounding.ofRat 1 = finite 1 := exact_one
  simp only [exact, Rounding.arithmetic, Rounding.pow, hone, isZero, hb.ne', finite.injEq, decide_false,
    Bool.false_or, decide_eq_true_eq, ha.not_gt, if_false]
  split_ifs with h1 h0
  · rw [h1, Real.one_rpow]
  · exact absurd ‹b < 0› hb.not_gt
  · rw [h0, Real.zero_rpow hb.ne']
  · rfl

lemma exact_pow (hx : x.Nonneg) (hb : 0 ≤ b) :
    (exact.pow x (finite b)).Nonneg ∧ ‖exact.pow x (finite b)‖ₑ = ‖x‖ₑ ^ b := by
  have hone : exactRounding.ofRat 1 = finite 1 := exact_one
  rcases hb.eq_or_lt with rfl | hb
  · simp [exact, Rounding.arithmetic, Rounding.pow, hone, isZero]
  rcases hx.cases with rfl | rfl | ⟨a, ha, rfl⟩
  · simp [exact, Rounding.arithmetic, Rounding.pow, hone, isZero, isNegative, hb, hb.ne', hb.not_gt,
      nonneg_infinity]
  · simp [exact, Rounding.arithmetic, Rounding.pow, hone, isZero, isNegative, hb, hb.ne', hb.not_gt]
  · rw [exact_pow_finite ha hb, nonneg_finite_iff, enorm_finite, enorm_finite, Real.enorm_of_nonneg ha,
      Real.enorm_of_nonneg (Real.rpow_nonneg ha b), ENNReal.ofReal_rpow_of_nonneg ha hb.le]
    exact ⟨Real.rpow_nonneg ha b, rfl⟩

/-! ### The greater and the smaller one -/

lemma exact_maxNaN_finite (a b : ℝ) : exact.maxNaN (finite a) (finite b) = finite (max a b) := by
  rcases lt_or_ge a b with h | h
  · simp [Arithmetic.maxNaN, Arithmetic.max, lt, h, h.le]
  · simp [Arithmetic.maxNaN, Arithmetic.max, lt, h, h.not_gt]

lemma exact_minNaN_finite (a b : ℝ) : exact.minNaN (finite a) (finite b) = finite (min a b) := by
  rcases lt_or_ge b a with h | h
  · simp [Arithmetic.minNaN, Arithmetic.min, lt, h, h.le]
  · simp [Arithmetic.minNaN, Arithmetic.min, lt, h, h.not_gt]

lemma numbers_of_exact_maxNaN (h : (exact.maxNaN x y).isNaN = false) :
    x.isNaN = false ∧ y.isNaN = false := by
  cases hx : x.isNaN <;> cases hy : y.isNaN <;> simp_all [Arithmetic.maxNaN]

lemma exact_maxNaN (hx : x.Nonneg) (hy : y.Nonneg) :
    (exact.maxNaN x y).Nonneg ∧ ‖exact.maxNaN x y‖ₑ = max ‖x‖ₑ ‖y‖ₑ := by
  have hlt := lt_iff_enorm hx hy
  by_cases h : x.lt y = true
  · simp [Arithmetic.maxNaN, Arithmetic.max, hx.number, hy.number, h, hy, (hlt.mp h).le]
  · have hle := not_lt.mp (mt hlt.mpr h)
    simp [Arithmetic.maxNaN, Arithmetic.max, hx.number, hy.number, h, hx, hle]

lemma exact_minNaN (hx : x.Nonneg) (hy : y.Nonneg) :
    (exact.minNaN x y).Nonneg ∧ ‖exact.minNaN x y‖ₑ = min ‖x‖ₑ ‖y‖ₑ := by
  have hlt := lt_iff_enorm hy hx
  by_cases h : y.lt x = true
  · simp [Arithmetic.minNaN, Arithmetic.min, hx.number, hy.number, h, hy, (hlt.mp h).le]
  · have hle := not_lt.mp (mt hlt.mpr h)
    simp [Arithmetic.minNaN, Arithmetic.min, hx.number, hy.number, h, hx, hle]

end Extended

end AdaptiveStep
