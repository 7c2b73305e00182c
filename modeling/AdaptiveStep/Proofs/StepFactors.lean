import AdaptiveStep.ElementControl
import AdaptiveStep.Proofs.Powers
import AdaptiveStep.Proofs.Signs

/-!
# Factors of the next step in machine numbers

After a rejected attempt the factor of the next step is below one if the error is a number. If the
error is NaN the factor is nine, the safety factor times the greatest one.
-/

namespace AdaptiveStep

open Extended FloatType

/-! ### The standard settings -/

namespace Precision

/-- Double precision comes with the wide mode. -/
def Wide (q : Precision) : Prop := q.type = .float64 → q.wideMode = true

lemma wide_initial : initial.Wide := nofun

/-- Whatever type is chosen, double precision comes with the wide mode. -/
lemma wide_set {q r : Precision} {request : PrecisionRequest} (h : q.set request = .ok r) :
    r.Wide := by
  unfold set at h
  split at h
  · obtain rfl := Except.ok.inj h
    intro ht
    have htype : (q.setType _).type = .float64 := ht
    simp only [setType] at htype ⊢
    simp [htype]
  · simp at h

/-- A plain number among arrays of the configured type. It passes through the default float type of
the device. -/
def plain (q : Precision) (x : Number) : Number :=
  q.type.convert ((if q.wideMode then FloatType.float64 else .float32).convert x)

def standardFactors (q : Precision) : ScaleFactors Number :=
  (ScaleFactors.standard double).map q.plain

lemma holds_plain (q : Precision) (x : Number) : q.type.Holds (q.plain x) := holds_convert _

/-- The safety factor is below eleven twelfths, and its product with the greatest factor is nine. -/
lemma standardFactors_spec {q : Precision} (hq : q.Wide) :
    (finite 0).lt q.standardFactors.least = true ∧
      q.standardFactors.safety.lt q.standardFactors.least = false ∧
      q.standardFactors.safety.lt (finite (11 / 12)) = true ∧
      q.standardFactors.greatest = finite 10 ∧
      q.arithmetic.minNaN (q.arithmetic.maxNaN
        (q.arithmetic.mul q.standardFactors.safety q.standardFactors.greatest)
        q.standardFactors.least) q.standardFactors.greatest = finite 9 := by
  obtain ⟨t, wideMode⟩ := q
  cases t <;> cases wideMode
  case float64.false => exact absurd (hq rfl) Bool.false_ne_true
  all_goals decide +kernel

lemma standardFactors_finite {q : Precision} (hq : q.Wide) :
    ∃ a b : ℚ, q.standardFactors = ⟨finite a, finite b, finite 10⟩ ∧ 0 < b ∧ b ≤ a ∧ a < 11 / 12 := by
  obtain ⟨hleast, hordered, hsafety, hgreatest, -⟩ := standardFactors_spec hq
  have hpositive : (finite 0).lt q.standardFactors.safety = true :=
    lt_of_lt_of_not_lt hleast (lt_iff.mp hsafety).1 hordered
  have hbelow : q.standardFactors.least.lt (finite (11 / 12)) = true :=
    lt_of_not_lt_of_lt (lt_iff.mp hleast).2.1 hordered hsafety
  have hfinite {x : Number} (hx : (finite 0).lt x = true) (hy : x.lt (finite (11 / 12)) = true) :
      ∃ a, x = finite a ∧ 0 < a ∧ a < 11 / 12 := by
    rcases x with _ | (_ | _) | _ | a
    case finite => exact ⟨a, rfl, by simpa [lt] using hx, by simpa [lt] using hy⟩
    all_goals simp [lt] at hx hy
  obtain ⟨a, ha, -, ha1⟩ := hfinite hpositive hsafety
  obtain ⟨b, hb, hb0, -⟩ := hfinite hleast hbelow
  rw [ha, hb] at hordered
  refine ⟨a, b, ?_, hb0, by simpa [lt] using hordered, ha1⟩
  rw [← ha, ← hb, ← hgreatest]

end Precision

namespace FloatType

variable {t : FloatType}

/-- A product with a factor from zero to one is not greater. -/
lemma mul_fraction_le {a p : ℚ} (ha : t.Holds (finite a)) (ha0 : 0 < a) (hp : 0 ≤ p) (hp1 : p ≤ 1) :
    ∃ m, t.rounding.mul (finite a) (finite p) = finite m ∧ 0 ≤ m ∧ m ≤ a := by
  have hneg : ((finite a : Number).isNegative ^^ (finite p).isNegative) = false := by
    simp [isNegative, ha0.not_gt, hp.not_gt]
  unfold Rounding.mul
  simp only [value?, hneg]
  split_ifs with hzero
  · exact ⟨0, rfl, le_rfl, ha0.le⟩
  · have hproduct : 0 < a * p := lt_of_le_of_ne (mul_nonneg ha0.le hp) (Ne.symm hzero)
    obtain ⟨v, h, -, hv, hle⟩ := nearest_le ha ha0 hproduct (mul_le_of_le_one_right ha0.le hp1)
    exact ⟨v, h, hv, hle⟩

lemma reciprocal_fraction {x : Number} (hnumber : x.isNaN = false) (hx : x.lt (finite 1) = false) :
    ∃ r, t.rounding.div (finite 1) x = finite r ∧ 0 ≤ r ∧ r ≤ 1 := by
  rcases x with _ | (_ | _) | _ | a
  case nan => simp [isNaN] at hnumber
  case infinity.false =>
    exact ⟨0, by simp [Rounding.div, value?, isNegative, isNaN, zero, zero_le_one], le_rfl,
      zero_le_one⟩
  case infinity.true => simp [lt] at hx
  case negativeZero => simp [lt] at hx
  case finite =>
    have ha : 1 ≤ a := by simpa [lt] using hx
    have ha0 : 0 < a := one_pos.trans_le ha
    have hquotient : 0 < 1 / a := one_div_pos.mpr ha0
    have hdiv : t.rounding.div (finite 1) (finite a) = t.format.nearest (1 / a) := by
      simp [Rounding.div, value?, ha0.ne', rounding]
    obtain ⟨v, h, -, hv, hle⟩ :=
      nearest_le (holds_one t) one_pos hquotient ((div_le_one ha0).mpr ha)
    rw [hdiv]
    exact ⟨v, h, hv, hle⟩

lemma abs_mul {x y : Number} (hy : y.isNegative = false) :
    (t.rounding.mul x y).abs = t.rounding.mul x.abs y := by
  have hunsigned : (t.rounding.mul x.abs y).isNegative = false :=
    isNegative_mul (isNegative_abs x) hy
  cases hx : x.isNegative
  · rw [abs_eq_self hx]
    rw [abs_eq_self hx] at hunsigned
    exact abs_eq_self hunsigned
  · rw [abs_eq_neg_of_isNegative hx, Rounding.mul_neg_left t.rounding_isOdd] at hunsigned ⊢
    rw [← Extended.abs_neg, abs_eq_self hunsigned]

lemma mul_of_pos {a s : ℚ} (ha : 0 < a) (hs : 0 < s) :
    t.rounding.mul (finite a) (finite s) = t.format.nearest (a * s) := by
  have hneg : ((finite a : Number).isNegative ^^ (finite s).isNegative) = false := by
    simp [isNegative, ha.not_gt, hs.not_gt]
  simp only [Rounding.mul, value?, hneg, (mul_pos ha hs).ne', if_false]
  rfl

lemma spacing_le {f : Format} (hf : 8 ≤ f.precision) {a q : ℚ} (hq : 0 < q) (hle : q ≤ a)
    (ha : 2 ^ f.minExponent ≤ a) : (2 : ℚ) ^ f.spacing q ≤ a / 128 := by
  have hmax : (2 : ℚ) ^ max (floorLog2 q) f.minExponent ≤ a := by
    rcases max_choice (floorLog2 q) f.minExponent with h | h
    · rw [h]
      exact (floorLog2_spec hq).1.trans hle
    · rw [h]
      exact ha
  calc (2 : ℚ) ^ f.spacing q ≤ 2 ^ (max (floorLog2 q) f.minExponent + -7) :=
        two_zpow_le (by unfold Format.spacing; omega)
    _ = 2 ^ max (floorLog2 q) f.minExponent * 2 ^ (-7 : ℤ) := two_zpow_add _ _
    _ ≤ a * 2 ^ (-7 : ℤ) := mul_le_mul_of_nonneg_right hmax (two_zpow_pos _).le
    _ = a / 128 := by norm_num; ring

/-- A number that is not below the least normal one gets smaller by a factor well below one. -/
theorem mul_lt_self {a s : ℚ} (ha : t.Holds (finite a)) (hnormal : 2 ^ t.format.minExponent ≤ a)
    (hs : 0 < s) (hs1 : s < 11 / 12) :
    (t.rounding.mul (finite a) (finite s)).lt (finite a) = true := by
  have ha0 : 0 < a := (two_zpow_pos _).trans_le hnormal
  have hproduct : 0 < a * s := mul_pos ha0 hs
  have hle : a * s ≤ a := mul_le_of_le_one_right ha0.le (by linarith)
  have hspacing := spacing_le (f := t.format) (by cases t <;> decide) hproduct hle hnormal
  have hnear := (Format.grid_near (f := t.format) hproduct).2
  have hgrid : t.format.grid (a * s) < a := by nlinarith
  obtain ⟨v, h, rfl, -, -⟩ := nearest_le ha ha0 hproduct hle
  rw [mul_of_pos ha0 hs, h]
  simpa [lt] using hgrid

/-- Nine times a positive number is greater. -/
theorem lt_mul_nine {x : Number} (hx : t.Holds x) (hpositive : (finite 0).lt x = true) :
    x.lt (t.rounding.mul x (finite 9)) = true ∨ x = .infinity false := by
  rcases x with _ | (_ | _) | _ | a
  case infinity.false => exact .inr rfl
  case finite =>
    left
    have ha : 0 < a := by simpa [lt] using hpositive
    have hdouble : t.format.Holds (a * 2) := by
      obtain ⟨⟨n, k, hn, hlt, hk⟩, -⟩ := hx
      refine ⟨n, k + 1, ?_, hlt, by omega⟩
      rw [two_zpow_add, ← mul_assoc, ← hn, abs_of_pos ha, zpow_one]
    have htwice : (finite a).lt (t.format.nearest (a * 2)) = true := by
      rw [Format.nearest_of_pos (by positivity), Format.grid_eq_self (by positivity) hdouble]
      split_ifs
      · rfl
      · simpa [lt] using (by linarith : a < a * 2)
    have hmono := Format.nearest_mono t.one_le_precision (p := a * 2) (q := a * 9) (by positivity)
      (by linarith)
    have hnumber : (t.format.nearest (a * 9)).isNaN = false := by
      rcases Format.nearest_cases t.one_le_precision (q := a * 9) (by positivity) with h | ⟨v, h, -⟩ <;>
        rw [h] <;> rfl
    rw [mul_of_pos ha (by norm_num)]
    exact lt_of_lt_of_not_lt htwice hnumber hmono
  all_goals simp [lt] at hpositive

end FloatType

/-! ### The factor -/

section

variable {q : Precision} {error exponent : Number}

/-- For an error that is a number above one the factor is positive and below eleven twelfths. -/
theorem stepFactor_number (hq : q.Wide) (hnumber : error.isNaN = false)
    (herror : error.lt (finite 1) = false) (hexponent : exponent.isNaN = false)
    (hsign : exponent.lt (finite 0) = false) :
    ∃ s, stepFactor q.arithmetic q.standardFactors exponent error = finite s ∧ 0 < s ∧
      s < 11 / 12 := by
  obtain ⟨a, b, hfactors, hb, hba, ha⟩ := Precision.standardFactors_finite hq
  have hholds : q.type.Holds (finite a) := by
    have h := q.holds_plain (ScaleFactors.standard double).safety
    rwa [show q.plain (ScaleFactors.standard double).safety = finite a from
      congrArg ScaleFactors.safety hfactors] at h
  have hpositive : (finite 0).lt error = true :=
    lt_of_lt_of_not_lt (y := finite 1) (by simp [lt]) hnumber herror
  obtain ⟨r, hr, hr0, hr1⟩ := reciprocal_fraction (t := q.type) hnumber herror
  obtain ⟨p, hp, hp0, hp1⟩ := pow_fraction (t := q.type) hr0 hr1 hexponent hsign
  obtain ⟨m, hm, -, hma⟩ := mul_fraction_le hholds (hb.trans_le hba) hp0 hp1
  have hzero : q.arithmetic.ofRat 0 = finite 0 := Rounding.round_zero q.type.rounding
  have hone : q.arithmetic.ofRat 1 = finite 1 := round_one
  have hraw : q.arithmetic.mul (finite a) (q.arithmetic.pow (q.arithmetic.div (finite 1) error)
      exponent) = finite m := by
    have hdiv : q.arithmetic.div (finite 1) error = finite r := hr
    have hpow : q.arithmetic.pow (finite r) exponent = finite p := hp
    rw [hdiv, hpow]
    exact hm
  have hlt : q.arithmetic.lt (finite 0) error = true := hpositive
  have hmax : q.arithmetic.maxNaN (finite m) (finite b) = finite (max m b) := by
    simp only [Arithmetic.maxNaN, Arithmetic.max, Precision.arithmetic, arithmetic_isNaN,
      arithmetic_lt, isNaN, lt, Bool.false_eq_true, if_false, decide_eq_true_eq]
    split_ifs with h
    · rw [max_eq_right h.le]
    · rw [max_eq_left (not_lt.mp h)]
  have hmin : q.arithmetic.minNaN (finite (max m b)) (finite 10) = finite (max m b) := by
    have hten : ¬(10 : ℚ) < max m b := by
      have hbelow : max m b < 11 / 12 := max_lt (hma.trans_lt ha) (hba.trans_lt ha)
      linarith
    simp only [Arithmetic.minNaN, Arithmetic.min, Precision.arithmetic, arithmetic_isNaN,
      arithmetic_lt, isNaN, lt, Bool.false_eq_true, if_false, decide_eq_true_eq, hten]
  refine ⟨max m b, ?_, hb.trans_le (le_max_right m b), ?_⟩
  · simp only [stepFactor, hfactors, hzero, hone, hlt, if_true, hraw, hmax, hmin]
  · exact max_lt (hma.trans_lt ha) (hba.trans_lt ha)

/-- For an error that is NaN the factor is nine. -/
theorem stepFactor_nan (hq : q.Wide) :
    stepFactor q.arithmetic q.standardFactors exponent .nan = finite 9 := by
  obtain ⟨-, -, -, -, hnine⟩ := Precision.standardFactors_spec hq
  have hlt : q.arithmetic.lt (q.arithmetic.ofRat 0) nan = false := by
    simp [Precision.arithmetic]
  simp only [stepFactor, hlt, Bool.false_eq_true, if_false]
  exact hnine

end

end AdaptiveStep
