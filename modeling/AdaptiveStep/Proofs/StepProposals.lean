import AdaptiveStep.Proofs.ExtendedNorms

/-!
# Proposed steps in exact arithmetic

The next step that the update formula proposes for a method of a given order, whatever the factors. It
has the sign of the step that was tried, and its length is that of the step times a factor between the
bounds. The factor falls with the error, except where it leaves zero: a step without error takes the
greatest factor times the safety factor, but a small enough error reaches the greatest factor itself.
-/

namespace AdaptiveStep

open Extended
open scoped ENNReal

section

variable {α : Type}

/-- The exponent of the update formula for an error estimate of the given order. -/
def orderExponent (A : Arithmetic α) (order : α) : α :=
  A.div (A.ofRat 1) (A.add order (A.ofRat 1))

/-- The next step by the update formula, which divides by the order plus one. -/
def proposeAtOrder (A : Arithmetic α) (c : ScaleFactors α) (order error h : α) : Except Failure α :=
  if A.isZero (A.add order (A.ofRat 1)) then .error .divisionByZero
  else .ok (proposeStep A c (orderExponent A order) error h)

/-- The integration proposes its steps this way, with the standard factors, and filters them. -/
lemma IntegrationProblem.nextStep_eq (S : Setting α) (P : IntegrationProblem α) (c : Controls α)
    (a : Attempt α) :
    P.nextStep S c a = (do
      let A := S.arithmetic
      let h ← proposeAtOrder A (.standard A) (A.ofRat (P.order - 1)) a.error a.step
      return (← S.steps.filterStep h (P.forward A) P.acceptSmall c.least c.greatest).step) := by
  simp only [nextStep, proposeAtOrder, orderExponent]
  split_ifs <;> rfl

lemma proposeAtOrder_eq_ok {A : Arithmetic α} {c : ScaleFactors α} {order error h x : α} :
    proposeAtOrder A c order error h = .ok x ↔ A.isZero (A.add order (A.ofRat 1)) = false ∧
      proposeStep A c (orderExponent A order) error h = x := by
  unfold proposeAtOrder
  split_ifs with hzero <;> simp [hzero]

end

variable {order error : Extended ℝ} {c : ScaleFactors (Extended ℝ)}

/-- Above minus one the order plus one is positive, and the exponent is not below zero. -/
lemma exists_orderExponent (h : (finite (-1)).lt order = true) :
    exact.isZero (exact.add order (exact.ofRat 1)) = false ∧
      ∃ y, 0 ≤ y ∧ orderExponent exact order = finite y := by
  rw [orderExponent, exact_one]
  rcases order with _ | (_ | _) | _ | p
  case infinity.false =>
    have hsum : exact.add (infinity false) (finite 1) = infinity false := rfl
    have hquotient : exact.div (finite 1) (infinity false) = finite 0 := by
      simp [exact, Rounding.arithmetic, Rounding.div, value?, isNegative, zero, zero_le_one]
    rw [hsum, hquotient]
    exact ⟨rfl, 0, le_rfl, rfl⟩
  case negativeZero =>
    have hsum : exact.add negativeZero (finite 1) = finite 1 := rfl
    rw [hsum, exact_div_finite one_ne_zero one_ne_zero]
    exact ⟨by simp [isZero], 1 / 1, by positivity, rfl⟩
  case finite =>
    have hp : 0 < p + 1 := by
      have hlt : -1 < p := by simpa [lt] using h
      linarith
    rw [exact_add_finite, exact_div_finite hp.ne' one_ne_zero]
    exact ⟨by simp [isZero, hp.ne'], 1 / (p + 1), by positivity, rfl⟩
  all_goals simp [lt] at h

lemma proposeAtOrder_ok (horder : (finite (-1)).lt order = true) (error h : Extended ℝ) :
    proposeAtOrder exact c order error h =
      .ok (proposeStep exact c (orderExponent exact order) error h) :=
  proposeAtOrder_eq_ok.mpr ⟨(exists_orderExponent horder).1, rfl⟩

/-! ### The size of the factor -/

/-- A positive safety factor of at most one, and positive bounds in their order. -/
structure ScaleFactors.Regular (c : ScaleFactors (Extended ℝ)) : Prop where
  safety_pos : (finite 0).lt c.safety = true
  safety_le : exact.le c.safety (finite 1) = true
  least_pos : (finite 0).lt c.least = true
  least_le : exact.le c.least c.greatest = true

namespace ScaleFactors.Regular

lemma greatest_pos (hc : c.Regular) : (finite 0).lt c.greatest = true := by
  obtain ⟨-, hnumber, hle⟩ := exact_le_iff.mp hc.least_le
  exact lt_of_lt_of_not_lt hc.least_pos hnumber hle

lemma exists_safety (hc : c.Regular) : ∃ s, c.safety = finite s ∧ 0 < s ∧ s ≤ 1 := by
  have hpositive := hc.safety_pos
  obtain ⟨-, -, hle⟩ := exact_le_iff.mp hc.safety_le
  cases hsafety : c.safety with
  | finite s => exact ⟨s, rfl, by simpa [hsafety, lt] using hpositive, by simpa [hsafety, lt] using hle⟩
  | infinity negative => cases negative <;> simp [hsafety, lt] at hpositive hle
  | _ => simp [hsafety, lt] at hpositive

end ScaleFactors.Regular

lemma regular_standard : (ScaleFactors.standard exact).Regular := by
  rw [standard_exact]
  constructor <;> norm_num [Arithmetic.le, lt]

lemma nonneg_power {y : ℝ} (hy : 0 ≤ y) (herror : (finite 0).lt error = true) :
    (exact.pow (exact.div (exact.ofRat 1) error) (finite y)).Nonneg ∧
      ‖exact.pow (exact.div (exact.ofRat 1) error) (finite y)‖ₑ = ‖error‖ₑ⁻¹ ^ y := by
  obtain ⟨hnumber, -⟩ := exact_reciprocal herror
  obtain ⟨hpower, hmagnitude⟩ := exact_pow (nonneg_exact_div (by simp) herror hnumber) hy
  rw [enorm_exact_div hnumber, enorm_finite, enorm_one, one_div] at hmagnitude
  rw [exact_one]
  exact ⟨hpower, hmagnitude⟩

lemma nonneg_safe (hc : c.Regular) {x : Extended ℝ} (hx : x.Nonneg) :
    (exact.mul c.safety x).Nonneg ∧ ‖exact.mul c.safety x‖ₑ = ‖c.safety‖ₑ * ‖x‖ₑ := by
  obtain ⟨s, hsafety, hs, -⟩ := hc.exists_safety
  have hnumber : (exact.mul c.safety x).isNaN = false := by
    rw [hsafety]
    exact isNaN_exact_mul_left hs.ne' hx.number
  exact ⟨nonneg_exact_mul (nonneg_of_pos hc.safety_pos) hx hnumber, enorm_exact_mul hnumber⟩

/-- The factor is a clamp in the extended non-negative reals. -/
theorem stepFactor_enorm (hc : c.Regular) {y : ℝ} (hy : 0 ≤ y) (herror : error.Nonneg) :
    (stepFactor exact c (finite y) error).Nonneg ∧ ‖stepFactor exact c (finite y) error‖ₑ =
      min (max (‖c.safety‖ₑ * if error.isZero then ‖c.greatest‖ₑ else ‖error‖ₑ⁻¹ ^ y) ‖c.least‖ₑ)
        ‖c.greatest‖ₑ := by
  have hraw : ∃ raw : Extended ℝ,
      (if exact.lt (exact.ofRat 0) error then exact.pow (exact.div (exact.ofRat 1) error) (finite y)
        else c.greatest) = raw ∧
      raw.Nonneg ∧ ‖raw‖ₑ = if error.isZero then ‖c.greatest‖ₑ else ‖error‖ₑ⁻¹ ^ y := by
    by_cases hpositive : (finite 0).lt error = true
    · rw [isZero_of_pos hpositive]
      exact ⟨_, by simp [hpositive], nonneg_power hy hpositive⟩
    · rw [herror.isZero_of_not_pos hpositive]
      exact ⟨_, by simp [hpositive], nonneg_of_pos hc.greatest_pos, rfl⟩
  obtain ⟨raw, heq, hnonneg, hmagnitude⟩ := hraw
  obtain ⟨hsafe, hproduct⟩ := nonneg_safe hc hnonneg
  obtain ⟨hmax, hlower⟩ := exact_maxNaN hsafe (nonneg_of_pos hc.least_pos)
  obtain ⟨hmin, hupper⟩ := exact_minNaN hmax (nonneg_of_pos hc.greatest_pos)
  rw [stepFactor, heq, ← hmagnitude, ← hproduct, ← hlower]
  exact ⟨hmin, hupper⟩

/-- Where a clamp of the greatest value, made safe, is below a clamp of another one. -/
lemma clamp_le_iff {s r l u : ℝ≥0∞} (hs : s ≠ 0) (hs1 : s ≤ 1) (hlu : l ≤ u) :
    min (max (s * r) l) u ≤ min (max (s * u) l) u ↔ ¬(u < r ∧ l < s * r ∧ l < u ∧ s < 1) := by
  have hsu : s * u ≤ u := mul_le_of_le_one_left' hs1
  have hbounded : s ≠ ⊤ := (hs1.trans_lt ENNReal.one_lt_top).ne
  rw [min_eq_left (max_le hsu hlu), iff_not_comm, not_le, lt_min_iff, max_lt_iff, max_lt_iff]
  constructor
  · rintro ⟨hur, hlr, hlu, hs1⟩
    have hless : s * u < s * r := ENNReal.mul_lt_mul_right hs hbounded hur
    have hshort : s * u < u := by
      simpa using ENNReal.mul_lt_mul_left hlu.bot_lt.ne' hur.ne_top hs1
    exact ⟨⟨lt_max_of_lt_left hless, lt_max_of_lt_left hlr⟩, hshort, hlu⟩
  · rintro ⟨⟨hless, hlr⟩, hshort, hlu⟩
    have hlr : l < s * r := by simpa using hlr
    rw [max_eq_left hlr.le] at hless
    refine ⟨(ENNReal.mul_lt_mul_iff_right hs hbounded).mp hless, hlr, hlu, lt_of_le_of_ne hs1 ?_⟩
    rintro rfl
    simp at hshort

/-- A power of the error exceeds the greatest factor, and made safe it still exceeds the least one. -/
def ScaleFactors.Overshoots (c : ScaleFactors (Extended ℝ)) (power : Extended ℝ) : Prop :=
  c.greatest.lt power = true ∧ c.least.lt (exact.mul c.safety power) = true ∧
    c.least.lt c.greatest = true ∧ c.safety.lt (finite 1) = true

lemma overshoots_iff (hc : c.Regular) {power : Extended ℝ} (hpower : power.Nonneg) :
    c.Overshoots power ↔ ‖c.greatest‖ₑ < ‖power‖ₑ ∧ ‖c.least‖ₑ < ‖c.safety‖ₑ * ‖power‖ₑ ∧
      ‖c.least‖ₑ < ‖c.greatest‖ₑ ∧ ‖c.safety‖ₑ < 1 := by
  obtain ⟨hsafe, hproduct⟩ := nonneg_safe hc hpower
  have hleast := nonneg_of_pos hc.least_pos
  have hgreatest := nonneg_of_pos hc.greatest_pos
  have hsafety := nonneg_of_pos hc.safety_pos
  rw [ScaleFactors.Overshoots, lt_iff_enorm hgreatest hpower, lt_iff_enorm hleast hsafe, hproduct,
    lt_iff_enorm hleast hgreatest, lt_iff_enorm hsafety (by simp), enorm_finite, enorm_one]

variable {e₁ e₂ : Extended ℝ} {y : ℝ}

/-- The factor does not grow with the error, unless there is no error to start from. -/
lemma stepFactor_le_iff (hc : c.Regular) (hy : 0 ≤ y) (h₁ : e₁.Nonneg) (h₂ : e₂.Nonneg)
    (hle : ‖e₁‖ₑ ≤ ‖e₂‖ₑ) :
    ‖stepFactor exact c (finite y) e₂‖ₑ ≤ ‖stepFactor exact c (finite y) e₁‖ₑ ↔
      ¬(e₁.isZero = true ∧ (finite 0).lt e₂ = true ∧
        c.Overshoots (exact.pow (exact.div (exact.ofRat 1) e₂) (finite y))) := by
  rw [(stepFactor_enorm hc hy h₁).2, (stepFactor_enorm hc hy h₂).2]
  cases hzero : e₁.isZero with
  | false =>
    have hzero₂ : e₂.isZero = false := by
      rw [← Bool.not_eq_true, ← enorm_eq_zero h₁.number] at hzero
      rw [← Bool.not_eq_true, ← enorm_eq_zero h₂.number]
      exact ((pos_iff_ne_zero.mpr hzero).trans_le hle).ne'
    simp only [hzero₂, Bool.false_eq_true, if_false, false_and, not_false_eq_true, iff_true]
    gcongr
  | true =>
    by_cases hpositive : (finite 0).lt e₂ = true
    · obtain ⟨hpower, hmagnitude⟩ := nonneg_power hy hpositive
      have hsafety : ‖c.safety‖ₑ ≠ 0 := (pos_iff_enorm (nonneg_of_pos hc.safety_pos)).mp hc.safety_pos
      have hsafety_le := (le_iff_enorm (nonneg_of_pos hc.safety_pos) (by simp)).mp hc.safety_le
      rw [enorm_finite, enorm_one] at hsafety_le
      have hbounds := (le_iff_enorm (nonneg_of_pos hc.least_pos) (nonneg_of_pos hc.greatest_pos)).mp
        hc.least_le
      rw [overshoots_iff hc hpower, hmagnitude, isZero_of_pos hpositive]
      simpa [hpositive] using clamp_le_iff hsafety hsafety_le hbounds
    · simp [h₂.isZero_of_not_pos hpositive, hpositive]

/-! ### Proposed steps -/

section

variable {s l u w k : ℝ} {h : Extended ℝ}

/-- A positive factor keeps the sign of a step, that of zero included. -/
lemma exact_mul_positive (hk : 0 < k) (hh : h.value? = some w) :
    (exact.mul h (finite k)).value? = some (w * k) ∧
      (exact.mul h (finite k)).isNegative = h.isNegative ∧
      (exact.mul h (finite k)).isZero = h.isZero := by
  rcases h with _ | _ | _ | a
  case negativeZero =>
    obtain rfl : 0 = w := by simpa [value?] using hh
    simp [exact, Rounding.arithmetic, Rounding.mul, value?, isNegative, zero, isZero, hk.not_gt]
  case finite =>
    obtain rfl : a = w := by simpa [value?] using hh
    by_cases ha : a = 0
    · simp [exact, Rounding.arithmetic, Rounding.mul, value?, isNegative, zero, isZero, ha, hk.not_gt]
    · rw [exact_mul_finite (mul_ne_zero ha hk.ne')]
      simp [value?, isNegative, isZero, ha, hk.ne', mul_neg_iff, hk, hk.not_gt]
  all_goals simp [value?] at hh

/-- Whatever the error, the next step is a number between the least and the greatest multiple of the
step that was tried, with its sign. -/
theorem proposeAtOrder_clamped (hs : 0 < s) (hl : 0 < l) (hlu : l ≤ u)
    (horder : (finite (-1)).lt order = true) (hh : h.value? = some w) (error : Extended ℝ) :
    ∃ x v, proposeAtOrder exact ⟨finite s, finite l, finite u⟩ order error h = .ok x ∧
      x.value? = some v ∧ l * |w| ≤ |v| ∧ |v| ≤ u * |w| ∧
      x.isNegative = h.isNegative ∧ x.isZero = h.isZero := by
  obtain ⟨-, y, -, hy⟩ := exists_orderExponent horder
  obtain ⟨k, hk, hlow, hhigh⟩ := stepFactor_clamped hs.ne' hl hlu y error
  have hk0 : 0 < k := hl.trans_le hlow
  obtain ⟨hvalue, hsign, hzero⟩ := exact_mul_positive hk0 hh
  refine ⟨exact.mul h (finite k), w * k, ?_, hvalue, ?_, ?_, hsign, hzero⟩
  · rw [proposeAtOrder_ok horder, hy, proposeStep, hk]
  · rw [abs_mul, abs_of_pos hk0, mul_comm]
    gcongr
  · rw [abs_mul, abs_of_pos hk0, mul_comm]
    gcongr

/-- An infinite error at an order of minus one half, on the way back. -/
theorem proposeAtOrder_clamped_infinite : ∃ x v,
    proposeAtOrder exact ⟨finite (4 / 5), finite (1 / 2), finite 2⟩ (finite (-1 / 2)) (infinity false)
        (finite (-1 / 10)) = .ok x ∧
      x.value? = some v ∧ 1 / 20 ≤ |v| ∧ |v| ≤ 1 / 5 ∧ x.isNegative = true ∧ x.isZero = false := by
  have horder : (finite (-1)).lt (finite (-1 / 2 : ℝ)) = true := by norm_num [lt]
  have hvalue : (finite (-1 / 10 : ℝ)).value? = some (-1 / 10) := rfl
  obtain ⟨x, v, hx, hv, hlow, hhigh, hsign, hzero⟩ :=
    proposeAtOrder_clamped (s := 4 / 5) (l := 1 / 2) (u := 2) (by norm_num) (by norm_num) (by norm_num)
      horder hvalue (infinity false)
  norm_num [abs_of_neg] at hlow hhigh
  refine ⟨x, v, hx, hv, by linarith, by linarith, ?_, ?_⟩
  · rw [hsign]
    norm_num [isNegative]
  · rw [hzero]
    norm_num [isZero]

/-- A smaller error never gives a shorter step, unless the smaller error is zero and the other one is so
small that its factor reaches the greatest one. -/
theorem proposeAtOrder_antitone_iff (hc : c.Regular) (horder : (finite (-1)).lt order = true)
    (hw : w ≠ 0) (hnonneg : exact.le (finite 0) e₁ = true) (hle : exact.le e₁ e₂ = true) :
    ∃ x₁ x₂, proposeAtOrder exact c order e₁ (finite w) = .ok x₁ ∧
      proposeAtOrder exact c order e₂ (finite w) = .ok x₂ ∧
      (exact.le (exact.abs x₂) (exact.abs x₁) = true ↔
        ¬(e₁.isZero = true ∧ (finite 0).lt e₂ = true ∧
          c.Overshoots (exact.pow (exact.div (exact.ofRat 1) e₂) (orderExponent exact order)))) := by
  refine ⟨_, _, proposeAtOrder_ok horder e₁ (finite w), proposeAtOrder_ok horder e₂ (finite w), ?_⟩
  obtain ⟨-, y, hy, hexponent⟩ := exists_orderExponent horder
  have h₁ : e₁.Nonneg := nonneg_iff_le.mpr hnonneg
  have h₂ : e₂.Nonneg := by
    obtain ⟨hnumber₁, hnumber, hle⟩ := exact_le_iff.mp hle
    exact ⟨hnumber, not_lt_trans hnumber₁ hle h₁.sign⟩
  obtain ⟨hfactor₁, -⟩ := stepFactor_enorm hc hy h₁
  obtain ⟨hfactor₂, -⟩ := stepFactor_enorm hc hy h₂
  have hproduct₁ := isNaN_exact_mul_left hw hfactor₁.number
  have hproduct₂ := isNaN_exact_mul_left hw hfactor₂.number
  have hsize : ‖w‖ₑ ≠ 0 := by simpa using hw
  rw [hexponent, ← stepFactor_le_iff hc hy h₁ h₂ ((le_iff_enorm h₁ h₂).mp hle), exact_abs, le_abs_iff,
    proposeStep, proposeStep, enorm_exact_mul hproduct₁, enorm_exact_mul hproduct₂, enorm_finite,
    ENNReal.mul_le_mul_iff_right hsize enorm_ne_top]
  simp [hproduct₁, hproduct₂]

/-- The standard factors on the way back, for an error of a tenth and an infinite one. -/
theorem proposeAtOrder_antitone_infinite : ∃ x₁ x₂,
    proposeAtOrder exact (.standard exact) (finite 4) (finite (1 / 10)) (finite (-1)) = .ok x₁ ∧
      proposeAtOrder exact (.standard exact) (finite 4) (infinity false) (finite (-1)) = .ok x₂ ∧
      exact.le (exact.abs x₂) (exact.abs x₁) = true := by
  have horder : (finite (-1)).lt (finite (4 : ℝ)) = true := by norm_num [lt]
  have hnonneg : exact.le (finite 0) (finite (1 / 10)) = true := by norm_num [Arithmetic.le, lt]
  have hle : exact.le (finite (1 / 10)) (infinity false) = true := by simp [Arithmetic.le, lt]
  obtain ⟨x₁, x₂, h₁, h₂, hiff⟩ :=
    proposeAtOrder_antitone_iff regular_standard horder (neg_ne_zero.mpr one_ne_zero) hnonneg hle
  refine ⟨x₁, x₂, h₁, h₂, hiff.mpr ?_⟩
  norm_num [isZero]

/-- At order one a step of one without error grows to nine, one with an error of a ten thousandth to
ten. -/
theorem proposeAtOrder_not_antitone :
    proposeAtOrder exact (.standard exact) (finite 1) (finite 0) (finite 1) = .ok (finite 9) ∧
      proposeAtOrder exact (.standard exact) (finite 1) (finite (1 / 10000)) (finite 1) =
        .ok (finite 10) ∧
      exact.le (finite 0) (finite (1 / 10000)) = true ∧
      exact.le (exact.abs (finite 10)) (exact.abs (finite 9)) = false := by
  have hexponent : orderExponent exact (finite 1) = finite (1 / 2) := by
    rw [orderExponent, exact_one, exact_add_finite, exact_div_finite (by norm_num) one_ne_zero]
    norm_num
  have horder : (finite (-1)).lt (finite (1 : ℝ)) = true := by norm_num [lt]
  have hpower : exact.pow (exact.div (finite 1) (finite (1 / 10000))) (finite (1 / 2)) =
      finite 100 := by
    have hroot : (10000 : ℝ) ^ (1 / 2 : ℝ) = 100 := by
      rw [← Real.sqrt_eq_rpow, Real.sqrt_eq_iff_mul_self_eq (by norm_num) (by norm_num)]
      norm_num
    rw [exact_div_finite (by norm_num) one_ne_zero, one_div_one_div,
      exact_pow_finite (by norm_num) (by norm_num), hroot]
  refine ⟨?_, ?_, ?_, ?_⟩
  · rw [proposeAtOrder_ok horder, hexponent, standard_exact]
    norm_num [proposeStep, stepFactor, lt, exact_mul_finite, exact_maxNaN_finite, exact_minNaN_finite]
  · rw [proposeAtOrder_ok horder, hexponent, standard_exact]
    norm_num [proposeStep, stepFactor, lt, hpower, exact_mul_finite, exact_maxNaN_finite,
      exact_minNaN_finite]
  · norm_num [Arithmetic.le, lt]
  · norm_num [Arithmetic.le, lt, abs_finite]

end

end AdaptiveStep
