import AdaptiveStep.Proofs.ExtendedOrder

/-!
# Arithmetic and negation

A rounding that commutes with negation gives an arithmetic whose products and quotients only carry
the sign of their operands along. Sums do so too unless they cancel: an exact zero is the positive
one, whatever the signs of the terms.
-/

namespace AdaptiveStep
set_option linter.unusedSectionVars false

namespace Extended

variable {κ : Type} [Field κ] [LinearOrder κ] [IsStrictOrderedRing κ] {x y : Extended κ}

lemma isNegative_neg (hx : x.isNaN = false) : x.neg.isNegative = !x.isNegative := by
  cases x
  case nan => simp [isNaN] at hx
  case finite a =>
    rcases lt_trichotomy a 0 with h | rfl | h
    · simp [neg_finite h.ne, isNegative, h, h.not_gt]
    · simp [isNegative]
    · simp [neg_finite h.ne', isNegative, h, h.not_gt]
  all_goals simp [neg, isNegative]

lemma value?_neg (x : Extended κ) : x.neg.value? = x.value?.map (-·) := by
  cases x
  case finite a => by_cases ha : a = 0 <;> simp [ha, neg, value?]
  all_goals simp [neg, value?]

@[simp] lemma neg_zero_sign (negative : Bool) :
    (zero negative : Extended κ).neg = zero !negative := by
  cases negative <;> simp [zero, neg]

/-- Numbers that are opposite, as far as signs of zeros are not looked at. -/
def Opposed (x y : Extended κ) : Prop := y = x.neg ∨ (x.isZero = true ∧ y.isZero = true)

lemma opposed_neg (x : Extended κ) : Opposed x x.neg := .inl rfl

end Extended

namespace Rounding

open Extended

variable {κ : Type} [Field κ] [LinearOrder κ] [IsStrictOrderedRing κ]

/-- Rounding and negation commute. -/
def IsOdd (R : Rounding κ) : Prop := ∀ q : κ, q ≠ 0 → R.nearest (-q) = (R.nearest q).neg

variable {R : Rounding κ}

@[simp] lemma round_zero (R : Rounding κ) : R.round 0 = finite 0 := if_pos rfl

@[simp] lemma nan_add (x : Extended κ) : R.add nan x = nan := by
  cases x <;> rfl

@[simp] lemma add_nan (x : Extended κ) : R.add x nan = nan := by
  cases x <;> rfl

/-- A difference has the sign of the order of its terms, if rounding keeps that sign. -/
theorem sign_sub {x y : Extended κ}
    (hround : ∀ a b, x.value? = some a → y.value? = some b →
      (R.round (a + -b)).lt (finite 0) = decide (a < b) ∧
        (finite 0).lt (R.round (a + -b)) = decide (b < a)) :
    (R.sub x y).lt (finite 0) = x.lt y ∧ (finite 0).lt (R.sub x y) = y.lt x := by
  unfold sub
  rcases x with _ | (_ | _) | _ | a <;> rcases y with _ | (_ | _) | _ | b
  case finite.finite =>
    by_cases hb : b = 0
    · simp [hb, add]
    · rw [neg_finite hb]
      exact hround a b rfl rfl
  case infinity.false.finite => by_cases hb : b = 0 <;> simp [hb, add, neg, lt]
  case infinity.true.finite => by_cases hb : b = 0 <;> simp [hb, add, neg, lt]
  case negativeZero.finite => by_cases hb : b = 0 <;> simp [hb, add, neg, lt]
  case finite.negativeZero => simpa [add, neg, lt] using hround a 0 rfl rfl
  all_goals simp [add, neg, lt]

variable (hR : R.IsOdd)
include hR

lemma mul_neg_left (x y : Extended κ) : R.mul x.neg y = (R.mul x y).neg := by
  by_cases hx : x.isNaN = true
  · rcases x with _ | _ | _ | _ <;> simp_all [isNaN, mul, value?]
  have hx' : x.isNaN = false := by simpa using hx
  unfold mul
  rw [isNegative_neg hx', value?_neg, isNaN_neg, isZero_neg]
  dsimp only
  cases x.value? with
  | none =>
    simp only [Option.map_none]
    split_ifs <;> simp [neg]
  | some a =>
    cases y.value? with
    | none =>
      simp only [Option.map_some]
      split_ifs <;> simp [neg]
    | some b =>
      simp only [Option.map_some, neg_mul, neg_eq_zero]
      by_cases h : a * b = 0
      · simp [h]
      · simp [h, hR _ h]

lemma mul_neg_right (x y : Extended κ) : R.mul x y.neg = (R.mul x y).neg := by
  by_cases hy : y.isNaN = true
  · rcases y with _ | _ | _ | _ <;> rcases x with _ | _ | _ | _ <;> simp_all [isNaN, mul, value?]
  have hy' : y.isNaN = false := by simpa using hy
  unfold mul
  rw [isNegative_neg hy', value?_neg, isNaN_neg, isZero_neg]
  dsimp only
  cases x.value? with
  | none =>
    simp only
    split_ifs <;> simp [neg]
  | some a =>
    cases y.value? with
    | none =>
      simp only [Option.map_none]
      split_ifs <;> simp [neg]
    | some b =>
      simp only [Option.map_some, mul_neg, neg_eq_zero]
      by_cases h : a * b = 0
      · simp [h]
      · simp [h, hR _ h]

lemma mul_neg_neg (x y : Extended κ) : R.mul x.neg y.neg = R.mul x y := by
  rw [mul_neg_left hR, mul_neg_right hR, Extended.neg_neg]

lemma div_neg_left (x y : Extended κ) : R.div x.neg y = (R.div x y).neg := by
  by_cases hx : x.isNaN = true
  · rcases x with _ | _ | _ | _ <;> rcases y with _ | _ | _ | _ <;> simp_all [isNaN, div, value?]
  have hx' : x.isNaN = false := by simpa using hx
  unfold div
  rw [isNegative_neg hx', value?_neg, isNaN_neg]
  dsimp only
  cases x.value? with
  | none =>
    cases y.value? with
    | none => simp
    | some b =>
      simp only [Option.map_none]
      split_ifs
      simp [neg]
  | some a =>
    cases y.value? with
    | none =>
      simp only [Option.map_some]
      split_ifs
      · rfl
      · simp
    | some b =>
      simp only [Option.map_some, neg_div, neg_eq_zero]
      by_cases hb : b = 0
      · by_cases ha : a = 0 <;> simp [ha, hb, neg]
      · by_cases h : a / b = 0
        · simp [hb, h]
        · simp [hb, h, hR _ h]

lemma div_neg_right (x y : Extended κ) : R.div x y.neg = (R.div x y).neg := by
  by_cases hy : y.isNaN = true
  · rcases y with _ | _ | _ | _ <;> rcases x with _ | _ | _ | _ <;> simp_all [isNaN, div, value?]
  have hy' : y.isNaN = false := by simpa using hy
  unfold div
  rw [isNegative_neg hy', value?_neg, isNaN_neg]
  dsimp only
  cases x.value? with
  | none =>
    cases y.value? with
    | none => simp
    | some b =>
      simp only [Option.map_some]
      split_ifs <;> simp [neg]
  | some a =>
    cases y.value? with
    | none =>
      simp only [Option.map_none]
      split_ifs
      simp
    | some b =>
      simp only [Option.map_some, div_neg, neg_eq_zero]
      by_cases hb : b = 0
      · by_cases ha : a = 0 <;> simp [ha, hb, neg]
      · by_cases h : a / b = 0
        · simp [hb, h]
        · simp [hb, h, hR _ h]

/-- The opposites of two terms have the opposite sum, but a zero sum is the positive one again. -/
lemma add_neg_neg {x y : Extended κ} (hx : R.convert x = x) (hy : R.convert y = y) :
    Opposed (R.add x y) (R.add x.neg y.neg) := by
  have hfixed {a : κ} (ha : a ≠ 0) (h : R.convert (finite a) = finite a) :
      R.nearest (-a) = finite (-a) := by
    have hna : R.nearest a = finite a := by simpa [convert, round, ha] using h
    rw [hR _ ha, hna, neg_finite ha]
  rcases x with _ | _ | _ | a <;> rcases y with _ | _ | _ | b
  case finite.finite =>
    by_cases ha : a = 0
    · by_cases hb : b = 0
      · simp [ha, hb, Opposed, add, neg, round, isZero]
      · left
        simpa [ha, add, neg, hb, round, convert] using congrArg neg hy.symm
    · by_cases hb : b = 0
      · left
        simpa [hb, add, neg, ha, round, convert] using congrArg neg hx.symm
      · rw [neg_finite ha, neg_finite hb]
        by_cases h : a + b = 0
        · right
          have h' : -a + -b = 0 := by linear_combination -h
          simp [add, round, h, h', isZero]
        · left
          have h' : -a + -b = -(a + b) := by ring
          have hne : -(a + b) ≠ 0 := neg_ne_zero.mpr h
          simp only [add, round, h', h, hne, if_false]
          exact hR _ h
  case finite.negativeZero =>
    by_cases ha : a = 0
    · simp [ha, Opposed, add, neg, isZero]
    · left
      simp [add, neg, ha, round, hfixed ha hx]
  case negativeZero.finite =>
    by_cases hb : b = 0
    · simp [hb, Opposed, add, neg, isZero]
    · left
      simp [add, neg, hb, round, hfixed hb hy]
  case infinity.infinity p q =>
    left
    cases p <;> cases q <;> simp [add, neg]
  case infinity.finite p b =>
    left
    by_cases hb : b = 0 <;> simp [hb, add, neg]
  case finite.infinity a p =>
    left
    by_cases ha : a = 0 <;> simp [ha, add, neg]
  case negativeZero.negativeZero => exact .inl (by simp [add, neg, round])
  all_goals
    left
    simp [neg]
  all_goals simp [add]

lemma sub_neg_neg {x y : Extended κ} (hx : R.convert x = x) (hy : R.convert y = y) :
    Opposed (R.sub x y) (R.sub x.neg y.neg) := by
  apply add_neg_neg hR hx
  cases y
  case finite b =>
    by_cases hb : b = 0
    · simp [hb, convert]
    · have hnb : R.nearest b = finite b := by simpa [convert, round, hb] using hy
      rw [neg_finite hb]
      simp [convert, round, hb, hR _ hb, hnb, neg]
  all_goals simp [convert, neg, round]

end Rounding

end AdaptiveStep
