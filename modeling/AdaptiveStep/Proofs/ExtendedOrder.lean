import Mathlib
import AdaptiveStep.Number.Arithmetic

/-!
# The order of extended numbers

`Extended.place` puts a number on the line that the carrier becomes with two infinite ends. The order
test of the arithmetic is the order of places among numbers that are not NaN, so that chains of
comparisons are chains in a linear order.
-/

namespace AdaptiveStep
set_option linter.unusedSectionVars false

namespace Extended

variable {κ : Type} [Field κ] [LinearOrder κ] [IsStrictOrderedRing κ] {x y : Extended κ}

/-- The place of a number on the line, for both zeros the same. NaN has none and is put at the
lower end. -/
def place : Extended κ → WithBot (WithTop κ)
  | nan => ⊥
  | infinity negative => if negative then ⊥ else ((⊤ : WithTop κ) : WithBot (WithTop κ))
  | negativeZero => ((0 : κ) : WithTop κ)
  | finite x => (x : WithTop κ)

@[simp] lemma place_nan : (nan : Extended κ).place = ⊥ := rfl

@[simp] lemma place_infinity_false : (infinity false : Extended κ).place = ⊤ := rfl

@[simp] lemma place_infinity_true : (infinity true : Extended κ).place = ⊥ := rfl

@[simp] lemma place_negativeZero : (negativeZero : Extended κ).place = ((0 : κ) : WithTop κ) := rfl

@[simp] lemma place_finite (a : κ) : (finite a).place = ((a : WithTop κ) : WithBot (WithTop κ)) := rfl

lemma coe_lt_top (a : κ) : ((a : WithTop κ) : WithBot (WithTop κ)) < ⊤ :=
  WithBot.coe_lt_coe.mpr (WithTop.coe_lt_top a)

@[simp] lemma zero_lt_top : (0 : WithBot (WithTop κ)) < ⊤ := coe_lt_top 0

lemma lt_iff : x.lt y = true ↔ x.isNaN = false ∧ y.isNaN = false ∧ x.place < y.place := by
  rcases x with _ | (_ | _) | _ | a <;> rcases y with _ | (_ | _) | _ | b <;>
    simp [lt, isNaN, coe_lt_top]

lemma lt_eq_false_iff (hx : x.isNaN = false) (hy : y.isNaN = false) :
    x.lt y = false ↔ y.place ≤ x.place := by
  rw [← Bool.not_eq_true, lt_iff]
  simp [hx, hy]

@[simp] lemma lt_self (x : Extended κ) : x.lt x = false := by
  rcases x with _ | (_ | _) | _ | a <;> simp [lt]

lemma lt_asymm (h : x.lt y = true) : y.lt x = false := by
  obtain ⟨hx, hy, hlt⟩ := lt_iff.mp h
  exact (lt_eq_false_iff hy hx).mpr hlt.le

@[simp] lemma nan_lt (x : Extended κ) : (nan : Extended κ).lt x = false := by
  rcases x with _ | _ | _ | a <;> rfl

@[simp] lemma lt_nan (x : Extended κ) : x.lt nan = false := by
  rcases x with _ | _ | _ | a <;> rfl

lemma lt_negativeZero (x : Extended κ) : x.lt negativeZero = x.lt (finite 0) := by
  rcases x with _ | (_ | _) | _ | a <;> simp [lt]

lemma negativeZero_lt (x : Extended κ) : negativeZero.lt x = (finite 0).lt x := by
  rcases x with _ | (_ | _) | _ | a <;> simp [lt]

@[simp] lemma infinity_lt (x : Extended κ) : (infinity false).lt x = false := by
  rcases x with _ | _ | _ | a <;> rfl

@[simp] lemma lt_infinity (x : Extended κ) : x.lt (infinity true) = false := by
  rcases x with _ | (_ | _) | _ | a <;> rfl

@[simp] lemma neg_nan : (nan : Extended κ).neg = nan := rfl

lemma neg_finite {a : κ} (ha : a ≠ 0) : (finite a).neg = finite (-a) := if_neg ha

@[simp] lemma neg_zero : (finite (0 : κ)).neg = negativeZero := if_pos rfl

@[simp] lemma neg_neg (x : Extended κ) : x.neg.neg = x := by
  rcases x with _ | (_ | _) | _ | a
  case finite =>
    by_cases ha : a = 0
    · simp [ha, neg]
    · rw [neg_finite ha, neg_finite (neg_ne_zero.mpr ha), InvolutiveNeg.neg_neg]
  all_goals simp [neg]

@[simp] lemma isNaN_neg (x : Extended κ) : x.neg.isNaN = x.isNaN := by
  cases x
  case finite a => by_cases ha : a = 0 <;> simp [ha, neg, isNaN]
  all_goals rfl

@[simp] lemma isNaN_abs (x : Extended κ) : x.abs.isNaN = x.isNaN := by
  cases x
  case finite a => by_cases ha : a < 0 <;> simp [ha, abs, isNaN]
  all_goals rfl

@[simp] lemma isInfinite_abs (x : Extended κ) : x.abs.isInfinite = x.isInfinite := by
  cases x
  case finite a => by_cases ha : a < 0 <;> simp [ha, abs, isInfinite]
  all_goals rfl

@[simp] lemma isZero_neg (x : Extended κ) : x.neg.isZero = x.isZero := by
  cases x
  case finite a => by_cases ha : a = 0 <;> simp [ha, neg, isZero]
  all_goals simp [neg, isZero]

@[simp] lemma abs_neg (x : Extended κ) : x.neg.abs = x.abs := by
  cases x
  case finite a =>
    rcases lt_trichotomy a 0 with h | rfl | h
    · simp [neg, abs, h, h.ne, h.not_gt]
    · simp [abs]
    · simp [neg, abs, h, h.ne', h.not_gt]
  all_goals simp [neg, abs]

@[simp] lemma isNegative_abs (x : Extended κ) : x.abs.isNegative = false := by
  cases x
  case finite a =>
    rcases lt_or_ge a 0 with h | h
    · simp [abs, isNegative, h, h.le]
    · simp [abs, isNegative, h.not_gt]
  all_goals simp [abs, isNegative]

lemma abs_eq_self (h : x.isNegative = false) : x.abs = x := by
  rcases x with _ | (_ | _) | _ | a
  case finite =>
    have ha : ¬a < 0 := by simpa [isNegative] using h
    simp [abs, ha]
  all_goals simp_all [abs, isNegative]

lemma abs_eq_neg_of_isNegative (h : x.isNegative = true) : x.abs = x.neg := by
  rcases x with _ | (_ | _) | _ | a
  case finite =>
    have ha : a < 0 := by simpa [isNegative] using h
    simp [abs, ha, neg_finite ha.ne]
  all_goals simp_all [isNegative, abs, neg]

@[simp] lemma abs_abs (x : Extended κ) : x.abs.abs = x.abs := abs_eq_self (isNegative_abs x)

lemma abs_of_isZero (hx : x.isZero = true) : x.abs = finite 0 := by
  cases x
  case negativeZero => rfl
  case finite a =>
    obtain rfl : a = 0 := by simpa [isZero] using hx
    simp [abs]
  all_goals simp [isZero] at hx

lemma zero_lt_abs (hx : x.isNaN = false) (hzero : x.isZero = false) :
    (finite 0).lt x.abs = true := by
  cases x
  case finite a =>
    have ha : a ≠ 0 := by simpa [isZero] using hzero
    rcases lt_or_gt_of_ne ha with h | h
    · simp [abs, h, lt]
    · simp [abs, h.not_gt, lt, h]
  all_goals simp_all [isNaN, isZero, abs, lt]

lemma lt_trans {z : Extended κ} (h : x.lt y = true) (h' : y.lt z = true) : x.lt z = true := by
  obtain ⟨hx, -, hlt⟩ := lt_iff.mp h
  obtain ⟨-, hz, hlt'⟩ := lt_iff.mp h'
  exact lt_iff.mpr ⟨hx, hz, hlt.trans hlt'⟩

lemma lt_of_lt_of_not_lt {z : Extended κ} (h : x.lt y = true) (hz : z.isNaN = false)
    (h' : z.lt y = false) : x.lt z = true := by
  obtain ⟨hx, hy, hlt⟩ := lt_iff.mp h
  exact lt_iff.mpr ⟨hx, hz, hlt.trans_le ((lt_eq_false_iff hz hy).mp h')⟩

lemma lt_of_not_lt_of_lt {z : Extended κ} (hx : x.isNaN = false) (h : y.lt x = false)
    (h' : y.lt z = true) : x.lt z = true := by
  obtain ⟨hy, hz, hlt⟩ := lt_iff.mp h'
  exact lt_iff.mpr ⟨hx, hz, ((lt_eq_false_iff hy hx).mp h).trans_lt hlt⟩

/-- What is not below a number is not below what that number is not below. -/
lemma not_lt_trans {z : Extended κ} (hy : y.isNaN = false) (h : x.lt y = false) (h' : y.lt z = false) :
    x.lt z = false := by
  by_contra hlt
  simp [lt_of_lt_of_not_lt (by simpa using hlt) hy h'] at h

lemma lt_zero_of_isNegative (h : x.isNegative = false) : x.lt (finite 0) = false := by
  rcases x with _ | (_ | _) | _ | a <;> simp_all [isNegative, lt]

lemma abs_eq_neg (h : x.lt (finite 0) = true) : x.abs = x.neg := by
  refine abs_eq_neg_of_isNegative ?_
  by_contra hsign
  simp [lt_zero_of_isNegative (by simpa using hsign)] at h

/-- A number that is not below zero has the place of its magnitude. -/
lemma place_abs (h : x.lt (finite 0) = false) : x.abs.place = x.place := by
  rcases x with _ | (_ | _) | _ | a
  case finite =>
    have ha : ¬a < 0 := by simpa [lt] using h
    simp [abs, ha]
  all_goals simp_all [abs, lt]

lemma abs_lt (h : x.lt (finite 0) = false) (y : Extended κ) : x.abs.lt y = x.lt y := by
  rw [Bool.eq_iff_iff, lt_iff, lt_iff, place_abs h, isNaN_abs]

lemma lt_abs (h : x.lt (finite 0) = false) (y : Extended κ) : y.lt x.abs = y.lt x := by
  rw [Bool.eq_iff_iff, lt_iff, lt_iff, place_abs h, isNaN_abs]

lemma neg_lt_neg (x y : Extended κ) : x.neg.lt y.neg = y.lt x := by
  rcases x with _ | (_ | _) | _ | a <;> rcases y with _ | (_ | _) | _ | b <;>
    simp [neg, lt] <;> split_ifs <;> simp_all

lemma neg_lt_zero (x : Extended κ) : x.neg.lt (finite 0) = (finite 0).lt x := by
  rw [← neg_lt_neg x (finite 0), neg_zero, lt_negativeZero]

lemma zero_lt_neg (x : Extended κ) : (finite 0).lt x.neg = x.lt (finite 0) := by
  rw [← neg_lt_zero, neg_neg]

/-- A magnitude is above a bound if the number is, or is below the opposite of the bound. -/
lemma lt_abs_eq_of_not_lt (hy : y.lt (finite 0) = false) (x : Extended κ) :
    y.lt x.abs = (y.lt x || x.lt y.neg) := by
  by_cases hx : x.lt (finite 0) = true
  · have hyx : y.lt x = false := by
      by_contra h
      have hlt := lt_trans (by simpa using h) hx
      simp [hy] at hlt
    rw [abs_eq_neg hx, hyx, Bool.false_or, ← neg_lt_neg x.neg y, neg_neg]
  · have hx : x.lt (finite 0) = false := by simpa using hx
    have hzero : (finite 0).lt y.neg = false := by
      rwa [zero_lt_neg]
    have hxy : x.lt y.neg = false := by
      by_contra h
      simp [lt_of_lt_of_not_lt (by simpa using h) rfl hzero] at hx
    rw [lt_abs hx, hxy, Bool.or_false]

lemma lt_abs_eq (hy : y.isNegative = false) (x : Extended κ) :
    y.lt x.abs = (y.lt x || x.lt y.neg) :=
  lt_abs_eq_of_not_lt (lt_zero_of_isNegative hy) x

end Extended

end AdaptiveStep
