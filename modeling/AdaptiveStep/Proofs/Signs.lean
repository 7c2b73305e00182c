import AdaptiveStep.Proofs.FloatRounding
import AdaptiveStep.Proofs.Summation

/-!
# Signs of results

Operations on numbers without the minus sign give numbers without it, the square of any number
included.
-/

namespace AdaptiveStep

open Extended

lemma Format.isNegative_nearest {f : Format} (hf : 1 ≤ f.precision) {q : ℚ} (hq : 0 ≤ q) :
    (f.nearest q).isNegative = false := by
  rcases hq.eq_or_lt with rfl | hq
  · simp [nearest, roundHalfEven, zero, isNegative]
  · rcases nearest_cases hf hq with h | ⟨v, h, -, hv, -⟩
    · rw [h]
      rfl
    · simpa [h, isNegative] using hv

lemma Format.isNegative_sqrt {f : Format} (hf : 1 ≤ f.precision) (q : ℚ) :
    (f.sqrt q).isNegative = false := by
  unfold sqrt
  dsimp only
  split_ifs
  · exact isNegative_nearest hf (by positivity)
  · exact isNegative_nearest hf (by positivity)

namespace Extended

lemma finite_natAbs (n : ℤ) : (finite ((n.natAbs : ℤ) : ℚ) : Number) = (finite (n : ℚ)).abs := by
  simp only [Extended.abs]
  split_ifs with h
  · rw [Int.natCast_natAbs, abs_of_neg (by exact_mod_cast h), Int.cast_neg]
  · rw [Int.natCast_natAbs, abs_of_nonneg (by exact_mod_cast not_lt.mp h)]

lemma finite_ratAbs (q : ℚ) : (finite q.abs : Number) = (finite q).abs := by
  simp only [Extended.abs, Rat.abs]
  split_ifs with h h' h'
  · exact absurd h' h.not_gt
  · rfl
  · rfl
  · exact absurd (not_le.mp h) h'

end Extended

namespace FloatType

variable {t : FloatType} {x y : Number}

lemma isNegative_round {q : ℚ} (hq : 0 ≤ q) : (t.rounding.round q).isNegative = false := by
  unfold Rounding.round
  split_ifs
  · simp [isNegative]
  · exact Format.isNegative_nearest t.one_le_precision hq

/-- Conversions keep the sign, also where they round to zero. -/
lemma isNegative_convert (x : Number) : (t.convert x).isNegative = x.isNegative := by
  have hround {u : FloatType} (x : Number) : (u.rounding.convert x).isNegative = x.isNegative := by
    cases x
    case finite q =>
      rcases lt_or_ge q 0 with h | h
      · have hneg := round_neg (t := u) (-q) (neg_ne_zero.mpr h.ne)
        rw [InvolutiveNeg.neg_neg] at hneg
        simp only [Rounding.convert, hneg]
        rw [isNegative_neg (isNaN_round _), isNegative_round (neg_nonneg.mpr h.le)]
        simp [isNegative, h]
      · simpa [Rounding.convert, isNegative, h.not_gt] using isNegative_round (t := u) h
    all_goals rfl
  cases t <;> simp only [convert, hround]

lemma convert_abs (x : Number) : t.convert x.abs = (t.convert x).abs := by
  cases h : x.isNegative
  · rw [abs_eq_self h, abs_eq_self (by rw [isNegative_convert, h])]
  · rw [abs_eq_neg_of_isNegative h, abs_eq_neg_of_isNegative (by rw [isNegative_convert, h]),
      convert_neg]

lemma value?_nonneg (hx : x.isNegative = false) {q : ℚ} (h : x.value? = some q) : 0 ≤ q := by
  cases x
  case finite p =>
    obtain rfl : p = q := by simpa [value?] using h
    simpa [isNegative] using hx
  all_goals simp_all [value?, isNegative]

lemma isNegative_mul_self (x : Number) : (t.rounding.mul x x).isNegative = false := by
  unfold Rounding.mul
  rw [Bool.xor_self]
  cases h : x.value? with
  | none =>
    dsimp only
    split_ifs <;> rfl
  | some q =>
    dsimp only
    split_ifs
    · simp [zero, isNegative]
    · exact Format.isNegative_nearest t.one_le_precision (mul_self_nonneg q)

lemma isNegative_mul (hx : x.isNegative = false) (hy : y.isNegative = false) :
    (t.rounding.mul x y).isNegative = false := by
  unfold Rounding.mul
  rw [hx, hy, Bool.xor_self]
  cases hp : x.value? with
  | none =>
    cases y.value? <;> dsimp only <;> split_ifs <;> rfl
  | some p =>
    cases hq : y.value? with
    | none =>
      dsimp only
      split_ifs <;> rfl
    | some q =>
      dsimp only
      split_ifs
      · simp [zero, isNegative]
      · exact Format.isNegative_nearest t.one_le_precision
          (mul_nonneg (value?_nonneg hx hp) (value?_nonneg hy hq))

lemma isNegative_div (hx : x.isNegative = false) (hy : y.isNegative = false) :
    (t.rounding.div x y).isNegative = false := by
  unfold Rounding.div
  rw [hx, hy, Bool.xor_self]
  cases hp : x.value? with
  | none =>
    cases y.value? with
    | none => rfl
    | some q =>
      dsimp only
      split_ifs <;> rfl
  | some p =>
    cases hq : y.value? with
    | none =>
      dsimp only
      split_ifs <;> simp [zero, isNegative]
    | some q =>
      dsimp only
      split_ifs
      · rfl
      · rfl
      · simp [zero, isNegative]
      · exact Format.isNegative_nearest t.one_le_precision
          (div_nonneg (value?_nonneg hx hp) (value?_nonneg hy hq))

lemma isNegative_add (hx : x.isNegative = false) (hy : y.isNegative = false) :
    (t.rounding.add x y).isNegative = false := by
  rcases x with _ | (_ | _) | _ | p <;> rcases y with _ | (_ | _) | _ | q
  case finite.finite =>
    exact isNegative_round (add_nonneg (value?_nonneg hx rfl) (value?_nonneg hy rfl))
  all_goals simp_all [Rounding.add, isNegative]

lemma isNegative_squareRoot (hx : x.isNegative = false) :
    (t.rounding.squareRoot x).isNegative = false := by
  rcases x with _ | (_ | _) | _ | q
  case finite =>
    simp only [Rounding.squareRoot]
    split_ifs
    · simp [isNegative]
    · rfl
    · exact Format.isNegative_sqrt t.one_le_precision q
  all_goals simp_all [Rounding.squareRoot, isNegative]

lemma isNegative_sum {xs : List Number} {s : Number} (hs : t.arithmetic.IsSum xs s)
    (h : ∀ x ∈ xs, x.isNegative = false) : s.isNegative = false :=
  hs.closed (Q := fun x => x.isNegative = false) (isNegative_round (t := t) le_rfl)
    (fun _ _ hx hy => isNegative_add hx hy) h

end FloatType

end AdaptiveStep
