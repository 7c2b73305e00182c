import AdaptiveStep.Proofs.OddRounding
import AdaptiveStep.Proofs.Rounding

/-!
# The numbers of the float types

`FloatType.Holds` says that a number belongs to a type. Conversion to a type gives numbers of the
type and leaves them as they are, it keeps the order, and it commutes with negation. The difference
of two numbers of a type has the sign of their order, since gradual underflow keeps it from
vanishing.
-/

namespace AdaptiveStep

open Extended

namespace Format

variable {f : Format}

lemma nearest_of_pos {q : ℚ} (hq : 0 < q) :
    f.nearest q = if (2 : ℚ) ^ (f.maxExponent + 1) ≤ f.grid q then .infinity false
      else .finite (f.grid q) := by
  have hneg : ¬q < 0 := hq.not_gt
  by_cases hn : roundHalfEven (q / 2 ^ f.spacing q) = 0
  · have hgrid : f.grid q = 0 := by simp [grid, hn]
    have hpow := (two_zpow_pos (f.maxExponent + 1)).not_ge
    simp [nearest, hneg, hn, hgrid, hpow, Extended.zero]
  · simp only [nearest, hneg, hn, grid, decide_false, Bool.false_eq_true, if_false]
    congr

theorem nearest_neg {q : ℚ} (hq : q ≠ 0) : f.nearest (-q) = (f.nearest q).neg := by
  have hv (n : ℕ) (hn : n ≠ 0) (k : ℤ) : (n : ℚ) * 2 ^ k ≠ 0 :=
    mul_ne_zero (Nat.cast_ne_zero.mpr hn) (two_zpow_pos k).ne'
  rcases lt_or_gt_of_ne hq with h | h
  · have h' : ¬0 < q := h.not_gt
    simp only [nearest, Left.neg_neg_iff, h, h', decide_true, decide_false, if_true]
    simp only [Bool.false_eq_true, if_false]
    split_ifs with hn hv'
    · simp [Extended.zero, neg]
    · simp [neg]
    · rw [neg_finite (neg_ne_zero.mpr (hv _ hn _)), InvolutiveNeg.neg_neg]
  · have h' : ¬q < 0 := h.not_gt
    simp only [nearest, Left.neg_neg_iff, h, h', decide_true, decide_false, if_true,
      InvolutiveNeg.neg_neg]
    simp only [Bool.false_eq_true, if_false]
    split_ifs with hn hv'
    · simp [Extended.zero]
    · simp [neg]
    · rw [neg_finite (hv _ hn _)]

/-- A value that the format holds, within its range of exponents. -/
def HoldsWithin (f : Format) (q : ℚ) : Prop := f.Holds q ∧ q < 2 ^ (f.maxExponent + 1)

lemma holdsWithin_zero : f.HoldsWithin 0 :=
  ⟨⟨0, f.leastExponent, by simp, by positivity, le_rfl⟩, two_zpow_pos _⟩

lemma two_zpow_leastExponent_le_grid (hf : 1 ≤ f.precision) {q : ℚ}
    (hq : 2 ^ f.leastExponent ≤ q) : 2 ^ f.leastExponent ≤ f.grid q := by
  have hone : (1 : ℕ) < 2 ^ f.precision := Nat.one_lt_two_pow (by omega)
  have hleast : f.Holds (2 ^ f.leastExponent) := ⟨1, f.leastExponent, by simp, hone, le_rfl⟩
  calc (2 : ℚ) ^ f.leastExponent = f.grid (2 ^ f.leastExponent) :=
        (grid_eq_self (two_zpow_pos _) hleast).symm
    _ ≤ f.grid q := grid_mono hf (two_zpow_pos _) hq

/-- The rounded value of a positive rational: within the range, or infinite. -/
lemma nearest_cases (hf : 1 ≤ f.precision) {q : ℚ} (hq : 0 < q) :
    f.nearest q = .infinity false ∨
      ∃ v, f.nearest q = .finite v ∧ v = f.grid q ∧ 0 ≤ v ∧ f.HoldsWithin v := by
  rw [nearest_of_pos hq]
  split_ifs with h
  · exact .inl rfl
  · exact .inr ⟨_, rfl, rfl, grid_nonneg q, holds_grid hf hq, not_le.mp h⟩

lemma nearest_eq_self {q : ℚ} (hq : 0 < q) (h : f.HoldsWithin q) :
    f.nearest q = .finite q := by
  rw [nearest_of_pos hq, grid_eq_self hq h.1, if_neg h.2.not_ge]

lemma nearest_mono (hf : 1 ≤ f.precision) {p q : ℚ} (hp : 0 < p) (h : p ≤ q) :
    (f.nearest q).lt (f.nearest p) = false := by
  have hgrid := grid_mono hf hp h
  rw [nearest_of_pos hp, nearest_of_pos (hp.trans_le h)]
  split_ifs with hq' hp' hp'
  · simp
  · simp [lt]
  · exact absurd (hp'.trans hgrid) hq'
  · simpa [lt] using hgrid

end Format

namespace FloatType

lemma one_le_precision (t : FloatType) : 1 ≤ t.format.precision := by
  cases t <;> simp [format]

theorem rounding_isOdd (t : FloatType) : t.rounding.IsOdd := fun _ hq => Format.nearest_neg hq

/-- The numbers of a float type: its finite values and the special values. -/
def Holds (t : FloatType) : Number → Prop
  | .finite q => t.format.HoldsWithin |q|
  | _ => True

@[simp] lemma arithmetic_ofRat (t : FloatType) : t.arithmetic.ofRat = t.rounding.ofRat := rfl

@[simp] lemma arithmetic_neg (t : FloatType) : t.arithmetic.neg = Extended.neg := rfl

@[simp] lemma arithmetic_abs (t : FloatType) : t.arithmetic.abs = Extended.abs := rfl

@[simp] lemma arithmetic_add (t : FloatType) : t.arithmetic.add = t.rounding.add := rfl

@[simp] lemma arithmetic_sub (t : FloatType) : t.arithmetic.sub = t.rounding.sub := rfl

@[simp] lemma arithmetic_mul (t : FloatType) : t.arithmetic.mul = t.rounding.mul := rfl

@[simp] lemma arithmetic_div (t : FloatType) : t.arithmetic.div = t.rounding.div := rfl

@[simp] lemma arithmetic_lt (t : FloatType) : t.arithmetic.lt = Extended.lt := rfl

@[simp] lemma arithmetic_isNaN (t : FloatType) : t.arithmetic.isNaN = Extended.isNaN := rfl

@[simp] lemma arithmetic_isZero (t : FloatType) : t.arithmetic.isZero = Extended.isZero := rfl

variable {t : FloatType} {x y : Number}

lemma arithmetic_le_of_lt (h : x.lt y = true) : t.arithmetic.le x y = true := by
  obtain ⟨hx, hy, -⟩ := lt_iff.mp h
  simp [Arithmetic.le, hx, hy, lt_asymm h]

lemma holds_neg (h : t.Holds x) : t.Holds x.neg := by
  cases x
  case finite q =>
    by_cases hq : q = 0
    · subst hq; simp [Holds]
    · rw [neg_finite hq]
      simpa [Holds] using h
  case negativeZero => simpa [neg, Holds] using Format.holdsWithin_zero
  all_goals trivial

lemma holds_abs (h : t.Holds x) : t.Holds x.abs := by
  cases x
  case finite q =>
    by_cases hq : q < 0
    · simpa [Extended.abs, hq, Holds] using h
    · simpa [Extended.abs, hq, Holds] using h
  case negativeZero => simpa [Extended.abs, Holds] using Format.holdsWithin_zero
  all_goals trivial

lemma round_neg (q : ℚ) (hq : q ≠ 0) : t.rounding.round (-q) = (t.rounding.round q).neg := by
  simp only [Rounding.round, hq, neg_eq_zero, if_false]
  exact t.rounding_isOdd q hq

lemma holds_round (q : ℚ) : t.Holds (t.rounding.round q) := by
  have hpos {q : ℚ} (hq : 0 < q) : t.Holds (t.format.nearest q) := by
    rcases Format.nearest_cases t.one_le_precision hq with h | ⟨v, h, -, hv, hin⟩
    · rw [h]; trivial
    · rw [h]; simpa [Holds, abs_of_nonneg hv] using hin
  rcases lt_trichotomy q 0 with hq | rfl | hq
  · have hneg : t.rounding.round q = (t.format.nearest (-q)).neg := by
      rw [Format.nearest_neg hq.ne, Extended.neg_neg]
      simp [Rounding.round, hq.ne, rounding]
    rw [hneg]
    exact holds_neg (hpos (neg_pos.mpr hq))
  · simpa [Rounding.round, Holds] using Format.holdsWithin_zero
  · simpa [Rounding.round, hq.ne', rounding] using hpos hq

lemma round_eq_self {q : ℚ} (h : t.Holds (.finite q)) : t.rounding.round q = .finite q := by
  have hpos {q : ℚ} (hq : 0 < q) (h : t.Holds (.finite q)) : t.format.nearest q = .finite q :=
    Format.nearest_eq_self hq (by simpa [Holds, abs_of_pos hq] using h)
  rcases lt_trichotomy q 0 with hq | rfl | hq
  · have hneg := hpos (neg_pos.mpr hq) (by simpa [Holds] using h)
    have hround : t.rounding.round q = (t.format.nearest (-q)).neg := by
      rw [Format.nearest_neg hq.ne, Extended.neg_neg]
      simp [Rounding.round, hq.ne, rounding]
    rw [hround, hneg, neg_finite (neg_ne_zero.mpr hq.ne), InvolutiveNeg.neg_neg]
  · simp [Rounding.round]
  · simpa [Rounding.round, hq.ne', rounding] using hpos hq h

/-- What is not above a number of the type is rounded to a number that is not above it. -/
lemma nearest_le {a p : ℚ} (ha : t.Holds (.finite a)) (ha0 : 0 < a) (hp : 0 < p) (hle : p ≤ a) :
    ∃ v, t.format.nearest p = .finite v ∧ v = t.format.grid p ∧ 0 ≤ v ∧ v ≤ a := by
  have hself : t.format.nearest a = .finite a :=
    Format.nearest_eq_self ha0 (by simpa [Holds, abs_of_pos ha0] using ha)
  have hmono := Format.nearest_mono t.one_le_precision hp hle
  rw [hself] at hmono
  rcases Format.nearest_cases t.one_le_precision hp with h | ⟨v, h, hv, hv0, -⟩
  · rw [h] at hmono
    simp [lt] at hmono
  · rw [h] at hmono
    exact ⟨v, h, hv, hv0, by simpa [lt] using hmono⟩

@[simp] lemma isNaN_round (q : ℚ) : (t.rounding.round q).isNaN = false := by
  have hpos {q : ℚ} (hq : 0 < q) : (t.format.nearest q).isNaN = false := by
    rcases Format.nearest_cases t.one_le_precision hq with h | ⟨v, h, -⟩ <;> rw [h] <;> rfl
  rcases lt_trichotomy q 0 with hq | rfl | hq
  · rw [← InvolutiveNeg.neg_neg q, round_neg _ (neg_ne_zero.mpr hq.ne), isNaN_neg]
    simpa [Rounding.round, hq.ne, rounding] using hpos (neg_pos.mpr hq)
  · simp [Rounding.round, isNaN]
  · simpa [Rounding.round, hq.ne', rounding] using hpos hq

lemma place_round_nonneg {q : ℚ} (hq : 0 ≤ q) : 0 ≤ (t.rounding.round q).place := by
  rcases hq.eq_or_lt with rfl | hq
  · simp [Rounding.round]
  · rcases Format.nearest_cases t.one_le_precision hq with h | ⟨v, h, -, hv, -⟩
    · simp [Rounding.round, hq.ne', rounding, h]
    · simpa [Rounding.round, hq.ne', rounding, h] using hv

lemma place_round_nonpos {q : ℚ} (hq : q ≤ 0) : (t.rounding.round q).place ≤ 0 := by
  rcases hq.eq_or_lt with rfl | hq
  · simp [Rounding.round]
  · rw [← InvolutiveNeg.neg_neg q, round_neg _ (neg_ne_zero.mpr hq.ne)]
    rcases Format.nearest_cases t.one_le_precision (neg_pos.mpr hq) with h | ⟨v, h, -, hv, -⟩
    · simp [Rounding.round, hq.ne, rounding, h, neg]
    · rcases hv.eq_or_lt with rfl | hv
      · simp [Rounding.round, hq.ne, rounding, h]
      · have hle : -v ≤ 0 := neg_nonpos.mpr hv.le
        simpa [Rounding.round, hq.ne, rounding, h, neg_finite hv.ne', -Left.neg_nonpos_iff]
          using (by exact_mod_cast hle)

theorem round_mono {p q : ℚ} (h : p ≤ q) :
    (t.rounding.round q).lt (t.rounding.round p) = false := by
  have hpos {p q : ℚ} (hp : 0 < p) (h : p ≤ q) :
      (t.rounding.round q).lt (t.rounding.round p) = false := by
    simpa [Rounding.round, hp.ne', (hp.trans_le h).ne', rounding] using
      Format.nearest_mono t.one_le_precision hp h
  rcases lt_or_ge 0 p with hp | hp
  · exact hpos hp h
  · rcases lt_or_ge q 0 with hq | hq
    · -- two negative values, by their opposites
      have hp' : p < 0 := h.trans_lt hq
      have hneg := hpos (neg_pos.mpr hq) (neg_le_neg h)
      rwa [round_neg q hq.ne, round_neg p hp'.ne, Extended.neg_lt_neg] at hneg
    · rw [lt_eq_false_iff (isNaN_round q) (isNaN_round p)]
      exact (place_round_nonpos hp).trans (place_round_nonneg hq)

/-! ### Conversion -/

lemma convert_rounding_neg (x : Number) :
    t.rounding.convert x.neg = (t.rounding.convert x).neg := by
  cases x
  case finite q =>
    by_cases hq : q = 0
    · simp [hq, Rounding.convert, Rounding.round]
    · rw [neg_finite hq]
      exact round_neg q hq
  all_goals simp [Rounding.convert, Rounding.round, neg]

theorem convert_neg (x : Number) : t.convert x.neg = (t.convert x).neg := by
  cases t <;> simp only [convert, convert_rounding_neg]

lemma isNaN_rounding_convert (x : Number) : (t.rounding.convert x).isNaN = x.isNaN := by
  cases x
  case finite q => exact isNaN_round q
  all_goals rfl

@[simp] lemma isNaN_convert (x : Number) : (t.convert x).isNaN = x.isNaN := by
  cases t <;> simp only [convert, isNaN_rounding_convert]

lemma holds_rounding_convert (x : Number) : t.Holds (t.rounding.convert x) := by
  cases x
  case finite q => exact holds_round q
  all_goals trivial

theorem holds_convert (x : Number) : t.Holds (t.convert x) := by
  cases t <;> exact holds_rounding_convert _

lemma holds_of_convert_eq (hx : t.convert x = x) : t.Holds x := hx ▸ holds_convert x

lemma rounding_convert_of_holds (h : t.Holds x) : t.rounding.convert x = x := by
  cases x
  case finite q => exact round_eq_self h
  all_goals rfl

/-- A format with more digits and a wider range of exponents holds the values of another. -/
lemma holdsWithin_of_le {f g : Format} (hprecision : f.precision ≤ g.precision)
    (hmin : g.leastExponent ≤ f.leastExponent)
    (hmax : f.maxExponent ≤ g.maxExponent) {q : ℚ} (h : f.HoldsWithin q) : g.HoldsWithin q := by
  obtain ⟨⟨n, k, rfl, hn, hk⟩, hlt⟩ := h
  exact ⟨⟨n, k, rfl, hn.trans_le (Nat.pow_le_pow_right (by omega) hprecision), hmin.trans hk⟩,
    hlt.trans_le (two_zpow_le (by omega))⟩

lemma holds_float32_of_bfloat16 (h : bfloat16.Holds x) : float32.Holds x := by
  cases x
  case finite q => exact holdsWithin_of_le (by decide) (by decide) (by decide) h
  all_goals trivial

lemma holds_float64 (h : t.Holds x) : float64.Holds x := by
  cases x
  case finite q =>
    cases t <;> exact holdsWithin_of_le (by decide) (by decide) (by decide) h
  all_goals trivial

theorem convert_of_holds (h : t.Holds x) : t.convert x = x := by
  cases t
  case bfloat16 =>
    rw [convert, rounding_convert_of_holds (holds_float32_of_bfloat16 h),
      rounding_convert_of_holds h]
  all_goals exact rounding_convert_of_holds h

lemma lt_of_rounding_convert_lt (h : (t.rounding.convert x).lt (t.rounding.convert y) = true) :
    x.lt y = true := by
  have hround {p q : ℚ} (h : (t.rounding.round p).lt (t.rounding.round q) = true) : p < q := by
    by_contra hle
    rw [round_mono (not_lt.mp hle)] at h
    simp at h
  have hzero : t.rounding.convert negativeZero = negativeZero := rfl
  have hround_zero : t.rounding.round 0 = .finite 0 := by simp [Rounding.round]
  rcases x with _ | (_ | _) | _ | p <;> rcases y with _ | (_ | _) | _ | q
  case finite.finite => simpa [lt] using hround h
  case finite.negativeZero =>
    rw [hzero, lt_negativeZero, ← hround_zero] at h
    simpa [lt] using hround h
  case negativeZero.finite =>
    rw [hzero, negativeZero_lt, ← hround_zero] at h
    simpa [lt] using hround h
  all_goals first | rfl | simp [Rounding.convert] at h

theorem lt_of_convert_lt (h : (t.convert x).lt (t.convert y) = true) : x.lt y = true := by
  cases t
  case bfloat16 => exact lt_of_rounding_convert_lt (lt_of_rounding_convert_lt h)
  all_goals exact lt_of_rounding_convert_lt h

lemma convert_not_lt (h : x.lt y = false) : (t.convert x).lt (t.convert y) = false := by
  by_contra hlt
  simp [lt_of_convert_lt (by simpa using hlt)] at h

lemma convert_lt_of_holds (hy : t.Holds y) (h : x.lt y = false) : (t.convert x).lt y = false := by
  rw [← convert_of_holds hy]
  exact convert_not_lt h

lemma lt_convert_of_holds (hy : t.Holds y) (h : y.lt x = false) : y.lt (t.convert x) = false := by
  rw [← convert_of_holds hy]
  exact convert_not_lt h

/-! ### Signs of sums -/

lemma holds_mul (x y : Number) : t.Holds (t.rounding.mul x y) := by
  have hzero (negative : Bool) : t.Holds (zero negative) := by
    cases negative
    · simpa [zero, Holds] using Format.holdsWithin_zero
    · trivial
  unfold Rounding.mul
  dsimp only
  split
  · rename_i a b _ _
    split_ifs with h
    · exact hzero _
    · have hround := holds_round (t := t) (a * b)
      rwa [Rounding.round, if_neg h] at hround
  · split_ifs <;> trivial

lemma holds_add (hx : t.Holds x) (hy : t.Holds y) : t.Holds (t.rounding.add x y) := by
  rcases x with _ | _ | _ | p <;> rcases y with _ | _ | _ | q
  case finite.finite => exact holds_round _
  case infinity.infinity a b =>
    simp only [Rounding.add]
    split_ifs <;> trivial
  all_goals trivial

lemma holds_sub (hx : t.Holds x) (hy : t.Holds y) : t.Holds (t.rounding.sub x y) :=
  holds_add hx (holds_neg hy)

/-- A value of the type is a multiple of the least positive one. -/
lemma multiple_of_holds {q : ℚ} (h : t.Holds (.finite q)) :
    ∃ n : ℤ, q = n * 2 ^ t.format.leastExponent := by
  obtain ⟨⟨n, k, hq, -, hk⟩, -⟩ := h
  have hsplit : (2 : ℚ) ^ k = ((2 ^ (k - t.format.leastExponent).toNat : ℕ) : ℚ) *
      2 ^ t.format.leastExponent := by
    rw [← two_zpow_eq_natCast (by omega), ← two_zpow_add]
    congr 1
    omega
  have habs : |q| = ((n * 2 ^ (k - t.format.leastExponent).toNat : ℕ) : ℚ) *
      2 ^ t.format.leastExponent := by
    rw [hq, hsplit, Nat.cast_mul, mul_assoc]
  rcases abs_choice q with h | h
  · exact ⟨_, by rw [← h, habs, Int.cast_natCast]⟩
  · refine ⟨-((n * 2 ^ (k - t.format.leastExponent).toNat : ℕ) : ℤ), ?_⟩
    rw [← InvolutiveNeg.neg_neg q, ← h, habs]
    push_cast
    ring

lemma round_lt_zero {q : ℚ} (h : (t.rounding.round q).lt (.finite 0) = true) : q < 0 := by
  by_contra hq
  rw [← Rounding.round_zero t.rounding, round_mono (not_lt.mp hq)] at h
  simp at h

lemma zero_lt_round {q : ℚ} (h : (Extended.finite 0).lt (t.rounding.round q) = true) : 0 < q := by
  by_contra hq
  rw [← Rounding.round_zero t.rounding, round_mono (not_lt.mp hq)] at h
  simp at h

/-- Positive multiples of the least positive value do not vanish. -/
lemma zero_lt_round_multiple {n : ℤ} (hn : 0 < n) :
    (Extended.finite 0).lt (t.rounding.round (n * 2 ^ t.format.leastExponent)) = true := by
  have hunit := two_zpow_pos t.format.leastExponent
  have hone : (1 : ℚ) ≤ n := by exact_mod_cast hn
  have hle : (2 : ℚ) ^ t.format.leastExponent ≤ n * 2 ^ t.format.leastExponent :=
    le_mul_of_one_le_left hunit.le hone
  have hpos := hunit.trans_le hle
  have hgrid := hunit.trans_le (Format.two_zpow_leastExponent_le_grid t.one_le_precision hle)
  rcases Format.nearest_cases t.one_le_precision hpos with h | ⟨v, h, hv, -⟩
  · simp [Rounding.round, hpos.ne', rounding, h, lt]
  · simpa [Rounding.round, hpos.ne', rounding, h, hv, lt] using hgrid

lemma round_multiple_lt_zero {n : ℤ} (hn : n < 0) :
    (t.rounding.round (n * 2 ^ t.format.leastExponent)).lt (.finite 0) = true := by
  have hne : ((-n : ℤ) : ℚ) * 2 ^ t.format.leastExponent ≠ 0 :=
    mul_ne_zero (by exact_mod_cast (neg_pos.mpr hn).ne') (two_zpow_pos _).ne'
  have hneg := zero_lt_round_multiple (t := t) (neg_pos.mpr hn)
  rw [← Extended.neg_lt_neg, Extended.neg_zero, lt_negativeZero, ← round_neg _ hne] at hneg
  simpa using hneg

lemma sign_round_sub {p q : ℚ} (hp : t.Holds (.finite p)) (hq : t.Holds (.finite q)) :
    (t.rounding.round (p + -q)).lt (.finite 0) = decide (p < q) ∧
      (Extended.finite 0).lt (t.rounding.round (p + -q)) = decide (q < p) := by
  obtain ⟨m, rfl⟩ := multiple_of_holds hp
  obtain ⟨n, rfl⟩ := multiple_of_holds hq
  have hunit := two_zpow_pos t.format.leastExponent
  have hsub : (m : ℚ) * 2 ^ t.format.leastExponent + -(n * 2 ^ t.format.leastExponent) =
      ((m - n : ℤ) : ℚ) * 2 ^ t.format.leastExponent := by
    push_cast
    ring
  have hiff (a b : ℤ) : (a : ℚ) * 2 ^ t.format.leastExponent < b * 2 ^ t.format.leastExponent ↔
      a < b := by
    rw [mul_lt_mul_iff_of_pos_right hunit]
    exact_mod_cast Iff.rfl
  rw [hsub]
  simp only [hiff]
  rcases lt_trichotomy m n with h | rfl | h
  · have hneg := round_multiple_lt_zero (t := t) (sub_neg.mpr h)
    exact ⟨by simpa [h] using hneg, by simpa [h.not_gt] using Extended.lt_asymm hneg⟩
  · simp
  · have hpos := zero_lt_round_multiple (t := t) (sub_pos.mpr h)
    exact ⟨by simpa [h.not_gt] using Extended.lt_asymm hpos, by simpa [h] using hpos⟩

/-- The difference of two numbers of the type has the sign of their order. -/
theorem sign_sub (hx : t.Holds x) (hy : t.Holds y) :
    (t.rounding.sub x y).lt (.finite 0) = x.lt y ∧
      (Extended.finite 0).lt (t.rounding.sub x y) = y.lt x := by
  have hvalue {x : Number} {q : ℚ} (hx : t.Holds x) (hq : x.value? = some q) :
      t.Holds (.finite q) := by
    cases x <;> simp [value?] at hq <;> subst hq
    · simpa [Holds] using Format.holdsWithin_zero
    · exact hx
  exact Rounding.sign_sub fun p q hp hq => sign_round_sub (hvalue hx hp) (hvalue hy hq)

/-- Whatever the operands are, the sign of their difference tells their order. -/
lemma order_of_sub (x y : Number) :
    ((t.rounding.sub x y).lt (.finite 0) = true → x.lt y = true) ∧
      ((Extended.finite 0).lt (t.rounding.sub x y) = true → y.lt x = true) := by
  have hround (q : ℚ) : ((t.rounding.round q).lt (.finite 0) = true → q < 0) ∧
      ((Extended.finite 0).lt (t.rounding.round q) = true → 0 < q) :=
    ⟨round_lt_zero, zero_lt_round⟩
  unfold Rounding.sub
  rcases x with _ | (_ | _) | _ | p <;> rcases y with _ | (_ | _) | _ | q
  case finite.finite =>
    by_cases hq : q = 0
    · simp [hq, Rounding.add, lt]
    · rw [neg_finite hq]
      obtain ⟨hneg, hpos⟩ := hround (p + -q)
      constructor
      · intro h
        simpa [lt] using (by linarith [hneg h] : p < q)
      · intro h
        simpa [lt] using (by linarith [hpos h] : q < p)
  case finite.negativeZero => simpa [Rounding.add, neg, lt] using hround (p + 0)
  case infinity.true.finite => by_cases hq : q = 0 <;> simp [hq, Rounding.add, neg, lt]
  case infinity.false.finite => by_cases hq : q = 0 <;> simp [hq, Rounding.add, neg, lt]
  case negativeZero.finite => by_cases hq : q = 0 <;> simp_all [Rounding.add, neg, lt]
  all_goals simp_all [Rounding.add, neg, lt]

lemma not_sub_lt_zero (h : x.lt y = false) : (t.rounding.sub x y).lt (.finite 0) = false := by
  by_contra hlt
  simp [(order_of_sub x y).1 (by simpa using hlt)] at h

lemma not_zero_lt_sub (h : y.lt x = false) : (Extended.finite 0).lt (t.rounding.sub x y) = false := by
  by_contra hlt
  simp [(order_of_sub x y).2 (by simpa using hlt)] at h

lemma add_eq_sub_neg (x y : Number) : t.rounding.add x y = t.rounding.sub x y.neg := by
  rw [Rounding.sub, Extended.neg_neg]

end FloatType

lemma double_le_iff {x y : Number} :
    double.le x y = true ↔ x.isNaN = false ∧ y.isNaN = false ∧ y.lt x = false := by
  simp [Arithmetic.le, double, and_assoc]

end AdaptiveStep
