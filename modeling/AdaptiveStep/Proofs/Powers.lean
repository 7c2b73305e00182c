import AdaptiveStep.Proofs.FloatRounding
import AdaptiveStep.Proofs.SquareRoot

/-!
# Bounds of powers

Roots and products of scaled numbers are cut downward, so their values are bounded by those of the
exact roots and products. A base that is at most one stays so under every exponent that is not
negative, and an exponent that is at most one cannot make a greater base overflow.
-/

namespace AdaptiveStep

open Extended

namespace Scaled

def value (x : Scaled) : ℚ := x.mantissa * 2 ^ x.exponent

variable {x y : Scaled}

lemma value_nonneg (x : Scaled) : 0 ≤ x.value := by
  unfold value
  positivity

lemma value_positive (h : 0 < x.mantissa) : 0 < x.value :=
  mul_pos (by exact_mod_cast h) (two_zpow_pos _)

/-! ### Positive mantissas -/

lemma truncate_positive (h : 0 < x.mantissa) : 0 < x.truncate.mantissa := by
  simp only [truncate, Nat.shiftRight_eq_div_pow]
  refine Nat.div_pos ?_ (by positivity)
  calc 2 ^ (x.mantissa.log2 + 1 - workingDigits) ≤ 2 ^ x.mantissa.log2 :=
        Nat.pow_le_pow_right (by decide) (by unfold workingDigits; omega)
    _ ≤ x.mantissa := Nat.log2_self_le h.ne'

lemma mul_positive (hx : 0 < x.mantissa) (hy : 0 < y.mantissa) : 0 < (x.mul y).mantissa :=
  truncate_positive (Nat.mul_pos hx hy)

lemma sqrt_positive (hx : 0 < x.mantissa) : 0 < x.sqrt.mantissa := by
  let widening := 2 * workingDigits - (x.mantissa.log2 + 1)
  let shift := if (x.exponent - widening) % 2 = 0 then widening else widening + 1
  refine truncate_positive (x := ⟨integerRoot (x.mantissa <<< shift), (x.exponent - shift) / 2⟩) ?_
  have hpositive : 0 < x.mantissa <<< shift := by
    rw [Nat.shiftLeft_eq]
    positivity
  by_contra hzero
  have hr : integerRoot (x.mantissa <<< shift) = 0 := Nat.le_zero.mp (not_lt.mp hzero)
  have hupper := (integerRoot_spec (x.mantissa <<< shift)).2
  rw [hr] at hupper
  omega

lemma digits_positive (hx : 0 < x.mantissa) (k n : ℕ) : 0 < (pow.digits x k n).mantissa := by
  induction k generalizing n with
  | zero => exact Nat.one_pos
  | succ k ih =>
    have hsquared := mul_positive (ih (n / 2)) (ih (n / 2))
    simp only [pow.digits]
    split_ifs
    · exact mul_positive hsquared hx
    · exact hsquared

lemma repeat_sqrt_positive (hx : 0 < x.mantissa) (k : ℕ) : 0 < (Nat.repeat sqrt k x).mantissa := by
  induction k with
  | zero => exact hx
  | succ k ih => exact sqrt_positive ih

/-! ### Values -/

lemma value_truncate_le (x : Scaled) : x.truncate.value ≤ x.value := by
  let excess := x.mantissa.log2 + 1 - workingDigits
  have hdiv : ((x.mantissa >>> excess : ℕ) : ℚ) * 2 ^ (excess : ℤ) ≤ x.mantissa := by
    rw [Nat.shiftRight_eq_div_pow, zpow_natCast]
    exact_mod_cast Nat.div_mul_le_self x.mantissa (2 ^ excess)
  calc x.truncate.value = (x.mantissa >>> excess : ℕ) * 2 ^ (excess : ℤ) * 2 ^ x.exponent := by
        simp only [value, truncate]
        rw [add_comm x.exponent, two_zpow_add]
        ring
    _ ≤ x.value := mul_le_mul_of_nonneg_right hdiv (two_zpow_pos _).le

lemma value_mul_le (x y : Scaled) : (x.mul y).value ≤ x.value * y.value := by
  refine (value_truncate_le _).trans_eq ?_
  simp only [value, two_zpow_add, Nat.cast_mul]
  ring

lemma value_sqrt_sq_le (x : Scaled) : x.sqrt.value ^ 2 ≤ x.value := by
  let widening := 2 * workingDigits - (x.mantissa.log2 + 1)
  let shift := if (x.exponent - widening) % 2 = 0 then widening else widening + 1
  let root : Scaled := ⟨integerRoot (x.mantissa <<< shift), (x.exponent - shift) / 2⟩
  have hr : ((root.mantissa : ℚ)) * root.mantissa ≤ x.mantissa * 2 ^ (shift : ℤ) := by
    have hle : root.mantissa * root.mantissa ≤ x.mantissa * 2 ^ shift := by
      rw [← Nat.shiftLeft_eq]
      exact (integerRoot_spec (x.mantissa <<< shift)).1
    rw [zpow_natCast]
    exact_mod_cast hle
  have hexponent : root.exponent + root.exponent ≤ x.exponent - shift := by
    simp only [root]
    omega
  calc x.sqrt.value ^ 2 ≤ root.value ^ 2 :=
        pow_le_pow_left₀ (value_nonneg _) (value_truncate_le root) 2
    _ = root.mantissa * root.mantissa * 2 ^ (root.exponent + root.exponent) := by
        simp only [value, two_zpow_add]
        ring
    _ ≤ x.mantissa * 2 ^ (shift : ℤ) * 2 ^ (x.exponent - shift) :=
        mul_le_mul hr (two_zpow_le hexponent) (two_zpow_pos _).le (by positivity)
    _ = x.value := by
        rw [mul_assoc, ← two_zpow_add, value]
        congr 2
        ring

lemma value_digits_le (x : Scaled) {k n : ℕ} (hn : n < 2 ^ k) :
    (pow.digits x k n).value ≤ x.value ^ n := by
  induction k generalizing n with
  | zero =>
    obtain rfl : n = 0 := by simpa using hn
    simp [pow.digits, value]
  | succ k ih =>
    let half := pow.digits x k (n / 2)
    have hhalf : half.value ≤ x.value ^ (n / 2) := ih (by omega)
    have hsquared : (half.mul half).value ≤ x.value ^ (n / 2 + n / 2) :=
      (value_mul_le _ _).trans (by
        rw [pow_add]
        exact mul_le_mul hhalf hhalf (value_nonneg _) (pow_nonneg (value_nonneg x) _))
    simp only [pow.digits]
    split_ifs with hodd
    · refine (value_mul_le _ _).trans ?_
      calc (half.mul half).value * x.value ≤ x.value ^ (n / 2 + n / 2) * x.value :=
            mul_le_mul_of_nonneg_right hsquared (value_nonneg x)
        _ = x.value ^ n := by
            rw [← pow_succ]
            congr 1
            omega
    · have heven : n / 2 + n / 2 = n := by omega
      rwa [heven] at hsquared

lemma value_pow_le (x : Scaled) (n : ℕ) : (x.pow n).value ≤ x.value ^ n :=
  value_digits_le x Nat.lt_log2_self

/-- The value is that of a root cut downward. -/
lemma value_repeat_sqrt_le (x : Scaled) (k : ℕ) :
    (Nat.repeat sqrt k x).value ^ 2 ^ k ≤ x.value := by
  induction k with
  | zero => simp [Nat.repeat]
  | succ k ih =>
    have hstep : (Nat.repeat sqrt (k + 1) x).value ^ 2 ≤ (Nat.repeat sqrt k x).value :=
      value_sqrt_sq_le _
    calc (Nat.repeat sqrt (k + 1) x).value ^ 2 ^ (k + 1) =
          ((Nat.repeat sqrt (k + 1) x).value ^ 2) ^ 2 ^ k := by
          rw [← pow_mul, pow_succ, mul_comm]
      _ ≤ (Nat.repeat sqrt k x).value ^ 2 ^ k := pow_le_pow_left₀ (sq_nonneg _) hstep _
      _ ≤ x.value := ih

lemma ofRat_bounds {q : ℚ} (hq : 0 < q) : 0 < (ofRat q).mantissa ∧ (ofRat q).value ≤ q := by
  let shift : ℤ := (workingDigits : ℤ) - 1 - floorLog2 q
  have hscaled : (1 : ℚ) ≤ q * 2 ^ shift := by
    calc (1 : ℚ) = 2 ^ (0 : ℤ) := (zpow_zero 2).symm
      _ ≤ 2 ^ (floorLog2 q + shift) := two_zpow_le (by simp only [shift]; unfold workingDigits; omega)
      _ = 2 ^ floorLog2 q * 2 ^ shift := two_zpow_add _ _
      _ ≤ q * 2 ^ shift := mul_le_mul_of_nonneg_right (floorLog2_spec hq).1 (two_zpow_pos _).le
  have hfloor : 1 ≤ (q * 2 ^ shift).floor := Int.le_floor.mpr (by exact_mod_cast hscaled)
  have hcast : (((q * 2 ^ shift).floor.toNat : ℕ) : ℚ) = ((q * 2 ^ shift).floor : ℚ) := by
    have h := Int.toNat_of_nonneg (a := (q * 2 ^ shift).floor) (by omega)
    exact_mod_cast congrArg (fun n : ℤ => (n : ℚ)) h
  have hcut : ofRat q = truncate ⟨(q * 2 ^ shift).floor.toNat, -shift⟩ := rfl
  rw [hcut]
  refine ⟨truncate_positive (Int.lt_toNat.mpr hfloor), (value_truncate_le _).trans ?_⟩
  calc value ⟨(q * 2 ^ shift).floor.toNat, -shift⟩ = (q * 2 ^ shift).floor * 2 ^ (-shift) := by
        rw [value, hcast]
    _ ≤ q * 2 ^ shift * 2 ^ (-shift) :=
        mul_le_mul_of_nonneg_right (Int.floor_le _) (two_zpow_pos _).le
    _ = q := by rw [mul_assoc, ← two_zpow_add, add_neg_cancel, zpow_zero, mul_one]

/-- The binary digits of a number begin at its value or below. -/
lemma two_zpow_top_le (h : 0 < x.mantissa) : 2 ^ (x.exponent + x.mantissa.log2) ≤ x.value := by
  rw [two_zpow_add, mul_comm, value]
  refine mul_le_mul_of_nonneg_right ?_ (two_zpow_pos _).le
  rw [zpow_natCast]
  exact_mod_cast Nat.log2_self_le h.ne'

/-- The power that `Format.power` turns into a number. -/
lemma power_bounds {q : ℚ} (hq : 0 < q) (k n : ℕ) :
    0 < ((Nat.repeat sqrt k (ofRat q)).pow n).mantissa ∧
      (q ≤ 1 → ((Nat.repeat sqrt k (ofRat q)).pow n).value ≤ 1) ∧
      (n ≤ 2 ^ (k + 1) → ((Nat.repeat sqrt k (ofRat q)).pow n).value ≤ max 1 q ^ 2) := by
  obtain ⟨hpositive, hvalue⟩ := ofRat_bounds hq
  let root := Nat.repeat sqrt k (ofRat q)
  have hroot : root.value ^ 2 ^ k ≤ q := (value_repeat_sqrt_le _ k).trans hvalue
  have hpow : (root.pow n).value ≤ root.value ^ n := value_pow_le root n
  refine ⟨digits_positive (repeat_sqrt_positive hpositive k) _ _, fun hone => ?_, fun hn => ?_⟩
  · have hle : root.value ≤ 1 :=
      (pow_le_one_iff_of_nonneg (value_nonneg _) (by positivity)).mp (hroot.trans hone)
    exact hpow.trans (pow_le_one₀ (value_nonneg _) hle)
  · rcases le_total root.value 1 with hle | hge
    · calc (root.pow n).value ≤ root.value ^ n := hpow
        _ ≤ 1 := pow_le_one₀ (value_nonneg _) hle
        _ ≤ max 1 q ^ 2 := one_le_pow₀ (le_max_left _ _)
    · calc (root.pow n).value ≤ root.value ^ n := hpow
        _ ≤ root.value ^ 2 ^ (k + 1) := pow_le_pow_right₀ hge hn
        _ = (root.value ^ 2 ^ k) ^ 2 := by rw [← pow_mul, pow_succ]
        _ ≤ max 1 q ^ 2 :=
            pow_le_pow_left₀ (by positivity) (hroot.trans (le_max_right _ _)) 2

end Scaled

namespace FloatType

variable {t : FloatType}

lemma holds_one (t : FloatType) : t.Holds (.finite 1) := by
  cases t <;> refine ⟨⟨1, 0, by simp, by decide, by decide⟩, ?_⟩ <;>
    rw [abs_one, ← zpow_zero (2 : ℚ), two_zpow_lt_iff] <;> decide

lemma round_one : t.rounding.ofRat 1 = .finite 1 := round_eq_self (holds_one t)

/-- A scaled number that is not above a number of the type becomes one that is not above it. -/
lemma toNumber_le {x : Scaled} {a : ℚ} (ha : t.Holds (.finite a)) (hx : 0 < x.mantissa)
    (hle : x.value ≤ a) : ∃ q, x.toNumber t.format = .finite q ∧ 0 ≤ q ∧ q ≤ a := by
  have hvalue := Scaled.value_positive hx
  have ha0 : 0 < a := hvalue.trans_le hle
  have htop : x.exponent + x.mantissa.log2 < t.format.maxExponent + 1 := by
    rw [← two_zpow_lt_iff]
    have hrange := ha.2
    rw [abs_of_pos ha0] at hrange
    exact ((Scaled.two_zpow_top_le hx).trans hle).trans_lt hrange
  unfold Scaled.toNumber
  dsimp only
  rw [if_neg (by omega)]
  split_ifs
  · exact ⟨0, rfl, le_rfl, ha0.le⟩
  · obtain ⟨v, h, -, hv, hva⟩ := nearest_le ha ha0 hvalue hle
    exact ⟨v, h, hv, hva⟩

/-- The power of a number from zero to one with an exponent that is not negative is such a number. -/
theorem pow_fraction {b : ℚ} (hb : 0 ≤ b) (hone : b ≤ 1) {y : Number} (hnumber : y.isNaN = false)
    (hy : y.lt (.finite 0) = false) :
    ∃ q, t.rounding.pow (.finite b) y = .finite q ∧ 0 ≤ q ∧ q ≤ 1 := by
  unfold Rounding.pow
  rw [round_one]
  dsimp only
  split_ifs with htrivial
  · exact ⟨1, rfl, zero_le_one, le_rfl⟩
  · simp only [Bool.or_eq_true, decide_eq_true_eq, not_or, finite.injEq] at htrivial
    obtain ⟨hzero, hne⟩ := htrivial
    have hlt : b < 1 := lt_of_le_of_ne hone hne
    rcases y with _ | (_ | _) | _ | y
    case nan => simp [isNaN] at hnumber
    case infinity.true => simp [lt] at hy
    case negativeZero => simp [isZero] at hzero
    case infinity.false => exact ⟨0, by simp [lt, hb.not_gt, hlt], le_rfl, zero_le_one⟩
    case finite =>
      have hy0 : ¬y < 0 := by simpa [lt] using hy
      simp only [hb.not_gt, hy0, if_false]
      split_ifs with hb0
      · exact ⟨0, rfl, le_rfl, zero_le_one⟩
      · have hpositive : 0 < b := lt_of_le_of_ne hb (Ne.symm hb0)
        obtain ⟨hmantissa, hvalue, -⟩ := Scaled.power_bounds hpositive y.den.log2 y.num.natAbs
        simp only [rounding, Format.power, hy0, if_false]
        exact toNumber_le (holds_one t) hmantissa (hvalue hone)

/-- A power with an exponent from zero to one does not pass the square of the base. -/
theorem pow_le_sq {a b : ℚ} (ha : t.Holds (.finite a)) (hb : 1 ≤ b) (hle : b ^ 2 ≤ a) {y : ℚ}
    (hy : 0 ≤ y) (hone : y ≤ 1) :
    ∃ q, t.rounding.pow (.finite b) (.finite y) = .finite q ∧ 0 ≤ q ∧ q ≤ a := by
  have ha1 : 1 ≤ a := (one_le_pow₀ hb).trans hle
  unfold Rounding.pow
  rw [round_one]
  dsimp only
  split_ifs with htrivial hneg hzero
  · exact ⟨1, rfl, zero_le_one, ha1⟩
  · linarith
  · linarith
  · linarith
  · have hnum : y.num.natAbs ≤ 2 ^ (y.den.log2 + 1) := by
      have hden : y.num ≤ y.den := by
        rw [← Rat.num_div_den y, div_le_one (by exact_mod_cast y.den_pos)] at hone
        exact_mod_cast hone
      have hlog : y.den < 2 ^ (y.den.log2 + 1) := Nat.lt_log2_self
      have hsign : 0 ≤ y.num := Rat.num_nonneg.mpr hy
      omega
    obtain ⟨hmantissa, -, hvalue⟩ :=
      Scaled.power_bounds (one_pos.trans_le hb) y.den.log2 y.num.natAbs
    have hbound := hvalue hnum
    rw [max_eq_right hb] at hbound
    simp only [rounding, Format.power, hy.not_gt, if_false]
    exact toNumber_le ha hmantissa (hbound.trans hle)

end FloatType

end AdaptiveStep
