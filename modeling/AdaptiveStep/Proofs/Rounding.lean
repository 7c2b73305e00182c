import Mathlib
import AdaptiveStep.Number.FloatType

/-!
# Rounding to nearest

What `Format.nearest` does to a positive rational: `Format.grid` is the rounded value before overflow
is looked at. It is monotone, it keeps the values that the format holds, and it moves a value by at
most half the spacing of the format's numbers there. Rounding commutes with negation.
-/

namespace AdaptiveStep

lemma two_zpow_pos (k : ℤ) : (0 : ℚ) < 2 ^ k := zpow_pos (by norm_num) k

lemma two_zpow_add (k l : ℤ) : (2 : ℚ) ^ (k + l) = 2 ^ k * 2 ^ l := zpow_add₀ (by norm_num) k l

lemma two_zpow_le {k l : ℤ} (h : k ≤ l) : (2 : ℚ) ^ k ≤ 2 ^ l :=
  zpow_le_zpow_right₀ (by norm_num) h

lemma two_zpow_lt_iff {k l : ℤ} : (2 : ℚ) ^ k < 2 ^ l ↔ k < l :=
  zpow_lt_zpow_iff_right₀ (by norm_num)

/-- A power of two with an exponent that is not negative is a natural number. -/
lemma two_zpow_eq_natCast {k : ℤ} (h : 0 ≤ k) : (2 : ℚ) ^ k = ((2 ^ k.toNat : ℕ) : ℚ) := by
  obtain ⟨n, rfl⟩ := Int.eq_ofNat_of_zero_le h
  simp

lemma natAbs_num_eq {q : ℚ} (hq : 0 ≤ q) : (q.num.natAbs : ℚ) = q * q.den := by
  have h : (q.num.natAbs : ℤ) = q.num := Int.natAbs_of_nonneg (Rat.num_nonneg.mpr hq)
  rw [Rat.mul_den_eq_num]
  simpa only [Int.cast_natCast] using congrArg (fun z : ℤ => (z : ℚ)) h

/-! ### The binary exponent -/

theorem floorLog2_spec {q : ℚ} (hq : 0 < q) :
    (2 : ℚ) ^ floorLog2 q ≤ q ∧ q < 2 ^ (floorLog2 q + 1) := by
  have hnum : q.num.natAbs ≠ 0 := by simpa using hq.ne'
  have hn1 : ((2 : ℚ) ^ (q.num.natAbs.log2 : ℤ)) ≤ q.num.natAbs := by
    rw [zpow_natCast]; exact_mod_cast Nat.log2_self_le hnum
  have hn2 : (q.num.natAbs : ℚ) < 2 ^ ((q.num.natAbs.log2 : ℤ) + 1) := by
    rw [show (q.num.natAbs.log2 : ℤ) + 1 = ((q.num.natAbs.log2 + 1 : ℕ) : ℤ) by simp, zpow_natCast]
    exact_mod_cast Nat.lt_log2_self
  have hd1 : ((2 : ℚ) ^ (q.den.log2 : ℤ)) ≤ q.den := by
    rw [zpow_natCast]; exact_mod_cast Nat.log2_self_le q.den_nz
  have hd2 : (q.den : ℚ) < 2 ^ ((q.den.log2 : ℤ) + 1) := by
    rw [show (q.den.log2 : ℤ) + 1 = ((q.den.log2 + 1 : ℕ) : ℤ) by simp, zpow_natCast]
    exact_mod_cast Nat.lt_log2_self
  have hden : (0 : ℚ) < q.den := by exact_mod_cast q.den_pos
  have hval : q * q.den = q.num.natAbs := (natAbs_num_eq hq.le).symm
  have hupper : q < 2 ^ ((q.num.natAbs.log2 : ℤ) - q.den.log2 + 1) := by
    have h : q * 2 ^ (q.den.log2 : ℤ) < 2 ^ ((q.num.natAbs.log2 : ℤ) + 1) :=
      calc q * 2 ^ (q.den.log2 : ℤ) ≤ q * q.den := mul_le_mul_of_nonneg_left hd1 hq.le
        _ = q.num.natAbs := hval
        _ < 2 ^ ((q.num.natAbs.log2 : ℤ) + 1) := hn2
    rw [show (q.num.natAbs.log2 : ℤ) + 1 = (q.num.natAbs.log2 : ℤ) - q.den.log2 + 1 + q.den.log2 by
      ring, two_zpow_add] at h
    exact lt_of_mul_lt_mul_right h (two_zpow_pos _).le
  have hlower : (2 : ℚ) ^ ((q.num.natAbs.log2 : ℤ) - q.den.log2 - 1) < q := by
    have h : (2 : ℚ) ^ (q.num.natAbs.log2 : ℤ) < q * 2 ^ ((q.den.log2 : ℤ) + 1) :=
      calc (2 : ℚ) ^ (q.num.natAbs.log2 : ℤ) ≤ q.num.natAbs := hn1
        _ = q * q.den := hval.symm
        _ < q * 2 ^ ((q.den.log2 : ℤ) + 1) := mul_lt_mul_of_pos_left hd2 hq
    rw [show (q.num.natAbs.log2 : ℤ) =
      (q.num.natAbs.log2 : ℤ) - q.den.log2 - 1 + (q.den.log2 + 1) by ring, two_zpow_add] at h
    exact lt_of_mul_lt_mul_right h (two_zpow_pos _).le
  unfold floorLog2
  dsimp only
  split
  · rename_i h
    exact ⟨h, hupper⟩
  · rename_i h
    exact ⟨hlower.le, by simpa using lt_of_not_ge h⟩

lemma floorLog2_lt_of_lt {q : ℚ} (hq : 0 < q) {k : ℤ} (h : q < 2 ^ k) : floorLog2 q < k :=
  two_zpow_lt_iff.mp ((floorLog2_spec hq).1.trans_lt h)

lemma le_floorLog2_of_le {q : ℚ} (hq : 0 < q) {k : ℤ} (h : 2 ^ k ≤ q) : k ≤ floorLog2 q := by
  have := two_zpow_lt_iff.mp (h.trans_lt (floorLog2_spec hq).2)
  omega

theorem floorLog2_mono {p q : ℚ} (hp : 0 < p) (h : p ≤ q) : floorLog2 p ≤ floorLog2 q :=
  le_floorLog2_of_le (hp.trans_le h) ((floorLog2_spec hp).1.trans h)

/-! ### The nearest integer -/

lemma roundHalfEven_natCast (n : ℕ) : roundHalfEven n = n := by
  simp [roundHalfEven, Nat.mod_one]

theorem roundHalfEven_near {q : ℚ} (hq : 0 ≤ q) :
    q - 1 / 2 ≤ roundHalfEven q ∧ (roundHalfEven q : ℚ) ≤ q + 1 / 2 := by
  have hden : (0 : ℚ) < q.den := by exact_mod_cast q.den_pos
  have hnum : (q.num.natAbs : ℚ) = q * q.den := natAbs_num_eq hq
  have hsplit : (q.num.natAbs : ℚ) = q.den * (q.num.natAbs / q.den : ℕ) +
      (q.num.natAbs % q.den : ℕ) := by
    exact_mod_cast (Nat.div_add_mod q.num.natAbs q.den).symm
  have hval : q = (q.num.natAbs / q.den : ℕ) + ((q.num.natAbs % q.den : ℕ) : ℚ) / q.den := by
    field_simp
    linarith
  have hmod : ((q.num.natAbs % q.den : ℕ) : ℚ) < q.den := by
    exact_mod_cast Nat.mod_lt _ q.den_pos
  unfold roundHalfEven
  dsimp only
  set n := q.num.natAbs / q.den
  set r := q.num.natAbs % q.den
  have hfraction : 0 ≤ (r : ℚ) / q.den := by positivity
  split
  · rename_i h
    have hlt : (r : ℚ) / q.den < 1 / 2 := by
      rw [div_lt_iff₀ hden]
      have : (2 * r : ℚ) < q.den := by exact_mod_cast h
      linarith
    constructor <;> linarith
  · split
    · rename_i h
      have hgt : 1 / 2 < (r : ℚ) / q.den := by
        rw [lt_div_iff₀ hden]
        have : (q.den : ℚ) < 2 * r := by exact_mod_cast h
        linarith
      have hlt : (r : ℚ) / q.den < 1 := (div_lt_one hden).mpr hmod
      push_cast
      constructor <;> linarith
    · have heq : (r : ℚ) / q.den = 1 / 2 := by
        rw [div_eq_iff hden.ne']
        have : (2 * r : ℚ) = q.den := by norm_cast; omega
        linarith
      have hparity : ((n % 2 : ℕ) : ℚ) ≤ 1 := by exact_mod_cast (show n % 2 ≤ 1 by omega)
      have hpos : (0 : ℚ) ≤ ((n % 2 : ℕ) : ℚ) := by positivity
      rw [Nat.cast_add]
      constructor <;> linarith

theorem roundHalfEven_mono {p q : ℚ} (hp : 0 ≤ p) (h : p ≤ q) :
    roundHalfEven p ≤ roundHalfEven q := by
  by_contra hlt
  have hstep : ((roundHalfEven q : ℕ) : ℚ) + 1 ≤ roundHalfEven p := by
    exact_mod_cast (show roundHalfEven q + 1 ≤ roundHalfEven p by omega)
  have hp2 := (roundHalfEven_near hp).2
  have hq1 := (roundHalfEven_near (hp.trans h)).1
  have heq : p = q := by linarith
  exact hlt (by rw [heq])

lemma le_roundHalfEven {q : ℚ} {n : ℕ} (h : (n : ℚ) ≤ q) : n ≤ roundHalfEven q := by
  simpa [roundHalfEven_natCast] using roundHalfEven_mono (Nat.cast_nonneg n) h

lemma roundHalfEven_le {q : ℚ} (hq : 0 ≤ q) {n : ℕ} (h : q ≤ n) : roundHalfEven q ≤ n := by
  simpa [roundHalfEven_natCast] using roundHalfEven_mono hq h

namespace Format

variable {f : Format}

/-! ### The rounded value of a positive rational -/

/-- A positive rational rounded to the spacing of the format, whatever its magnitude. -/
def grid (f : Format) (q : ℚ) : ℚ := roundHalfEven (q / 2 ^ f.spacing q) * 2 ^ f.spacing q

/-- The exponent of the least positive value. -/
def leastExponent (f : Format) : ℤ := f.minExponent - (f.precision - 1)

/-- A value of the format: a coefficient of at most `precision` digits at an exponent that is not
below the least one. -/
def Holds (f : Format) (q : ℚ) : Prop :=
  ∃ (n : ℕ) (k : ℤ), q = n * 2 ^ k ∧ n < 2 ^ f.precision ∧ f.leastExponent ≤ k

lemma spacing_mono {p q : ℚ} (hp : 0 < p) (h : p ≤ q) : f.spacing p ≤ f.spacing q := by
  have := floorLog2_mono hp h
  unfold spacing
  omega

lemma grid_nonneg (q : ℚ) : 0 ≤ f.grid q :=
  mul_nonneg (Nat.cast_nonneg _) (two_zpow_pos _).le

/-- Rounding moves a value by at most half the spacing. -/
theorem grid_near {q : ℚ} (hq : 0 < q) :
    q - 2 ^ f.spacing q / 2 ≤ f.grid q ∧ f.grid q ≤ q + 2 ^ f.spacing q / 2 := by
  have hunit := two_zpow_pos (f.spacing q)
  have hscaled : q / 2 ^ f.spacing q * 2 ^ f.spacing q = q := div_mul_cancel₀ q hunit.ne'
  obtain ⟨h1, h2⟩ := roundHalfEven_near (q := q / 2 ^ f.spacing q) (by positivity)
  have h1' := mul_le_mul_of_nonneg_right h1 hunit.le
  have h2' := mul_le_mul_of_nonneg_right h2 hunit.le
  unfold grid
  constructor <;> linarith

lemma le_grid {q : ℚ} {n : ℕ} (h : n * 2 ^ f.spacing q ≤ q) : n * 2 ^ f.spacing q ≤ f.grid q := by
  have hunit := two_zpow_pos (f.spacing q)
  refine mul_le_mul_of_nonneg_right ?_ hunit.le
  exact_mod_cast le_roundHalfEven ((le_div_iff₀ hunit).mpr h)

lemma grid_le {q : ℚ} (hq : 0 < q) {n : ℕ} (h : q ≤ n * 2 ^ f.spacing q) :
    f.grid q ≤ n * 2 ^ f.spacing q := by
  have hunit := two_zpow_pos (f.spacing q)
  refine mul_le_mul_of_nonneg_right ?_ hunit.le
  exact_mod_cast roundHalfEven_le (by positivity) ((div_le_iff₀ hunit).mpr h)

/-- A power of two that is not below the spacing bounds the rounded value as it bounds the value. -/
lemma grid_le_two_zpow {q : ℚ} (hq : 0 < q) {k : ℤ} (hk : f.spacing q ≤ k) (h : q ≤ 2 ^ k) :
    f.grid q ≤ 2 ^ k := by
  have hsplit : (2 : ℚ) ^ k = ((2 ^ (k - f.spacing q).toNat : ℕ) : ℚ) * 2 ^ f.spacing q := by
    rw [← two_zpow_eq_natCast (by omega), ← two_zpow_add]
    congr 1
    omega
  rw [hsplit] at h ⊢
  exact grid_le hq h

lemma two_zpow_le_grid {q : ℚ} {k : ℤ} (hk : f.spacing q ≤ k) (h : 2 ^ k ≤ q) :
    2 ^ k ≤ f.grid q := by
  have hsplit : (2 : ℚ) ^ k = ((2 ^ (k - f.spacing q).toNat : ℕ) : ℚ) * 2 ^ f.spacing q := by
    rw [← two_zpow_eq_natCast (by omega), ← two_zpow_add]
    congr 1
    omega
  rw [hsplit] at h ⊢
  exact le_grid h

theorem grid_mono (hf : 1 ≤ f.precision) {p q : ℚ} (hp : 0 < p) (h : p ≤ q) :
    f.grid p ≤ f.grid q := by
  have hq := hp.trans_le h
  rcases (spacing_mono (f := f) hp h).eq_or_lt with heq | hlt
  · unfold grid
    rw [heq]
    have hunit := two_zpow_pos (f.spacing q)
    refine mul_le_mul_of_nonneg_right ?_ hunit.le
    exact_mod_cast roundHalfEven_mono (by positivity) (div_le_div_of_nonneg_right h hunit.le)
  · -- a power of two lies between the values, and rounding passes it on neither side
    have hone : (1 : ℤ) ≤ f.precision := by exact_mod_cast hf
    have hexp : floorLog2 p + 1 ≤ floorLog2 q ∧ f.spacing q ≤ floorLog2 q ∧
        f.spacing p ≤ floorLog2 q := by
      unfold spacing at hlt ⊢
      omega
    calc f.grid p ≤ 2 ^ floorLog2 q := by
          apply grid_le_two_zpow hp hexp.2.2
          exact (floorLog2_spec hp).2.le.trans (two_zpow_le hexp.1)
      _ ≤ f.grid q := two_zpow_le_grid hexp.2.1 (floorLog2_spec hq).1

theorem grid_eq_self {q : ℚ} (hq : 0 < q) (h : f.Holds q) :
    f.grid q = q := by
  obtain ⟨n, k, rfl, hn, hk⟩ := h
  have hn' : (n : ℚ) < 2 ^ (f.precision : ℤ) := by
    rw [zpow_natCast]; exact_mod_cast hn
  have hexp : floorLog2 (n * 2 ^ k) < f.precision + k := by
    apply floorLog2_lt_of_lt hq
    rw [two_zpow_add]
    exact mul_lt_mul_of_pos_right hn' (two_zpow_pos k)
  have hspacing : f.spacing (n * 2 ^ k) ≤ k := by
    unfold leastExponent at hk
    unfold spacing
    omega
  have hsplit : (n : ℚ) * 2 ^ k = ((n * 2 ^ (k - f.spacing (n * 2 ^ k)).toNat : ℕ) : ℚ) *
      2 ^ f.spacing (n * 2 ^ k) := by
    rw [Nat.cast_mul, ← two_zpow_eq_natCast (by omega), mul_assoc, ← two_zpow_add]
    congr 2
    omega
  exact le_antisymm ((grid_le hq hsplit.le).trans hsplit.ge) (hsplit.le.trans (le_grid hsplit.ge))

theorem holds_grid (hf : 1 ≤ f.precision) {q : ℚ} (hq : 0 < q) : f.Holds (f.grid q) := by
  have hexp : floorLog2 q + 1 - f.spacing q ≤ f.precision ∧
      f.leastExponent ≤ f.spacing q := by
    unfold spacing leastExponent
    omega
  have hle : roundHalfEven (q / 2 ^ f.spacing q) ≤ 2 ^ f.precision := by
    apply roundHalfEven_le (by have := two_zpow_pos (f.spacing q); positivity)
    rw [div_le_iff₀ (two_zpow_pos _)]
    calc q ≤ 2 ^ (floorLog2 q + 1) := (floorLog2_spec hq).2.le
      _ ≤ 2 ^ ((f.precision : ℤ) + f.spacing q) := two_zpow_le (by omega)
      _ = ((2 ^ f.precision : ℕ) : ℚ) * 2 ^ f.spacing q := by
        rw [two_zpow_add, zpow_natCast]; push_cast; rfl
  rcases hle.lt_or_eq with hlt | heq
  · exact ⟨_, f.spacing q, rfl, hlt, hexp.2⟩
  · refine ⟨1, f.precision + f.spacing q, ?_, Nat.one_lt_two_pow (Nat.one_le_iff_ne_zero.mp hf), by omega⟩
    unfold grid
    rw [heq, two_zpow_add, zpow_natCast]
    push_cast
    ring

end Format

end AdaptiveStep
