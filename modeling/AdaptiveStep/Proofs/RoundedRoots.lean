import AdaptiveStep.Proofs.FloatRounding
import AdaptiveStep.Proofs.SquareRoot

/-!
# The rounded root of a product

`Format.root` is the value that `Format.sqrt` rounds. Compared with a number of fewer digits it stands
where the true root stands, so the comparison is one of squares. It follows that the root is monotone and
that the root of a rounded square is the number that was squared, unless the square fell below the normal
range. The root of the rounded product of two numbers then lies between them.
-/

namespace AdaptiveStep

/-- Closer to an integer than one half, a value is rounded to it. -/
lemma roundHalfEven_eq {q : ℚ} {n : ℕ} (hq : 0 ≤ q) (hnear : |q - n| < 1 / 2) :
    roundHalfEven q = n := by
  obtain ⟨hlower, hupper⟩ := roundHalfEven_near hq
  obtain ⟨hleft, hright⟩ := abs_lt.mp hnear
  have hle : (roundHalfEven q : ℚ) < ((n + 1 : ℕ) : ℚ) := by push_cast; linarith
  have hge : (n : ℚ) < ((roundHalfEven q + 1 : ℕ) : ℚ) := by push_cast; linarith
  have hle' : roundHalfEven q < n + 1 := by exact_mod_cast hle
  have hge' : n < roundHalfEven q + 1 := by exact_mod_cast hge
  omega

namespace Format

variable {f : Format} {p q : ℚ}

/-! ### What the root rounds -/

/-- How many binary digits after the point the root is taken to. -/
def rootDigits (f : Format) (q : ℚ) : ℤ := (f.precision : ℤ) + 1 - floorLog2 q / 2

/-- The root before it is rounded: exact, or in the middle of the digits that enclose it. -/
def root (f : Format) (q : ℚ) : ℚ :=
  if ((integerRoot (q * 2 ^ (2 * f.rootDigits q)).floor.toNat *
      integerRoot (q * 2 ^ (2 * f.rootDigits q)).floor.toNat : ℕ) : ℚ) =
        q * 2 ^ (2 * f.rootDigits q) then
    (integerRoot (q * 2 ^ (2 * f.rootDigits q)).floor.toNat : ℚ) / 2 ^ f.rootDigits q
  else
    ((2 * integerRoot (q * 2 ^ (2 * f.rootDigits q)).floor.toNat + 1 : ℕ) : ℚ) /
      2 ^ (f.rootDigits q + 1)

lemma sqrt_eq (q : ℚ) : f.sqrt q = f.nearest (f.root q) := by
  unfold sqrt root rootDigits
  dsimp only
  split_ifs <;> rfl

/-- The integer root of the scaled value, and where its square lies. -/
lemma exists_integerRoot (hq : 0 < q) (k : ℤ) :
    ∃ r : ℕ, integerRoot (q * 2 ^ (2 * k)).floor.toNat = r ∧
      (r : ℚ) * r ≤ q * 2 ^ (2 * k) ∧ q * 2 ^ (2 * k) < (r + 1) * (r + 1) := by
  have hscaled : 0 ≤ (q * 2 ^ (2 * k)).floor :=
    Int.floor_nonneg.mpr (mul_pos hq (two_zpow_pos _)).le
  obtain ⟨n, hn⟩ := Int.eq_ofNat_of_zero_le hscaled
  obtain ⟨hlower, hupper⟩ := integerRoot_spec n
  refine ⟨_, rfl, ?_⟩
  rw [hn, Int.toNat_natCast]
  have hfloor : (n : ℚ) ≤ q * 2 ^ (2 * k) := by
    simpa [hn] using Rat.floor_le (q * 2 ^ (2 * k))
  have hceil : q * 2 ^ (2 * k) < n + 1 := by
    simpa [hn] using Rat.lt_floor_add_one (q * 2 ^ (2 * k))
  have hlower' : (integerRoot n : ℚ) * integerRoot n ≤ n := by exact_mod_cast hlower
  have hupper' : (n : ℚ) + 1 ≤ (integerRoot n + 1) * (integerRoot n + 1) := by
    exact_mod_cast (show n + 1 ≤ (integerRoot n + 1) * (integerRoot n + 1) from hupper)
  exact ⟨hlower'.trans hfloor, hceil.trans_le hupper'⟩

/-- In its digits the root is an integer with the scaled value as its square, or it stands halfway
between two integers whose squares enclose the scaled value. -/
lemma root_cases (hq : 0 < q) :
    ∃ r : ℕ, (f.root q * 2 ^ f.rootDigits q = r ∧ (r : ℚ) * r = q * 2 ^ (2 * f.rootDigits q)) ∨
      (f.root q * 2 ^ f.rootDigits q = r + 1 / 2 ∧ (r : ℚ) * r < q * 2 ^ (2 * f.rootDigits q) ∧
        q * 2 ^ (2 * f.rootDigits q) < (r + 1) * (r + 1)) := by
  obtain ⟨r, hr, hlower, hupper⟩ := exists_integerRoot hq (f.rootDigits q)
  have hscale := (two_zpow_pos (f.rootDigits q)).ne'
  unfold root
  rw [hr]
  refine ⟨r, ?_⟩
  split_ifs with hexact
  · left
    exact ⟨div_mul_cancel₀ _ hscale, by exact_mod_cast hexact⟩
  · right
    rw [Nat.cast_mul] at hexact
    refine ⟨?_, lt_of_le_of_ne hlower hexact, hupper⟩
    rw [two_zpow_add]
    field_simp
    push_cast
    ring

/-- Counted in its digits, the root compares with an integer as the value does with its square. -/
lemma natCast_compare_root (hq : 0 < q) (m : ℕ) :
    (m ≤ f.root q * 2 ^ f.rootDigits q ↔ (m : ℚ) * m ≤ q * 2 ^ (2 * f.rootDigits q)) ∧
      (f.root q * 2 ^ f.rootDigits q ≤ m ↔ q * 2 ^ (2 * f.rootDigits q) ≤ (m : ℚ) * m) := by
  obtain ⟨r, ⟨hroot, hexact⟩ | ⟨hroot, hlower, hupper⟩⟩ := root_cases (f := f) hq
  · rw [hroot, ← hexact]
    norm_cast
    exact ⟨Nat.mul_self_le_mul_self_iff.symm, Nat.mul_self_le_mul_self_iff.symm⟩
  · -- both comparisons ask on which side of the pair `r`, `r + 1` the integer stands
    rw [hroot]
    rcases Nat.lt_or_ge r m with hm | hm
    · have hm' : (r : ℚ) + 1 ≤ m := by exact_mod_cast hm
      have hsquare : ((r : ℚ) + 1) * (r + 1) ≤ m * m := by gcongr
      constructor <;> constructor <;> intro h <;> linarith
    · have hm' : (m : ℚ) ≤ r := by exact_mod_cast hm
      have hsquare : (m : ℚ) * m ≤ r * r := by gcongr
      constructor <;> constructor <;> intro h <;> linarith

/-- The root compares with a number of no more digits as the value does with the square. -/
lemma compare_root (hq : 0 < q) (n : ℕ) {e : ℤ} (he : 0 ≤ e + f.rootDigits q) :
    (n * 2 ^ e ≤ f.root q ↔ n * 2 ^ e * (n * 2 ^ e) ≤ q) ∧
      (f.root q ≤ n * 2 ^ e ↔ q ≤ n * 2 ^ e * (n * 2 ^ e)) := by
  have hscaled : (n : ℚ) * 2 ^ e * 2 ^ f.rootDigits q =
      ((n * 2 ^ (e + f.rootDigits q).toNat : ℕ) : ℚ) := by
    rw [mul_assoc, ← two_zpow_add, two_zpow_eq_natCast he, Nat.cast_mul]
  have hsquare : (n : ℚ) * 2 ^ e * (n * 2 ^ e) * 2 ^ (2 * f.rootDigits q) =
      ((n * 2 ^ (e + f.rootDigits q).toNat : ℕ) : ℚ) * (n * 2 ^ (e + f.rootDigits q).toNat : ℕ) := by
    rw [← hscaled, two_mul, two_zpow_add]
    ring
  obtain ⟨hle, hge⟩ := natCast_compare_root (f := f) hq (n * 2 ^ (e + f.rootDigits q).toNat)
  rw [← hscaled, mul_le_mul_iff_of_pos_right (two_zpow_pos _), hscaled, ← hsquare,
    mul_le_mul_iff_of_pos_right (two_zpow_pos _)] at hle hge
  exact ⟨hle, hge⟩

theorem le_root_iff (hq : 0 < q) {n : ℕ} {e : ℤ} (he : 0 ≤ e + f.rootDigits q) :
    n * 2 ^ e ≤ f.root q ↔ n * 2 ^ e * (n * 2 ^ e) ≤ q :=
  (compare_root hq n he).1

theorem root_le_iff (hq : 0 < q) {n : ℕ} {e : ℤ} (he : 0 ≤ e + f.rootDigits q) :
    f.root q ≤ n * 2 ^ e ↔ q ≤ n * 2 ^ e * (n * 2 ^ e) :=
  (compare_root hq n he).2

/-- The root has half the exponent of the value. -/
lemma two_zpow_le_root (hq : 0 < q) {k : ℤ} (h : 2 ^ (2 * k) ≤ q) : 2 ^ k ≤ f.root q := by
  have hlog := le_floorLog2_of_le hq h
  have hcompare := le_root_iff (f := f) hq (n := 1) (e := floorLog2 q / 2) (by unfold rootDigits; omega)
  rw [Nat.cast_one, one_mul, ← two_zpow_add, ← two_mul] at hcompare
  exact (two_zpow_le (by omega)).trans
    (hcompare.mpr ((two_zpow_le (by omega)).trans (floorLog2_spec hq).1))

lemma root_le_two_zpow (hq : 0 < q) {k : ℤ} (h : q ≤ 2 ^ (2 * k)) : f.root q ≤ 2 ^ k := by
  have hlog : floorLog2 q < 2 * k + 1 := floorLog2_lt_of_lt hq (h.trans_lt (two_zpow_lt_iff.mpr (by omega)))
  have hcompare := root_le_iff (f := f) hq (n := 1) (e := k) (by unfold rootDigits; omega)
  rw [Nat.cast_one, one_mul, ← two_zpow_add, ← two_mul] at hcompare
  exact hcompare.mpr h

lemma root_pos (hq : 0 < q) : 0 < f.root q := by
  have hhalf : (2 : ℚ) ^ (2 * (floorLog2 q / 2)) ≤ q :=
    (two_zpow_le (by omega)).trans (floorLog2_spec hq).1
  exact (two_zpow_pos _).trans_le (two_zpow_le_root hq hhalf)

/-- The root of the square of a value of the format is exact. -/
theorem root_mul_self (hq : 0 < q) (hholds : f.Holds q) : f.root (q * q) = q := by
  obtain ⟨n, e, rfl, hn, -⟩ := hholds
  have hlt : (n : ℚ) * 2 ^ e < 2 ^ ((f.precision : ℤ) + e) := by
    rw [two_zpow_add, zpow_natCast]
    exact mul_lt_mul_of_pos_right (by exact_mod_cast hn) (two_zpow_pos e)
  have hsquare : (n : ℚ) * 2 ^ e * (n * 2 ^ e) < 2 ^ (((f.precision : ℤ) + e) + (f.precision + e)) := by
    rw [two_zpow_add]
    exact mul_lt_mul'' hlt hlt hq.le hq.le
  have hlog := floorLog2_lt_of_lt (mul_pos hq hq) hsquare
  have hdigits : 0 ≤ e + f.rootDigits (n * 2 ^ e * (n * 2 ^ e)) := by
    unfold rootDigits
    omega
  exact le_antisymm ((root_le_iff (mul_pos hq hq) hdigits).mpr le_rfl)
    ((le_root_iff (mul_pos hq hq) hdigits).mpr le_rfl)

theorem sqrt_mul_self (hq : 0 < q) (hholds : f.Holds q) : f.sqrt (q * q) = f.nearest q := by
  rw [sqrt_eq, root_mul_self hq hholds]

/-! ### Order -/

/-- An integer separates two roots of the same digits. -/
lemma exists_natCast_between (hp : 0 < p) (hq : 0 < q) (hdigits : f.rootDigits p = f.rootDigits q)
    (h : f.root q < f.root p) :
    ∃ m : ℕ, f.root q * 2 ^ f.rootDigits q ≤ m ∧ m ≤ f.root p * 2 ^ f.rootDigits p := by
  have hlt : f.root q * 2 ^ f.rootDigits q < f.root p * 2 ^ f.rootDigits p := by
    rw [hdigits]
    exact mul_lt_mul_of_pos_right h (two_zpow_pos _)
  obtain ⟨r, ⟨hr, -⟩ | ⟨hr, -, -⟩⟩ := root_cases (f := f) hq
  · exact ⟨r, hr.le, hr ▸ hlt.le⟩
  · obtain ⟨s, ⟨hs, -⟩ | ⟨hs, -, -⟩⟩ := root_cases (f := f) hp
    · exact ⟨s, (hs ▸ hlt).le, hs.ge⟩
    · rw [hr, hs] at hlt
      have hrs : (r : ℚ) + 1 ≤ s := by
        exact_mod_cast (show r < s by exact_mod_cast (by linarith : (r : ℚ) < s))
      exact ⟨s, by linarith, by linarith⟩

theorem root_mono (hp : 0 < p) (h : p ≤ q) : f.root p ≤ f.root q := by
  have hq := hp.trans_le h
  have hlog := floorLog2_mono hp h
  rcases (show floorLog2 p / 2 ≤ floorLog2 q / 2 by omega).eq_or_lt with heq | hlt
  · by_contra hroot
    have hdigits : f.rootDigits p = f.rootDigits q := by rw [rootDigits, rootDigits, heq]
    obtain ⟨m, hqm, hmp⟩ := exists_natCast_between hp hq hdigits (not_le.mp hroot)
    have hqm' := (natCast_compare_root hq m).2.mp hqm
    have hmp' := (natCast_compare_root hp m).1.mp hmp
    rw [hdigits] at hmp'
    have hqp : q ≤ p := le_of_mul_le_mul_right (hqm'.trans hmp') (two_zpow_pos _)
    exact hroot (le_of_eq (by rw [le_antisymm h hqp]))
  · -- a power of four lies between the values
    calc f.root p ≤ 2 ^ (floorLog2 q / 2) :=
          root_le_two_zpow hp ((floorLog2_spec hp).2.le.trans (two_zpow_le (by omega)))
      _ ≤ f.root q :=
          two_zpow_le_root hq ((two_zpow_le (by omega)).trans (floorLog2_spec hq).1)

/-! ### The root of a rounded square -/

/-- A value that is closer than half the spacing to a number of the format is rounded to it. -/
lemma grid_eq_of_near {n : ℕ} (hq : 0 ≤ q) (hnear : |q - n * 2 ^ f.spacing q| < 2 ^ f.spacing q / 2) :
    f.grid q = n * 2 ^ f.spacing q := by
  have hunit := two_zpow_pos (f.spacing q)
  have hscaled : |q / 2 ^ f.spacing q - n| < 1 / 2 := by
    rw [div_sub' hunit.ne', abs_div, abs_of_pos hunit, div_lt_iff₀ hunit, mul_comm _ (n : ℚ)]
    linarith
  rw [grid, roundHalfEven_eq (by positivity) hscaled]

lemma floorLog2_mul_self (hq : 0 < q) :
    floorLog2 (q * q) = 2 * floorLog2 q ∨ floorLog2 (q * q) = 2 * floorLog2 q + 1 := by
  obtain ⟨hlower, hupper⟩ := floorLog2_spec hq
  have hsquare : 2 ^ (2 * floorLog2 q) ≤ q * q := by
    rw [two_mul, two_zpow_add]
    exact mul_le_mul hlower hlower (two_zpow_pos _).le hq.le
  have hsquare' : q * q < 2 ^ (2 * floorLog2 q + 2) := by
    rw [show 2 * floorLog2 q + 2 = floorLog2 q + 1 + (floorLog2 q + 1) by ring, two_zpow_add]
    exact mul_lt_mul'' hupper hupper hq.le hq.le
  have hle := le_floorLog2_of_le (mul_pos hq hq) hsquare
  have hlt := floorLog2_lt_of_lt (mul_pos hq hq) hsquare'
  omega

/-! A number of the format in the normal range, with its square there too. -/

section NormalRange

variable (hf : 2 ≤ f.precision) (hmin : f.minExponent ≤ 0) (hq : 0 < q) (hholds : f.Holds q)
  (hnormal : 2 ^ f.minExponent ≤ q * q)

include hmin hq hnormal in
lemma minExponent_le_floorLog2 : f.minExponent ≤ floorLog2 q := by
  have hle := le_floorLog2_of_le (mul_pos hq hq) hnormal
  have hlog := floorLog2_mul_self hq
  omega

include hq hnormal in
lemma spacing_mul_self : f.spacing (q * q) = floorLog2 (q * q) - (f.precision - 1) := by
  rw [spacing, max_eq_left (le_floorLog2_of_le (mul_pos hq hq) hnormal)]

include hf hq hnormal in
lemma two_zpow_le_grid_mul_self : 2 ^ (2 * floorLog2 q) ≤ f.grid (q * q) := by
  have hlog := floorLog2_mul_self hq
  refine two_zpow_le_grid ?_ ?_
  · rw [spacing_mul_self hq hnormal]
    omega
  · exact (two_zpow_le (by omega)).trans (floorLog2_spec (mul_pos hq hq)).1

include hf hmin hq hholds hnormal

/-- The number has all its digits. -/
lemma exists_normal_coefficient :
    ∃ n b : ℕ, f.precision = b + 1 ∧ f.spacing q = floorLog2 q - b ∧ q = n * 2 ^ f.spacing q ∧
      2 ^ floorLog2 q = ((2 ^ b : ℕ) : ℚ) * 2 ^ f.spacing q ∧ 2 ^ b ≤ n ∧ n < 2 ^ (b + 1) := by
  obtain ⟨n, hn⟩ : ∃ n : ℕ, q = n * 2 ^ f.spacing q := ⟨_, (grid_eq_self hq hholds).symm⟩
  obtain ⟨b, hb⟩ : ∃ b : ℕ, f.precision = b + 1 := ⟨f.precision - 1, by omega⟩
  have hspacing : f.spacing q = floorLog2 q - b := by
    rw [spacing, max_eq_left (minExponent_le_floorLog2 hmin hq hnormal), hb]
    push_cast
    ring
  have hpower (c : ℕ) :
      (2 : ℚ) ^ (floorLog2 q - b + c) = ((2 ^ c : ℕ) : ℚ) * 2 ^ f.spacing q := by
    rw [hspacing, add_comm, two_zpow_add, zpow_natCast, Nat.cast_pow, Nat.cast_two]
  obtain ⟨hlower, hupper⟩ := floorLog2_spec hq
  have hself := hpower b
  rw [sub_add_cancel] at hself
  have hunit := two_zpow_pos (f.spacing q)
  have hle : ((2 ^ b : ℕ) : ℚ) ≤ n := by
    refine le_of_mul_le_mul_right ?_ hunit
    rwa [← hself, ← hn]
  have hlt : (n : ℚ) < ((2 ^ (b + 1) : ℕ) : ℚ) := by
    refine lt_of_mul_lt_mul_right ?_ hunit.le
    rw [← hpower, ← hn, Nat.cast_add, Nat.cast_one, ← add_assoc, sub_add_cancel]
    exact hupper
  exact ⟨n, b, hb, hspacing, hn, hself, by exact_mod_cast hle, by exact_mod_cast hlt⟩

/-- Half the spacing at the square is less than what the square gains or loses when the number moves
by half the spacing at the number. -/
lemma half_spacing_mul_self_lt :
    2 ^ f.spacing (q * q) / 2 <
      q * 2 ^ f.spacing q - 2 ^ f.spacing q * 2 ^ f.spacing q / 4 := by
  obtain ⟨n, b, hb, hspacing, hn, hpower, hle, -⟩ :=
    exists_normal_coefficient hf hmin hq hholds hnormal
  have hsquareSpacing := spacing_mul_self hq hnormal
  have hunit := mul_pos (two_zpow_pos (f.spacing q)) (two_zpow_pos (f.spacing q))
  have hone : (1 : ℚ) ≤ ((2 ^ b : ℕ) : ℚ) := by exact_mod_cast Nat.one_le_two_pow
  -- both sides are counted in squares of the spacing at the number
  have hcount {c : ℕ} (hc : f.spacing (q * q) = c + f.spacing q + f.spacing q) :
      (2 : ℚ) ^ f.spacing (q * q) = ((2 ^ c : ℕ) : ℚ) * (2 ^ f.spacing q * 2 ^ f.spacing q) := by
    rw [hc, two_zpow_add, two_zpow_add, zpow_natCast, Nat.cast_pow, Nat.cast_two, mul_assoc]
  have hgain : q * 2 ^ f.spacing q = n * (2 ^ f.spacing q * 2 ^ f.spacing q) :=
    (congrArg (· * 2 ^ f.spacing q) hn).trans (mul_assoc _ _ _)
  rw [hgain]
  rcases floorLog2_mul_self hq with heven | hodd
  · rw [hcount (c := b) (by omega)]
    have hbn : ((2 ^ b : ℕ) : ℚ) ≤ n := by exact_mod_cast hle
    nlinarith
  · -- a power of two has a square of even exponent, so the number is above its power of two
    have hne : n ≠ 2 ^ b := by
      rintro rfl
      have hself : q = 2 ^ floorLog2 q := hn.trans hpower.symm
      have hsquare : q * q < 2 ^ (2 * floorLog2 q + 1) :=
        calc q * q = 2 ^ floorLog2 q * 2 ^ floorLog2 q := congrArg₂ (· * ·) hself hself
          _ < 2 ^ (2 * floorLog2 q + 1) := by
            rw [← two_zpow_add]
            exact two_zpow_lt_iff.mpr (by omega)
      rw [← hodd] at hsquare
      exact absurd (floorLog2_spec (mul_pos hq hq)).1 hsquare.not_ge
    have hbn : ((2 ^ b : ℕ) : ℚ) + 1 ≤ n := by
      exact_mod_cast (show 2 ^ b + 1 ≤ n by omega)
    rw [hcount (c := b + 1) (by push_cast; omega), pow_succ, Nat.cast_mul, Nat.cast_two]
    nlinarith

/-- The rounded square stays between the squares of the two values halfway to the neighbours. -/
lemma grid_mul_self_near :
    (q - 2 ^ f.spacing q / 2) * (q - 2 ^ f.spacing q / 2) < f.grid (q * q) ∧
      f.grid (q * q) < (q + 2 ^ f.spacing q / 2) * (q + 2 ^ f.spacing q / 2) := by
  obtain ⟨hlower, hupper⟩ := grid_near (f := f) (mul_pos hq hq)
  have hhalf := half_spacing_mul_self_lt hf hmin hq hholds hnormal
  have hunit := mul_pos (two_zpow_pos (f.spacing q)) (two_zpow_pos (f.spacing q))
  constructor <;> nlinarith

lemma add_half_spacing_lt : q + 2 ^ f.spacing q / 2 < 2 ^ (floorLog2 q + 1) := by
  obtain ⟨n, b, -, -, hn, hpower, -, hlt⟩ := exists_normal_coefficient hf hmin hq hholds hnormal
  have hunit := two_zpow_pos (f.spacing q)
  have hcoefficient : (n : ℚ) + 1 ≤ 2 * ((2 ^ b : ℕ) : ℚ) := by
    exact_mod_cast (show n + 1 ≤ 2 * 2 ^ b by omega)
  rw [two_zpow_add, hpower, zpow_one]
  nlinarith

/-- The values halfway to the neighbours have no more digits than the root is taken to. -/
lemma rootDigits_grid_mul_self : 0 ≤ f.spacing q - 1 + f.rootDigits (f.grid (q * q)) := by
  obtain ⟨n, b, hb, hspacing, -⟩ := exists_normal_coefficient hf hmin hq hholds hnormal
  have hgrid : 0 < f.grid (q * q) :=
    (two_zpow_pos _).trans_le (two_zpow_le_grid_mul_self hf hq hnormal)
  have hupper := (grid_mul_self_near hf hmin hq hholds hnormal).2
  have hlt := add_half_spacing_lt hf hmin hq hholds hnormal
  have hunit := two_zpow_pos (f.spacing q)
  have hceil : f.grid (q * q) < 2 ^ (2 * floorLog2 q + 2) := by
    rw [show 2 * floorLog2 q + 2 = floorLog2 q + 1 + (floorLog2 q + 1) by ring, two_zpow_add]
    exact hupper.trans (mul_lt_mul'' hlt hlt (by positivity) (by positivity))
  have hlog := floorLog2_lt_of_lt hgrid hceil
  unfold rootDigits
  omega

/-- The root undoes a rounded square. -/
theorem grid_root_grid_mul_self : f.grid (f.root (f.grid (q * q))) = q := by
  obtain ⟨n, b, hb, hspacing, hn, hpower, hle, -⟩ :=
    exists_normal_coefficient hf hmin hq hholds hnormal
  obtain ⟨hlower, hupper⟩ := grid_mul_self_near hf hmin hq hholds hnormal
  have hfloor := two_zpow_le_grid_mul_self hf hq hnormal
  have hgrid : 0 < f.grid (q * q) := (two_zpow_pos _).trans_le hfloor
  have hdigits := rootDigits_grid_mul_self hf hmin hq hholds hnormal
  have hone : 1 ≤ n := Nat.one_le_two_pow.trans hle
  have hhalf : (2 : ℚ) ^ f.spacing q = 2 * 2 ^ (f.spacing q - 1) := by
    rw [← zpow_one_add₀ (by norm_num), add_sub_cancel]
  have hself : q = 2 * (n * 2 ^ (f.spacing q - 1)) := hn.trans (by rw [hhalf]; ring)
  have hbelow : q - 2 ^ f.spacing q / 2 = ((2 * n - 1 : ℕ) : ℚ) * 2 ^ (f.spacing q - 1) := by
    rw [Nat.cast_sub (by omega)]
    push_cast
    linarith
  have habove : q + 2 ^ f.spacing q / 2 = ((2 * n + 1 : ℕ) : ℚ) * 2 ^ (f.spacing q - 1) := by
    push_cast
    linarith
  have hroot_lower : q - 2 ^ f.spacing q / 2 < f.root (f.grid (q * q)) := by
    rw [hbelow] at hlower ⊢
    exact not_le.mp fun h => hlower.not_ge ((root_le_iff hgrid hdigits).mp h)
  have hroot_upper : f.root (f.grid (q * q)) < q + 2 ^ f.spacing q / 2 := by
    rw [habove] at hupper ⊢
    exact not_le.mp fun h => hupper.not_ge ((le_root_iff hgrid hdigits).mp h)
  -- the root does not leave the power of two of the number, so the spacing stays the same
  have hroot_log : floorLog2 (f.root (f.grid (q * q))) = floorLog2 q := by
    have hle := le_floorLog2_of_le (root_pos hgrid) (two_zpow_le_root (f := f) hgrid hfloor)
    have hlt := floorLog2_lt_of_lt (root_pos hgrid)
      (hroot_upper.trans (add_half_spacing_lt hf hmin hq hholds hnormal))
    omega
  have hroot_spacing : f.spacing (f.root (f.grid (q * q))) = f.spacing q := by
    rw [spacing, spacing, hroot_log]
  have hnear := grid_eq_of_near (f := f) (n := n) (root_pos hgrid).le (by
    rw [hroot_spacing, ← hn, abs_lt]
    constructor <;> linarith)
  rw [hnear, hroot_spacing, ← hn]

end NormalRange

/-! ### Between two numbers -/

variable {a b : ℚ}

lemma le_grid_root_of_le (hf : 1 ≤ f.precision) (ha : 0 < a) (hholds : f.Holds a) (h : a * a ≤ p) :
    a ≤ f.grid (f.root p) :=
  calc a = f.grid (f.root (a * a)) := by rw [root_mul_self ha hholds, grid_eq_self ha hholds]
    _ ≤ f.grid (f.root p) := grid_mono hf (root_pos (mul_pos ha ha)) (root_mono (mul_pos ha ha) h)

lemma grid_root_le_of_le (hf : 1 ≤ f.precision) (hp : 0 < p) (hb : 0 < b) (hholds : f.Holds b)
    (h : p ≤ b * b) : f.grid (f.root p) ≤ b :=
  calc f.grid (f.root p) ≤ f.grid (f.root (b * b)) := grid_mono hf (root_pos hp) (root_mono hp h)
    _ = b := by rw [root_mul_self hb hholds, grid_eq_self hb hholds]

lemma two_zpow_minExponent_le_grid (hf : 1 ≤ f.precision) (h : 2 ^ f.minExponent ≤ p) :
    2 ^ f.minExponent ≤ f.grid p := by
  have hholds : f.Holds (2 ^ f.minExponent) :=
    ⟨1, f.minExponent, by simp, Nat.one_lt_two_pow (by omega), by unfold leastExponent; omega⟩
  calc (2 : ℚ) ^ f.minExponent = f.grid (2 ^ f.minExponent) :=
        (grid_eq_self (two_zpow_pos _) hholds).symm
    _ ≤ f.grid p := grid_mono hf (two_zpow_pos _) h

/-- Where the product is in the normal range, the root of the rounded product lies between the
factors. -/
theorem grid_root_grid_mul_between (hf : 2 ≤ f.precision) (hmin : f.minExponent ≤ 0) (ha : 0 < a)
    (hab : a ≤ b) (holds_a : f.Holds a) (holds_b : f.Holds b) (hnormal : 2 ^ f.minExponent ≤ a * b) :
    a ≤ f.grid (f.root (f.grid (a * b))) ∧ f.grid (f.root (f.grid (a * b))) ≤ b := by
  have hone : 1 ≤ f.precision := by omega
  have hb := ha.trans_le hab
  have hleft : a * a ≤ a * b := mul_le_mul_of_nonneg_left hab ha.le
  have hright : a * b ≤ b * b := mul_le_mul_of_nonneg_right hab hb.le
  have hproduct := two_zpow_minExponent_le_grid hone hnormal
  have hgrid : 0 < f.grid (a * b) := (two_zpow_pos _).trans_le hproduct
  constructor
  · rcases le_or_gt (2 ^ f.minExponent) (a * a) with hsquare | hsquare
    · have hself := two_zpow_minExponent_le_grid hone hsquare
      have hpos : 0 < f.grid (a * a) := (two_zpow_pos _).trans_le hself
      calc a = f.grid (f.root (f.grid (a * a))) :=
            (grid_root_grid_mul_self hf hmin ha holds_a hsquare).symm
        _ ≤ f.grid (f.root (f.grid (a * b))) :=
            grid_mono hone (root_pos hpos) (root_mono hpos (grid_mono hone (mul_pos ha ha) hleft))
    · exact le_grid_root_of_le hone ha holds_a (hsquare.le.trans hproduct)
  · calc f.grid (f.root (f.grid (a * b))) ≤ f.grid (f.root (f.grid (b * b))) :=
          grid_mono hone (root_pos hgrid) (root_mono hgrid (grid_mono hone (mul_pos ha hb) hright))
      _ = b := grid_root_grid_mul_self hf hmin hb holds_b (hnormal.trans hright)

end Format

namespace FloatType

open Extended

variable {t : FloatType} {a b p : ℚ}

lemma two_le_precision (t : FloatType) : 2 ≤ t.format.precision := by
  cases t <;> decide

lemma minExponent_nonpos (t : FloatType) : t.format.minExponent ≤ 0 := by
  cases t <;> decide

/-- The product under a root stays in range: it does not overflow, and it is normal or, after
rounding, still between the squares of the factors. -/
def KeepsProduct (t : FloatType) (a b : ℚ) : Prop :=
  ∃ p, t.rounding.mul (finite a) (finite b) = finite p ∧
    (2 ^ t.format.minExponent ≤ a * b ∨ a * a ≤ p ∧ p ≤ b * b)

lemma mul_finite_of_pos (hab : 0 < a * b) :
    t.rounding.mul (finite a) (finite b) = t.format.nearest (a * b) := by
  simp [Rounding.mul, value?, hab.ne', rounding]

lemma squareRoot_finite_of_pos (hp : 0 < p) : t.rounding.squareRoot (finite p) = t.format.sqrt p := by
  simp [Rounding.squareRoot, hp.ne', hp.not_gt, rounding]

/-- As long as the product stays in range, the geometric mean of two numbers of the type lies
between them, although the product and the root are both rounded. -/
theorem exists_squareRoot_mul_between (ha : t.Holds (finite a)) (hb : t.Holds (finite b)) (hzero : 0 ≤ a)
    (hab : a ≤ b) (hproduct : t.KeepsProduct a b) :
    ∃ m, t.rounding.squareRoot (t.rounding.mul (finite a) (finite b)) = finite m ∧ a ≤ m ∧ m ≤ b := by
  obtain ⟨p, hp, hrange⟩ := hproduct
  rcases hzero.eq_or_lt with rfl | ha0
  · have hmul : t.rounding.mul (finite 0) (finite b) = finite 0 := by
      simp [Rounding.mul, value?, zero, isNegative, hab.not_gt]
    exact ⟨0, by simp [hmul, Rounding.squareRoot], le_rfl, hab⟩
  · have hb0 := ha0.trans_le hab
    have holds_a : t.format.Holds a := by simpa [abs_of_pos ha0] using ha.1
    obtain ⟨holds_b, hlt⟩ : t.format.HoldsWithin b := by simpa [Holds, abs_of_pos hb0] using hb
    have hbetween : 0 < p ∧ a ≤ t.format.grid (t.format.root p) ∧ t.format.grid (t.format.root p) ≤ b := by
      rcases hrange with hnormal | ⟨hleft, hright⟩
      · rw [mul_finite_of_pos (mul_pos ha0 hb0)] at hp
        obtain rfl : t.format.grid (a * b) = p := by
          rw [Format.nearest_of_pos (mul_pos ha0 hb0)] at hp
          split_ifs at hp
          exact Extended.finite.inj hp
        exact ⟨(two_zpow_pos _).trans_le
            (Format.two_zpow_minExponent_le_grid t.one_le_precision hnormal),
          Format.grid_root_grid_mul_between t.two_le_precision t.minExponent_nonpos ha0 hab holds_a
            holds_b hnormal⟩
      · have hp0 := (mul_pos ha0 ha0).trans_le hleft
        exact ⟨hp0, Format.le_grid_root_of_le t.one_le_precision ha0 holds_a hleft,
          Format.grid_root_le_of_le t.one_le_precision hp0 hb0 holds_b hright⟩
    obtain ⟨hp0, hbelow, habove⟩ := hbetween
    refine ⟨_, ?_, hbelow, habove⟩
    rw [hp, squareRoot_finite_of_pos hp0, Format.sqrt_eq, Format.nearest_of_pos (Format.root_pos hp0),
      if_neg (habove.trans_lt hlt).not_ge]

end FloatType

end AdaptiveStep
