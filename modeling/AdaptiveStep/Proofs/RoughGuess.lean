import AdaptiveStep.Proofs.RoundedRoots
import AdaptiveStep.Proofs.StepNorms

/-!
# Special values of the rough guess

The scaled vectors are made of quotients, and two zeros or two infinities have none. A sum of squares
is NaN exactly if a component has no quotient with its scale, and the rough guess is NaN exactly if
neither sum is tiny and the sums have no ratio. The guess is zero only if the sum for the derivative
has overflowed.
-/

namespace AdaptiveStep

open Extended FloatType

namespace Extended

variable {κ : Type}

@[simp] lemma isNaN_nan : (nan : Extended κ).isNaN = true := rfl

@[simp] lemma isNaN_infinity (negative : Bool) : (infinity negative : Extended κ).isNaN = false := rfl

@[simp] lemma isNaN_negativeZero : (negativeZero : Extended κ).isNaN = false := rfl

@[simp] lemma isNaN_finite (a : κ) : (finite a).isNaN = false := rfl

@[simp] lemma isNaN_zero [OfNat κ 0] (negative : Bool) : (zero negative : Extended κ).isNaN = false := by
  cases negative <;> rfl

/-- Two numbers without a quotient. -/
def Indeterminate [OfNat κ 0] [DecidableEq κ] (x y : Extended κ) : Prop :=
  x.isNaN = true ∨ y.isNaN = true ∨ (x.isZero = true ∧ y.isZero = true) ∨
    (x.isInfinite = true ∧ y.isInfinite = true)

end Extended

/-! ### NaN in sums of squares -/

/-- If rounding does not give NaN, a quotient is NaN exactly if there is none. -/
theorem Rounding.isNaN_div_iff {κ : Type} [Field κ] [LinearOrder κ] [IsStrictOrderedRing κ]
    {R : Rounding κ} (hR : ∀ q, (R.nearest q).isNaN = false) {x y : Extended κ} :
    (R.div x y).isNaN = true ↔ x.Indeterminate y := by
  unfold div Indeterminate
  rcases x with _ | (_ | _) | _ | p <;> rcases y with _ | (_ | _) | _ | q
  case finite.finite =>
    by_cases hq : q = 0
    · by_cases hp : p = 0 <;> simp [hp, hq, value?, isZero, isInfinite]
    · by_cases hp : p / q = 0 <;> simp [hp, hq, hR, value?, isZero, isInfinite]
  case negativeZero.finite => by_cases hq : q = 0 <;> simp [hq, value?, isZero, isInfinite]
  case finite.negativeZero => by_cases hp : p = 0 <;> simp [hp, value?, isZero, isInfinite]
  all_goals simp [value?, isZero, isInfinite]

@[simp] lemma Format.isNaN_nearest (f : Format) (q : ℚ) : (f.nearest q).isNaN = false := by
  unfold nearest
  dsimp only
  split_ifs <;> simp

@[simp] lemma Format.isNaN_sqrt (f : Format) (q : ℚ) : (f.sqrt q).isNaN = false := by
  rw [sqrt_eq, isNaN_nearest]

namespace FloatType

variable {t : FloatType} {x y : Number}

@[simp] lemma isNaN_rounding_nearest (q : ℚ) : (t.rounding.nearest q).isNaN = false :=
  Format.isNaN_nearest _ q

/-- A quotient is NaN exactly if there is none. -/
theorem isNaN_div_iff : (t.rounding.div x y).isNaN = true ↔ x.Indeterminate y :=
  Rounding.isNaN_div_iff isNaN_rounding_nearest

lemma isNaN_mul_self (x : Number) : (t.rounding.mul x x).isNaN = x.isNaN := by
  unfold Rounding.mul
  rcases x with _ | (_ | _) | _ | p
  case finite => by_cases hp : p = 0 <;> simp [hp, value?]
  all_goals simp [value?, isZero]

/-- Numbers without the minus sign have a sum, unless one of them is NaN. -/
lemma isNaN_add (hx : x.isNegative = false) (hy : y.isNegative = false) :
    (t.rounding.add x y).isNaN = (x.isNaN || y.isNaN) := by
  rcases x with _ | (_ | _) | _ | p <;> rcases y with _ | (_ | _) | _ | q
  all_goals simp_all [Rounding.add, isNegative]

lemma isNaN_sum {xs : List Number} {s : Number} (hs : t.arithmetic.IsSum xs s)
    (h : ∀ x ∈ xs, x.isNegative = false) : s.isNaN = xs.any isNaN := by
  have hzero : t.arithmetic.ofRat 0 = finite 0 := Rounding.round_zero t.rounding
  have hsum : (∀ x ∈ [s], x.isNegative = false) ∧ [s].any isNaN = xs.any isNaN := by
    -- none of the numbers along the way is negative
    refine hs.invariant (P := fun ys => (∀ y ∈ ys, y.isNegative = false) ∧ ys.any isNaN = xs.any isNaN)
      ?_ ?_ ?_
    · rintro ys zs hperm ⟨hys, hany⟩
      exact ⟨fun y hy => hys y (hperm.mem_iff.mpr hy), hperm.any_eq.symm.trans hany⟩
    · rintro x y rest ⟨hys, hany⟩
      simp only [List.forall_mem_cons] at hys ⊢
      refine ⟨⟨isNegative_add hys.1 hys.2.1, hys.2.2⟩, ?_⟩
      rw [← hany, List.any_cons, List.any_cons, List.any_cons, ← Bool.or_assoc]
      exact congrArg (· || rest.any isNaN) (isNaN_add hys.1 hys.2.1)
    · intro k
      rw [hzero]
      refine ⟨fun y hy => ?_, by simp⟩
      rcases List.mem_append.mp hy with hy | hy
      · simp [List.eq_of_mem_replicate hy, isNegative]
      · exact h y hy
  simpa using hsum.2

lemma isNaN_squareRoot (hx : x.isNegative = false) :
    (t.rounding.squareRoot x).isNaN = x.isNaN := by
  rcases x with _ | (_ | _) | _ | q
  case finite =>
    have hq : ¬q < 0 := by simpa [isNegative] using hx
    by_cases h : q = 0 <;> simp [Rounding.squareRoot, h, hq, rounding]
  all_goals simp_all [Rounding.squareRoot, isNegative]

/-- A product with a positive factor is NaN only if the other one is. -/
lemma isNaN_mul_of_pos {a : ℚ} (ha : 0 < a) (x : Number) :
    (t.rounding.mul (finite a) x).isNaN = x.isNaN := by
  unfold Rounding.mul
  rcases x with _ | (_ | _) | _ | q
  case finite => by_cases hq : a * q = 0 <;> simp [hq, value?]
  all_goals simp [value?, isZero, ha.ne']

end FloatType

/-! ### Positive lower bounds -/

lemma Format.nearest_ge {f : Format} (hf : 1 ≤ f.precision) {k : ℤ} (hk : f.leastExponent ≤ k) {q : ℚ}
    (hq : 2 ^ k ≤ q) : (f.nearest q).lt (finite (2 ^ k)) = false := by
  have hone : (1 : ℕ) < 2 ^ f.precision := Nat.one_lt_two_pow (by omega)
  have hpower : f.Holds (2 ^ k) := ⟨1, k, by simp, hone, hk⟩
  have hgrid : 2 ^ k ≤ f.grid q := by
    rw [← grid_eq_self (two_zpow_pos k) hpower]
    exact grid_mono hf (two_zpow_pos k) hq
  rw [nearest_of_pos ((two_zpow_pos k).trans_le hq)]
  split_ifs
  · rfl
  · simpa [lt] using hgrid

/-- The root is not below a power of two whose square is not above the radicand. -/
lemma Format.sqrt_ge {f : Format} (hf : 1 ≤ f.precision) {j : ℤ} (hj : f.leastExponent ≤ j) {q : ℚ}
    (hq : 2 ^ (2 * j) ≤ q) : (f.sqrt q).lt (finite (2 ^ j)) = false := by
  rw [sqrt_eq]
  exact nearest_ge hf hj (two_zpow_le_root ((two_zpow_pos _).trans_le hq) hq)

section

variable {x : Number} {k : ℤ}

lemma isZero_of_ge (h : x.lt (finite (2 ^ k)) = false) : x.isZero = false := by
  have hpower := two_zpow_pos k
  rcases x with _ | (_ | _) | _ | q
  case negativeZero => simp [lt, hpower] at h
  case finite =>
    have hq : 2 ^ k ≤ q := by simpa [lt] using h
    simpa [isZero] using (hpower.trans_le hq).ne'
  all_goals rfl

lemma cases_of_ge (hnumber : x.isNaN = false) (h : x.lt (finite (2 ^ k)) = false) :
    x = infinity false ∨ ∃ q, x = finite q ∧ 2 ^ k ≤ q := by
  rcases x with _ | (_ | _) | _ | q
  case infinity.false => exact .inl rfl
  case finite => exact .inr ⟨q, rfl, by simpa [lt] using h⟩
  all_goals simp_all [lt, two_zpow_pos k]

end

namespace FloatType

variable {t : FloatType} {x : Number} {j k : ℤ}

lemma squareRoot_ge (hj : t.format.leastExponent ≤ j) (hnumber : x.isNaN = false)
    (h : x.lt (finite (2 ^ (2 * j))) = false) :
    (t.rounding.squareRoot x).lt (finite (2 ^ j)) = false := by
  rcases cases_of_ge hnumber h with rfl | ⟨q, rfl, hq⟩
  · rfl
  · have hpositive : 0 < q := (two_zpow_pos _).trans_le hq
    simp only [Rounding.squareRoot, hpositive.ne', hpositive.not_gt, if_false]
    exact Format.sqrt_ge t.one_le_precision hj hq

lemma mul_ge {a : ℚ} (ha : 2 ^ j ≤ a) (hk : t.format.leastExponent ≤ j + k) (hnumber : x.isNaN = false)
    (h : x.lt (finite (2 ^ k)) = false) :
    (t.rounding.mul (finite a) x).lt (finite (2 ^ (j + k))) = false := by
  have hpositive : 0 < a := (two_zpow_pos j).trans_le ha
  rcases cases_of_ge hnumber h with rfl | ⟨q, rfl, hq⟩
  · simp [Rounding.mul, value?, isNegative, isZero, hpositive.ne', hpositive.not_gt]
  · have hq0 : 0 < q := (two_zpow_pos k).trans_le hq
    have hproduct : t.rounding.mul (finite a) (finite q) = t.format.nearest (a * q) := by
      simp [Rounding.mul, value?, hpositive.ne', hq0.ne', rounding]
    rw [hproduct]
    refine Format.nearest_ge t.one_le_precision hk ?_
    rw [two_zpow_add]
    exact mul_le_mul ha hq (two_zpow_pos k).le hpositive.le

end FloatType

namespace InitialStep

variable {scale xs : List Number} {size slopeSize : Number}

/-- A component has no quotient with its scale. -/
def LacksQuotient (scale xs : List Number) : Prop :=
  ∃ ps, pairwise Prod.mk xs scale = .ok ps ∧ ∃ p ∈ ps, p.1.Indeterminate p.2

lemma scaledSquares_ok (h : scaledSquares double scale xs = .ok size) :
    ∃ ps, pairwise Prod.mk xs scale = .ok ps ∧
      size = double.pairwiseSum (ps.map fun p => double.square (double.div p.1 p.2)) := by
  have hsquares : pairwise (fun x s => double.square (double.div x s)) xs scale =
      (pairwise Prod.mk xs scale).map (List.map fun p => double.square (double.div p.1 p.2)) := by
    rw [map_pairwise]
  rw [scaledSquares_eq, hsquares] at h
  cases hps : pairwise Prod.mk xs scale with
  | error e => simp [hps, Except.map] at h
  | ok ps =>
    rw [hps] at h
    exact ⟨ps, rfl, (Except.ok.inj h).symm⟩

/-- A sum of squares is NaN exactly if a component has no quotient with its scale. -/
theorem isNaN_scaledSquares_iff (h : scaledSquares double scale xs = .ok size) :
    size.isNaN = true ↔ LacksQuotient scale xs := by
  obtain ⟨ps, hps, rfl⟩ := scaledSquares_ok h
  have hsquare (p : Number × Number) :
      (double.square (double.div p.1 p.2)).isNaN = true ↔ p.1.Indeterminate p.2 := by
    rw [← isNaN_div_iff (t := float64), ← isNaN_mul_self (t := float64) (Rounding.div _ p.1 p.2)]
    rfl
  have hunsigned : ∀ x ∈ ps.map fun p => double.square (double.div p.1 p.2), x.isNegative = false := by
    intro x hx
    obtain ⟨p, -, rfl⟩ := List.mem_map.mp hx
    exact isNegative_mul_self _
  have hsum := isNaN_sum (t := float64) (Arithmetic.isSum_pairwiseSum _) hunsigned
  change Extended.isNaN (FloatType.float64.arithmetic.pairwiseSum _) = true ↔ _
  rw [hsum, List.any_eq_true]
  constructor
  · rintro ⟨x, hx, hnan⟩
    obtain ⟨p, hp, rfl⟩ := List.mem_map.mp hx
    exact ⟨ps, hps, p, hp, (hsquare p).mp hnan⟩
  · rintro ⟨qs, hqs, p, hp, hlacks⟩
    obtain rfl := Except.ok.inj (hps.symm.trans hqs)
    exact ⟨_, List.mem_map_of_mem hp, (hsquare p).mpr hlacks⟩

lemma holds_scaledSquares (h : scaledSquares double scale xs = .ok size) : float64.Holds size := by
  obtain ⟨ps, -, rfl⟩ := scaledSquares_ok h
  refine (Arithmetic.isSum_pairwiseSum _).closed (holds_ofRat 0) (fun _ _ => holds_add) fun q hq => ?_
  obtain ⟨p, -, rfl⟩ := List.mem_map.mp hq
  exact holds_mul _ _

/-- The bound below which a sum of squares is tiny. -/
def tiny : Number := double.ofRat (1 / 10000000000)

lemma tiny_eq : tiny = finite (7737125245533627 / 2 ^ 86) := by decide +kernel

lemma not_lt_of_not_lt_tiny {x : Number} (hx : x.lt tiny = false) :
    x.lt (finite (2 ^ (-34 : ℤ))) = false := by
  rw [tiny_eq] at hx
  exact not_lt_trans rfl hx (by norm_num [lt])

lemma roughGuess_of_tiny (h : (size.lt tiny || slopeSize.lt tiny) = true) :
    roughGuess double size slopeSize = double.ofRat (1 / 1000000) := if_pos h

lemma hundredth_eq : double.ofRat (1 / 100) = finite (5764607523034235 / 2 ^ 59) := by decide +kernel

/-- The guess from two sums that are not tiny. -/
def ratioGuess (size slopeSize : Number) : Number :=
  float64.rounding.mul (finite (5764607523034235 / 2 ^ 59))
    (float64.rounding.squareRoot (float64.rounding.div size slopeSize))

lemma roughGuess_of_large (h : (size.lt tiny || slopeSize.lt tiny) = false) :
    roughGuess double size slopeSize = ratioGuess size slopeSize := by
  have hlarge : ¬(size.lt tiny || slopeSize.lt tiny) = true := by simp [h]
  unfold ratioGuess
  rw [← hundredth_eq]
  exact if_neg hlarge

lemma isNaN_ratioGuess (hsize : size.isNegative = false) (hslope : slopeSize.isNegative = false) :
    (ratioGuess size slopeSize).isNaN = (float64.rounding.div size slopeSize).isNaN := by
  unfold ratioGuess
  rw [isNaN_mul_of_pos (by norm_num), isNaN_squareRoot (isNegative_div hsize hslope)]

/-- The rough guess is NaN exactly if neither sum is tiny and the sums have no ratio. -/
theorem isNaN_roughGuess_iff (hsize : size.isNegative = false) (hslope : slopeSize.isNegative = false) :
    (roughGuess double size slopeSize).isNaN = true ↔
      size.lt tiny = false ∧ slopeSize.lt tiny = false ∧
        (size.isNaN = true ∨ slopeSize.isNaN = true ∨
          (size.isInfinite = true ∧ slopeSize.isInfinite = true)) := by
  cases htiny : size.lt tiny || slopeSize.lt tiny
  · obtain ⟨h1, h2⟩ := Bool.or_eq_false_iff.mp htiny
    rw [roughGuess_of_large htiny, isNaN_ratioGuess hsize hslope, isNaN_div_iff]
    simp [Indeterminate, h1, h2, isZero_of_ge (not_lt_of_not_lt_tiny h1)]
  · have hnumber : (double.ofRat (1 / 1000000)).isNaN = false := by decide +kernel
    rw [roughGuess_of_tiny htiny, hnumber]
    rcases Bool.or_eq_true_iff.mp htiny with h | h <;> simp [h]

/-! ### When the guess is zero -/

lemma div_ge {p q : ℚ} (hp : 2 ^ (-34 : ℤ) ≤ p) (hq : 0 < q) (hholds : float64.Holds (finite q)) :
    (float64.rounding.div (finite p) (finite q)).lt (finite (2 ^ (-1058 : ℤ))) = false := by
  have hpositive : 0 < p := (two_zpow_pos _).trans_le hp
  have hbound : q < 2 ^ (1024 : ℤ) := by
    have h : |q| < 2 ^ (1024 : ℤ) := hholds.2
    rwa [abs_of_pos hq] at h
  have hratio : 2 ^ (-1058 : ℤ) ≤ p / q := by
    rw [le_div_iff₀ hq]
    calc (2 : ℚ) ^ (-1058 : ℤ) * q ≤ 2 ^ (-1058 : ℤ) * 2 ^ (1024 : ℤ) :=
          mul_le_mul_of_nonneg_left hbound.le (two_zpow_pos _).le
      _ = 2 ^ (-34 : ℤ) := by rw [← two_zpow_add]; norm_num
      _ ≤ p := hp
  have hdiv : float64.rounding.div (finite p) (finite q) = float64.format.nearest (p / q) := by
    simp [Rounding.div, value?, hq.ne', hpositive.ne', rounding]
  rw [hdiv]
  exact Format.nearest_ge float64.one_le_precision (by decide) hratio

lemma isZero_ratioGuess_finite {p q : ℚ} (hp : 2 ^ (-34 : ℤ) ≤ p) (hq : 0 < q)
    (hholds : float64.Holds (finite q)) : (ratioGuess (finite p) (finite q)).isZero = false := by
  have hp0 : 0 < p := (two_zpow_pos _).trans_le hp
  have hunsigned : (float64.rounding.div (finite p) (finite q)).isNegative = false :=
    isNegative_div (by simp [isNegative, hp0.le]) (by simp [isNegative, hq.le])
  have hnumber : (float64.rounding.div (finite p) (finite q)).isNaN = false := by
    rw [← Bool.not_eq_true, isNaN_div_iff]
    simp [Indeterminate, isZero, hq.ne', isInfinite]
  -- the least ratio is 2 ^ (-34) / 2 ^ 1024, far above the square of the least double
  have hroot : (float64.rounding.squareRoot (float64.rounding.div (finite p) (finite q))).lt
      (finite (2 ^ (-529 : ℤ))) = false := squareRoot_ge (by decide) hnumber (div_ge hp hq hholds)
  have hproduct : (ratioGuess (finite p) (finite q)).lt (finite (2 ^ (-7 + -529 : ℤ))) = false :=
    mul_ge (t := float64) (by norm_num) (by decide) (by rw [isNaN_squareRoot hunsigned, hnumber]) hroot
  exact isZero_of_ge hproduct

lemma ratioGuess_infinite_size (hslope : slopeSize.isNegative = false)
    (hnumber : slopeSize.isNaN = false) (hfinite : slopeSize.isInfinite = false) :
    ratioGuess (infinity false) slopeSize = infinity false := by
  have hdiv : float64.rounding.div (infinity false) slopeSize = infinity false := by
    rcases slopeSize with _ | _ | _ | q <;> simp_all [Rounding.div, value?, isInfinite, isNegative]
  have hfactor : ¬(5764607523034235 / 2 ^ 59 : ℚ) < 0 := by norm_num
  unfold ratioGuess
  rw [hdiv]
  simp [Rounding.squareRoot, Rounding.mul, value?, isZero, isNegative, hfactor]

lemma ratioGuess_infinite_slope {p : ℚ} (hp : 0 < p) :
    ratioGuess (finite p) (infinity false) = finite 0 := by
  have hfactor : ¬(5764607523034235 / 2 ^ 59 : ℚ) < 0 := by norm_num
  simp [ratioGuess, Rounding.div, Rounding.squareRoot, Rounding.mul, value?, isNegative, hp.not_gt,
    hfactor, zero]

lemma isZero_of_isNaN {x : Number} (h : x.isNaN = true) : x.isZero = false := by
  cases x <;> simp_all [isZero]

/-- The rough guess is zero exactly if the sum for the derivative has overflowed while that for the
state has not and is not tiny. -/
theorem isZero_roughGuess_iff (hsize : size.isNegative = false) (hslope : slopeSize.isNegative = false)
    (hholds : float64.Holds slopeSize) :
    (roughGuess double size slopeSize).isZero = true ↔
      size.lt tiny = false ∧ size.isNaN = false ∧ size.isInfinite = false ∧
        slopeSize.isInfinite = true := by
  cases htiny : size.lt tiny || slopeSize.lt tiny
  · obtain ⟨h1, h2⟩ := Bool.or_eq_false_iff.mp htiny
    cases hundetermined : (roughGuess double size slopeSize).isNaN
    · have hdetermined := (isNaN_roughGuess_iff hsize hslope).not.mp (by simp [hundetermined])
      simp only [h1, h2, true_and, not_or, Bool.not_eq_true, not_and] at hdetermined
      obtain ⟨hnumber, hslopeNumber, hfinite⟩ := hdetermined
      rw [roughGuess_of_large htiny]
      rcases cases_of_ge hnumber (not_lt_of_not_lt_tiny h1) with rfl | ⟨p, rfl, hp⟩
      · rw [ratioGuess_infinite_size hslope hslopeNumber (hfinite rfl)]
        simp [isZero, isInfinite]
      · rcases cases_of_ge hslopeNumber (not_lt_of_not_lt_tiny h2) with rfl | ⟨q, rfl, hq⟩
        · rw [ratioGuess_infinite_slope ((two_zpow_pos _).trans_le hp)]
          simp [isZero, isInfinite, h1]
        · rw [isZero_ratioGuess_finite hp ((two_zpow_pos _).trans_le hq) hholds]
          simp [isInfinite]
    · rw [isZero_of_isNaN hundetermined]
      obtain ⟨-, -, hcause⟩ := (isNaN_roughGuess_iff hsize hslope).mp hundetermined
      rcases hcause with h | h | ⟨h, -⟩
      · simp [h]
      · have hfinite : slopeSize.isInfinite = false := by cases slopeSize <;> simp_all [isInfinite]
        simp [hfinite]
      · simp [h]
  · have hnumber : (double.ofRat (1 / 1000000)).isZero = false := by decide +kernel
    rw [roughGuess_of_tiny htiny, hnumber]
    rcases Bool.or_eq_true_iff.mp htiny with h | h
    · simp [h]
    · -- what is tiny is not infinite
      have hfinite : slopeSize.isInfinite = false := by
        rcases slopeSize with _ | (_ | _) | _ | q <;> simp_all [isInfinite, isNegative]
      simp [hfinite]

end InitialStep

end AdaptiveStep
