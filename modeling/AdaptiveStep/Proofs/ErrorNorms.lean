import AdaptiveStep.Proofs.ExtendedNorms

/-!
# The error norm in exact arithmetic

The error norm of vectors with `n` components, for tolerances of both forms. In exact arithmetic it is
NaN exactly if some error has no quotient with its allowed error; otherwise its magnitude is the root of
the mean of the squared quotients of magnitudes, in the extended non-negative reals.
-/

namespace AdaptiveStep

open Extended
open scoped ENNReal

variable {α : Type} {n : ℕ}

/-- A tolerance gives each of `n` components its amount: the same one for all, or one of its own. -/
inductive Tolerance.Gives : Tolerance α → (Fin n → α) → Prop
  | uniform (x : α) : Gives (.uniform x) fun _ => x
  | perComponent (a : Fin n → α) : Gives (.perComponent (List.ofFn a)) a

namespace Tolerance.Gives

variable {t : Tolerance α} {a : Fin n → α}

lemma requireSize (h : t.Gives a) : t.requireSize n = .ok () := by
  cases h with
  | uniform x => rfl
  | perComponent a => simp [Tolerance.requireSize, size?, AdaptiveStep.requireSize]

lemma spread (h : t.Gives a) : t.spread n = List.ofFn a := by
  cases h with
  | uniform x => exact List.ofFn_const n x |>.symm
  | perComponent a => rfl

end Tolerance.Gives

/-- What the error norm of a step is made of, for each of `n` components. -/
structure StepErrors (α : Type) (n : ℕ) where
  errors : Fin n → α
  old : Fin n → α
  new : Fin n → α
  absolute : Fin n → α
  relative : Fin n → α

namespace StepErrors

def allowed (A : Arithmetic α) (d : StepErrors α n) (i : Fin n) : α :=
  threshold A (d.absolute i) (d.relative i) (d.old i) (d.new i)

def quotient (A : Arithmetic α) (d : StepErrors α n) (i : Fin n) : α :=
  A.div (d.errors i) (d.allowed A i)

def norm (A S : Arithmetic α) (d : StepErrors α n) : α :=
  rootMeanSquare A S (List.ofFn (d.quotient A))

variable {A S : Arithmetic α} {d : StepErrors α n} {absolute relative : Tolerance α}

/-- Tolerances of both forms allow each component its own error. -/
lemma thresholds_eq (habsolute : absolute.Gives d.absolute) (hrelative : relative.Gives d.relative) :
    thresholds A (List.ofFn d.old) (List.ofFn d.new) absolute relative =
      .ok (List.ofFn (d.allowed A)) := by
  have hzip : List.zipWith (fun tolerance y => threshold A tolerance.1 tolerance.2 y.1 y.2)
      ((List.ofFn d.absolute).zip (List.ofFn d.relative)) ((List.ofFn d.old).zip (List.ofFn d.new)) =
      List.ofFn (d.allowed A) := by
    apply List.ext_getElem
    · simp
    · intro i hi hi'
      simp [allowed]
  simp only [thresholds, List.length_ofFn, requireSize, if_true, habsolute.requireSize,
    hrelative.requireSize, habsolute.spread, hrelative.spread, hzip, bind, Except.bind, pure,
    Except.pure]

lemma errorNorm_eq (habsolute : absolute.Gives d.absolute) (hrelative : relative.Gives d.relative) :
    errorNorm A S (List.ofFn d.errors) (List.ofFn d.old) (List.ofFn d.new) absolute relative =
      .ok (d.norm A S) := by
  have hzip : List.zipWith A.div (List.ofFn d.errors) (List.ofFn (d.allowed A)) =
      List.ofFn (d.quotient A) := by
    apply List.ext_getElem
    · simp
    · intro i hi hi'
      simp [quotient]
  simp only [errorNorm, thresholds_eq habsolute hrelative, scaledError, List.length_ofFn, requireSize,
    if_true, hzip, norm, bind, Except.bind, pure, Except.pure]

end StepErrors

/-- Finite tolerances and states allow a finite error. -/
lemma threshold_finite {a r : ℝ} (hr : 0 ≤ r) (y z : ℝ) :
    threshold exact (finite a) (finite r) (finite y) (finite z) = finite (a + r * max |y| |z|) := by
  have hmax : 0 ≤ max |y| |z| := le_max_of_le_left (abs_nonneg y)
  rw [threshold, exact_abs, abs_finite, abs_finite, exact_maxNaN_finite,
    exact_mul_finite_of_nonneg hr hmax, exact_add_finite]

/-! ### The root mean square -/

lemma rootMeanSquare_nan {qs : List (Extended ℝ)} (h : nan ∈ qs) :
    rootMeanSquare exact exact qs = nan := by
  have hsum : exact.sum (qs.map exact.square) = nan :=
    exact_sum_nan (List.mem_map.mpr ⟨nan, h, rfl⟩)
  rw [rootMeanSquare, hsum]
  have hquotient : exact.div nan (exact.ofRat qs.length) = nan := by
    cases exact.ofRat qs.length <;> rfl
  rw [hquotient]
  rfl

/-- The root of the mean of squares, infinite if a square is. -/
theorem rootMeanSquare_exact {q : Fin n → Extended ℝ} (hn : 0 < n) (hq : ∀ i, (q i).isNaN = false) :
    (rootMeanSquare exact exact (List.ofFn q)).Nonneg ∧
      ‖rootMeanSquare exact exact (List.ofFn q)‖ₑ = ((∑ i, ‖q i‖ₑ ^ 2) / n) ^ (2⁻¹ : ℝ) := by
  have hsquares : ∀ x ∈ (List.ofFn q).map exact.square, x.Nonneg := by
    intro x hx
    rw [List.map_ofFn, List.mem_ofFn] at hx
    obtain ⟨i, rfl⟩ := hx
    exact nonneg_exact_square (hq i)
  obtain ⟨hsum, hnorm⟩ := exact_sum_nonneg hsquares
  have hterms : (((List.ofFn q).map exact.square).map fun x => ‖x‖ₑ).sum = ∑ i, ‖q i‖ₑ ^ 2 := by
    rw [List.map_ofFn, List.map_ofFn, List.sum_ofFn]
    exact Finset.sum_congr rfl fun i _ => enorm_exact_square (hq i)
  have hlength : exact.ofRat ((List.ofFn q).length : ℚ) = finite (n : ℝ) := by simp
  have hcount : (0 : ℝ) < n := Nat.cast_pos.mpr hn
  have hpositive : (finite 0).lt (finite (n : ℝ)) = true := by simpa [lt] using hcount
  have hnumber : (exact.div (exact.sum ((List.ofFn q).map exact.square)) (finite n)).isNaN = false := by
    rw [← Bool.not_eq_true, isNaN_exact_div_iff, Indeterminate, hsum.number]
    simp [isZero, isInfinite, hcount.ne']
  obtain ⟨hroot, hmagnitude⟩ := exact_sqrt (nonneg_exact_div hsum hpositive hnumber)
  rw [rootMeanSquare, hlength, exact_convert]
  refine ⟨hroot, ?_⟩
  rw [hmagnitude, enorm_exact_div hnumber, hnorm, hterms, enorm_finite,
    Real.enorm_of_nonneg hcount.le, ENNReal.ofReal_natCast]

namespace StepErrors

variable {d : StepErrors (Extended ℝ) n}

lemma norm_nan {i : Fin n} (h : (d.quotient exact i).isNaN = true) : d.norm exact exact = nan := by
  apply rootMeanSquare_nan
  rw [List.mem_ofFn]
  refine ⟨i, ?_⟩
  cases hq : d.quotient exact i <;> simp_all

/-- The error norm as an extended non-negative real. -/
theorem norm_exact (hn : 0 < n) (h : ∀ i, (d.quotient exact i).isNaN = false) :
    (d.norm exact exact).Nonneg ∧ ‖d.norm exact exact‖ₑ =
      ((∑ i, (‖d.errors i‖ₑ / ‖d.allowed exact i‖ₑ) ^ 2) / n) ^ (2⁻¹ : ℝ) := by
  obtain ⟨hnonneg, hnorm⟩ := rootMeanSquare_exact hn h
  refine ⟨hnonneg, ?_⟩
  rw [norm, hnorm]
  congr 2
  exact Finset.sum_congr rfl fun i _ => congrArg (· ^ 2) (enorm_exact_div (h i))

/-- No tolerance is below zero. -/
structure Tolerant (d : StepErrors (Extended ℝ) n) : Prop where
  absolute : ∀ i, (d.absolute i).Nonneg
  relative : ∀ i, (d.relative i).Nonneg

lemma numbers_of_allowed {i : Fin n} (h : (d.allowed exact i).isNaN = false) :
    (exact.mul (d.relative i) (exact.maxNaN (d.old i).abs (d.new i).abs)).isNaN = false ∧
      (d.old i).isNaN = false ∧ (d.new i).isNaN = false := by
  obtain ⟨-, hproduct⟩ := numbers_of_exact_add h
  obtain ⟨-, hsize⟩ := numbers_of_exact_mul hproduct
  refine ⟨hproduct, ?_⟩
  simpa using numbers_of_exact_maxNaN hsize

/-- An allowed error that is a number is the sum that makes it, in magnitudes. -/
theorem allowed_exact (hd : d.Tolerant) {i : Fin n} (h : (d.allowed exact i).isNaN = false) :
    (d.allowed exact i).Nonneg ∧ ‖d.allowed exact i‖ₑ =
      ‖d.absolute i‖ₑ + ‖d.relative i‖ₑ * max ‖d.old i‖ₑ ‖d.new i‖ₑ := by
  obtain ⟨hproduct, hold, hnew⟩ := numbers_of_allowed h
  obtain ⟨hmax, hmagnitude⟩ := exact_maxNaN (nonneg_abs hold) (nonneg_abs hnew)
  have hnonneg := nonneg_exact_mul (hd.relative i) hmax hproduct
  refine ⟨nonneg_exact_add (hd.absolute i) hnonneg, ?_⟩
  rw [enorm_abs, enorm_abs] at hmagnitude
  rw [← hmagnitude, ← enorm_exact_mul hproduct]
  exact enorm_exact_add (hd.absolute i) hnonneg

end StepErrors

end AdaptiveStep
