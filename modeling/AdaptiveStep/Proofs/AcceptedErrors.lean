import AdaptiveStep.Proofs.ErrorNorms
import AdaptiveStep.Proofs.IntegrationInvariant

/-!
# Errors that are accepted

In exact arithmetic a step whose errors are all allowed is accepted, unless a component allows no error
at all: its error of zero has no quotient with the allowed error. A step that is accepted exceeds no
allowed error by more than the factor `√n`. The error norm grows with the errors and falls with the
tolerances and the states, so tighter tolerances of whatever form reject what looser ones reject.
-/

namespace AdaptiveStep

open Extended
open scoped ENNReal

variable {n : ℕ} {absolute relative : Tolerance (Extended ℝ)}

namespace StepErrors

variable {d d' : StepErrors (Extended ℝ) n}

/-! ### Acceptance -/

lemma quotient_number_iff {i : Fin n} : (d.quotient exact i).isNaN = false ↔
    (d.errors i).isNaN = false ∧ (d.allowed exact i).isNaN = false ∧
      ¬((d.errors i).isZero = true ∧ (d.allowed exact i).isZero = true) ∧
      ¬((d.errors i).isInfinite = true ∧ (d.allowed exact i).isInfinite = true) := by
  rw [← Bool.not_eq_true, quotient, isNaN_exact_div_iff]
  simp only [Indeterminate, not_or, Bool.not_eq_true]

lemma quotient_numbers_of_norm (h : (d.norm exact exact).isNaN = false) (i : Fin n) :
    (d.quotient exact i).isNaN = false := by
  by_contra hnan
  rw [Bool.not_eq_false] at hnan
  simp [norm_nan hnan] at h

/-- The step is accepted if the squares of the quotients are one on average, or less. -/
lemma norm_le_one_iff (hn : 0 < n) (h : ∀ i, (d.quotient exact i).isNaN = false) :
    exact.le (d.norm exact exact) (exact.ofRat 1) = true ↔
      ∑ i, (‖d.errors i‖ₑ / ‖d.allowed exact i‖ₑ) ^ 2 ≤ n := by
  obtain ⟨hnonneg, hnorm⟩ := norm_exact hn h
  have hcount : (n : ℝ≥0∞) ≠ 0 := by exact_mod_cast hn.ne'
  rw [exact_one, le_iff_enorm hnonneg (by simp), hnorm, enorm_finite, enorm_one,
    ENNReal.rpow_inv_le_iff two_pos, ENNReal.one_rpow,
    ENNReal.div_le_iff hcount (ENNReal.natCast_ne_top n), one_mul]

lemma norm_le_one_of_within (hn : 0 < n) (hd : d.Tolerant)
    (h : ∀ i, (d.quotient exact i).isNaN = false)
    (hwithin : ∀ i, exact.le (exact.abs (d.errors i)) (d.allowed exact i) = true) :
    exact.le (d.norm exact exact) (exact.ofRat 1) = true := by
  rw [norm_le_one_iff hn h]
  have hterm (i : Fin n) : (‖d.errors i‖ₑ / ‖d.allowed exact i‖ₑ) ^ 2 ≤ 1 := by
    obtain ⟨herror, hallowed, -⟩ := exact_le_iff.mp (hwithin i)
    have hle := (le_iff_enorm (nonneg_abs ((isNaN_abs _).symm.trans herror))
      (allowed_exact hd hallowed).1).mp (hwithin i)
    rw [enorm_abs] at hle
    apply pow_le_one'
    apply ENNReal.div_le_of_le_mul
    rwa [one_mul]
  calc ∑ i, (‖d.errors i‖ₑ / ‖d.allowed exact i‖ₑ) ^ 2 ≤ ∑ _i : Fin n, 1 :=
        Finset.sum_le_sum fun i _ => hterm i
    _ = n := by simp

/-- An error that is allowed is zero if no error is allowed, and then there is no quotient. -/
lemma not_le_one_of_isZero (hd : d.Tolerant) {i : Fin n}
    (hwithin : exact.le (exact.abs (d.errors i)) (d.allowed exact i) = true)
    (hzero : exact.isZero (d.allowed exact i) = true) :
    exact.le (d.norm exact exact) (exact.ofRat 1) = false := by
  obtain ⟨herror, hallowed, -⟩ := exact_le_iff.mp hwithin
  have hnumber : (d.errors i).isNaN = false := (isNaN_abs _).symm.trans herror
  have hle := (le_iff_enorm (nonneg_abs hnumber) (allowed_exact hd hallowed).1).mp hwithin
  rw [enorm_abs, (enorm_eq_zero hallowed).mpr hzero, nonpos_iff_eq_zero, enorm_eq_zero hnumber] at hle
  have hnan : (d.quotient exact i).isNaN = true :=
    isNaN_exact_div_iff.mpr (.inr (.inr (.inl ⟨hle, hzero⟩)))
  rw [norm_nan hnan]
  rfl

/-- No quotient of an accepted step is above the root of the number of components. -/
lemma enorm_errors_le (hn : 0 < n) (hnumbers : ∀ i, (d.quotient exact i).isNaN = false)
    (h : exact.le (d.norm exact exact) (exact.ofRat 1) = true) (i : Fin n) :
    ‖d.errors i‖ₑ ≤ (n : ℝ≥0∞) ^ (2⁻¹ : ℝ) * ‖d.allowed exact i‖ₑ := by
  have hterm : (‖d.errors i‖ₑ / ‖d.allowed exact i‖ₑ) ^ 2 ≤ n :=
    (Finset.single_le_sum (f := fun i => (‖d.errors i‖ₑ / ‖d.allowed exact i‖ₑ) ^ 2)
      (fun _ _ => zero_le) (Finset.mem_univ i)).trans ((norm_le_one_iff hn hnumbers).mp h)
  have hroot : (n : ℝ≥0∞) ^ (2⁻¹ : ℝ) ≠ 0 := by simp [hn.ne']
  have hbounded : (n : ℝ≥0∞) ^ (2⁻¹ : ℝ) ≠ ⊤ := by simp
  rw [← ENNReal.div_le_iff_le_mul (.inr hbounded) (.inr hroot), ENNReal.le_rpow_inv_iff two_pos]
  simpa using hterm

lemma errors_le_of_norm_le_one (hn : 0 < n) (hd : d.Tolerant)
    (h : exact.le (d.norm exact exact) (exact.ofRat 1) = true) (i : Fin n) :
    exact.le (exact.abs (d.errors i)) (exact.mul (exact.sqrt (exact.ofRat n)) (d.allowed exact i)) =
      true := by
  have hnumbers := quotient_numbers_of_norm (exact_le_iff.mp h).1
  obtain ⟨herror, hallowed, -, -⟩ := quotient_number_iff.mp (hnumbers i)
  have hcount : (0 : ℝ) < n := Nat.cast_pos.mpr hn
  have hfinite : exact.ofRat n = finite (n : ℝ) := by simp
  obtain ⟨hroot, hmagnitude⟩ := exact_sqrt (nonneg_finite_iff.mpr hcount.le)
  have hproduct : (exact.mul (exact.sqrt (finite n)) (d.allowed exact i)).isNaN = false := by
    rw [exact_sqrt_finite hcount.le]
    exact isNaN_exact_mul_left (Real.sqrt_pos.mpr hcount).ne' hallowed
  have hbound := nonneg_exact_mul hroot (allowed_exact hd hallowed).1 hproduct
  rw [hfinite, exact_abs, le_iff_enorm (nonneg_abs herror) hbound, enorm_abs,
    enorm_exact_mul hproduct, hmagnitude, enorm_finite, Real.enorm_natCast]
  exact enorm_errors_le hn hnumbers h i

end StepErrors

/-- Errors that are all allowed are accepted exactly if no allowed error is zero, and no error of an
accepted step exceeds the allowed one by more than the factor `√n`. -/
theorem errorNorm_acceptable {d : StepErrors (Extended ℝ) n} (hn : 0 < n)
    (habsolute : absolute.Gives d.absolute) (hrelative : relative.Gives d.relative) (hd : d.Tolerant)
    (hfinite : ∀ i, (d.errors i).isInfinite = false) :
    ∃ (allowed : Fin n → Extended ℝ) (x : Extended ℝ),
      thresholds exact (List.ofFn d.old) (List.ofFn d.new) absolute relative =
        .ok (List.ofFn allowed) ∧
      errorNorm exact exact (List.ofFn d.errors) (List.ofFn d.old) (List.ofFn d.new) absolute relative =
        .ok x ∧
      ((∀ i, exact.le (exact.abs (d.errors i)) (allowed i) = true) →
        (exact.le x (exact.ofRat 1) = true ↔ ∀ i, exact.isZero (allowed i) = false)) ∧
      (exact.le x (exact.ofRat 1) = true → ∀ i, exact.le (exact.abs (d.errors i))
        (exact.mul (exact.sqrt (exact.ofRat n)) (allowed i)) = true) := by
  refine ⟨d.allowed exact, d.norm exact exact, StepErrors.thresholds_eq habsolute hrelative,
    StepErrors.errorNorm_eq habsolute hrelative, ?_, StepErrors.errors_le_of_norm_le_one hn hd⟩
  intro hwithin
  constructor
  · intro hle i
    by_contra hzero
    rw [Bool.not_eq_false] at hzero
    have hrejected := StepErrors.not_le_one_of_isZero hd (hwithin i) hzero
    exact Bool.false_ne_true (hrejected.symm.trans hle)
  · intro hpositive
    refine StepErrors.norm_le_one_of_within hn hd (fun i => ?_) hwithin
    obtain ⟨herror, hallowed, -⟩ := exact_le_iff.mp (hwithin i)
    apply StepErrors.quotient_number_iff.mpr
    refine ⟨(isNaN_abs _).symm.trans herror, hallowed, fun h => ?_, fun h => ?_⟩
    · exact Bool.false_ne_true ((hpositive i).symm.trans h.2)
    · exact Bool.false_ne_true ((hfinite i).symm.trans h.1)

/-- Errors at their limits, four and one, under relative and absolute tolerances per component. -/
theorem errorNorm_acceptable_limits : ∃ x,
    errorNorm exact exact [finite 4, finite (-1)] [finite (-4), finite 0] [finite 2, finite 5]
      (.perComponent [finite 0, finite 1]) (.perComponent [finite 1, finite 0]) = .ok x ∧
    exact.le x (exact.ofRat 1) = true := by
  let d : StepErrors (Extended ℝ) 2 := {
    errors := ![finite 4, finite (-1)]
    old := ![finite (-4), finite 0]
    new := ![finite 2, finite 5]
    absolute := ![finite 0, finite 1]
    relative := ![finite 1, finite 0] }
  have hd : d.Tolerant := by
    constructor <;> intro i <;> fin_cases i <;> simp [d]
  have hfinite (i : Fin 2) : (d.errors i).isInfinite = false := by
    fin_cases i <;> rfl
  obtain ⟨allowed, x, hallowed, hx, hiff, -⟩ :=
    errorNorm_acceptable two_pos (.perComponent d.absolute) (.perComponent d.relative) hd hfinite
  have heq : allowed = ![finite 4, finite 1] := by
    have hlist := Except.ok.inj (hallowed.symm.trans
      (StepErrors.thresholds_eq (.perComponent d.absolute) (.perComponent d.relative)))
    rw [List.ofFn_injective hlist]
    funext i
    fin_cases i <;> norm_num [StepErrors.allowed, d, threshold_finite]
  subst heq
  refine ⟨x, hx, (hiff ?_).mpr ?_⟩
  · intro i
    fin_cases i <;> norm_num [d, Arithmetic.le, lt, abs_finite]
  · intro i
    fin_cases i <;> simp [isZero]

/-- Without absolute tolerance a component that stays zero allows no error. Its error of zero is within
what is allowed, but the error norm is NaN and the step is rejected. -/
theorem errorNorm_zero_not_acceptable :
    thresholds exact [finite 0] [finite 0] (.uniform (finite 0)) (.uniform (finite 1)) =
        .ok [finite 0] ∧
      exact.le (exact.abs (finite 0)) (finite 0) = true ∧
      errorNorm exact exact [finite 0] [finite 0] [finite 0] (.uniform (finite 0))
        (.uniform (finite 1)) = .ok nan ∧
      exact.le nan (exact.ofRat 1) = false := by
  have hallowed : thresholds exact [finite 0] [finite 0] (.uniform (finite 0)) (.uniform (finite 1)) =
      .ok [finite 0] := by
    simp [thresholds, requireSize, Tolerance.requireSize, Tolerance.size?, Tolerance.spread,
      threshold_finite, bind, Except.bind, pure, Except.pure]
  have hquotient : exact.div (finite 0) (finite 0) = nan := by
    simp [exact, Rounding.arithmetic, Rounding.div, value?]
  refine ⟨hallowed, ?_, ?_, rfl⟩
  · simp [Arithmetic.le, lt, abs_finite]
  · simp only [errorNorm, hallowed, scaledError, requireSize, bind, Except.bind, pure, Except.pure]
    simp [hquotient, rootMeanSquare_nan]

/-! ### Monotonicity -/

namespace StepErrors

variable {d d' : StepErrors (Extended ℝ) n}

/-- Errors no greater, between states and under tolerances no smaller. -/
structure IsLaxer (d d' : StepErrors (Extended ℝ) n) : Prop where
  errors : ∀ i, exact.le (exact.abs (d.errors i)) (exact.abs (d'.errors i)) = true
  old : ∀ i, exact.le (exact.abs (d'.old i)) (exact.abs (d.old i)) = true
  new : ∀ i, exact.le (exact.abs (d'.new i)) (exact.abs (d.new i)) = true
  absolute : ∀ i, exact.le (d'.absolute i) (d.absolute i) = true
  relative : ∀ i, exact.le (d'.relative i) (d.relative i) = true

/-- Tolerances that are not below zero and allow each component an error. -/
structure Controlled (d : StepErrors (Extended ℝ) n) : Prop extends d.Tolerant where
  positive : ∀ i, (finite 0).lt (d.allowed exact i) = true

lemma Controlled.number (hd : d.Controlled) (i : Fin n) : (d.allowed exact i).isNaN = false :=
  (lt_iff.mp (hd.positive i)).2.1

lemma IsLaxer.enorm_errors (h : d.IsLaxer d') (i : Fin n) : ‖d.errors i‖ₑ ≤ ‖d'.errors i‖ₑ :=
  (le_abs_iff.mp (h.errors i)).2.2

lemma IsLaxer.enorm_allowed (h : d.IsLaxer d') (hd : d.Controlled) (hd' : d'.Controlled) (i : Fin n) :
    ‖d'.allowed exact i‖ₑ ≤ ‖d.allowed exact i‖ₑ := by
  have habsolute := (le_iff_enorm (hd'.absolute i) (hd.absolute i)).mp (h.absolute i)
  have hrelative := (le_iff_enorm (hd'.relative i) (hd.relative i)).mp (h.relative i)
  have hold := (le_abs_iff.mp (h.old i)).2.2
  have hnew := (le_abs_iff.mp (h.new i)).2.2
  rw [(allowed_exact hd'.toTolerant (hd'.number i)).2, (allowed_exact hd.toTolerant (hd.number i)).2]
  gcongr

/-- The error norm grows with the errors, and it falls as the states and the tolerances grow. -/
theorem IsLaxer.norm_le (h : d.IsLaxer d') (hn : 0 < n) (hd : d.Controlled) (hd' : d'.Controlled)
    (hnumbers : ∀ i, (d.quotient exact i).isNaN = false)
    (hnumbers' : ∀ i, (d'.quotient exact i).isNaN = false) :
    exact.le (d.norm exact exact) (d'.norm exact exact) = true := by
  obtain ⟨hnonneg, hnorm⟩ := norm_exact hn hnumbers
  obtain ⟨hnonneg', hnorm'⟩ := norm_exact hn hnumbers'
  rw [le_iff_enorm hnonneg hnonneg', hnorm, hnorm']
  gcongr with i
  · exact h.enorm_errors i
  · exact h.enorm_allowed hd hd' i

/-- A component whose error and allowed error are not both infinite has a quotient. -/
lemma Controlled.quotient_number (hd : d.Controlled) {i : Fin n} (herror : (d.errors i).isNaN = false)
    (hbounded : ¬((d.errors i).isInfinite = true ∧ (d.allowed exact i).isInfinite = true)) :
    (d.quotient exact i).isNaN = false := by
  apply quotient_number_iff.mpr
  refine ⟨herror, hd.number i, fun h => ?_, hbounded⟩
  exact Bool.false_ne_true ((isZero_of_pos (hd.positive i)).symm.trans h.2)

/-- Where the stricter control has no quotient of infinities, the laxer one has none either. -/
lemma IsLaxer.numbers (h : d.IsLaxer d') (hd : d.Controlled) (hd' : d'.Controlled)
    (hbounded : ∀ i, (d'.errors i).isInfinite = false ∨ (d.allowed exact i).isInfinite = false) :
    (∀ i, (d.quotient exact i).isNaN = false) ∧ ∀ i, (d'.quotient exact i).isNaN = false := by
  have herrors (i : Fin n) := h.enorm_errors i
  have hallowed (i : Fin n) := h.enorm_allowed hd hd' i
  simp only [← Bool.not_eq_true, ← enorm_eq_top] at hbounded
  constructor <;> intro i
  · refine hd.quotient_number (le_abs_iff.mp (h.errors i)).1 fun hinfinite => ?_
    simp only [← enorm_eq_top] at hinfinite
    rcases hbounded i with hi | hi
    · exact hi (top_le_iff.mp (hinfinite.1 ▸ herrors i))
    · exact hi hinfinite.2
  · refine hd'.quotient_number (le_abs_iff.mp (h.errors i)).2.1 fun hinfinite => ?_
    simp only [← enorm_eq_top] at hinfinite
    rcases hbounded i with hi | hi
    · exact hi hinfinite.1
    · exact hi (top_le_iff.mp (hinfinite.2 ▸ hallowed i))

/-- Tighter tolerances for the same step. -/
lemma Controlled.isLaxer (hd : d.Controlled) (herrors : ∀ i, (d.errors i).isNaN = false)
    {absolute relative : Fin n → Extended ℝ}
    (habsolute : ∀ i, exact.le (absolute i) (d.absolute i) = true)
    (hrelative : ∀ i, exact.le (relative i) (d.relative i) = true) :
    d.IsLaxer { d with absolute, relative } := by
  constructor
  · intro i
    exact le_abs_iff.mpr ⟨herrors i, herrors i, le_rfl⟩
  · intro i
    obtain ⟨-, hold, -⟩ := numbers_of_allowed (hd.number i)
    exact le_abs_iff.mpr ⟨hold, hold, le_rfl⟩
  · intro i
    obtain ⟨-, -, hnew⟩ := numbers_of_allowed (hd.number i)
    exact le_abs_iff.mpr ⟨hnew, hnew, le_rfl⟩
  · exact habsolute
  · exact hrelative

end StepErrors

namespace Policy

/-- The policy's tolerances, in either form, are those of the step and allow every component an error. -/
structure Controlling (p : Policy) (d : StepErrors (Extended ℝ) n) : Prop extends d.Controlled where
  givesAbsolute : (p.controls.map toReal).absolute.Gives d.absolute
  givesRelative : (p.controls.map toReal).relative.Gives d.relative

/-- The error norm under the policy's tolerances is above one. -/
def Rejects (p : Policy) (errors old new : List (Extended ℝ)) : Prop :=
  ∃ x, AdaptiveStep.errorNorm exact exact errors old new (p.controls.map toReal).absolute
    (p.controls.map toReal).relative = .ok x ∧ exact.lt (exact.ofRat 1) x = true

end Policy

/-! ### Two policies for one step -/

/-- An error of eight in one of two components, under tolerances of one. -/
noncomputable def StepErrors.wideErrors : StepErrors (Extended ℝ) 2 where
  errors := ![finite 8, finite 0]
  old := ![finite 0, finite 2]
  new := ![finite 0, finite 1]
  absolute := fun _ => finite 1
  relative := fun _ => finite 1

namespace Policy

open StepErrors

/-- The wide steps with tolerances per component, none above one. -/
def tightSteps : Policy where
  controls := { wideSteps.controls with
    scalarAbsolute := .finite 0
    scalarRelative := .finite 0
    vector := some ([.finite (1 / 2), .finite 1], [.finite 1, .finite 0]) }
  mainDimension := none
  stepStart := none
  stepSize := wideSteps.stepSize

lemma controlling_wideSteps : wideSteps.Controlling wideErrors := by
  refine ⟨⟨⟨?_, ?_⟩, ?_⟩, ?_, ?_⟩
  · simp [wideErrors]
  · simp [wideErrors]
  · intro i
    fin_cases i <;> norm_num [allowed, wideErrors, threshold_finite, lt]
  · simpa [wideSteps, Controls.map, Controls.absolute] using .uniform (finite (1 : ℝ))
  · simpa [wideSteps, Controls.map, Controls.relative] using .uniform (finite (1 : ℝ))

lemma controlling_tightSteps : tightSteps.Controlling { wideErrors with
    absolute := ![finite (1 / 2), finite 1]
    relative := ![finite 1, finite 0] } := by
  refine ⟨⟨⟨?_, ?_⟩, ?_⟩, ?_, ?_⟩
  · intro i
    fin_cases i <;> norm_num
  · intro i
    fin_cases i <;> norm_num
  · intro i
    fin_cases i <;> norm_num [allowed, wideErrors, threshold_finite, lt]
  · have heq : (tightSteps.controls.map toReal).absolute =
        .perComponent (List.ofFn ![finite (1 / 2), finite 1]) := by
      simp [tightSteps, Controls.map, Controls.absolute]
    exact heq ▸ .perComponent _
  · have heq : (tightSteps.controls.map toReal).relative =
        .perComponent (List.ofFn ![finite 1, finite 0]) := by
      simp [tightSteps, Controls.map, Controls.relative]
    exact heq ▸ .perComponent _

/-- The error of eight is more than `√2` times the allowed one. -/
lemma rejects_wideSteps :
    wideSteps.Rejects [finite 8, finite 0] [finite 0, finite 2] [finite 0, finite 1] := by
  have hd := controlling_wideSteps.toControlled
  have hnumbers (i : Fin 2) : (wideErrors.quotient exact i).isNaN = false := by
    apply hd.quotient_number
    · fin_cases i <;> rfl
    · fin_cases i <;> simp [wideErrors, isInfinite]
  have hnumber := (norm_exact two_pos hnumbers).1.number
  refine ⟨wideErrors.norm exact exact,
    errorNorm_eq controlling_wideSteps.givesAbsolute controlling_wideSteps.givesRelative, ?_⟩
  by_contra hle
  rw [Bool.not_eq_true] at hle
  have hbound := errors_le_of_norm_le_one two_pos hd.toTolerant
    (exact_le_iff.mpr ⟨hnumber, by simp, hle⟩) 0
  have hroot : Real.sqrt 2 < 8 := (Real.sqrt_lt' (by norm_num)).mpr (by norm_num)
  norm_num [allowed, wideErrors, threshold_finite, abs_finite, exact_sqrt_finite,
    exact_mul_finite_of_nonneg, Arithmetic.le, lt] at hbound
  exact hbound.not_gt hroot

end Policy

/-- The error norm does not fall as errors grow and does not grow with the states and the tolerances,
so what a policy rejects is rejected under every policy whose tolerances are tighter, in either form. -/
theorem errorNorm_monotone (hn : 0 < n) :
    (∀ (d d' : StepErrors (Extended ℝ) n)
        (absolute relative absolute' relative' : Tolerance (Extended ℝ)),
      absolute.Gives d.absolute → relative.Gives d.relative →
      absolute'.Gives d'.absolute → relative'.Gives d'.relative →
      d.Controlled → d'.Controlled → d.IsLaxer d' →
      (∀ i, (d'.errors i).isInfinite = false ∨ (d.allowed exact i).isInfinite = false) →
      ∃ x x',
        errorNorm exact exact (List.ofFn d.errors) (List.ofFn d.old) (List.ofFn d.new) absolute
          relative = .ok x ∧
        errorNorm exact exact (List.ofFn d'.errors) (List.ofFn d'.old) (List.ofFn d'.new) absolute'
          relative' = .ok x' ∧
        exact.le x x' = true) ∧
    ∀ (p q : Policy) (d : StepErrors (Extended ℝ) n) (absolute relative : Fin n → Extended ℝ),
      p.Controlling d → q.Controlling { d with absolute, relative } →
      (∀ i, exact.le (absolute i) (d.absolute i) = true) →
      (∀ i, exact.le (relative i) (d.relative i) = true) →
      p.Rejects (List.ofFn d.errors) (List.ofFn d.old) (List.ofFn d.new) →
      q.Rejects (List.ofFn d.errors) (List.ofFn d.old) (List.ofFn d.new) := by
  constructor
  · intro d d' absolute relative absolute' relative' ha hr ha' hr' hd hd' h hbounded
    obtain ⟨hnumbers, hnumbers'⟩ := h.numbers hd hd' hbounded
    exact ⟨d.norm exact exact, d'.norm exact exact, StepErrors.errorNorm_eq ha hr,
      StepErrors.errorNorm_eq ha' hr', h.norm_le hn hd hd' hnumbers hnumbers'⟩
  · intro p q d absolute relative hp hq habsolute hrelative ⟨x, hx, hrejected⟩
    have hnorm := StepErrors.errorNorm_eq hp.givesAbsolute hp.givesRelative (A := exact) (S := exact)
    obtain rfl : d.norm exact exact = x := Except.ok.inj (hnorm.symm.trans hx)
    have hnumbers := StepErrors.quotient_numbers_of_norm (lt_iff.mp hrejected).2.1
    have hlaxer := hp.toControlled.isLaxer
      (fun i => (StepErrors.quotient_number_iff.mp (hnumbers i)).1) habsolute hrelative
    -- an infinite error that the laxer policy rejects is not allowed by it either
    have hbounded (i : Fin n) :
        (d.errors i).isInfinite = false ∨ (d.allowed exact i).isInfinite = false := by
      obtain ⟨-, -, -, h⟩ := StepErrors.quotient_number_iff.mp (hnumbers i)
      rwa [not_and_or, Bool.not_eq_true, Bool.not_eq_true] at h
    have hnumbers' := (hlaxer.numbers hp.toControlled hq.toControlled hbounded).2
    have hle := hlaxer.norm_le hn hp.toControlled hq.toControlled hnumbers hnumbers'
    obtain ⟨-, hnumber, hle⟩ := exact_le_iff.mp hle
    have hnorm' := StepErrors.errorNorm_eq hq.givesAbsolute hq.givesRelative (A := exact) (S := exact)
    exact ⟨_, hnorm', lt_of_lt_of_not_lt hrejected hnumber hle⟩

/-- The step with an error of eight is rejected under tolerances of one, and so it is under the tighter
ones, which are one per component. -/
theorem errorNorm_monotone_tightSteps :
    Policy.tightSteps.Rejects [finite 8, finite 0] [finite 0, finite 2] [finite 0, finite 1] := by
  refine (errorNorm_monotone two_pos).2 Policy.wideSteps Policy.tightSteps StepErrors.wideErrors _ _
    Policy.controlling_wideSteps Policy.controlling_tightSteps (fun i => ?_) (fun i => ?_)
    Policy.rejects_wideSteps
  · fin_cases i <;> norm_num [StepErrors.wideErrors, Arithmetic.le, lt]
  · fin_cases i <;> norm_num [StepErrors.wideErrors, Arithmetic.le, lt]

end AdaptiveStep
