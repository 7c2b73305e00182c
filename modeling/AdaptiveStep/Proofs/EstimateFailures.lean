import AdaptiveStep.Proofs.FloatVectors
import AdaptiveStep.Proofs.StepFactors
import AdaptiveStep.Proofs.UsableSteps

/-!
# When the estimate fails

The estimate for vectors of floats that fit together can fail in two ways only. The divisor of the
second derivative is zero if the sum for the derivative has overflowed, and the order has to be
representable as a double if a power is taken. Every power is bounded: its base is at most a hundredth
over the least norm that is not negligible, and its exponent is at most one.
-/

namespace AdaptiveStep

open Extended FloatType

/-- The rough guess vanishes: the sum for the derivative has overflowed, and the sum for the state is a
finite number that is not tiny. -/
def StartVectors.Vanishing (v : StartVectors Number) : Prop :=
  ∃ size slopeSize, InitialStep.scaledSquares double v.scale v.state = .ok size ∧
    InitialStep.scaledSquares double v.scale v.slope = .ok slopeSize ∧
    size.lt InitialStep.tiny = false ∧ size.isNaN = false ∧ size.isInfinite = false ∧
    slopeSize.isInfinite = true

namespace InitialStep

variable {σ : Type} {s : σ} {forward : Bool} {v : StartVectors Number} {norm : Number}

/-- The least norm of the derivatives that is not negligible. -/
def negligible : Number := double.ofRat (1 / 1000000000000000)

/-! ### The power -/

/-- A hundredth over a norm that is not negligible is no large number. -/
lemma hundredth_div_cases (hnorm : norm.lt negligible = false) :
    double.div (double.ofRat (1 / 100)) norm = nan ∨
      ∃ q, double.div (double.ofRat (1 / 100)) norm = finite q ∧ 0 ≤ q ∧ q ≤ 2 ^ (50 : ℤ) := by
  have hnegligible : negligible.lt (finite (2 ^ (-50 : ℤ))) = false := by decide +kernel
  -- `10 ^ (-15)` is above `2 ^ (-50)`
  have hge := not_lt_trans (by decide +kernel) hnorm hnegligible
  rw [hundredth_eq]
  cases hnumber : norm.isNaN
  · refine .inr ?_
    rcases cases_of_ge hnumber hge with rfl | ⟨p, rfl, hp⟩
    · exact ⟨0, by decide +kernel, le_rfl, by positivity⟩
    · have hp0 : 0 < p := (two_zpow_pos _).trans_le hp
      have hholds : float64.Holds (finite (2 ^ (50 : ℤ))) := by
        refine ⟨⟨1, 50, by norm_num, by decide, by decide⟩, ?_⟩
        rw [abs_of_pos (two_zpow_pos _), two_zpow_lt_iff]
        decide
      have hle : (5764607523034235 / 2 ^ 59 : ℚ) / p ≤ 2 ^ (50 : ℤ) := by
        rw [div_le_iff₀ hp0]
        calc (5764607523034235 / 2 ^ 59 : ℚ) ≤ 2 ^ (50 : ℤ) * 2 ^ (-50 : ℤ) := by norm_num
          _ ≤ 2 ^ (50 : ℤ) * p := mul_le_mul_of_nonneg_left hp (two_zpow_pos _).le
      have hpositive : 0 < (5764607523034235 / 2 ^ 59 : ℚ) / p := by positivity
      obtain ⟨q, hq, -, hq0, hqle⟩ := nearest_le hholds (two_zpow_pos _) hpositive hle
      have hdiv : double.div (finite (5764607523034235 / 2 ^ 59)) (finite p) =
          float64.format.nearest (5764607523034235 / 2 ^ 59 / p) := by
        simp [double, Rounding.div, value?, hp0.ne', rounding]
      exact ⟨q, hdiv.trans hq, hq0, hqle⟩
  · obtain rfl : norm = nan := by cases norm <;> simp_all
    exact .inl (by decide +kernel)

/-- The power for a norm that is not negligible is bounded. -/
theorem boundedPower_ok (hnorm : norm.lt negligible = false) {r : ℚ} (hr : 0 ≤ r) (hone : r ≤ 1) :
    ∃ p, boundedPower double (double.div (double.ofRat (1 / 100)) norm) (finite r) = .ok p := by
  have hfinite : (double.pow (double.div (double.ofRat (1 / 100)) norm) (finite r)).isInfinite =
      false := by
    have hpow (x : Number) : double.pow x (finite r) = float64.rounding.pow x (finite r) := rfl
    rw [hpow]
    rcases hundredth_div_cases hnorm with h | ⟨q, h, hq, hle⟩
    · rw [h]
      unfold Rounding.pow
      rw [round_one]
      dsimp only
      split_ifs <;> rfl
    · rw [h]
      rcases le_total q 1 with hq1 | hq1
      · obtain ⟨p, hp, -⟩ := pow_fraction (t := float64) hq hq1 (y := finite r) rfl
          (by simpa [lt] using hr)
        rw [hp]
        rfl
      · -- the exponent is at most one, so the power is below the square
        have hholds : float64.Holds (finite (2 ^ (100 : ℤ))) := by
          refine ⟨⟨1, 100, by norm_num, by decide, by decide⟩, ?_⟩
          rw [abs_of_pos (two_zpow_pos _), two_zpow_lt_iff]
          decide
        have hsq : q ^ 2 ≤ 2 ^ (100 : ℤ) := by
          calc q ^ 2 ≤ (2 ^ (50 : ℤ)) ^ 2 := pow_le_pow_left₀ hq hle 2
            _ = 2 ^ (100 : ℤ) := by norm_num
        obtain ⟨p, hp, -⟩ := pow_le_sq (t := float64) hholds hq1 hsq hr hone
        rw [hp]
        rfl
  unfold boundedPower
  dsimp only
  rw [if_neg]
  · exact ⟨_, rfl⟩
  · have hinfinite (x : Number) : double.isInfinite x = x.isInfinite := rfl
    simp only [hinfinite, hfinite, Bool.false_and, Bool.false_eq_true, not_false_eq_true]

lemma eq_of_ofInt? {n : ℤ} {d : Number} (hd : Number.ofInt? n = some d) : d = Number.ofRat n := by
  unfold Number.ofInt? at hd
  cases hn : Number.ofRat n <;> simp_all

/-- The reciprocal of an order that is representable lies between zero and one. -/
lemma reciprocal_order {n : ℤ} (hn : 1 ≤ n) {d : Number} (hd : Number.ofInt? n = some d) :
    d.isZero = false ∧ ∃ r, double.div (double.ofRat 1) d = finite r ∧ 0 ≤ r ∧ r ≤ 1 := by
  have hround : d = float64.rounding.round n := eq_of_ofInt? hd
  have hone : float64.rounding.round 1 = finite 1 := round_one
  have hge : d.lt (finite 1) = false := by
    rw [hround, ← hone]
    exact round_mono (by exact_mod_cast hn)
  have hnumber : d.isNaN = false := hround ▸ isNaN_round _
  refine ⟨isZero_of_ge (k := 0) (by simpa using hge), ?_⟩
  have hunit : double.ofRat 1 = finite 1 := round_one
  rw [hunit]
  exact reciprocal_fraction hnumber hge

/-- The candidate for an integer order fails only if the order is not representable and is needed. -/
lemma proposal_integer (wideMode : Bool) {n : ℤ} (hn : 1 ≤ n) (norm guess : Number) :
    (norm.lt negligible = false ∧ Number.ofInt? n = none ∧
      proposal double ((Value.integer n).candidates wideMode) norm guess = .error .integerTooLarge) ∨
    (¬(norm.lt negligible = false ∧ Number.ofInt? n = none) ∧
      ∃ x, proposal double ((Value.integer n).candidates wideMode) norm guess = .ok (.real x)) := by
  have hlt : double.lt norm (double.ofRat (1 / 1000000000000000)) = norm.lt negligible := rfl
  unfold proposal
  rw [hlt]
  cases hnorm : norm.lt negligible
  · simp only [Bool.false_eq_true, if_false, true_and]
    cases hd : Number.ofInt? n with
    | none =>
      refine .inl ⟨rfl, ?_⟩
      simp [Value.candidates, Value.reciprocal, Value.plainReciprocal, Value.toNumber,
        Value.elementToNumber, Value.integerToNumber, hd, bind, Except.bind]
    | some d =>
      obtain ⟨hzero, r, hdiv, hr, hone⟩ := reciprocal_order hn hd
      obtain ⟨p, hp⟩ := boundedPower_ok hnorm hr hone
      refine .inr ⟨by simp, p, ?_⟩
      simp only [Value.candidates, Value.reciprocal, Value.plainReciprocal, Value.toNumber,
        Value.elementToNumber, Value.integerToNumber, hd, bind, Except.bind, hzero, hdiv, pure,
        Except.pure, Value.exponentOf, Value.plainExponentOf, hp, Bool.false_eq_true, if_false]
  · exact .inr ⟨by simp, _, rfl⟩

/-! ### The norms -/

lemma pairwise_ok {α β γ : Type} (f : α → β → γ) {xs : List α} {ys : List β}
    (h : xs.length = ys.length) : pairwise f xs ys = .ok (List.zipWith f xs ys) := if_pos h

lemma scaledSquares_of_length {scale xs : List Number} (h : xs.length = scale.length) :
    ∃ size, scaledSquares double scale xs = .ok size := by
  rw [scaledSquares_eq, pairwise_ok _ h]
  exact ⟨_, rfl⟩

/-- Only a guess that is zero has no quotient. -/
lemma curvature_of_length {endSlope : List Number} (hslope : v.slope.length = v.scale.length)
    (hend : endSlope.length = v.scale.length) (guess : Number) :
    (guess.isZero = true → curvature double v guess endSlope = .error .divisionByZero) ∧
      (guess.isZero = false → ∃ x, curvature double v guess endSlope = .ok x) := by
  have hchange : (List.zipWith double.sub endSlope v.slope).length = v.scale.length := by
    simp [hslope, hend]
  obtain ⟨size, hsize⟩ := scaledSquares_of_length hchange
  have hzero (x : Number) : double.isZero x = x.isZero := rfl
  unfold curvature
  rw [pairwise_ok _ (hend.trans hslope.symm)]
  simp only [bind, Except.bind, hsize, hzero]
  constructor
  · intro h
    rw [if_pos h]
    rfl
  · intro h
    rw [if_neg (by simp [h])]
    exact ⟨_, rfl⟩

/-- Vectors of one length have norms unless the rough guess vanishes. -/
theorem norms_cases (hstate : v.state.length = v.scale.length)
    (hslope : v.slope.length = v.scale.length) {probe : Number → Action σ (List Number)}
    (hprobe : ∀ h, ∃ xs s', (probe h).outcome s = (.ok xs, s') ∧ xs.length = v.scale.length) :
    (v.Vanishing ∧ ∃ s', (norms forward v probe).outcome s = (.error .divisionByZero, s')) ∨
      (¬v.Vanishing ∧ ∃ m s', (norms forward v probe).outcome s = (.ok m, s')) := by
  obtain ⟨size, hsize⟩ := scaledSquares_of_length hstate
  obtain ⟨slopeSize, hslopeSize⟩ := scaledSquares_of_length hslope
  obtain ⟨guess, hguess⟩ : ∃ guess, roughGuess double size slopeSize = guess := ⟨_, rfl⟩
  have hvanishing : guess.isZero = true ↔ v.Vanishing := by
    rw [← hguess, isZero_roughGuess_iff (isNegative_scaledSquares hsize)
      (isNegative_scaledSquares hslopeSize) (holds_scaledSquares hslopeSize)]
    constructor
    · exact fun h => ⟨size, slopeSize, hsize, hslopeSize, h⟩
    · rintro ⟨_, _, hsize', hslopeSize', h⟩
      obtain rfl := Except.ok.inj (hsize.symm.trans hsize')
      obtain rfl := Except.ok.inj (hslopeSize.symm.trans hslopeSize')
      exact h
  obtain ⟨endSlope, s', hend, hlength⟩ := hprobe (directed double forward guess)
  obtain ⟨hzero, hother⟩ := curvature_of_length hslope hlength guess
  have hnorms : (norms forward v probe).outcome s =
      ((curvature double v guess endSlope).map fun x => ⟨guess, double.sqrt slopeSize, x⟩, s') := by
    unfold norms
    simp only [Action.outcome_bind, Action.outcome_lift, Action.outcome_pure, hsize, hslopeSize,
      hguess, hend]
    cases curvature double v guess endSlope <;> rfl
  rw [hnorms, ← hvanishing]
  cases hvanishes : guess.isZero
  · obtain ⟨x, hx⟩ := hother hvanishes
    exact .inr ⟨by simp, _, _, by rw [hx]; rfl⟩
  · exact .inl ⟨rfl, s', by rw [hzero hvanishes]; rfl⟩

/-- A real candidate is brought between real bounds. -/
lemma bounded_real (wideMode : Bool) (order : Value) (least greatest h : Number) :
    ∃ z, bounded (order.candidates wideMode) (.real least) (.real greatest) (.real h) =
      .ok (.real z) := by
  have hreal (c : Bool) (x y : Number) :
      (if c = true then Value.real x else .real y) = .real (if c = true then x else y) := by
    cases c <;> rfl
  simp only [bounded, Value.candidates_isBelow, bind, Except.bind, hreal, Value.candidates_isAbove]
  split_ifs <;> exact ⟨_, rfl⟩

end InitialStep

/-- Dynamics that always give a vector with so many real parts. -/
def Dynamics.GivesVectors {σ : Type} (wideMode : Bool) (n : ℕ) (f : Dynamics σ Value Value) : Prop :=
  ∀ t y s, ∃ v s' xs, (f t y).outcome s = (.ok v, s') ∧ v.doubleVector wideMode = .ok xs ∧
    xs.length = n

namespace StartProblem

variable {σ : Type} {wideMode : Bool} {P : StartProblem} {f : Dynamics σ Value Value} {size : ℕ}
  {n : ℤ}

/-- The blocks are vectors of floats, and so are as many derivatives; all together are of the given
size on both sides. The scale is no longer than that. -/
structure OfVectors (P : StartProblem) (size : ℕ) : Prop where
  time : P.state.time.IsFloats []
  state : ∃ sizes, List.Forall₂ (fun b n => b.IsVector n) (P.state.primary :: P.state.secondary) sizes ∧
    sizes.sum = size
  slope : ∃ sizes, List.Forall₂ (fun b n => b.IsVector n)
    (P.state.derivative :: P.state.secondaryDerivatives) sizes ∧ sizes.sum = size
  count : P.state.secondaryDerivatives.length = P.state.secondary.length
  scale : ∃ n ≤ size, P.scale.IsVector n

lemma OfVectors.vectors (hP : P.OfVectors size) (wideMode : Bool) :
    ∃ y slope, P.vectors wideMode = .ok (y, slope) ∧ y.IsVector size ∧ slope.IsVector size := by
  obtain ⟨sizes, hsizes, rfl⟩ := hP.state
  obtain ⟨slopeSizes, hslopeSizes, hsum⟩ := hP.slope
  obtain ⟨y, hy, hyvector⟩ := State.joinBlocks_vector wideMode hsizes (by simp)
  obtain ⟨slope, hslope, hslopevector⟩ := State.joinBlocks_vector wideMode hslopeSizes (by simp)
  have hderivative : P.state.completeDerivative wideMode = .ok slope := by
    rw [← hslope]
    unfold State.completeDerivative
    split
    · -- an absent derivative is no vector
      rename_i habsent
      rw [habsent] at hslopeSizes
      obtain ⟨hn, -⟩ | ⟨hn, -⟩ := hslopeSizes
      exact hn.elim
    · rw [if_pos hP.count]
  refine ⟨y, slope, ?_, hyvector, hsum ▸ hslopevector⟩
  unfold StartProblem.vectors State.completeState
  rw [hy, hderivative]
  rfl

lemma OfVectors.realVectors (hP : P.OfVectors size) (wideMode : Bool) {y slope : Value}
    (hy : y.IsVector size) (hslope : slope.IsVector size) :
    ∃ w, P.realVectors wideMode y slope = .ok w ∧ w.state.length = w.scale.length ∧
      w.slope.length = w.scale.length ∧ w.scale.length ≤ size := by
  obtain ⟨n, hn, hvector⟩ := hP.scale
  obtain ⟨scale, hscale, hscaleLength⟩ := Value.doubleVector_vector wideMode hvector
  obtain ⟨ys, hys, hyLength⟩ := Value.doubleVector_vector wideMode hy
  obtain ⟨slopes, hslopes, hslopeLength⟩ := Value.doubleVector_vector wideMode hslope
  refine ⟨StartVectors.leading ⟨ys, slopes, scale⟩, ?_, ?_, ?_, ?_⟩
  · unfold StartProblem.realVectors
    simp only [hscale, hys, hslopes, bind, Except.bind]
    rw [if_neg (by omega)]
    rfl
  all_goals
    simp only [StartVectors.leading, List.length_take]
    omega

lemma OfVectors.probe (hP : P.OfVectors size) (hf : f.GivesVectors wideMode size)
    {y slope : Value} (hy : y.IsVector size) (hslope : slope.IsVector size) {count : ℕ}
    (hcount : count ≤ size) (h : Number) (s : σ) :
    ∃ xs s', (P.probe wideMode f y slope count h).outcome s = (.ok xs, s') ∧ xs.length = count := by
  obtain ⟨next, hnext⟩ := Value.eulerStep_vector wideMode hy hslope h
  have hstep : (Value.real h).IsFloats [] := rfl
  obtain ⟨time, htime, -⟩ := Value.combine_floats wideMode .add hP.time hstep (by simp) (.inl rfl)
  obtain ⟨v, s', xs, hv, hxs, hlength⟩ := hf time next s
  refine ⟨xs.take count, s', ?_, by simp [hlength, hcount]⟩
  unfold StartProblem.probe
  simp only [Action.outcome_bind, Action.outcome_lift, Action.outcome_pure, hnext, htime, hv, hxs]

/-- Problems made of vectors have norms unless the rough guess vanishes. -/
theorem norms_cases (hP : P.OfVectors size) (horder : P.order = .integer n) (hn : 1 ≤ n)
    (hf : f.GivesVectors wideMode size) (s : σ) :
    ∃ w, P.startVectors wideMode = .ok w ∧
      ((w.Vanishing ∧ ∃ s', (P.norms wideMode f).outcome s = (.error .divisionByZero, s')) ∨
        (¬w.Vanishing ∧ ∃ m s', (P.norms wideMode f).outcome s = (.ok m, s'))) := by
  obtain ⟨y, slope, hvectors, hy, hslope⟩ := hP.vectors wideMode
  obtain ⟨w, hw, hstateLength, hslopeLength, hcount⟩ := hP.realVectors wideMode hy hslope
  have hcompare : P.order.compare wideMode .atMost (.integer 0) = .ok false := by
    have hle : double.le (finite (n : ℚ)) (finite ((0 : ℤ) : ℚ)) = false := by
      rw [← Bool.not_eq_true, double_le_iff]
      simp only [isNaN_finite, lt, Int.cast_zero, true_and, decide_eq_false_iff_not, not_not]
      exact_mod_cast hn
    rw [horder, Value.compare_plain wideMode .atMost (x := finite n) (y := finite (0 : ℤ)) rfl rfl]
    exact congrArg _ hle
  have hnorms : (P.norms wideMode f).outcome s = (InitialStep.norms P.forward w
      (P.probe wideMode f y slope w.scale.length)).outcome s := by
    unfold StartProblem.norms
    simp only [Action.outcome_bind, Action.outcome_lift, hcompare, Bool.false_eq_true, if_false,
      hvectors, hw]
  refine ⟨w, by simp [startVectors, hvectors, hw, bind, Except.bind], ?_⟩
  rw [hnorms]
  exact InitialStep.norms_cases hstateLength hslopeLength fun h => hP.probe hf hy hslope hcount h s

/-- The step that a norm gives fails only if the order is not representable and is needed. -/
lemma sized_of_time {t : Number} (ht : P.state.time.realPart wideMode = .ok t)
    (horder : P.order = .integer n) (hn : 1 ≤ n) (least greatest norm guess : Number) :
    (norm.lt InitialStep.negligible = false ∧ Number.ofInt? n = none ∧
      P.sized wideMode least greatest norm guess = .error .integerTooLarge) ∨
    (¬(norm.lt InitialStep.negligible = false ∧ Number.ofInt? n = none) ∧
      ∃ x, P.sized wideMode least greatest norm guess = .ok (.real x)) := by
  unfold sized
  rw [horder, ht]
  dsimp only
  rcases InitialStep.proposal_integer wideMode hn norm guess with
    ⟨hnorm, hlarge, hproposal⟩ | ⟨hother, x, hproposal⟩
  · exact .inl ⟨hnorm, hlarge, by rw [hproposal]; rfl⟩
  · obtain ⟨z, hz⟩ := InitialStep.bounded_real wideMode (.integer n) least greatest
      (double.max (double.min (double.mul (double.ofRat 100) (double.abs guess)) x)
        (double.mul (double.ofRat (1 / 1000000000000)) (double.abs t)))
    refine .inr ⟨hother, z, ?_⟩
    rw [hproposal]
    simp only [bind, Except.bind, InitialStep.limited_eq, Except.map]
    exact hz

lemma sized_cases (hP : P.OfVectors size) (horder : P.order = .integer n) (hn : 1 ≤ n)
    (wideMode : Bool) (least greatest norm guess : Number) :
    (norm.lt InitialStep.negligible = false ∧ Number.ofInt? n = none ∧
      P.sized wideMode least greatest norm guess = .error .integerTooLarge) ∨
    (¬(norm.lt InitialStep.negligible = false ∧ Number.ofInt? n = none) ∧
      ∃ x, P.sized wideMode least greatest norm guess = .ok (.real x)) := by
  obtain ⟨t, ht⟩ := Value.realPart_floats wideMode hP.time
  exact sized_of_time ht horder hn least greatest norm guess

/-- The estimate for vectors of floats that fit together fails exactly in two cases: with a division
by zero if the rough guess vanishes, and with an integer that is too large if the order is not
representable as a double while the norm of the derivatives is not negligible. -/
theorem estimate_error_iff (hP : P.OfVectors size) (horder : P.order = .integer n) (hn : 1 ≤ n)
    (hf : f.GivesVectors wideMode size) (least greatest : Number) (s : σ) :
    ∃ w, P.startVectors wideMode = .ok w ∧ ∀ e,
      ((P.estimate wideMode f (.real least) (.real greatest)).outcome s).1 = .error e ↔
        (e = .divisionByZero ∧ w.Vanishing) ∨
        (e = .integerTooLarge ∧ Number.ofInt? n = none ∧
          ∃ m s', (P.norms wideMode f).outcome s = (.ok m, s') ∧
            (m.sizing P.forward).lt InitialStep.negligible = false) := by
  obtain ⟨w, hw, hcases⟩ := norms_cases hP horder hn hf s
  have hdirected (x : Number) : ∃ y, P.directed (.real x) = .ok (.real y) := by
    unfold directed
    split_ifs <;> exact ⟨_, rfl⟩
  refine ⟨w, hw, fun e => ?_⟩
  rw [estimate_eq, Action.outcome_bind]
  rcases hcases with ⟨hvanishing, s', hnorms⟩ | ⟨hvanishing, m, s', hnorms⟩
  · simp only [hnorms, Except.error.injEq]
    constructor
    · exact fun h => .inl ⟨h.symm, hvanishing⟩
    · rintro (⟨rfl, -⟩ | ⟨-, -, m, s'', hm, -⟩)
      · rfl
      · simp only [Prod.mk.injEq, reduceCtorEq, false_and] at hm
  · simp only [hnorms, Action.outcome_lift, hvanishing, and_false, false_or]
    rcases sized_cases hP horder hn wideMode least greatest (m.sizing P.forward) m.guess with
      ⟨hnorm, hlarge, hsized⟩ | ⟨hother, x, hsized⟩
    · rw [hsized]
      simp only [bind, Except.bind, Except.error.injEq]
      constructor
      · exact fun h => ⟨h.symm, hlarge, m, s', rfl, hnorm⟩
      · exact fun h => h.1.symm
    · obtain ⟨y, hy⟩ := hdirected x
      rw [hsized]
      simp only [bind, Except.bind, hy, reduceCtorEq, false_iff]
      rintro ⟨-, hlarge, m', s'', hm, hnorm⟩
      obtain rfl := Except.ok.inj (congrArg Prod.fst hm)
      exact hother ⟨hnorm, hlarge⟩

lemma constantSlope_givesVectors (wideMode : Bool) (x : Number) :
    Dynamics.GivesVectors wideMode 1 (constantSlope x) :=
  fun _ _ s => ⟨.list [.real x], s, [x], rfl, rfl, rfl⟩

lemma ofVectors_single (t x slope scale : Number) (order : Value) (forward : Bool) :
    OfVectors ⟨⟨.real t, .list [.real x], .list [.real slope], [], []⟩, .list [.real scale], order,
      forward⟩ 1 := by
  have hvector (x : Number) : (Value.list [.real x]).IsVector 1 := ⟨rfl, by simp [Value.IsFloats]⟩
  exact ⟨rfl, ⟨[1], .cons (hvector x) .nil, rfl⟩, ⟨[1], .cons (hvector slope) .nil, rfl⟩, rfl, 1,
    le_rfl, hvector scale⟩

/-- The estimate from the zero state does not fail on the scale one. -/
theorem estimate_error_zeroStart :
    ∃ v, (((zeroStart (.finite 1)).estimate false (constantSlope (.finite 1)) (.real (.finite 0))
      (.real (.finite 10))).outcome ()).1 = .ok v := by
  obtain ⟨w, hw, hiff⟩ := estimate_error_iff
    (ofVectors_single (.finite 0) (.finite 0) (.finite 1) (.finite 1) (.integer 1) true) rfl le_rfl
    (constantSlope_givesVectors false (.finite 1)) (.finite 0) (.finite 10) ()
  cases h : (((zeroStart (.finite 1)).estimate false (constantSlope (.finite 1)) (.real (.finite 0))
    (.real (.finite 10))).outcome ()).1 with
  | ok v => exact ⟨v, rfl⟩
  | error e =>
    rcases (hiff e).mp h with ⟨-, size, -, hsize, -, hlarge, -⟩ | ⟨-, hinteger, -⟩
    · have hstate : ((zeroStart (.finite 1)).startVectors false).toOption.bind (fun w =>
          (InitialStep.scaledSquares double w.scale w.state).toOption.map
            (Extended.lt · InitialStep.tiny)) = some true := by decide +kernel
      simp [zeroStart, hw, hsize, hlarge, Except.toOption] at hstate
    · have hone : (Number.ofInt? 1).isSome = true := by decide +kernel
      simp [hinteger] at hone

/-- A component of one whose derivative is so large that its square overflows. -/
def steepStart : StartProblem where
  state := ⟨.real (.finite 0), .list [.real (.finite 1)], .list [.real (Number.ofRat (10 ^ 200))],
    [], []⟩
  scale := .list [.real (.finite 1)]
  order := .integer 1
  forward := true

/-- The rough guess vanishes, and the second derivative is divided by it. -/
theorem steepStart_divisionByZero :
    steepStart.OfVectors 1 ∧ Dynamics.GivesVectors false 1 (constantSlope (.finite 1)) ∧
      ((steepStart.estimate false (constantSlope (.finite 1)) (.real (.finite (1 / 2)))
        (.real (.finite (1 / 2)))).outcome ()).1 = .error .divisionByZero := by
  refine ⟨ofVectors_single _ _ _ _ _ _, constantSlope_givesVectors _ _, ?_⟩
  have herror : (match ((steepStart.estimate false (constantSlope (.finite 1))
      (.real (.finite (1 / 2))) (.real (.finite (1 / 2)))).outcome ()).1 with
      | .error .divisionByZero => true
      | _ => false) = true := by decide +kernel
  split at herror
  · assumption
  · simp at herror

end StartProblem

end AdaptiveStep
