import AdaptiveStep.Proofs.IntegrationInvariant
import AdaptiveStep.Proofs.ScaledProblems

/-!
# Policies in exact arithmetic

The settings that calls lead to when every number is exact. A call gives new bounds and tolerances, or it
prescribes a first step, which is compared with the bounds before it is kept. Under such settings every
step of an integration is sound. The settings of a running policy are among them if its first steps were
prescribed by plain real numbers, which are compared exactly there too. An array item is compared in a
precision of its own, and what is kept of it may lie outside the bounds.
-/

namespace AdaptiveStep

open Extended

namespace Controls

variable {α : Type} {A : Arithmetic α} {c : Controls α}

/-- A first step is prescribed; one that is refused leaves none. -/
def prescribe (A : Arithmetic α) (h : α) (c : Controls α) : Controls α :=
  { c with initialStep := if c.refuses A h then none else some h }

/-- The settings that calls lead to which do not fail: bounds and tolerances, and then prescribed
first steps. The tolerances may be any numbers. -/
inductive Built (A : Arithmetic α) : Controls α → Prop where
  | configure (c : Controls α) (least greatest : α) :
    Built A ((c.setLeast A least).setGreatest A greatest)
  | prescribe {c : Controls α} (h : α) : Built A c → Built A (c.prescribe A h)

/-- Calls lead to all settings whose bounds are magnitudes and whose prescribed step, if there is one,
is not refused. -/
theorem built_iff : c.Built A ↔ (∃ x, c.least = A.abs x) ∧ (∃ y, c.greatest = A.abs y) ∧
    ∀ h, c.initialStep = some h → c.refuses A h = false := by
  constructor
  · intro hc
    induction hc with
    | configure c x y => exact ⟨⟨x, rfl⟩, ⟨y, rfl⟩, fun h hh => by simp [setGreatest] at hh⟩
    | @prescribe c h hc ih =>
      refine ⟨ih.1, ih.2.1, fun h' hh => ?_⟩
      cases hrefused : c.refuses A h with
      | true => simp [prescribe, hrefused] at hh
      | false =>
        obtain rfl : h = h' := by simpa [prescribe, hrefused] using hh
        exact hrefused
  · rintro ⟨⟨x, hleast⟩, ⟨y, hgreatest⟩, hstep⟩
    have hbounds : ((c.setLeast A x).setGreatest A y) = { c with initialStep := none } := by
      simp only [setGreatest, setLeast, hleast, hgreatest]
    have hbuilt : Built A { c with initialStep := none } := hbounds ▸ Built.configure c x y
    cases hinitial : c.initialStep with
    | none =>
      rw [← hinitial] at hbuilt
      exact hbuilt
    | some h =>
      have hrefused : ({ c with initialStep := none } : Controls α).refuses A h = false :=
        hstep h hinitial
      have hc : ({ c with initialStep := none } : Controls α).prescribe A h = c := by
        simp only [prescribe, hrefused, Bool.false_eq_true, if_false, ← hinitial]
      exact hc ▸ hbuilt.prescribe h

/-! ### Exact settings -/

section Exact

variable {c : Controls (Extended ℝ)}

lemma Built.bounding (hc : c.Built exact) (hle : exact.le c.least c.greatest = true)
    (hpositive : (finite 0).lt c.greatest = true) : Bounding c.least c.greatest := by
  obtain ⟨hleast, hgreatest, hordered⟩ := exact_le_iff.mp hle
  obtain ⟨⟨x, hx⟩, ⟨y, hy⟩, -⟩ := built_iff.mp hc
  exact ⟨hleast, hgreatest, hx ▸ isNegative_abs x, hy ▸ isNegative_abs y, hordered, hpositive⟩

/-- A step that was not refused lies between the bounds. -/
lemma Built.stepWithin (hc : c.Built exact) : c.StepWithin := by
  intro h hstored
  obtain ⟨-, -, hkept⟩ := built_iff.mp hc
  exact (refuses_eq_false_iff.mp (hkept h hstored)).2

end Exact

end Controls

/-! ### Running policies -/

namespace Policy

variable {p : Policy} {admits : Call → Prop} {wideMode : Bool}

/-- A call that prescribes a float does so by the same rule. -/
theorem setInitialStep_real (x : Number) : (setInitialStep wideMode (.real x)).outcome p =
    (.ok (), { p with controls := p.controls.prescribe double x }) := by
  have hignored : p.ignores wideMode (.real x) = .ok (p.controls.refuses double x) := ignores_plain rfl
  simp only [setInitialStep, change, Action.outcome_bind, Action.outcome_get, Action.outcome_lift,
    hignored, Controls.prescribe]
  cases p.controls.refuses double x <;> rfl

/-- In exact arithmetic calls lead to the settings of a policy whose first steps were prescribed by plain
real numbers, unless the step that it stores has been rounded to zero. -/
theorem Reached.built (hp : Reached admits p) (hdoubles : ∀ c, admits c → c.HoldsDoubles)
    (hplain : ∀ c, admits c → c.PrescribesReal)
    (hnonzero : ∀ h, p.controls.initialStep = some h → h.isZero = false) :
    (p.controls.map toReal).Built exact := by
  have hproper := hp.proper hdoubles
  rw [Controls.built_iff]
  refine ⟨⟨p.controls.least.toReal, ?_⟩, ⟨p.controls.greatest.toReal, ?_⟩, fun v hv => ?_⟩
  · exact (abs_eq_self ((isNegative_toReal _).trans hproper.least_sign)).symm
  · exact (abs_eq_self ((isNegative_toReal _).trans hproper.greatest_sign)).symm
  · simp only [Controls.map, Option.map_eq_some_iff] at hv
    obtain ⟨h, hstored, rfl⟩ := hv
    obtain ⟨hsign, hleast, hgreatest⟩ := hp.stored_step hdoubles hplain hstored
    have hpositive : exact.le h.toReal (exact.ofRat 0) = false := by
      have hzero := hnonzero h hstored
      rcases h with _ | (_ | _) | _ | q
      case finite =>
        have hq : 0 ≤ q := by simpa [lt] using hsign
        have hne : q ≠ 0 := by simpa [isZero] using hzero
        simpa [Arithmetic.le, toReal, isNaN, lt] using lt_of_le_of_ne hq hne.symm
      all_goals simp_all [Arithmetic.le, toReal, isNaN, isZero, lt]
    exact Controls.refuses_eq_false_iff.mpr
      ⟨hpositive, (toReal_lt _ _).trans hleast, (toReal_lt _ _).trans hgreatest⟩

lemma bounding_toReal (hp : p.controls.Proper)
    (hle : exact.le p.controls.least.toReal p.controls.greatest.toReal = true)
    (hpositive : (finite 0).lt p.controls.greatest = true) :
    Bounding p.controls.least.toReal p.controls.greatest.toReal := by
  obtain ⟨hleast, hgreatest, hordered⟩ := exact_le_iff.mp hle
  refine ⟨hleast, hgreatest, ?_, ?_, hordered, ?_⟩
  · simpa using hp.least_sign
  · simpa using hp.greatest_sign
  · simpa using (toReal_lt (finite 0) p.controls.greatest).trans hpositive

lemma stepWithin_toReal (h : p.controls.StepWithin) : (p.controls.map toReal).StepWithin := by
  intro v hv
  simp only [Controls.map, Option.map_eq_some_iff] at hv
  obtain ⟨w, hw, rfl⟩ := hv
  obtain ⟨hleast, hgreatest⟩ := h w hw
  exact ⟨(toReal_lt _ _).trans hleast, (toReal_lt _ _).trans hgreatest⟩

/-- Under the settings of a policy whose first steps were prescribed by plain real numbers, and with no
further assumption on them, every attempt is sound. -/
theorem Reached.sound_of_integrate {σ : Type} {s : σ} {P : IntegrationProblem (Extended ℝ)}
    {tooSmall : Extended ℝ → Extended ℝ → Failure} {f : Dynamics σ (Extended ℝ) (List (Extended ℝ))}
    (hp : Reached admits p) (hdoubles : ∀ c, admits c → c.HoldsDoubles)
    (hplain : ∀ c, admits c → c.PrescribesReal)
    (hle : exact.le p.controls.least.toReal p.controls.greatest.toReal = true)
    (hpositive : (finite 0).lt p.controls.greatest = true) {x z : ℝ} (hstart : P.start = .finite x)
    (hfinish : P.finish = .finite z)
    (hfirst : ∀ h s', (P.prepare (.exact tooSmall) (p.controls.map toReal) f).outcome s = (.ok h, s') →
      h.isNaN = false ∧ h.isZero = false)
    {before after : List (Attempt (Extended ℝ))} {a : Attempt (Extended ℝ)}
    (hsplit : ((P.integrate (.exact tooSmall) (p.controls.map toReal) f).run s).1.attempts =
      before ++ a :: after) :
    P.Sound p.controls.least.toReal p.controls.greatest.toReal before a :=
  IntegrationProblem.sound_of_integrate (c := p.controls.map toReal)
    (bounding_toReal (hp.proper hdoubles) hle hpositive)
    (stepWithin_toReal (hp.stepWithin hdoubles hplain)) hstart hfinish hfirst hsplit

end Policy

/-! ### A run with an accepted, a rejected and a truncated step -/

/-- The error of a single component that may be one. -/
lemma errorNorm_single (e y z : ℝ) :
    errorNorm exact exact [finite e] [finite y] [finite z] (.uniform (finite 1)) (.uniform (finite 0)) =
      .ok (finite |e|) := by
  have hmax : ∃ m : ℝ, exact.maxNaN (exact.abs (finite y)) (exact.abs (finite z)) = finite m := by
    simp only [Arithmetic.maxNaN, Arithmetic.max, exact_abs, abs_finite, exact_isNaN, isNaN,
      Bool.false_eq_true, if_false]
    split_ifs
    · exact ⟨_, rfl⟩
    · exact ⟨_, rfl⟩
  obtain ⟨m, hm⟩ := hmax
  have hthreshold : threshold exact (finite 1) (finite 0) (finite y) (finite z) = finite 1 := by
    rw [threshold, hm, exact_add_mul]
    norm_num
  have hsum : exact.sum [finite (e ^ 2)] = finite (e ^ 2) := by
    simp [Arithmetic.sum]
  simp only [errorNorm, thresholds, requireSize, Tolerance.requireSize, Tolerance.size?,
    Tolerance.spread, scaledError, List.length_cons, List.length_nil, if_true, bind, Except.bind, pure,
    Except.pure, List.replicate, List.zip, List.zipWith_cons_cons, List.zipWith_nil_left,
    hthreshold, rootMeanSquare, List.map, exact_square_div _ one_ne_zero, div_one, hsum]
  have hone : exact.ofRat ((0 + 1 : ℕ) : ℚ) = finite 1 := by simp
  simp only [hone]
  rw [exact_div_of_pos _ one_pos, div_one, exact_convert_finite, exact_sqrt_finite (sq_nonneg e),
    Real.sqrt_sq_eq_abs]

namespace IntegrationProblem

variable {σ : Type} {P : IntegrationProblem (Extended ℝ)} {c : Controls (Extended ℝ)}
  {tooSmall : Extended ℝ → Extended ℝ → Failure} {f : Dynamics σ (Extended ℝ) (List (Extended ℝ))}
  {s : σ}

/-- An attempt of a problem with one component, which may have an error of one. -/
lemma attempt_single (habsolute : c.absolute = .uniform (finite 1))
    (hrelative : c.relative = .uniform (finite 0)) {t y h v k k' d : ℝ} (hv : 0 < v)
    (htruncated : P.truncated exact (finite t) (finite h) = finite v)
    (hk : f (finite t) [finite y] = pure [finite k])
    (hk' : f (finite (t + v)) [finite (y + v * k)] = pure [finite k'])
    (hd : v / 2 * (k' - k) = d) :
    (P.attempt (.exact tooSmall) c f (finite t) [finite y] (finite h)).outcome s =
      (.ok (if |d| ≤ 1 then ⟨finite v, finite |d|, true, finite (t + v), [finite (y + v * k + d)]⟩
        else ⟨finite v, finite |d|, false, finite t, [finite y]⟩), s) := by
  have hadvance : advance exact (finite v) [finite y] [finite k] = [finite (y + v * k)] := by
    simp [advance, exact_add_mul]
  have hhalf : exact.mul (exact.ofRat (1 / 2)) (finite v) = finite (v / 2) := by
    rw [exact_ofRat, exact_mul_of_pos (by norm_num)]
    exact congrArg finite (by norm_num; ring)
  have herror : exact.mul (finite (v / 2)) (exact.sub (finite k') (finite k)) = finite d := by
    rw [exact_sub_finite, exact_mul_of_pos (half_pos hv), hd]
  simp only [attempt, Setting.exact, htruncated, hk, pure_bind, hadvance, exact_add_finite, hk', hhalf,
    List.zipWith_cons_cons, List.zipWith_nil_left, herror, habsolute, hrelative, errorNorm_single]
  rw [Action.outcome_ok_bind rfl]
  by_cases haccepted : |d| ≤ 1
  · have hle : exact.le (finite |d|) (exact.ofRat 1) = true := by
      simpa [exact_one, Arithmetic.le, isNaN, lt] using haccepted
    rw [if_pos hle, if_pos haccepted, Action.outcome_pure]
  · have hle : exact.le (finite |d|) (exact.ofRat 1) = false := by
      simpa [exact_one, Arithmetic.le, isNaN, lt] using haccepted
    rw [if_neg (Bool.eq_false_iff.mp hle), if_neg haccepted, Action.outcome_pure]

/-- A step between the bounds is the next one as it was proposed. -/
lemma nextStep_single {a : Attempt (Extended ℝ)} (hforward : P.forward exact = true)
    (horder : P.order = 1) {v r l u : ℝ} (hleast : c.least = finite l) (hgreatest : c.greatest = finite u)
    (hstep : a.step = finite v) (hv : 0 < v)
    (hfactor : stepFactor exact (.standard exact) (finite 1) a.error = finite r) (hr : 0 < r)
    (hl : l ≤ v * r) (hu : v * r ≤ u) :
    P.nextStep (.exact tooSmall) c a = .ok (finite (v * r)) := by
  have hone : exact.add (exact.ofRat (P.order - 1)) (exact.ofRat 1) = finite 1 := by
    rw [horder, exact_ofRat, exact_one, exact_add_finite]
    norm_num
  have hproposed : proposeStep exact (.standard exact) (exact.div (exact.ofRat 1) (finite 1)) a.error
      a.step = finite (v * r) := by
    rw [exact_one, exact_div_of_pos 1 one_pos, div_one, proposeStep, hfactor, hstep, exact_mul_of_pos hv]
  have hpositive : 0 < v * r := mul_pos hv hr
  have habs : (finite (v * r)).abs = finite (v * r) := by rw [abs_finite, abs_of_pos hpositive]
  have hfiltered : (exact.stepField tooSmall).filterStep (finite (v * r)) true P.acceptSmall (finite l)
      (finite u) = .ok ⟨finite (v * r), .proposal⟩ := by
    refine filterStep_of_fits ?_ ?_ ?_ true P.acceptSmall
    · simpa [isNegative] using hpositive.le.trans hu
    · simpa [habs, lt] using hl
    · simpa [habs, lt] using hu
  have hnonzero : exact.isZero (finite 1) = false := by simp [isZero]
  simp only [nextStep, Setting.exact, hone, hnonzero, Bool.false_eq_true, if_false, hproposed, hforward, hleast,
    hgreatest, hfiltered, bind, Except.bind, pure, Except.pure]

end IntegrationProblem

namespace Policy

/-- Steps from a thousandth to ten, and an error that may be one. -/
def fineSteps : Policy where
  controls := ⟨.finite (1 / 1024), .finite 10, .finite 1, .finite 0, none, none⟩
  mainDimension := none
  stepStart := none
  stepSize := .real (double.sqrt (double.mul (.finite (1 / 1024)) (.finite 10)))

lemma create_fineSteps : create (.real (.finite (1 / 1024))) (.real (.finite 10)) (.real (.finite 1))
    (.real (.finite 0)) = .ok fineSteps := by
  have hleast : double.abs (finite (1 / 1024)) = finite (1 / 1024) := by decide +kernel
  have hgreatest : double.abs (finite 10) = finite 10 := by decide +kernel
  simp [-one_div, create, setStepSizeControl, configureScalar, setBounds, change, Action.outcome_bind,
    Value.isSequence, Value.toNumber, Value.elementToNumber, Controls.setLeast, Controls.setGreatest,
    hleast, hgreatest, reset, fineSteps, blank, Controls.blank]

lemma reached_fineSteps : Reached (fun c => c.HoldsDoubles ∧ c.PrescribesReal) fineSteps := by
  have hleast : Number.ofRat (1 / 1024) = finite (1 / 1024) := by decide +kernel
  have hgreatest : Number.ofRat 10 = finite 10 := by decide +kernel
  refine Reached.create ⟨⟨?_, ?_⟩, trivial⟩ create_fineSteps
  · exact Value.holdsDouble_real (hleast ▸ holds_ofRat _)
  · exact Value.holdsDouble_real (hgreatest ▸ holds_ofRat _)

/-- The same settings as exact numbers. -/
noncomputable def exactFineSteps : Controls (Extended ℝ) :=
  ⟨finite (1 / 1024), finite 10, finite 1, finite 0, none, none⟩

lemma fineSteps_toReal : fineSteps.controls.map toReal = exactFineSteps := by
  simp [Controls.map, fineSteps, exactFineSteps]

end Policy

namespace InitialStep

/-! The estimate for a state of one whose slope of one stays, part by part. -/

section Unit

lemma scaledSquares_unit : scaledSquares exact [finite 1] [finite 1] = .ok (finite 1) := by
  simpa [exactVector] using scaledSquares_exact ![1] (s := ![1]) (by simp)

lemma roughGuess_unit : roughGuess exact (finite 1) (finite 1) = finite (1 / 100) := by
  have htiny : exact.lt (finite 1) (exact.ofRat (1 / 10000000000)) = false := by
    norm_num [lt]
  have hhundredth : exact.ofRat (1 / 100) = finite (1 / 100) := by norm_num
  simp only [roughGuess, htiny, Bool.or_self, Bool.false_eq_true, if_false]
  rw [exact_div_of_pos 1 one_pos, div_one, exact_sqrt_finite zero_le_one, Real.sqrt_one, hhundredth,
    exact_mul_of_pos (by norm_num), mul_one]

lemma curvature_unit :
    curvature exact ⟨[finite 1], [finite 1], [finite 1]⟩ (finite (1 / 100)) [finite 1] = .ok (finite 0) := by
  have hzero : exact.isZero (finite (1 / 100)) = false := by norm_num [isZero]
  have hchange : pairwise exact.sub [finite 1] [finite 1] = .ok [finite 0] := by
    simp [pairwise]
  have hsquares : scaledSquares exact [finite 1] [finite 0] = .ok (finite 0) := by
    simpa [exactVector] using scaledSquares_exact ![0] (s := ![1]) (by simp)
  simp only [curvature, hchange, hsquares, hzero, Bool.false_eq_true, if_false, bind, Except.bind, pure,
    Except.pure, exact_sqrt_finite le_rfl, Real.sqrt_zero,
    exact_div_of_pos 0 (by norm_num : (0 : ℝ) < 1 / 100), zero_div]

lemma proposal_unit : proposal exact (.numbers exact (.ok (finite 1)))
    (exact.max (exact.sqrt (finite 1)) (finite 0)) (finite (1 / 100)) = .ok (finite (1 / 100)) := by
  have hmax : exact.max (exact.sqrt (finite 1)) (finite 0) = finite 1 := by
    rw [exact_sqrt_finite zero_le_one, Real.sqrt_one]
    simp [Arithmetic.max, lt, zero_le_one.not_gt]
  have htiny : exact.lt (finite 1) (exact.ofRat (1 / 1000000000000000)) = false := by
    norm_num [lt]
  have hhundredth : exact.ofRat (1 / 100) = finite (1 / 100) := by norm_num
  have hpower : exact.pow (exact.div (exact.ofRat (1 / 100)) (finite 1)) (finite 1) = finite (1 / 100) := by
    rw [hhundredth, exact_div_of_pos _ one_pos, div_one, exact_pow_one (by norm_num)]
  have hfinite : exact.isInfinite (finite (1 / 100)) = false := rfl
  simp only [proposal, hmax, htiny, Bool.false_eq_true, if_false, Candidates.numbers, boundedPower, bind,
    Except.bind, hpower, hfinite, Bool.false_and]

lemma limited_unit : limited exact (.numbers exact (.ok (finite 1))) (finite (1 / 100)) (finite (1 / 100))
    (.ok (finite 0)) = .ok (finite (1 / 100)) := by
  have hwidest : exact.mul (exact.ofRat 100) (exact.abs (finite (1 / 100))) = finite 1 := by
    rw [exact_ofRat, exact_abs, abs_finite, exact_mul_of_pos (by norm_num)]
    norm_num
  have hleast : exact.mul (exact.ofRat (1 / 1000000000000)) (exact.abs (finite 0)) = finite 0 := by
    rw [exact_ofRat, exact_abs, abs_finite, exact_mul_of_pos (by norm_num), abs_zero, mul_zero]
  have hbelow : exact.lt (finite (1 / 100)) (finite 1) = true := by norm_num [lt]
  have habove : exact.lt (finite (1 / 100)) (finite 0) = false := by norm_num [lt]
  simp only [limited, Candidates.numbers, id, hwidest, hleast, hbelow, habove, bind, Except.bind, if_true,
    Bool.false_eq_true, if_false, pure, Except.pure]

lemma magnitude_unit {σ : Type} {s : σ} {probe : Extended ℝ → Action σ (List (Extended ℝ))}
    (hprobe : probe (finite (1 / 100)) = pure [finite 1]) :
    (magnitude exact (.numbers exact (.ok (finite 1))) true ⟨[finite 1], [finite 1], [finite 1]⟩ probe
      (.ok (finite 0))).outcome s = (.ok (finite (1 / 100)), s) := by
  have hdirected : directed exact true (finite (1 / 100)) = finite (1 / 100) := rfl
  unfold magnitude
  dsimp only
  rw [scaledSquares_unit, Action.outcome_ok_bind rfl, Action.outcome_ok_bind rfl, roughGuess_unit, hdirected,
    hprobe, pure_bind, curvature_unit, Action.outcome_ok_bind rfl, proposal_unit, Action.outcome_ok_bind rfl,
    limited_unit, Action.outcome_lift]

end Unit

end InitialStep

namespace IntegrationProblem

/-- A component of one from time zero to a tenth, with a method of order one. -/
noncomputable def shortProblem : IntegrationProblem (Extended ℝ) where
  start := finite 0
  finish := finite (1 / 10)
  initial := [finite 1]
  scale := [finite 1]
  order := 1
  acceptSmall := true
  maxSteps := 4

/-- A slope of one, which is much greater at the end time. -/
noncomputable def steepEnd : Dynamics Unit (Extended ℝ) (List (Extended ℝ)) := fun t _ =>
  return [if t.lt (finite (1 / 10)) then finite 1 else finite 31]

lemma steepEnd_before {t : ℝ} (ht : t < 1 / 10) (y : List (Extended ℝ)) :
    steepEnd (finite t) y = pure [finite 1] := by
  have hlt : (finite t).lt (finite (1 / 10)) = true := decide_eq_true ht
  rw [steepEnd, hlt, if_pos rfl]

lemma steepEnd_end (y : List (Extended ℝ)) : steepEnd (finite (1 / 10)) y = pure [finite 31] := by
  rw [steepEnd, lt_self, if_neg Bool.false_ne_true]

variable {tooSmall : Extended ℝ → Extended ℝ → Failure}

lemma forward_shortProblem : shortProblem.forward exact = true := by
  simp [forward, shortProblem, lt]

lemma prepare_shortProblem :
    (shortProblem.prepare (.exact tooSmall) Policy.exactFineSteps steepEnd).outcome () =
      (.ok (finite (1 / 100)), ()) := by
  have hexponent : exact.div (exact.ofRat 1) (exact.ofRat (1 : ℤ)) = finite 1 := by
    rw [Int.cast_one, exact_one, exact_div_of_pos 1 one_pos, div_one]
  have hforward := forward_shortProblem
  have hprobe : (do
      return (← steepEnd (exact.add (finite 0) (finite (1 / 100)))
        (advance exact (finite (1 / 100)) [finite 1] [finite 1])).take 1) =
        (pure [finite 1] : Action Unit (List (Extended ℝ))) := by
    rw [exact_add_finite, steepEnd_before (by norm_num)]
    rfl
  have hbounded : InitialStep.bounded (.numbers exact (.ok (finite 1))) (finite (1 / 1024)) (finite 10)
      (finite (1 / 100)) = .ok (finite (1 / 100)) := by
    have hbelow : exact.lt (finite (1 / 100)) (finite (1 / 1024)) = false := by norm_num [lt]
    have habove : exact.lt (finite 10) (finite (1 / 100)) = false := by norm_num [lt]
    simp only [InitialStep.bounded, InitialStep.Candidates.numbers, hbelow, habove, bind, Except.bind,
      Bool.false_eq_true, if_false, pure, Except.pure]
  have hsize : Policy.exactFineSteps.requireDimension shortProblem.initial.length = .ok () :=
    rfl
  unfold prepare
  rw [Action.outcome_bind_eq_ok]
  refine ⟨[finite 1], (), ?_, ?_⟩
  · rw [shortProblem, steepEnd_before (by norm_num)]
    rfl
  rw [Action.outcome_ok_bind hsize, firstStep]
  have horder : ¬shortProblem.order ≤ 0 := by simp [shortProblem]
  have hlength : ¬shortProblem.initial.length < shortProblem.scale.length := by simp [shortProblem]
  simp only [Setting.exact, Policy.exactFineSteps, hforward, horder, hlength, if_false]
  rw [Action.outcome_bind_eq_ok]
  refine ⟨finite (1 / 100), (), ?_, ?_⟩
  · simp only [shortProblem, hexponent]
    exact InitialStep.magnitude_unit hprobe
  · simp only [shortProblem, hexponent]
    rw [Action.outcome_ok_bind hbounded]
    rfl

lemma truncated_shortProblem {t h : ℝ} (ht : t ≤ 1 / 10) (hh : 0 < h) :
    shortProblem.truncated exact (finite t) (finite h) = finite (min (1 / 10 - t) h) := by
  have hremaining : shortProblem.remaining exact (finite t) = finite (1 / 10 - t) := by
    rw [remaining_exact rfl, abs_of_nonneg (by linarith)]
  rw [truncated, hremaining, exact_abs, abs_finite, abs_of_pos hh]
  by_cases hlt : 1 / 10 - t < h
  · have hcut : exact.lt (finite (1 / 10 - t)) (finite h) = true := decide_eq_true hlt
    rw [hcut, if_pos rfl, min_eq_left hlt.le]
    exact exact_sub_finite
  · have hkept : exact.lt (finite (1 / 10 - t)) (finite h) = false := decide_eq_false hlt
    rw [hkept, if_neg Bool.false_ne_true, min_eq_right (not_lt.mp hlt)]

/-- The first step has no error. -/
noncomputable def firstAttempt : Attempt (Extended ℝ) :=
  ⟨finite (1 / 100), finite 0, true, finite (1 / 100), [finite (101 / 100)]⟩

/-- Nine times as long a step meets the slope at the end time. -/
noncomputable def rejectedAttempt : Attempt (Extended ℝ) :=
  ⟨finite (9 / 100), finite (27 / 20), false, finite (1 / 100), [finite (101 / 100)]⟩

noncomputable def repeatedAttempt : Attempt (Extended ℝ) :=
  ⟨finite (6 / 100), finite 0, true, finite (7 / 100), [finite (107 / 100)]⟩

/-- The step that would be nine times as long is cut to the time that is left. -/
noncomputable def lastAttempt : Attempt (Extended ℝ) :=
  ⟨finite (3 / 100), finite (9 / 20), true, finite (1 / 10), [finite (31 / 20)]⟩

/-- An attempt moves at a slope of one, and it meets the greater slope where it reaches the end time. -/
lemma attempt_shortProblem {t y h v d : ℝ} {a : Attempt (Extended ℝ)} (ht : t < 1 / 10) (hh : 0 < h)
    (hv : min (1 / 10 - t) h = v) (hd : (if t + v < 1 / 10 then 0 else 15 * v) = d)
    (ha : (if |d| ≤ 1 then ⟨finite v, finite |d|, true, finite (t + v), [finite (y + v + d)]⟩
      else ⟨finite v, finite |d|, false, finite t, [finite y]⟩) = a) :
    (shortProblem.attempt (.exact tooSmall) Policy.exactFineSteps steepEnd (finite t)
      [finite y] (finite h)).outcome () = (.ok a, ()) := by
  have hpositive : 0 < v := hv ▸ lt_min (by linarith) hh
  have htruncated := truncated_shortProblem ht.le hh
  rw [hv] at htruncated
  have hslope := steepEnd_before ht [finite y]
  rw [← ha]
  split_ifs at hd with hend
  · rw [attempt_single rfl rfl hpositive htruncated hslope
      (steepEnd_before hend _) (by linarith : v / 2 * (1 - 1) = d), mul_one]
  · have htime : t + v = 1 / 10 :=
      le_antisymm (by linarith [hv ▸ min_le_left (1 / 10 - t) h]) (not_lt.mp hend)
    have hslope' : steepEnd (finite (t + v)) [finite (y + v * 1)] = pure [finite 31] := by
      rw [htime, steepEnd_end]
    rw [attempt_single rfl rfl hpositive htruncated hslope hslope'
      (by linarith : v / 2 * (31 - 1) = d), mul_one]

lemma isFinished_shortProblem {t : ℝ} (ht : t ≤ 7 / 100) : shortProblem.isFinished exact (finite t) = false := by
  have hlt : ((1 / 1000000000000 : ℚ) : ℝ) < |1 / 10 - t| := by
    rw [abs_of_nonneg (by linarith)]
    norm_num
    linarith
  rw [isFinished, remaining_exact rfl, exact_ofRat]
  simpa [lt] using hlt

lemma nextStep_shortProblem {a : Attempt (Extended ℝ)} {v r w : ℝ} (hstep : a.step = finite v) (hv : 0 < v)
    (hfactor : stepFactor exact (.standard exact) (finite 1) a.error = finite r) (hr : 0 < r)
    (hw : v * r = w) (hleast : 1 / 1024 ≤ w) (hgreatest : w ≤ 10) :
    shortProblem.nextStep (.exact tooSmall) Policy.exactFineSteps a = .ok (finite w) := by
  subst hw
  exact nextStep_single forward_shortProblem rfl rfl rfl hstep hv hfactor hr hleast hgreatest

lemma integrate_shortProblem :
    (shortProblem.integrate (.exact tooSmall) Policy.exactFineSteps steepEnd).run () =
      (⟨[firstAttempt, rejectedAttempt, repeatedAttempt, lastAttempt], .ok true⟩, ()) := by
  have hfirst : (shortProblem.attempt (.exact tooSmall) Policy.exactFineSteps steepEnd
      (finite 0) [finite 1] (finite (1 / 100))).outcome () = (.ok firstAttempt, ()) :=
    attempt_shortProblem (v := 1 / 100) (d := 0) (by norm_num) (by norm_num) (by norm_num) (by norm_num)
      (by norm_num [firstAttempt])
  have hrejected : (shortProblem.attempt (.exact tooSmall) Policy.exactFineSteps steepEnd
      (finite (1 / 100)) [finite (101 / 100)] (finite (9 / 100))).outcome () = (.ok rejectedAttempt, ()) :=
    attempt_shortProblem (v := 9 / 100) (d := 27 / 20) (by norm_num) (by norm_num) (by norm_num) (by norm_num)
      (by norm_num [rejectedAttempt])
  have hrepeated : (shortProblem.attempt (.exact tooSmall) Policy.exactFineSteps steepEnd
      (finite (1 / 100)) [finite (101 / 100)] (finite (6 / 100))).outcome () = (.ok repeatedAttempt, ()) :=
    attempt_shortProblem (v := 6 / 100) (d := 0) (by norm_num) (by norm_num) (by norm_num) (by norm_num)
      (by norm_num [repeatedAttempt])
  have hlast : (shortProblem.attempt (.exact tooSmall) Policy.exactFineSteps steepEnd
      (finite (7 / 100)) [finite (107 / 100)] (finite (54 / 100))).outcome () = (.ok lastAttempt, ()) :=
    attempt_shortProblem (v := 3 / 100) (d := 9 / 20) (by norm_num) (by norm_num) (by norm_num) (by norm_num)
      (by norm_num [lastAttempt])
  have hfinished : shortProblem.isFinished exact (finite (1 / 10)) = true := by
    rw [isFinished, remaining_exact rfl]
    norm_num [lt]
  have hend : (shortProblem.attempts (.exact tooSmall) Policy.exactFineSteps steepEnd 0
      lastAttempt.time lastAttempt.state (finite (6 / 100))).run () = (⟨[], .ok true⟩, ()) := by
    simp only [attempts, lastAttempt, Setting.exact, hfinished]
    rfl
  have hlastRun := attempts_of_attempt (isFinished_shortProblem (by norm_num)) hlast
    (nextStep_shortProblem rfl (by norm_num) (stepFactor_single (by norm_num) (by norm_num) (by norm_num))
      (by norm_num) (w := 6 / 100) (by norm_num) (by norm_num) (by norm_num)) hend
  have hrepeatedRun := attempts_of_attempt (isFinished_shortProblem (by norm_num)) hrepeated
    (nextStep_shortProblem rfl (by norm_num) (stepFactor_zero _) (by norm_num) (by norm_num) (by norm_num)
      (by norm_num)) hlastRun
  have hrejectedRun := attempts_of_attempt (isFinished_shortProblem (by norm_num)) hrejected
    (nextStep_shortProblem rfl (by norm_num) (stepFactor_single (by norm_num) (by norm_num) (by norm_num))
      (by norm_num) (by norm_num) (by norm_num) (by norm_num)) hrepeatedRun
  have hfirstRun := attempts_of_attempt (isFinished_shortProblem (by norm_num)) hfirst
    (nextStep_shortProblem rfl (by norm_num) (stepFactor_zero _) (by norm_num) (by norm_num) (by norm_num)
      (by norm_num)) hrejectedRun
  rw [integrate_outcome, prepare_shortProblem]
  exact hfirstRun

end IntegrationProblem

/-! ### The invariant -/

namespace IntegrationProblem

/-- The invariant of the integration in exact arithmetic, under all settings that calls lead to whose
bounds are in order, and for any dynamics: at every attempt the time lies between the start and the end
and is the start time plus the accepted steps, the step goes towards the end, keeps the maximal step and
the time that is left, is not below the minimal step unless it takes all the time that is left, and
changes nothing if it is rejected. The first step may be estimated, or it may have been prescribed by any
number, which is kept if it is positive and between the bounds. -/
theorem integrate_invariant {σ : Type} {s : σ} {P : IntegrationProblem (Extended ℝ)}
    {c : Controls (Extended ℝ)} {tooSmall : Extended ℝ → Extended ℝ → Failure}
    {f : Dynamics σ (Extended ℝ) (List (Extended ℝ))} (hc : c.Built exact)
    (hle : exact.le c.least c.greatest = true) (hpositive : (finite 0).lt c.greatest = true) {x z : ℝ}
    (hstart : P.start = .finite x) (hfinish : P.finish = .finite z)
    (hfirst : ∀ h s', (P.prepare (.exact tooSmall) c f).outcome s = (.ok h, s') →
      h.isNaN = false ∧ h.isZero = false)
    {before after : List (Attempt (Extended ℝ))} {a : Attempt (Extended ℝ)}
    (hsplit : ((P.integrate (.exact tooSmall) c f).run s).1.attempts = before ++ a :: after) :
    P.Sound c.least c.greatest before a :=
  sound_of_integrate (hc.bounding hle hpositive) hc.stepWithin hstart hfinish hfirst hsplit

theorem integrate_invariant_shortProblem :
    Policy.create (.real (.finite (1 / 1024))) (.real (.finite 10)) (.real (.finite 1)) (.real (.finite 0)) =
        .ok Policy.fineSteps ∧
      Policy.fineSteps.controls.map toReal = Policy.exactFineSteps ∧
      ((shortProblem.integrate (.exact fun _ _ => .divisionByZero) Policy.exactFineSteps steepEnd).run
          ()).1.attempts = [firstAttempt, rejectedAttempt, repeatedAttempt, lastAttempt] ∧
      shortProblem.Sound (finite (1 / 1024)) (finite 10) [] firstAttempt ∧
      shortProblem.Sound (finite (1 / 1024)) (finite 10) [firstAttempt] rejectedAttempt ∧
      shortProblem.Sound (finite (1 / 1024)) (finite 10) [firstAttempt, rejectedAttempt]
        repeatedAttempt ∧
      shortProblem.Sound (finite (1 / 1024)) (finite 10) [firstAttempt, rejectedAttempt, repeatedAttempt]
        lastAttempt := by
  have hc : Policy.exactFineSteps.Built exact := by
    rw [← Policy.fineSteps_toReal]
    exact Policy.reached_fineSteps.built (fun _ h => h.1) (fun _ h => h.2) (by simp [Policy.fineSteps])
  have hle : exact.le Policy.exactFineSteps.least Policy.exactFineSteps.greatest = true := by
    norm_num [Policy.exactFineSteps, Arithmetic.le, isNaN, lt]
  have hpositive : (finite 0).lt Policy.exactFineSteps.greatest = true := by
    norm_num [Policy.exactFineSteps, lt]
  have hfirst : ∀ h s', (shortProblem.prepare (.exact fun _ _ => .divisionByZero) Policy.exactFineSteps
      steepEnd).outcome () = (.ok h, s') → h.isNaN = false ∧ h.isZero = false := by
    intro h s' hh
    obtain rfl : finite (1 / 100) = h := by simpa using prepare_shortProblem.symm.trans hh
    norm_num [isNaN, isZero]
  have hrun : ((shortProblem.integrate (.exact fun _ _ => .divisionByZero) Policy.exactFineSteps
      steepEnd).run ()).1.attempts = [firstAttempt, rejectedAttempt, repeatedAttempt, lastAttempt] := by
    rw [integrate_shortProblem]
  refine ⟨Policy.create_fineSteps, Policy.fineSteps_toReal, hrun, ?_, ?_, ?_, ?_⟩
  · exact integrate_invariant hc hle hpositive rfl rfl hfirst hrun
  · exact integrate_invariant hc hle hpositive rfl rfl hfirst hrun
  · exact integrate_invariant hc hle hpositive rfl rfl hfirst hrun
  · exact integrate_invariant hc hle hpositive rfl rfl hfirst hrun

end IntegrationProblem

end AdaptiveStep
