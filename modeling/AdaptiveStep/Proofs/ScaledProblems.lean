import Mathlib
import AdaptiveStep.Proofs.ExactArithmetic
import AdaptiveStep.Proofs.RelatedEstimates

/-!
# The first step depends on the scaled problem only

Over the real numbers every component may be measured in a unit of its own. The scaled sums of squares do
not change if a vector and its scale are multiplied by the same factors, and the Euler step and the
dynamics go along with the factors, so that neither the rough guess nor the curvature changes. The factors
may be negative, and the scale may be shorter than the state.
-/

namespace AdaptiveStep

open Extended

variable {σ : Type} {d n : ℕ}

/-! ### Real vectors -/

/-- A real vector as a list of exact numbers. -/
noncomputable def exactVector (x : Fin n → ℝ) : List (Extended ℝ) := List.ofFn fun i => finite (x i)

/-- The components of a list of exact numbers as a real vector, zero where there is no real one. -/
noncomputable def realVector (xs : List (Extended ℝ)) : Fin d → ℝ := fun i =>
  (xs[i]?.bind value?).getD 0

@[simp] lemma length_exactVector (x : Fin n → ℝ) : (exactVector x).length = n := by
  simp [exactVector]

@[simp] lemma realVector_exactVector (x : Fin d → ℝ) : realVector (exactVector x) = x := by
  funext i
  simp [realVector, exactVector, value?]

/-- Where both vectors have real components an operation acts on these. -/
lemma zipWith_exactVector {op : Extended ℝ → Extended ℝ → Extended ℝ} {g : ℝ → ℝ → ℝ} {x y : Fin n → ℝ}
    (h : ∀ i, op (finite (x i)) (finite (y i)) = finite (g (x i) (y i))) :
    List.zipWith op (exactVector x) (exactVector y) = exactVector fun i => g (x i) (y i) := by
  refine List.ext_getElem (by simp) fun i _ _ => ?_
  simp [exactVector, h]

lemma take_exactVector (hn : n ≤ d) (x : Fin d → ℝ) :
    (exactVector x).take n = exactVector (Fin.take n hn x) :=
  (Fin.ofFn_take_eq_take_ofFn hn _).symm

lemma exact_sum {xs : List ℝ} {s : Extended ℝ} (hs : exact.IsSum (xs.map finite) s) :
    s = finite xs.sum := by
  have hzero : exact.ofRat 0 = finite (0 : ℝ) := by simp
  have hreal : ∀ y ∈ xs.map finite, ∃ a : ℝ, y = finite a := by simp
  obtain ⟨a, rfl⟩ := hs.closed ⟨0, hzero⟩
    (fun _ _ ⟨a, hx⟩ ⟨b, hy⟩ => ⟨a + b, by rw [hx, hy, exact_add_finite]⟩) hreal
  have hsum := hs.total (m := fun y => (value? y).getD 0) ⟨0, hzero⟩ (by simp [value?])
    (fun _ _ ⟨a, hx⟩ ⟨b, hy⟩ => by
      rw [hx, hy, exact_add_finite]
      exact ⟨⟨a + b, rfl⟩, rfl⟩) hreal
  rw [List.map_map, show (fun y => (value? y).getD 0) ∘ finite = (id : ℝ → ℝ) from rfl,
    List.map_id] at hsum
  exact congrArg finite hsum

/-- A product that is zero adds nothing, whatever its sign. -/
lemma exact_add_mul (a b c : ℝ) :
    exact.add (finite a) (exact.mul (finite b) (finite c)) = finite (a + b * c) := by
  by_cases h : b * c = 0
  · cases hsign : ((finite b).isNegative ^^ (finite c).isNegative) <;>
      simp [exact, Rounding.arithmetic, Rounding.mul, Rounding.add, value?, h, hsign, zero]
  · rw [exact_mul_finite h, exact_add_finite]

/-- The square of a quotient has no sign to lose. -/
lemma exact_square_div (a : ℝ) {b : ℝ} (hb : b ≠ 0) :
    exact.square (exact.div (finite a) (finite b)) = finite ((a / b) ^ 2) := by
  by_cases ha : a = 0
  · subst ha
    cases hsign : ((finite (0 : ℝ)).isNegative ^^ (finite b).isNegative) <;>
      simp [Arithmetic.square, exact, Rounding.arithmetic, Rounding.div, Rounding.mul, value?, hb, hsign, zero]
  · rw [exact_div_finite hb ha, Arithmetic.square, exact_mul_finite (by positivity), sq]

namespace InitialStep

theorem scaledSquares_exact (x : Fin n → ℝ) {s : Fin n → ℝ} (hs : ∀ i, s i ≠ 0) :
    scaledSquares exact (exactVector s) (exactVector x) = .ok (finite (∑ i, (x i / s i) ^ 2)) := by
  have hsquares : (List.zipWith exact.div (exactVector x) (exactVector s)).map exact.square =
      (List.ofFn fun i => (x i / s i) ^ 2).map finite := by
    refine List.ext_getElem (by simp [exactVector]) fun i _ _ => ?_
    simp [exactVector, exact_square_div _ (hs _)]
  simp only [scaledSquares, pairwise, length_exactVector, if_true, bind, Except.bind, pure, Except.pure,
    hsquares, exact_sum (Arithmetic.isSum_pairwiseSum _), List.sum_ofFn]

/-- A vector has the same scaled sum of squares as its multiple under the multiple of the scale. -/
lemma scaledSquares_rescaled (x : Fin n → ℝ) {c s : Fin n → ℝ} (hc : ∀ i, c i ≠ 0) (hs : ∀ i, s i ≠ 0) :
    scaledSquares exact (exactVector (c * s)) (exactVector (c * x)) =
      scaledSquares exact (exactVector s) (exactVector x) := by
  have hscale (i : Fin n) : (c * s) i ≠ 0 := mul_ne_zero (hc i) (hs i)
  rw [scaledSquares_exact _ hs, scaledSquares_exact _ hscale]
  simp only [Pi.mul_apply, mul_div_mul_left _ _ (hc _)]

lemma exists_roughGuess (size slopeSize : ℝ) :
    ∃ g : ℝ, 0 < g ∧ roughGuess exact (finite size) (finite slopeSize) = finite g := by
  have htiny : (0 : ℝ) < ((1 / 10000000000 : ℚ) : ℝ) := by norm_num
  unfold roughGuess
  simp only [exact_ofRat, exact_lt]
  split_ifs with h
  · exact ⟨_, by norm_num, rfl⟩
  · simp only [lt, Bool.or_eq_true, decide_eq_true_eq, not_or, not_lt] at h
    have hsize : 0 < size := htiny.trans_le h.1
    have hslope : 0 < slopeSize := htiny.trans_le h.2
    have hratio : 0 < size / slopeSize := div_pos hsize hslope
    have hguess : 0 < ((1 / 100 : ℚ) : ℝ) * Real.sqrt (size / slopeSize) :=
      mul_pos (by norm_num) (Real.sqrt_pos.mpr hratio)
    rw [exact_div_finite hslope.ne' hsize.ne', exact_sqrt_finite hratio.le, exact_mul_finite hguess.ne']
    exact ⟨_, hguess, rfl⟩

/-- The rough guess for real vectors is a real number. -/
lemma exists_guess (forward : Bool) (size slopeSize : ℝ) :
    ∃ g : ℝ, directed exact forward (roughGuess exact (finite size) (finite slopeSize)) = finite g := by
  obtain ⟨g, hg, hguess⟩ := exists_roughGuess size slopeSize
  rw [hguess]
  cases forward
  · exact ⟨-g, neg_finite hg.ne'⟩
  · exact ⟨g, rfl⟩

lemma curvature_rescaled {k c s : Fin n → ℝ} (hc : ∀ i, c i ≠ 0) (hs : ∀ i, s i ≠ 0)
    (xs ys : List (Extended ℝ)) (guess : Extended ℝ) (r : Fin n → ℝ) :
    curvature exact ⟨xs, exactVector (c * k), exactVector (c * s)⟩ guess (exactVector (c * r)) =
      curvature exact ⟨ys, exactVector k, exactVector s⟩ guess (exactVector r) := by
  have hchange (a b : Fin n → ℝ) :
      pairwise exact.sub (exactVector a) (exactVector b) = .ok (exactVector (a - b)) := by
    simp only [pairwise, length_exactVector, if_true]
    exact congrArg Except.ok (zipWith_exactVector fun i => exact_sub_finite)
  simp only [curvature, hchange, ← mul_sub, bind, Except.bind]
  rw [scaledSquares_rescaled _ hc hs]

/-- Estimates whose probes give vectors that differ by the factors are the same. -/
theorem magnitude_rescaled {β : Type} {C : Candidates (Extended ℝ) β} {forward : Bool}
    {start : Except Failure (Extended ℝ)} (x k : Fin n → ℝ) {c s : Fin n → ℝ} (hc : ∀ i, c i ≠ 0)
    (hs : ∀ i, s i ≠ 0) {p q : Extended ℝ → Action σ (List (Extended ℝ))}
    (hpq : ∀ (g : ℝ) (world : σ), Action.Related
      (fun xs ys => ∃ r : Fin n → ℝ, xs = exactVector (c * r) ∧ ys = exactVector r) Eq
      ((p (finite g)).outcome world) ((q (finite g)).outcome world)) (world : σ) :
    Action.Related Eq Eq
      ((magnitude exact C forward ⟨exactVector (c * x), exactVector (c * k), exactVector (c * s)⟩ p
        start).outcome world)
      ((magnitude exact C forward ⟨exactVector x, exactVector k, exactVector s⟩ q start).outcome
        world) := by
  unfold magnitude
  dsimp only
  rw [scaledSquares_rescaled _ hc hs, scaledSquares_rescaled _ hc hs, scaledSquares_exact _ hs,
    scaledSquares_exact _ hs]
  obtain ⟨g, hg⟩ := exists_guess forward (∑ i, (x i / s i) ^ 2) (∑ i, (k i / s i) ^ 2)
  rw [Action.outcome_ok_bind rfl, Action.outcome_ok_bind rfl, Action.outcome_ok_bind rfl,
    Action.outcome_ok_bind rfl, hg]
  refine (hpq g world).bind ?_
  rintro _ _ world _ ⟨r, rfl, rfl⟩ rfl
  rw [curvature_rescaled hc hs (exactVector (c * x)) (exactVector x)]
  exact ⟨Except.related_self _, rfl⟩

end InitialStep

/-! ### Units of the components -/

/-- Dynamics of real vectors, which act on lists of exact numbers. -/
noncomputable def onExact (f : Dynamics σ (Extended ℝ) (Fin d → ℝ)) :
    Dynamics σ (Extended ℝ) (List (Extended ℝ)) := fun t y => do
  return exactVector (← f t (realVector y))

/-- Dynamics with the components measured in other units: what was `y` is now `c * y`. -/
noncomputable def rescaled (c : Fin d → ℝ) (f : Dynamics σ (Extended ℝ) (Fin d → ℝ)) :
    Dynamics σ (Extended ℝ) (Fin d → ℝ) := fun t y => do
  return c * (← f t (y / c))

lemma advance_exactVector (g : ℝ) (y k : Fin d → ℝ) :
    advance exact (finite g) (exactVector y) (exactVector k) = exactVector (y + g • k) := by
  exact zipWith_exactVector (g := fun a b => a + g * b) fun i => exact_add_mul _ _ _

/-- The rescaled dynamics give the multiple of what the dynamics give. -/
lemma onExact_rescaled_related {c : Fin d → ℝ} (hc : ∀ i, c i ≠ 0)
    (f : Dynamics σ (Extended ℝ) (Fin d → ℝ)) (t : Extended ℝ) (y : Fin d → ℝ) (world : σ) :
    Action.Related (fun xs ys => ∃ r : Fin d → ℝ, xs = exactVector (c * r) ∧ ys = exactVector r) Eq
      ((onExact (rescaled c f) t (exactVector (c * y))).outcome world)
      ((onExact f t (exactVector y)).outcome world) := by
  have hunit : c * y / c = y := by
    funext i
    exact mul_div_cancel_left₀ (y i) (hc i)
  simp only [onExact, rescaled, realVector_exactVector, hunit, bind_assoc, pure_bind]
  have hshared : Action.Related Eq Eq ((f t y).outcome world) ((f t y).outcome world) :=
    ⟨Except.related_self _, rfl⟩
  refine hshared.bind ?_
  rintro r _ world _ rfl rfl
  exact ⟨⟨r, rfl, rfl⟩, rfl⟩

namespace IntegrationProblem

/-- Every component of the problem can be measured in a unit of its own: if the state, its derivative and
the scale are multiplied by factors other than zero and the dynamics go along, the first step stays. -/
theorem firstStep_rescaled (hn : n ≤ d) {c : Fin d → ℝ} {s : Fin n → ℝ} (hc : ∀ i, c i ≠ 0)
    (hs : ∀ i, s i ≠ 0) (P : IntegrationProblem (Extended ℝ)) (controls : Controls (Extended ℝ))
    (f : Dynamics σ (Extended ℝ) (Fin d → ℝ)) (y slope : Fin d → ℝ) (world : σ) :
    (({ P with initial := exactVector (c * y), scale := exactVector (Fin.take n hn c * s) }).firstStep exact
        controls (onExact (rescaled c f)) (exactVector (c * slope))).outcome world =
      (({ P with initial := exactVector y, scale := exactVector s }).firstStep exact controls (onExact f)
        (exactVector slope)).outcome world := by
  have hfactor (i : Fin n) : Fin.take n hn c i ≠ 0 := hc _
  have htake (x : Fin d → ℝ) : (exactVector (c * x)).take n =
      exactVector (Fin.take n hn c * Fin.take n hn x) := take_exactVector hn (c * x)
  have heq {α : Type} {x y : Except Failure α × σ} (h : Action.Related Eq Eq x y) : x = y :=
    Prod.ext h.1.eq h.2
  have hprobe (g : ℝ) (world : σ) : Action.Related
      (fun xs ys => ∃ r : Fin n → ℝ, xs = exactVector (Fin.take n hn c * r) ∧ ys = exactVector r) Eq
      ((do return (← onExact (rescaled c f) (exact.add P.start (finite g))
        (advance exact (finite g) (exactVector (c * y)) (exactVector (c * slope)))).take n :
          Action σ (List (Extended ℝ))).outcome world)
      ((do return (← onExact f (exact.add P.start (finite g))
        (advance exact (finite g) (exactVector y) (exactVector slope))).take n :
          Action σ (List (Extended ℝ))).outcome world) := by
    have hstep : c * y + g • (c * slope) = c * (y + g • slope) := by
      rw [mul_add, mul_smul_comm]
    rw [advance_exactVector, advance_exactVector, hstep]
    refine (onExact_rescaled_related hc f _ _ world).bind ?_
    rintro _ _ world _ ⟨r, rfl, rfl⟩ rfl
    exact ⟨⟨Fin.take n hn r, htake r, take_exactVector hn r⟩, rfl⟩
  unfold firstStep
  cases controls.initialStep with
  | some h => rfl
  | none =>
    dsimp only
    split
    · simp only [Action.outcome_bind, Action.outcome_throw]
    · simp only [length_exactVector, StartVectors.leading, htake, take_exactVector hn]
      rw [if_neg hn.not_gt, if_neg hn.not_gt]
      refine heq ((InitialStep.magnitude_rescaled _ _ hfactor hs hprobe world).bind ?_)
      rintro h _ world _ rfl rfl
      exact ⟨Except.related_self _, rfl⟩

/-- From zero to one with a method of order four, the components still to be named. -/
noncomputable def unitInterval : IntegrationProblem (Extended ℝ) where
  start := finite 0
  finish := finite 1
  initial := []
  scale := []
  order := 4
  acceptSmall := true
  maxSteps := 0

/-- The decay of two components, the first in negative thousandths and the second, which has no scale, in
doubles of its unit. -/
theorem firstStep_rescaled_decay :
    let c : Fin 2 → ℝ := ![-1000, 1 / 2]
    let s : Fin 1 → ℝ := ![1]
    let y : Fin 2 → ℝ := ![1, 1000000]
    let f : Dynamics Unit (Extended ℝ) (Fin 2 → ℝ) := fun _ y => return -y
    let controls : Controls (Extended ℝ) := { Controls.blank (finite 0) with greatest := finite 10 }
    (∀ i, c i ≠ 0) ∧ (∀ i, s i ≠ 0) ∧
      (({ unitInterval with
          initial := exactVector (c * y)
          scale := exactVector (Fin.take 1 (by decide) c * s) }).firstStep exact controls
        (onExact (rescaled c f)) (exactVector (c * -y))).outcome () =
      (({ unitInterval with initial := exactVector y, scale := exactVector s }).firstStep exact controls
        (onExact f) (exactVector (-y))).outcome () := by
  intro c s y f controls
  have hc (i : Fin 2) : c i ≠ 0 := by fin_cases i <;> norm_num [c]
  have hs (i : Fin 1) : s i ≠ 0 := by fin_cases i; norm_num [s]
  exact ⟨hc, hs, firstStep_rescaled (by decide) hc hs unitInterval controls f y (-y) ()⟩

end IntegrationProblem

end AdaptiveStep
