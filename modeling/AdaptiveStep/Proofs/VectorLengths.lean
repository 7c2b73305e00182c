import AdaptiveStep.Proofs.EulerProbes
import AdaptiveStep.Proofs.ListVectors

/-!
# Vectors that are too short

The scale is held against the state, but the lengths of the derivative and of what the dynamics return
are not compared with anything. They only have to meet in the arithmetic, where a single component is
repeated. So on a scale with two or more components a vector is accepted if it is not shorter, or if it
has a single component, and on a scale with one component every vector is.
-/

namespace AdaptiveStep

open Extended FloatType

/-! ### Lengths that meet -/

/-- The lengths are the same, or one of them is one and is stretched. -/
def Meets (m n : ℕ) : Prop := m = n ∨ m = 1 ∨ n = 1

/-- On a scale of length `n` a vector of length `k` is accepted. -/
def Accepts (n k : ℕ) : Prop := n ≤ k ∨ k = 1 ∨ n = 1

lemma accepts_of_meets_min {n k : ℕ} (h : Meets (min n k) n) : Accepts n k := by
  unfold Meets Accepts at *
  omega

lemma Accepts.meets {n k : ℕ} (h : Accepts n k) : Meets (min n k) n := by
  unfold Meets Accepts at *
  omega

lemma Accepts.meets_both {n k l : ℕ} (hk : Accepts n k) (hl : Accepts n l) :
    Meets (min n k) (min n l) := by
  unfold Meets Accepts at *
  omega

/-- Vectors meet exactly if their lengths do, and their length is then the one that is not stretched. -/
lemma pairwise_eq_ok {α β γ : Type} {f : α → β → γ} {xs : List α} {ys : List β} {zs : List γ}
    (h : pairwise f xs ys = .ok zs) :
    Meets xs.length ys.length ∧ zs.length = if xs.length = 1 then ys.length else xs.length := by
  unfold pairwise at h
  unfold Meets
  split_ifs at h with hlength
  · obtain rfl := Except.ok.inj h
    simp [hlength]
  · rcases xs with _ | ⟨x, _ | ⟨x', xs⟩⟩ <;> rcases ys with _ | ⟨y, _ | ⟨y', ys⟩⟩ <;>
      simp_all only [Except.ok.injEq, reduceCtorEq] <;> subst h <;> simp

lemma pairwise_of_meets {α β γ : Type} (f : α → β → γ) {xs : List α} {ys : List β}
    (h : Meets xs.length ys.length) : ∃ zs, pairwise f xs ys = .ok zs := by
  unfold pairwise
  split_ifs with hlength
  · exact ⟨_, rfl⟩
  · rcases xs with _ | ⟨x, _ | ⟨x', xs⟩⟩ <;> rcases ys with _ | ⟨y, _ | ⟨y', ys⟩⟩ <;>
      simp_all [Meets]

namespace InitialStep

variable {scale xs : List Number} {v : StartVectors Number} {guess x : Number} {endSlope : List Number}

lemma meets_of_scaledSquares (h : scaledSquares double scale xs = .ok x) :
    Meets xs.length scale.length := by
  obtain ⟨qs, hqs, -⟩ := Except.bind_eq_ok.mp h
  exact (pairwise_eq_ok hqs).1

lemma scaledSquares_of_meets (h : Meets xs.length scale.length) :
    ∃ x, scaledSquares double scale xs = .ok x := by
  obtain ⟨qs, hqs⟩ := pairwise_of_meets double.div h
  exact ⟨_, by rw [scaledSquares, hqs]; rfl⟩

/-- The slope at the end of the Euler step meets the scale, if there is a second derivative. -/
lemma meets_of_curvature (h : curvature double v guess endSlope = .ok x) :
    Meets endSlope.length v.scale.length := by
  obtain ⟨change, hchange, h⟩ := Except.bind_eq_ok.mp h
  obtain ⟨squares, hsquares, -⟩ := Except.bind_eq_ok.mp h
  have hscale := meets_of_scaledSquares hsquares
  rw [(pairwise_eq_ok hchange).2] at hscale
  split_ifs at hscale with hone
  · exact .inr (.inl hone)
  · exact hscale

lemma curvature_of_meets (hmeets : Meets endSlope.length v.slope.length)
    (hslope : Meets v.slope.length v.scale.length) (hend : Meets endSlope.length v.scale.length)
    (hguess : guess.isZero = false) : ∃ x, curvature double v guess endSlope = .ok x := by
  obtain ⟨change, hchange⟩ := pairwise_of_meets double.sub hmeets
  obtain ⟨squares, hsquares⟩ : ∃ x, scaledSquares double v.scale change = .ok x := by
    refine scaledSquares_of_meets ?_
    rw [(pairwise_eq_ok hchange).2]
    split_ifs
    · exact hslope
    · exact hend
  have hzero : double.isZero guess = false := hguess
  refine ⟨double.div (double.sqrt squares) guess, ?_⟩
  simp only [curvature, hchange, hsquares, hzero, bind, Except.bind]
  rfl

end InitialStep

/-! ### What an estimate accepts -/

namespace StartProblem

variable {σ : Type} {s s' : σ} {wideMode : Bool} {P : StartProblem} {f : Dynamics σ Value Value}
  {least greatest v : Value} {n d e : ℕ}

/-- The scale has the length `n`, the state is not shorter, the derivative has the length `d`, and so
has `e` what the dynamics return at the end of the Euler step. -/
structure HasLengths (wideMode : Bool) (P : StartProblem) (f : Dynamics σ Value Value) (s : σ)
    (n d e : ℕ) : Prop where
  scale : ∃ xs, P.scale.doubleVector wideMode = .ok xs ∧ xs.length = n
  state : ∃ y xs, P.state.completeState wideMode = .ok y ∧ y.doubleVector wideMode = .ok xs ∧
    n ≤ xs.length
  slope : ∃ y xs, P.state.completeDerivative wideMode = .ok y ∧ y.doubleVector wideMode = .ok xs ∧
    xs.length = d
  result : ∃ call y s' xs, P.evaluation wideMode = .ok call ∧
    (f call.1 call.2).outcome s = (.ok y, s') ∧ y.doubleVector wideMode = .ok xs ∧ xs.length = e

lemma realVectors_eq_ok {y slope : Value} {w : StartVectors Number}
    (h : P.realVectors wideMode y slope = .ok w) :
    ∃ scale state slopes, P.scale.doubleVector wideMode = .ok scale ∧
      y.doubleVector wideMode = .ok state ∧ slope.doubleVector wideMode = .ok slopes ∧
      scale.length ≤ state.length ∧ w = StartVectors.leading ⟨state, slopes, scale⟩ := by
  obtain ⟨scale, hscale, h⟩ := Except.bind_eq_ok.mp h
  obtain ⟨state, hstate, h⟩ := Except.bind_eq_ok.mp h
  split_ifs at h with hlength
  · exact absurd h Except.throw_bind_ne_ok
  · obtain ⟨slopes, hslopes, h⟩ := Except.bind_eq_ok.mp h
    exact ⟨scale, state, slopes, hscale, hstate, hslopes, by omega, (Except.ok.inj h).symm⟩

/-- An estimate has accepted the derivative and what the dynamics returned. -/
theorem accepts_of_estimate (h : (P.estimate wideMode f least greatest).outcome s = (.ok v, s')) :
    ∃ n d e, P.HasLengths wideMode f s n d e ∧ Accepts n d ∧ Accepts n e := by
  simp only [estimate, Action.outcome_bind_eq_ok, Action.outcome_lift, Prod.mk.injEq] at h
  obtain ⟨refused, _, ⟨horder, rfl⟩, h⟩ := h
  cases refused
  case true => simp at h
  simp only [Bool.false_eq_true, if_false, Action.outcome_bind_eq_ok, Action.outcome_lift,
    Prod.mk.injEq] at h
  obtain ⟨⟨y, slope⟩, _, ⟨hvectors, rfl⟩, w, _, ⟨hw, rfl⟩, m, _, hm, -⟩ := h
  obtain ⟨scale, state, slopes, hscale, hstate, hslopes, hlength, rfl⟩ := realVectors_eq_ok hw
  simp only [InitialStep.magnitude, Action.outcome_bind_eq_ok, Action.outcome_lift,
    Prod.mk.injEq] at hm
  obtain ⟨size, _, ⟨hsize, rfl⟩, slopeSize, _, ⟨hslopeSize, rfl⟩, endSlope, _, hprobe, bend, _,
    ⟨hbend, -⟩, -⟩ := hm
  simp only [probe, Action.outcome_bind_eq_ok, Action.outcome_lift, Action.outcome_pure,
    Prod.mk.injEq, Except.ok.injEq] at hprobe
  obtain ⟨next, _, ⟨hnext, rfl⟩, time, _, ⟨htime, rfl⟩, result, _, hresult, xs, _, ⟨hxs, -⟩, rfl,
    -⟩ := hprobe
  have hguess : P.guess (StartVectors.leading ⟨state, slopes, scale⟩) =
      .ok (InitialStep.directed double P.forward (InitialStep.roughGuess double size slopeSize)) := by
    simp only [guess, hsize, hslopeSize]
    rfl
  have hcall : P.evaluation wideMode = .ok (time, next) := by
    simp only [evaluation, horder, hvectors, hw, hguess, hnext, htime, bind, Except.bind]
    rfl
  obtain ⟨hy, hslope⟩ : P.state.completeState wideMode = .ok y ∧
      P.state.completeDerivative wideMode = .ok slope := by
    obtain ⟨y', hy, h⟩ := Except.bind_eq_ok.mp hvectors
    obtain ⟨slope', hslope, h⟩ := Except.bind_eq_ok.mp h
    obtain ⟨rfl, rfl⟩ := Prod.mk.inj (Except.ok.inj h)
    exact ⟨hy, hslope⟩
  refine ⟨scale.length, slopes.length, xs.length, ⟨⟨scale, hscale, rfl⟩, ⟨y, state, hy, hstate, hlength⟩,
    ⟨slope, slopes, hslope, hslopes, rfl⟩, ⟨_, result, _, xs, hcall, hresult, hxs, rfl⟩⟩, ?_, ?_⟩
  · refine accepts_of_meets_min ?_
    simpa [StartVectors.leading] using InitialStep.meets_of_scaledSquares hslopeSize
  · refine accepts_of_meets_min ?_
    simpa [StartVectors.leading] using InitialStep.meets_of_curvature hbend

/-! ### Every accepted length occurs -/

/-- A vector of zeros. -/
def zeros (n : ℕ) : Value := .ofNumbers (List.replicate n (.finite 0))

/-- A state of zeros, as long as a scale of ones, and a derivative of zeros. -/
def zeroVectors (n d : ℕ) : StartProblem where
  state := ⟨.real (.finite 0), zeros n, zeros d, [], []⟩
  scale := .ofNumbers (List.replicate n (.finite 1))
  order := .integer 1
  forward := true

/-- Dynamics that return so many zeros. -/
def returnsZeros (e : ℕ) : Dynamics Unit Value Value := fun _ _ => pure (zeros e)

lemma doubleVector_ofNumbers (xs : List Number) :
    (Value.ofNumbers xs).doubleVector wideMode = .ok xs := by
  have h : (Value.ofNumbers xs).doubleVector wideMode = .ok (xs.map id) :=
    Value.doubleVector_listOf fun _ _ => rfl
  rwa [List.map_id] at h

lemma scaledSquares_zeros {k : ℕ} (h : Meets k n) :
    InitialStep.scaledSquares double (List.replicate n (.finite 1)) (List.replicate k (.finite 0)) =
      .ok (.finite 0) := by
  have hadd : double.add (.finite 0) (.finite 0) = .finite 0 := by decide +kernel
  have hsquare : double.square (double.div (.finite 0) (.finite 1)) = .finite 0 := by decide +kernel
  have hzero : double.ofRat 0 = .finite 0 := by decide +kernel
  have hsum (xs : List Number) (hxs : ∀ x ∈ xs, x = .finite 0) : double.pairwiseSum xs = .finite 0 :=
    (Arithmetic.isSum_pairwiseSum xs).closed hzero (fun _ _ hx hy => by rw [hx, hy, hadd]) hxs
  obtain ⟨ps, hps⟩ : ∃ ps, pairwise Prod.mk (List.replicate k (Extended.finite (0 : ℚ)))
      (List.replicate n (Extended.finite (1 : ℚ))) = .ok ps :=
    pairwise_of_meets Prod.mk (by simpa using h)
  rw [InitialStep.scaledSquares_eq,
    ← map_pairwise Prod.mk (fun p : Number × Number => double.square (double.div p.1 p.2)), hps]
  refine congrArg Except.ok (hsum _ fun x hx => ?_)
  obtain ⟨⟨y, t⟩, hp, rfl⟩ := List.mem_map.mp hx
  obtain ⟨hy, ht⟩ := mem_of_pairwise hps hp
  rw [(List.mem_replicate.mp hy).2, (List.mem_replicate.mp ht).2]
  exact hsquare

lemma realVectors_zeroVectors (wideMode : Bool) (n d : ℕ) :
    (zeroVectors n d).realVectors wideMode (zeros n) (zeros d) = .ok ⟨List.replicate n (.finite 0),
      List.replicate (min n d) (.finite 0), List.replicate n (.finite 1)⟩ := by
  have hscale : (zeroVectors n d).scale.doubleVector wideMode = .ok (List.replicate n (.finite 1)) :=
    doubleVector_ofNumbers _
  simp [realVectors, hscale, zeros, doubleVector_ofNumbers, StartVectors.leading, bind, Except.bind,
    pure, Except.pure]

/-- The dynamics are evaluated from a start at zero. -/
lemma exists_probe (wideMode : Bool) (n d : ℕ) (h : Number) :
    ∃ next time, eulerStep wideMode (zeros n) (zeros d) (.real h) = .ok next ∧
      (zeroVectors n d).state.time.combine wideMode .add (.real h) = .ok time := by
  refine ⟨_, _, eulerStep_elements wideMode Value.real Value.real
    (fun y slope => .real (double.add y (double.mul slope h))) _ _ rfl rfl rfl fun _ _ _ _ => rfl, rfl⟩

lemma guess_zeroVectors (hd : Accepts n d) :
    (zeroVectors n d).guess ⟨List.replicate n (.finite 0), List.replicate (min n d) (.finite 0),
      List.replicate n (.finite 1)⟩ = .ok (double.ofRat (1 / 1000000)) := by
  have hrough : InitialStep.roughGuess double (.finite 0) (.finite 0) =
      double.ofRat (1 / 1000000) := by decide +kernel
  simp only [guess, scaledSquares_zeros (.inl rfl), scaledSquares_zeros hd.meets, bind, Except.bind,
    hrough]
  rfl

lemma hasLengths_zeroVectors (wideMode : Bool) (hd : Accepts n d) (e : ℕ) :
    (zeroVectors n d).HasLengths wideMode (returnsZeros e) () n d e := by
  obtain ⟨next, time, hnext, htime⟩ := exists_probe wideMode n d (double.ofRat (1 / 1000000))
  have horder : (zeroVectors n d).order.compare wideMode .atMost (.integer 0) = .ok false := rfl
  have hvectors : (zeroVectors n d).vectors wideMode = .ok (zeros n, zeros d) := rfl
  refine ⟨⟨_, doubleVector_ofNumbers _, List.length_replicate ..⟩,
    ⟨zeros n, _, rfl, doubleVector_ofNumbers _, by simp⟩,
    ⟨zeros d, _, rfl, doubleVector_ofNumbers _, List.length_replicate ..⟩,
    ⟨(time, next), zeros e, (), _, ?_, rfl, doubleVector_ofNumbers _, List.length_replicate ..⟩⟩
  simp only [evaluation, horder, hvectors, realVectors_zeroVectors, guess_zeroVectors hd, hnext, htime,
    bind, Except.bind]
  rfl

/-- Vectors of zeros of accepted lengths have norms. -/
lemma norms_zeroVectors (wideMode : Bool) (hd : Accepts n d) (he : Accepts n e) :
    ∃ m, ((zeroVectors n d).norms wideMode (returnsZeros e)).outcome () = (.ok m, ()) := by
  have hrough : InitialStep.roughGuess double (.finite 0) (.finite 0) =
      double.ofRat (1 / 1000000) := by decide +kernel
  obtain ⟨next, time, hnext, htime⟩ := exists_probe wideMode n d
    (InitialStep.directed double (zeroVectors n d).forward (double.ofRat (1 / 1000000)))
  have horder : (zeroVectors n d).order.compare wideMode .atMost (.integer 0) = .ok false := rfl
  have hvectors : (zeroVectors n d).vectors wideMode = .ok (zeros n, zeros d) := rfl
  have hresult : (returnsZeros e time next).outcome () = (.ok (zeros e), ()) := rfl
  have hzeros : (zeros e).doubleVector wideMode = .ok (List.replicate e (.finite 0)) :=
    doubleVector_ofNumbers _
  obtain ⟨bend, hbend⟩ : ∃ x, InitialStep.curvature double ⟨List.replicate n (.finite 0),
      List.replicate (min n d) (.finite 0), List.replicate n (.finite 1)⟩
      (double.ofRat (1 / 1000000)) (List.replicate (min n e) (.finite 0)) = .ok x :=
    InitialStep.curvature_of_meets (by simpa using he.meets_both hd) (by simpa using hd.meets)
      (by simpa using he.meets) (by decide +kernel)
  unfold norms InitialStep.norms probe
  simp only [Action.outcome_bind, Action.outcome_lift, Action.outcome_pure, horder, hvectors,
    realVectors_zeroVectors, scaledSquares_zeros (.inl rfl), scaledSquares_zeros hd.meets, hrough,
    hnext, htime, hresult, hzeros, List.take_replicate, List.length_replicate, hbend,
    Bool.false_eq_true, if_false]
  exact ⟨_, rfl⟩

/-- Vectors of zeros of accepted lengths have an estimate. -/
lemma estimate_zeroVectors (wideMode : Bool) (hd : Accepts n d) (he : Accepts n e) :
    ∃ v, ((zeroVectors n d).estimate wideMode (returnsZeros e) (.real (.finite 0))
      (.real (.finite 10))).outcome () = (.ok v, ()) := by
  obtain ⟨m, hm⟩ := norms_zeroVectors wideMode hd he
  have htime : (zeroVectors n d).state.time.realPart wideMode = .ok (.finite 0) := rfl
  rcases sized_of_time htime rfl le_rfl (.finite 0) (.finite 10) (m.sizing true) m.guess with
    ⟨-, hinteger, -⟩ | ⟨-, x, hx⟩
  · have hone : (Number.ofInt? 1).isSome = true := by decide +kernel
    simp [hinteger] at hone
  · refine ⟨.real x, ?_⟩
    rw [estimate_eq]
    simp only [Action.outcome_bind, hm, Action.outcome_lift]
    change ((zeroVectors n d).sized wideMode (.finite 0) (.finite 10) (m.sizing true) m.guess >>=
      (zeroVectors n d).directed, ()) = _
    rw [hx]
    rfl

/-- Every estimate has accepted the lengths of the derivative and of what the dynamics returned on the
length of its scale, and all lengths that are accepted occur in estimates. So a vector that is shorter
than the scale is accepted exactly if it has a single component, or if the scale has. -/
theorem estimate_lengths (wideMode : Bool) :
    (∀ {σ : Type} (P : StartProblem) (f : Dynamics σ Value Value) (least greatest v : Value) (s s' : σ),
      (P.estimate wideMode f least greatest).outcome s = (.ok v, s') →
        ∃ n d e, P.HasLengths wideMode f s n d e ∧ Accepts n d ∧ Accepts n e) ∧
    ∀ n d e, Accepts n d → Accepts n e →
      ∃ (P : StartProblem) (f : Dynamics Unit Value Value) (v : Value),
        P.HasLengths wideMode f () n d e ∧
          (P.estimate wideMode f (.real (.finite 0)) (.real (.finite 10))).outcome () = (.ok v, ()) := by
  refine ⟨fun P f least greatest v s s' h => accepts_of_estimate h, fun n d e hd he => ?_⟩
  obtain ⟨v, hv⟩ := estimate_zeroVectors wideMode hd he
  exact ⟨zeroVectors n d, returnsZeros e, v, hasLengths_zeroVectors wideMode hd e, hv⟩

/-- A start with two components of everything. -/
def pairStart : StartProblem where
  state := ⟨.real (.finite 0), .list [.real (.finite 1), .real (.finite 2)],
    .list [.real (.finite 1), .real (.finite 1)], [], []⟩
  scale := .list [.real (.finite 1), .real (.finite 1)]
  order := .integer 1
  forward := true

/-- Dynamics that return one component instead of two are accepted. -/
theorem pairStart_short_result :
    pairStart.HasLengths false (constantSlope (.finite 1)) () 2 2 1 ∧
      ∃ v, (pairStart.estimate false (constantSlope (.finite 1)) (.real (.finite 0))
        (.real (.finite 10))).outcome () = (.ok v, ()) := by
  have hevaluation : (pairStart.evaluation false).toOption.isSome = true := by decide +kernel
  have hestimate : ((pairStart.estimate false (constantSlope (.finite 1)) (.real (.finite 0))
      (.real (.finite 10))).outcome ()).1.toOption.isSome = true := by decide +kernel
  constructor
  · cases hcall : pairStart.evaluation false with
    | error e => simp [hcall, Except.toOption] at hevaluation
    | ok call =>
      exact ⟨⟨_, rfl, rfl⟩, ⟨_, _, rfl, rfl, le_rfl⟩, ⟨_, _, rfl, rfl, rfl⟩, ⟨call, _, _, _, hcall, rfl, rfl, rfl⟩⟩
  · rcases h : (pairStart.estimate false (constantSlope (.finite 1)) (.real (.finite 0))
      (.real (.finite 10))).outcome () with ⟨_ | v, s'⟩
    · rw [h] at hestimate
      simp [Except.toOption] at hestimate
    · exact ⟨v, rfl⟩

end StartProblem

end AdaptiveStep
