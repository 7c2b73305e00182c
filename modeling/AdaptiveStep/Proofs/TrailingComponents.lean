import AdaptiveStep.Proofs.DualProblems
import AdaptiveStep.Proofs.EulerProbes
import AdaptiveStep.Proofs.FieldVectors
import AdaptiveStep.Proofs.VectorLengths

/-!
# Components without a scale

The estimate looks at as many components as there are scales, in the state, in its derivative and in
what the dynamics return at the end of the Euler step. The Euler step itself takes all components. So
two problems over floats and dual numbers that start alike have the same first step, however long they
are and whatever their other components are.
-/

namespace AdaptiveStep

open FloatType

variable {σ τ α : Type} {s : σ} {t : τ} {wideMode : Bool}

/-- The dynamics return a vector with these real parts, as far as the first `n` components are
concerned. -/
def Dynamics.Returns (wideMode : Bool) (f : Dynamics σ Value Value) (s : σ) (call : Value × Value)
    (n : ℕ) (xs : List Number) : Prop :=
  ∃ v s' zs, (f call.1 call.2).outcome s = (.ok v, s') ∧ v.doubleVector wideMode = .ok zs ∧
    zs.take n = xs

namespace StartProblem

variable {P Q : StartProblem} {v : StartVectors Number} {size size' : ℕ}
  {F : Dynamics σ Value Value} {G : Dynamics τ Value Value}

/-- A magnitude depends on the probe at the guess alone. -/
lemma result_magnitude {C : InitialStep.Candidates Number α} {p : Number → Action σ (List Number)}
    {q : Number → Action τ (List Number)} {start : Except Failure Number}
    (hpq : ∀ h, P.guess v = .ok h → ((p h).outcome s).1 = ((q h).outcome t).1) :
    ((InitialStep.magnitude double C P.forward v p start).outcome s).1 =
      ((InitialStep.magnitude double C P.forward v q start).outcome t).1 := by
  unfold InitialStep.magnitude
  refine Action.result_lift_bind _ fun size hsize => ?_
  refine Action.result_lift_bind _ fun slopeSize hslopeSize => ?_
  have hguess : P.guess v = .ok (InitialStep.directed double P.forward
      (InitialStep.roughGuess double size slopeSize)) := by
    rw [guess, hsize, hslopeSize]
    rfl
  refine Action.result_bind (hpq _ hguess) fun endSlope s' t' _ _ => ?_
  refine Action.result_lift_bind _ fun bend _ => ?_
  exact Action.result_lift_bind _ fun h _ => rfl

/-- A problem over floats and dual numbers with `size` components. The real parts of its state and of
its derivative start as in `v`, which has as many of them as the scale. -/
structure StartsWith (wideMode : Bool) (P : StartProblem) (size : ℕ) (v : StartVectors Number) :
    Prop where
  time : P.state.time.IsFloatOrDual
  scale : P.scale.doubleVector wideMode = .ok v.scale
  fits : v.scale.length ≤ size
  state : ∃ y xs, P.state.completeState wideMode = .ok y ∧ y.IsFieldVector size ∧
    y.doubleVector wideMode = .ok xs ∧ xs.take v.scale.length = v.state
  slope : ∃ slope xs, P.state.completeDerivative wideMode = .ok slope ∧ slope.IsFieldVector size ∧
    slope.doubleVector wideMode = .ok xs ∧ xs.take v.scale.length = v.slope

/-- Blocks of floats and dual numbers, as many on both sides and of one total length. -/
lemma startsWith_of_blocks {sizes slopeSizes : List ℕ} (htime : P.state.time.IsFloatOrDual)
    (hblocks : List.Forall₂ (fun b n => b.IsFieldVector n) P.state.blocks sizes)
    (hslopes : List.Forall₂ (fun b n => b.IsFieldVector n) P.state.slopes slopeSizes)
    (hcount : P.state.secondaryDerivatives.length = P.state.secondary.length)
    (hsizes : slopeSizes.sum = sizes.sum) (hv : P.startVectors wideMode = .ok v) :
    P.StartsWith wideMode sizes.sum v := by
  obtain ⟨y, hy, hyvector⟩ :=
    State.joinClosed_fieldVectors.joinBlocks wideMode hblocks (List.cons_ne_nil _ _)
  obtain ⟨slope, hslope, hslopevector⟩ :=
    State.joinClosed_fieldVectors.joinBlocks wideMode hslopes (List.cons_ne_nil _ _)
  have hattached : P.state.derivative ≠ .absent := by
    obtain ⟨hfirst, -⟩ | ⟨hfirst, -⟩ := hslopes
    intro habsent
    simp [habsent, Value.IsFieldVector] at hfirst
  have hderivative : P.state.completeDerivative wideMode = .ok slope := by
    rw [State.completeDerivative_attached hattached, if_pos hcount]
    exact hslope
  obtain ⟨⟨y', slope'⟩, hvectors, hreal⟩ := Except.bind_eq_ok.mp hv
  obtain ⟨rfl, rfl⟩ : y = y' ∧ slope = slope' := by
    have hstate : P.state.completeState wideMode = .ok y := hy
    simpa [StartProblem.vectors, hstate, hderivative, bind, Except.bind, pure, Except.pure]
      using hvectors
  obtain ⟨scale, xs, ks, hscale, hxs, hks, hfits, rfl⟩ := realVectors_eq_ok hreal
  obtain ⟨zs, hzs, hlength⟩ := Value.doubleVector_fieldVector wideMode hyvector
  obtain rfl := Except.ok.inj (hxs.symm.trans hzs)
  exact ⟨htime, hscale, hlength ▸ hfits, ⟨y, xs, hy, hyvector, hxs, rfl⟩,
    ⟨slope, ks, hderivative, hsizes ▸ hslopevector, hks, rfl⟩⟩

/-- The vectors of such a problem, of which the estimate sees `v`. -/
lemma StartsWith.vectors (hP : P.StartsWith wideMode size v) :
    ∃ y slope, P.vectors wideMode = .ok (y, slope) ∧ y.IsFieldVector size ∧
      slope.IsFieldVector size ∧ P.realVectors wideMode y slope = .ok v := by
  obtain ⟨y, xs, hy, hyvector, hxs, hstate⟩ := hP.state
  obtain ⟨slope, ks, hslope, hslopevector, hks, hslopes⟩ := hP.slope
  refine ⟨y, slope, by rw [StartProblem.vectors, hy, hslope]; rfl, hyvector, hslopevector, ?_⟩
  have hlength : ¬xs.length < v.scale.length := by
    obtain ⟨zs, hzs, hsize⟩ := Value.doubleVector_fieldVector wideMode hyvector
    obtain rfl := Except.ok.inj (hxs.symm.trans hzs)
    have hfits := hP.fits
    omega
  have hleading : StartVectors.leading ⟨xs, ks, v.scale⟩ = v := by
    simp only [StartVectors.leading, hstate, hslopes]
  rw [realVectors, hP.scale, hxs, hks]
  simp only [bind, Except.bind]
  rw [if_neg hlength, ← hleading]
  rfl

/-- The dynamics are evaluated at the guess, and the estimate sees the first components of what they
return. -/
lemma StartsWith.probe (hP : P.StartsWith wideMode size v) {y slope : Value}
    (hvectors : P.vectors wideMode = .ok (y, slope)) (hy : y.IsFieldVector size)
    (hslope : slope.IsFieldVector size) (hreal : P.realVectors wideMode y slope = .ok v)
    (horder : P.order.compare wideMode .atMost (.integer 0) = .ok false) {h : Number}
    (hguess : P.guess v = .ok h) :
    ∃ call, P.evaluation wideMode = .ok call ∧
      ∀ {σ : Type} {F : Dynamics σ Value Value} {s : σ} {xs : List Number},
        F.Returns wideMode s call v.scale.length xs →
          ((P.probe wideMode F y slope v.scale.length h).outcome s).1 = .ok xs := by
  have hstep : (Value.real h).IsFloatOrDual := .inl rfl
  obtain ⟨next, hnext⟩ := Value.eulerStep_fieldVector wideMode hy hslope h
  obtain ⟨time, htime, -⟩ := Value.combine_floatOrDual wideMode .add hP.time hstep
  refine ⟨(time, next), ?_, fun {σ F s xs} hF => ?_⟩
  · rw [evaluation, horder, hvectors]
    simp [hreal, hguess, hnext, htime, bind, Except.bind, pure, Except.pure]
  · obtain ⟨w, s', zs, hw, hzs, hxs⟩ := hF
    unfold StartProblem.probe
    rw [Action.outcome_ok_bind hnext, Action.outcome_ok_bind htime, Action.outcome_bind, hw]
    dsimp only
    rw [Action.outcome_ok_bind hzs, Action.outcome_pure, hxs]

/-- Components without a scale do not change the first step. Two problems over floats and dual numbers
that start with the same real parts have the same first step, or fail for the same reason, if the
dynamics return vectors that start with the same real parts where the two problems evaluate them. The
other components, their number and the way in which the problems are split into blocks do not matter. -/
theorem firstStep_startsWith (hP : P.StartsWith wideMode size v) (hQ : Q.StartsWith wideMode size' v)
    (horder : P.order = Q.order) (hforward : P.forward = Q.forward)
    (htime : P.state.time.realPart wideMode = Q.state.time.realPart wideMode)
    (hresults : ∀ call call', P.evaluation wideMode = .ok call → Q.evaluation wideMode = .ok call' →
      ∃ xs, F.Returns wideMode s call v.scale.length xs ∧ G.Returns wideMode t call' v.scale.length xs)
    (bounds : StepBounds) :
    ((P.firstStep wideMode F bounds).outcome s).1 = ((Q.firstStep wideMode G bounds).outcome t).1 := by
  have hdirected (h : Value) : P.directed h = Q.directed h := by simp only [directed, hforward]
  have hguess : P.guess v = Q.guess v := by simp only [guess, hforward]
  unfold firstStep
  split
  · exact hdirected _
  · unfold estimate
    rw [horder, hforward, htime]
    refine Action.result_lift_bind _ fun refused hrefused => ?_
    cases refused
    case true => rfl
    obtain ⟨y, slope, hvectors, hy, hslope, hreal⟩ := hP.vectors
    obtain ⟨y', slope', hvectors', hy', hslope', hreal'⟩ := hQ.vectors
    simp only [Bool.false_eq_true, if_false]
    rw [Action.outcome_ok_bind hvectors, Action.outcome_ok_bind hvectors']
    dsimp only
    rw [Action.outcome_ok_bind hreal, Action.outcome_ok_bind hreal']
    refine Action.result_bind (result_magnitude fun h hh => ?_) fun h _ _ _ _ => ?_
    · -- both problems evaluate the dynamics at the same guess
      obtain ⟨call, hcall, hprobe⟩ :=
        hP.probe hvectors hy hslope hreal (horder ▸ hrefused) (hguess.trans hh)
      obtain ⟨call', hcall', hprobe'⟩ := hQ.probe hvectors' hy' hslope' hreal' hrefused hh
      obtain ⟨xs, hF, hG⟩ := hresults call call' hcall hcall'
      rw [hprobe hF, hprobe' hG]
    · refine Action.result_lift_bind _ fun h' _ => ?_
      rw [hdirected]
      rfl

/-- A decaying component in front of one that is NaN, in two lists. -/
def beforeNaN : StartProblem where
  state := ⟨.real (.finite 0), .list [.real (.finite 1)], .list [.real (.finite (-1))],
    [.list [.real .nan]], [.list [.real .nan]]⟩
  scale := .list [.real (.finite 1)]
  order := .integer 1
  forward := true

/-- The same component in front of two others, in an array with a list of dual numbers and floats for
its derivative. -/
def beforeInfinity : StartProblem where
  state := ⟨.dual ⟨.finite 0, .nan⟩,
    .array ⟨.host, .real .float64, false, [3], [.ofInt 1, .ofInt 7, .ofReal (.infinity false)]⟩,
    .list [.dual ⟨.finite (-1), .finite 5⟩, .real (.finite 0), .real .nan], [], []⟩
  scale := .list [.real (.finite 1)]
  order := .integer 1
  forward := true

/-- What both problems show to the estimate: one component, its derivative and its scale. -/
def decayingUnit : StartVectors Number := ⟨[.finite 1], [.finite (-1)], [.finite 1]⟩

lemma startsWith_beforeNaN : beforeNaN.StartsWith false 2 decayingUnit := by
  have hvector (x : Number) : (Value.list [.real x]).IsFieldVector 1 :=
    ⟨rfl, by simp [Value.IsFloatOrDual, Value.IsFloats]⟩
  have htime : beforeNaN.state.time.IsFloats [] := rfl
  have hpair (x y : Number) : List.Forall₂ (fun b n => Value.IsFieldVector n b)
      [.list [.real x], .list [.real y]] [1, 1] := .cons (hvector x) (.cons (hvector y) .nil)
  exact startsWith_of_blocks htime.floatOrDual (hpair _ _) (hpair _ _) rfl rfl rfl

lemma startsWith_beforeInfinity : beforeInfinity.StartsWith false 3 decayingUnit := by
  have hparts : ((beforeInfinity.startVectors false).toOption.map fun v =>
      (v.state, v.slope, v.scale)) = some ([.finite 1], [.finite (-1)], [.finite 1]) := by decide +kernel
  have hv : beforeInfinity.startVectors false = .ok decayingUnit := by
    obtain ⟨v, hv, hv'⟩ := Option.map_eq_some_iff.mp hparts
    rw [ok_of_toOption hv]
    cases v
    simp_all [decayingUnit]
  have hblocks : List.Forall₂ (fun b n => Value.IsFieldVector n b) beforeInfinity.state.blocks [3] :=
    .cons ⟨⟨⟨.float64, rfl⟩, rfl, by simp⟩, rfl⟩ .nil
  have hslopes : List.Forall₂ (fun b n => Value.IsFieldVector n b) beforeInfinity.state.slopes [3] :=
    .cons ⟨rfl, by simp [Value.IsFloatOrDual, Value.IsFloats]⟩ .nil
  exact startsWith_of_blocks (.inr ⟨_, rfl⟩) hblocks hslopes rfl rfl hv

/-- What the dynamics return at the end of the Euler step, by evaluation. -/
lemma returns_of_toOption {call : Value × Value} (hcall : P.evaluation wideMode = .ok call) {n : ℕ}
    {xs : List Number}
    (h : ((P.evaluation wideMode).toOption.bind fun call =>
      ((F call.1 call.2).outcome s).1.toOption.bind fun v =>
        (v.doubleVector wideMode).toOption.map (List.take n)) = some xs) :
    F.Returns wideMode s call n xs := by
  rw [hcall] at h
  have hcalled : ((F call.1 call.2).outcome s).1.toOption.bind (fun v =>
      (v.doubleVector wideMode).toOption.map (List.take n)) = some xs := h
  obtain ⟨v, hv, h⟩ := Option.bind_eq_some_iff.mp hcalled
  obtain ⟨zs, hzs, hxs⟩ := Option.map_eq_some_iff.mp h
  exact ⟨v, _, zs, Prod.ext (ok_of_toOption hv) rfl, ok_of_toOption hzs, hxs⟩

/-- The NaN behind the first component, and the number, the infinity and the derivative parts that
stand there in the other problem, do not keep the estimate from returning the same step. -/
theorem firstStep_beforeInfinity :
    beforeNaN.StartsWith false 2 decayingUnit ∧ beforeInfinity.StartsWith false 3 decayingUnit ∧
      ∃ h, ((beforeNaN.firstStep false (Start.decaying false)
          ⟨.real (.finite 0), .real (.finite 10), none⟩).outcome ()).1 = .ok h ∧
        ((beforeInfinity.firstStep false (Start.decaying false)
          ⟨.real (.finite 0), .real (.finite 10), none⟩).outcome ()).1 = .ok h := by
  refine ⟨startsWith_beforeNaN, startsWith_beforeInfinity, ?_⟩
  have hresults (call call' : Value × Value) (hcall : beforeNaN.evaluation false = .ok call)
      (hcall' : beforeInfinity.evaluation false = .ok call') :
      ∃ xs, (Start.decaying false).Returns false () call 1 xs ∧
        (Start.decaying false).Returns false () call' 1 xs :=
    ⟨[Number.ofRat (-99 / 100)], returns_of_toOption hcall (by decide +kernel),
      returns_of_toOption hcall' (by decide +kernel)⟩
  have hsame := firstStep_startsWith startsWith_beforeNaN startsWith_beforeInfinity rfl rfl rfl hresults
    ⟨.real (.finite 0), .real (.finite 10), none⟩
  have hreturns : ((beforeNaN.firstStep false (Start.decaying false)
      ⟨.real (.finite 0), .real (.finite 10), none⟩).outcome ()).1.toOption.isSome = true := by
    decide +kernel
  obtain ⟨h, hh⟩ := Option.isSome_iff_exists.mp hreturns
  exact ⟨h, ok_of_toOption hh, hsame.symm.trans (ok_of_toOption hh)⟩

end StartProblem

end AdaptiveStep
