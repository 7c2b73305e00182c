import AdaptiveStep.Proofs.OppositeValues
import AdaptiveStep.Proofs.StepNorms

/-!
# The first step of a mirrored problem

Under time reversal a problem starts at the opposite time with the opposite derivative, and it is
integrated in the other direction. The norms that size the first step are the same for both problems,
but the norm of the second derivative counts in one of the two directions only.
-/

namespace AdaptiveStep

open Extended FloatType

namespace InitialStep

variable {scale xs ys : List Number} {v : StartVectors Number} {guess : Number}

/-- The square of a quotient does not see the sign of the dividend. -/
lemma square_div_of_opposed {x y : Number} (h : Opposed x y) (s : Number) :
    double.square (double.div y s) = double.square (double.div x s) := by
  have hodd := float64.rounding_isOdd
  simp only [Arithmetic.square, double, arithmetic_mul, arithmetic_div]
  rcases h with rfl | ⟨hx, hy⟩
  · rw [Rounding.div_neg_left hodd, Rounding.mul_neg_neg hodd]
  · have hzero {x : Number} (hx : x.isZero = true) : x = .negativeZero ∨ x = .finite 0 := by
      rcases x with _ | _ | _ | q <;> simp_all [isZero]
    have hneg : Rounding.div float64.rounding negativeZero s =
        (Rounding.div float64.rounding (.finite 0) s).neg := by
      rw [← Rounding.div_neg_left hodd, Extended.neg_zero]
    rcases hzero hx with rfl | rfl <;> rcases hzero hy with rfl | rfl <;>
      simp only [hneg, Rounding.mul_neg_neg hodd]

lemma scaledSquares_neg (scale xs : List Number) :
    scaledSquares double scale (xs.map Extended.neg) = scaledSquares double scale xs := by
  have hmap := pairwise_map (fun x s => double.square (double.div x s)) Extended.neg id xs scale
  rw [List.map_id] at hmap
  rw [scaledSquares_eq, scaledSquares_eq, hmap]
  congr 1
  exact pairwise_congr fun x _ s _ => square_div_of_opposed (opposed_neg x) s

/-- The scaled distance of two vectors of doubles is that of their opposites. -/
lemma scaledSquares_sub_neg (hxs : ∀ x ∈ xs, float64.Holds x) (hys : ∀ y ∈ ys, float64.Holds y) :
    pairwise double.sub (xs.map Extended.neg) (ys.map Extended.neg) >>= scaledSquares double scale =
      pairwise double.sub xs ys >>= scaledSquares double scale := by
  have hpairs : pairwise double.sub xs ys =
      (pairwise Prod.mk xs ys).map (List.map fun p => double.sub p.1 p.2) := by
    rw [map_pairwise]
  have hopposites : pairwise double.sub (xs.map Extended.neg) (ys.map Extended.neg) =
      (pairwise Prod.mk xs ys).map (List.map fun p => double.sub p.1.neg p.2.neg) := by
    rw [map_pairwise, pairwise_map]
  rw [hpairs, hopposites]
  cases hps : pairwise Prod.mk xs ys with
  | error e => rfl
  | ok ps =>
    have hsquare : ∀ p ∈ ps, ∀ s ∈ scale, double.square (double.div (double.sub p.1.neg p.2.neg) s) =
        double.square (double.div (double.sub p.1 p.2) s) := by
      intro p hp s _
      obtain ⟨hx, hy⟩ := mem_of_pairwise hps hp
      refine square_div_of_opposed ?_ s
      exact Rounding.sub_neg_neg float64.rounding_isOdd (rounding_convert_of_holds (hxs _ hx))
        (rounding_convert_of_holds (hys _ hy))
    have hmap (u : Number × Number → Number) := pairwise_map
      (fun x s => double.square (double.div x s)) u id ps scale
    simp only [List.map_id] at hmap
    change scaledSquares double scale (ps.map _) = scaledSquares double scale (ps.map _)
    rw [scaledSquares_eq, scaledSquares_eq, hmap, hmap]
    congr 1
    exact pairwise_congr hsquare

variable {σ : Type} {s s' : σ} {forward : Bool} {probe : Number → Action σ (List Number)}

def mirroredVectors (v : StartVectors Number) : StartVectors Number :=
  ⟨v.state, v.slope.map Extended.neg, v.scale⟩

lemma curvature_mirrored (hslope : ∀ x ∈ v.slope, float64.Holds x)
    (hys : ∀ y ∈ ys, float64.Holds y) :
    curvature double (mirroredVectors v) guess (ys.map Extended.neg) =
      curvature double v guess ys := by
  have hcurvature (v : StartVectors Number) (ys : List Number) : curvature double v guess ys =
      (pairwise double.sub ys v.slope >>= scaledSquares double v.scale) >>= fun x =>
        if double.isZero guess then throw .divisionByZero
        else return double.div (double.sqrt x) guess := by
    rw [bind_assoc]
    rfl
  rw [hcurvature, hcurvature, ← scaledSquares_sub_neg hys hslope]
  rfl

lemma directed_not (g : Number) : directed double (!forward) g = (directed double forward g).neg := by
  cases forward
  · exact (Extended.neg_neg g).symm
  · rfl

theorem norms_mirrored {probe' : Number → Action σ (List Number)}
    (hslope : ∀ x ∈ v.slope, float64.Holds x)
    (hholds : ∀ g ys s', (probe g).outcome s = (.ok ys, s') → ∀ y ∈ ys, float64.Holds y)
    (hprobe : ∀ g, float64.Holds g → (probe' g.neg).outcome s =
      ((probe g).outcome s).map (Except.map (List.map Extended.neg)) id) :
    (norms (!forward) (mirroredVectors v) probe').outcome s = (norms forward v probe).outcome s := by
  have hsquares : scaledSquares double v.scale (mirroredVectors v).slope =
      scaledSquares double v.scale v.slope := scaledSquares_neg v.scale v.slope
  have hscale : (mirroredVectors v).scale = v.scale := rfl
  have hstate : (mirroredVectors v).state = v.state := rfl
  simp only [norms, hscale, hstate, hsquares, Action.outcome_bind, Action.outcome_lift,
    Action.outcome_pure, directed_not]
  cases scaledSquares double v.scale v.state with
  | error e => rfl
  | ok size =>
    cases scaledSquares double v.scale v.slope with
    | error e => rfl
    | ok slopeSize =>
      have hguess : float64.Holds (directed double forward (roughGuess double size slopeSize)) :=
        holds_directed forward (holds_roughGuess size slopeSize)
      dsimp only
      rw [hprobe _ hguess]
      rcases hend : (probe (directed double forward (roughGuess double size slopeSize))).outcome s
        with ⟨_ | endSlope, s'⟩
      · rfl
      · simp only [Prod.map, Except.map, id, curvature_mirrored hslope (hholds _ _ _ hend)]

end InitialStep

/-! ### Mirrored problems -/

namespace StartProblem

/-- The problem under time reversal. -/
def mirrored (P : StartProblem) : StartProblem where
  state :=
    { P.state with
      time := P.state.time.negated
      derivative := P.state.derivative.mirrored
      secondaryDerivatives := P.state.secondaryDerivatives.map Value.mirrored }
  scale := P.scale
  order := P.order
  forward := !P.forward

/-- The time is a double, and there are derivatives that are vectors of floats. -/
structure OfFloats (P : StartProblem) (t : Number) : Prop where
  time_eq : P.state.time = .real t
  time_holds : float64.Holds t
  derivative : P.state.derivative.IsFloatVector
  secondary : ∀ v ∈ P.state.secondaryDerivatives, v.IsFloatVector

end StartProblem

namespace Dynamics

variable {σ : Type}

/-- The dynamics under time reversal. -/
def mirrored (f : Dynamics σ Value Value) : Dynamics σ Value Value := fun t y =>
  return (← f t.negated y).mirrored

/-- The derivatives are vectors of floats, and the two zeros are one time. -/
structure OfFloats (f : Dynamics σ Value Value) : Prop where
  derivative : ∀ t y s s' v, (f t y).outcome s = (.ok v, s') → v.IsFloatVector
  zero_time : ∀ y, f (.real .negativeZero) y = f (.real (.finite 0)) y

end Dynamics

namespace StartProblem

variable {σ : Type} {s s' : σ} {wideMode : Bool} {P : StartProblem} {f : Dynamics σ Value Value}
  {least greatest t : Number}

lemma vectors_mirrored (wideMode : Bool) (hP : P.OfFloats t) :
    P.mirrored.vectors wideMode = (P.vectors wideMode).map (fun p => (p.1, p.2.mirrored)) ∧
      ∀ y slope, P.vectors wideMode = .ok (y, slope) → slope.IsFloatVector := by
  have hblocks : ∀ b ∈ P.state.derivative :: P.state.secondaryDerivatives, b.IsFloatVector := by
    intro b hb
    rcases List.mem_cons.mp hb with rfl | hb
    · exact hP.derivative
    · exact hP.secondary b hb
  have hderivative (S : State) (hS : S.derivative ≠ .absent) : S.completeDerivative wideMode =
      if S.secondaryDerivatives.length = S.secondary.length then
        State.joinBlocks wideMode (S.derivative :: S.secondaryDerivatives)
      else .error (.derivativeCount S.secondary.length S.secondaryDerivatives.length) := by
    unfold State.completeDerivative
    split
    · contradiction
    · rfl
  have hpresent {v : Value} (hv : v.IsFloatVector) : v ≠ .absent ∧ v.mirrored ≠ .absent := by
    cases v with
    | array a =>
      rw [Value.mirrored_array hv.2]
      simp
    | list items => simp [Value.mirrored]
    | tuple items => simp [Value.mirrored]
    | _ => exact hv.elim
  obtain ⟨hjoined, hfloats⟩ := State.joinBlocks_mirrored wideMode
    (List.cons_ne_nil P.state.derivative P.state.secondaryDerivatives) hblocks
  have hstate : P.mirrored.state.completeState wideMode = P.state.completeState wideMode := rfl
  have hslope := hderivative P.state (hpresent hP.derivative).1
  have hslope' := hderivative P.mirrored.state (hpresent hP.derivative).2
  have hlength : P.mirrored.state.secondaryDerivatives.length = P.state.secondaryDerivatives.length :=
    List.length_map _
  have hsecondary : P.mirrored.state.secondary = P.state.secondary := rfl
  have hcons : P.mirrored.state.derivative :: P.mirrored.state.secondaryDerivatives =
      (P.state.derivative :: P.state.secondaryDerivatives).map Value.mirrored := rfl
  rw [hlength, hsecondary, hcons, hjoined] at hslope'
  unfold vectors
  rw [hstate, hslope, hslope']
  constructor
  · cases P.state.completeState wideMode with
    | error e => rfl
    | ok y =>
      split_ifs
      · cases State.joinBlocks wideMode (P.state.derivative :: P.state.secondaryDerivatives) <;> rfl
      · rfl
  · intro y slope h
    obtain ⟨y', -, h⟩ := Except.bind_eq_ok.mp h
    obtain ⟨slope', hslope, h⟩ := Except.bind_eq_ok.mp h
    obtain ⟨-, rfl⟩ : y' = y ∧ slope' = slope := by simpa [pure, Except.pure] using h
    split_ifs at hslope
    exact hfloats _ hslope

lemma realVectors_mirrored {y slope : Value} (hslope : slope.IsFloatVector) :
    P.mirrored.realVectors wideMode y slope.mirrored =
      (P.realVectors wideMode y slope).map InitialStep.mirroredVectors := by
  unfold realVectors
  rw [Value.doubleVector_mirrored hslope]
  have hscale : P.mirrored.scale = P.scale := rfl
  rw [hscale]
  cases P.scale.doubleVector wideMode with
  | error e => rfl
  | ok scale =>
    cases y.doubleVector wideMode with
    | error e => rfl
    | ok state =>
      simp only [bind, Except.bind]
      split_ifs
      · rfl
      · cases slope.doubleVector wideMode with
        | error e => rfl
        | ok xs =>
          simp [Except.map, pure, Except.pure, StartVectors.leading, InitialStep.mirroredVectors,
            List.map_take]

lemma holds_realVectors {y slope : Value} (hslope : slope.IsFloatVector)
    {v : StartVectors Number} (hv : P.realVectors wideMode y slope = .ok v) :
    ∀ x ∈ v.slope, float64.Holds x := by
  unfold realVectors at hv
  obtain ⟨scale, -, hv⟩ := Except.bind_eq_ok.mp hv
  obtain ⟨state, -, hv⟩ := Except.bind_eq_ok.mp hv
  dsimp only at hv
  split_ifs at hv
  · exact absurd hv Except.throw_bind_ne_ok
  · obtain ⟨xs, hxs, hv⟩ := Except.bind_eq_ok.mp hv
    obtain rfl := Except.ok.inj hv
    intro x hx
    exact Value.holds_doubleVector hslope hxs x (List.mem_of_mem_take hx)

lemma probe_mirrored (hP : P.OfFloats t) (hf : Dynamics.OfFloats f) {y slope : Value}
    (hslope : slope.IsFloatVector) (count : ℕ) {h : Number} (hh : float64.Holds h) :
    (P.mirrored.probe wideMode (Dynamics.mirrored f) y slope.mirrored count h.neg).outcome s =
      ((P.probe wideMode f y slope count h).outcome s).map
        (Except.map (List.map Extended.neg)) id := by
  have hsum (u h : Number) : (Value.real u).combine wideMode .add (.real h) =
      .ok (.real (double.add u h)) := rfl
  have htime : P.mirrored.state.time = .real t.neg := by
    simp [mirrored, hP.time_eq]
  have hsame (v : Value) : f (Value.real (double.add t.neg h.neg)).negated v =
      f (.real (double.add t h)) v := by
    have hopposed : Opposed (double.add t h) (double.add t.neg h.neg) :=
      Rounding.add_neg_neg float64.rounding_isOdd (rounding_convert_of_holds hP.time_holds)
        (rounding_convert_of_holds hh)
    have hzero {x : Number} (hx : x.isZero = true) (v : Value) :
        f (.real x) v = f (.real (.finite 0)) v := by
      cases x
      case negativeZero => exact hf.zero_time v
      case finite q =>
        obtain rfl : q = 0 := by simpa [isZero] using hx
        rfl
      all_goals simp [isZero] at hx
    rw [Value.negated_real]
    rcases hopposed with hneg | ⟨hx, hy⟩
    · rw [hneg, Extended.neg_neg]
    · rw [hzero hx, hzero (by rw [isZero_neg]; exact hy)]
  unfold probe
  rw [eulerStep_mirrored hslope, htime, hP.time_eq]
  simp only [hsum, Action.outcome_bind, Action.outcome_lift, Dynamics.mirrored, hsame,
    Action.outcome_pure]
  cases eulerStep wideMode y slope (.real h) with
  | error e => rfl
  | ok next =>
    dsimp only
    rcases hresult : (f (.real (double.add t h)) next).outcome s with ⟨_ | result, s'⟩
    · rfl
    · dsimp only
      rw [Value.doubleVector_mirrored (hf.derivative _ _ _ _ _ hresult)]
      cases result.doubleVector wideMode with
      | error e => rfl
      | ok xs => simp [Except.map, Prod.map, List.map_take]

lemma holds_probe (hf : Dynamics.OfFloats f) {y slope : Value} {count : ℕ} {h : Number}
    {xs : List Number}
    (hxs : (P.probe wideMode f y slope count h).outcome s = (.ok xs, s')) :
    ∀ x ∈ xs, float64.Holds x := by
  simp only [probe, Action.outcome_bind_eq_ok, Action.outcome_lift, Action.outcome_pure,
    Prod.mk.injEq, Except.ok.injEq] at hxs
  obtain ⟨next, _, -, time, _, -, result, _, hresult, ys, _, ⟨hys, -⟩, rfl, -⟩ := hxs
  intro x hx
  exact Value.holds_doubleVector (hf.derivative _ _ _ _ _ hresult) hys x (List.mem_of_mem_take hx)

/-- The mirrored problem has the same norms. -/
theorem norms_mirrored (hP : P.OfFloats t) (hf : Dynamics.OfFloats f) :
    (P.mirrored.norms wideMode (Dynamics.mirrored f)).outcome s =
      (P.norms wideMode f).outcome s := by
  obtain ⟨hvectors, hfloats⟩ := vectors_mirrored wideMode hP
  have horder : P.mirrored.order = P.order := rfl
  have hforward : P.mirrored.forward = !P.forward := rfl
  unfold norms
  rw [hvectors, horder, hforward]
  simp only [Action.outcome_bind, Action.outcome_lift]
  cases P.order.compare wideMode .atMost (.integer 0) with
  | error e => rfl
  | ok refused =>
    cases refused
    · simp only [Bool.false_eq_true, if_false, Action.outcome_bind, Action.outcome_lift]
      rcases hp : P.vectors wideMode with _ | ⟨y, slope⟩
      · rfl
      · have hslope := hfloats y slope hp
        simp only [Except.map, realVectors_mirrored hslope]
        rcases hv : P.realVectors wideMode y slope with _ | v
        · rfl
        · dsimp only
          have hprobe (g : Number) (hg : float64.Holds g) :
              (P.mirrored.probe wideMode (Dynamics.mirrored f) y slope.mirrored v.scale.length
                  g.neg).outcome s =
                ((P.probe wideMode f y slope v.scale.length g).outcome s).map
                  (Except.map (List.map Extended.neg)) id :=
            probe_mirrored hP hf hslope v.scale.length hg
          have hholds (g : Number) (ys : List Number) (s' : σ)
              (hys : (P.probe wideMode f y slope v.scale.length g).outcome s = (.ok ys, s')) :=
            holds_probe hf hys
          exact InitialStep.norms_mirrored (holds_realVectors hslope hv) hholds hprobe
    · simp only [if_true, Action.outcome_bind, Action.outcome_throw]

lemma sized_mirrored (hP : P.OfFloats t) (norm guess : Number) :
    P.mirrored.sized wideMode least greatest norm guess =
      P.sized wideMode least greatest norm guess := by
  have habs : double.abs t.neg = double.abs t := Extended.abs_neg t
  have htime : P.state.time.realPart wideMode = .ok t := by rw [hP.time_eq]; rfl
  have htime' : P.mirrored.state.time.realPart wideMode = .ok t.neg := by
    have h : P.mirrored.state.time = .real t.neg := by simp [mirrored, hP.time_eq]
    rw [h]
    rfl
  have hlimited (C : InitialStep.Candidates Number Value) (h : Value) :
      InitialStep.limited double C guess h (.ok t.neg) =
        InitialStep.limited double C guess h (.ok t) := by
    simp only [InitialStep.limited, bind, Except.bind, habs]
  have horder : P.mirrored.order = P.order := rfl
  simp only [sized, horder, htime, htime', hlimited]

/-- Opposite directions give opposite steps to equal magnitudes only. -/
lemma directed_mirrored_iff {p q : Except Failure Value} (hp : ∀ v, p = .ok v → ∃ x, v = .real x)
    (hq : ∀ v, q = .ok v → ∃ x, v = .real x) :
    (p >>= P.mirrored.directed) = (q >>= P.directed).map Value.negated ↔ p = q := by
  have hneg (x y : Number) : x.neg = y.neg ↔ x = y :=
    ⟨fun h => by rw [← Extended.neg_neg x, h, Extended.neg_neg], congrArg _⟩
  unfold directed mirrored
  rcases p with e | v
  · rcases q with e' | w
    · simp [bind, Except.bind, Except.map]
    · obtain ⟨y, rfl⟩ := hq w rfl
      cases P.forward <;> simp [bind, Except.bind, Except.map, Value.neg, Value.negElement]
  · obtain ⟨x, rfl⟩ := hp v rfl
    rcases q with e' | w
    · cases P.forward <;> simp [bind, Except.bind, Except.map, Value.neg, Value.negElement]
    · obtain ⟨y, rfl⟩ := hq w rfl
      cases P.forward <;>
        simp [bind, Except.bind, Except.map, Value.neg, Value.negElement, Extended.neg_neg, hneg]

/-- The mirrored problem has the opposite first step exactly if the step is prescribed, or if the
norm of the first derivative gives the same magnitude as the greater one of both norms. -/
theorem firstStep_mirrored_iff (hP : P.OfFloats t) (hf : Dynamics.OfFloats f)
    (horder : P.order.realNumber?.isSome = true) (prescribed : Option Number) :
    (P.mirrored.firstStep wideMode (Dynamics.mirrored f)
        ⟨.real least, .real greatest, prescribed.map .real⟩).outcome s =
      ((P.firstStep wideMode f ⟨.real least, .real greatest, prescribed.map .real⟩).outcome s).map
        (Except.map Value.negated) id ↔
    (prescribed = none → ∀ n s', (P.norms wideMode f).outcome s = (.ok n, s') →
      P.sized wideMode least greatest (double.max n.slope n.curvature) n.guess =
        P.sized wideMode least greatest n.slope n.guess) := by
  cases prescribed with
  | some h =>
    have hdirected : P.mirrored.directed (.real h) = (P.directed (.real h)).map Value.negated := by
      unfold directed mirrored
      cases P.forward
      · exact congrArg (fun x => Except.ok (Value.real x)) (Extended.neg_neg h).symm
      · rfl
    simp [firstStep, hdirected]
  | none =>
    simp only [firstStep, Option.map_none, estimate_eq, Action.outcome_bind, Action.outcome_lift,
      norms_mirrored hP hf, sized_mirrored hP, forall_const]
    rcases hn : (P.norms wideMode f).outcome s with ⟨_ | n, s'⟩
    · simp [Except.map]
    · have hreal (norm guess : Number) (v : Value)
          (hv : P.sized wideMode least greatest norm guess = .ok v) : ∃ x, v = .real x :=
        sized_real horder hv
      have hiff := directed_mirrored_iff (P := P) (hreal (n.sizing !P.forward) n.guess)
        (hreal (n.sizing P.forward) n.guess)
      have hforward : P.mirrored.forward = !P.forward := rfl
      simp only [Prod.map, id, hforward, Prod.mk.injEq, Except.ok.injEq, hiff, and_true]
      have hnorms : (∀ m r, n = m ∧ s' = r →
          P.sized wideMode least greatest (double.max m.slope m.curvature) m.guess =
            P.sized wideMode least greatest m.slope m.guess) ↔
          P.sized wideMode least greatest (double.max n.slope n.curvature) n.guess =
            P.sized wideMode least greatest n.slope n.guess := by
        constructor
        · exact fun h => h n s' ⟨rfl, rfl⟩
        · rintro h m r ⟨rfl, -⟩
          exact h
      rw [hnorms]
      cases P.forward
      · exact Iff.rfl
      · exact eq_comm

/-- A single component of one with the derivative one, at the time one. -/
def unitStart : StartProblem where
  state := ⟨.real (.finite 1), .list [.real (.finite 1)], .list [.real (.finite 1)], [], []⟩
  scale := .list [.real (.finite 1)]
  order := .integer 1
  forward := true

lemma unitStart_ofFloats : unitStart.OfFloats (.finite 1) := by
  have hone : float64.Holds (.finite 1) := by
    have h : Number.ofRat 1 = .finite 1 := by decide +kernel
    exact h ▸ holds_ofRat _
  refine ⟨rfl, hone, ?_, by simp [unitStart]⟩
  intro v hv
  obtain rfl : v = .real (.finite 1) := by simpa [unitStart] using hv
  exact hone

lemma constantSlope_ofFloats {x : Number} (hx : float64.Holds x) :
    Dynamics.OfFloats (constantSlope x) := by
  refine ⟨fun t y s s' v h => ?_, fun y => rfl⟩
  obtain ⟨rfl, -⟩ : Value.list [.real x] = v ∧ s = s' := by simpa [constantSlope] using h
  intro w hw
  obtain rfl : w = .real x := by simpa using hw
  exact hx

/-- Without curvature the mirrored problem has the opposite first step. -/
theorem firstStep_mirrored_unitStart :
    (unitStart.mirrored.firstStep false (Dynamics.mirrored (constantSlope (.finite 1)))
        ⟨.real (.finite 0), .real (.finite 10), none⟩).outcome () =
      ((unitStart.firstStep false (constantSlope (.finite 1))
        ⟨.real (.finite 0), .real (.finite 10), none⟩).outcome ()).map
        (Except.map Value.negated) id := by
  have hone : float64.Holds (.finite 1) := unitStart_ofFloats.time_holds
  refine (firstStep_mirrored_iff unitStart_ofFloats (constantSlope_ofFloats hone) rfl none).mpr ?_
  rintro - n s' hn
  have hmax : (((unitStart.norms false (constantSlope (.finite 1))).outcome ()).1.toOption.map fun n =>
      decide (double.max n.slope n.curvature = n.slope)) = some true := by decide +kernel
  rw [hn] at hmax
  simp only [Except.toOption, Option.map_some, Option.some.injEq, decide_eq_true_eq] at hmax
  rw [hmax]

/-- A derivative that grows from one to three makes the step of the mirrored problem longer. -/
theorem firstStep_mirrored_ne :
    unitStart.OfFloats (.finite 1) ∧ Dynamics.OfFloats (constantSlope (.finite 3)) ∧
      (unitStart.mirrored.firstStep false (Dynamics.mirrored (constantSlope (.finite 3)))
        ⟨.real (.finite 0), .real (.finite 10), none⟩).outcome () ≠
      ((unitStart.firstStep false (constantSlope (.finite 3))
        ⟨.real (.finite 0), .real (.finite 10), none⟩).outcome ()).map
        (Except.map Value.negated) id := by
  have hthree : float64.Holds (.finite 3) := by
    have h : Number.ofRat 3 = .finite 3 := by decide +kernel
    exact h ▸ holds_ofRat _
  refine ⟨unitStart_ofFloats, constantSlope_ofFloats hthree, fun h => ?_⟩
  have hreal := congrArg (fun r => r.1.toOption.bind Value.realNumber?) h
  revert hreal
  decide +kernel

end StartProblem

end AdaptiveStep
