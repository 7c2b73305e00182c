import AdaptiveStep.Integration
import AdaptiveStep.Proofs.VectorLengths
import AdaptiveStep.RightHandSide

/-!
# Integrations start with the estimate

An integration takes its first step over numbers alone, while the estimate takes values of all kinds. For
lists of doubles both are the same: every candidate that the estimate compares is a number, shown as a
value.
-/

namespace AdaptiveStep

open Extended FloatType

variable {σ α β γ : Type}

lemma Except.related_map (x : Except Failure α) (e : α → β) :
    Except.Related (fun b a => b = e a) (x.map e) x := by
  cases x <;> rfl

/-! ### Candidates that are shown -/

namespace InitialStep

/-- The candidates `D` are the candidates `C`, shown as `e`. -/
structure Candidates.Shown (e : β → γ) (C : Candidates α β) (D : Candidates α γ) : Prop where
  ofNumber : ∀ x, D.ofNumber x = e (C.ofNumber x)
  root : ∀ x, D.root x = (C.root x).map e
  isBelow : ∀ x y, D.isBelow (e x) (e y) = C.isBelow x y
  isAbove : ∀ x y, D.isAbove (e x) (e y) = C.isAbove x y

variable {A : Arithmetic α} {e : β → γ} {C : Candidates α β} {D : Candidates α γ}

lemma proposal_shown (h : C.Shown e D) (greatest guess : α) :
    proposal A D greatest guess = (proposal A C greatest guess).map e := by
  unfold proposal
  split_ifs
  · rw [h.ofNumber]
    rfl
  · exact h.root _

lemma limited_shown (h : C.Shown e D) (guess : α) (x : β) (start : Except Failure α) :
    limited A D guess (e x) start = (limited A C guess x start).map e := by
  unfold limited
  simp only [h.ofNumber, h.isBelow]
  cases C.isBelow x (C.ofNumber (A.mul (A.ofRat 100) (A.abs guess))) with
  | error f => rfl
  | ok below =>
    cases start with
    | error f => rfl
    | ok t =>
      have hchosen (u w : β) : (if below = true then e u else e w) = e (if below = true then u else w) :=
        (apply_ite e _ u w).symm
      simp only [bind, Except.bind, hchosen, h.isAbove]
      cases C.isAbove _ _ with
      | error f => rfl
      | ok above => cases above <;> rfl

lemma bounded_shown (h : C.Shown e D) (least greatest x : β) :
    bounded D (e least) (e greatest) (e x) = (bounded C least greatest x).map e := by
  unfold bounded
  simp only [h.isBelow]
  cases C.isBelow x least with
  | error f => rfl
  | ok below =>
    have hchosen (u w : β) : (if below = true then e u else e w) = e (if below = true then u else w) :=
      (apply_ite e _ u w).symm
    simp only [bind, Except.bind, hchosen, h.isAbove]
    cases C.isAbove _ _ with
    | error f => rfl
    | ok above => cases above <;> rfl

variable {forward : Bool} {v : StartVectors α} {start : Except Failure α}
  {p q : α → Action σ (List α)}

/-- Magnitudes for candidates that are shown, with probes that act in the same way. -/
theorem magnitude_shown (h : C.Shown e D)
    (hpq : ∀ g s, (q g).outcome s = (p g).outcome s) (s : σ) :
    Action.Related (fun c b => c = e b) Eq ((magnitude A D forward v q start).outcome s)
      ((magnitude A C forward v p start).outcome s) := by
  unfold magnitude
  refine (Action.related_shared _ rfl).bind ?_
  rintro size _ s _ rfl rfl
  refine (Action.related_shared _ rfl).bind ?_
  rintro slopeSize _ s _ rfl rfl
  have hprobe (g : α) : Action.Related Eq Eq ((q g).outcome s) ((p g).outcome s) := by
    rw [hpq]
    exact ⟨Except.related_self _, rfl⟩
  refine (hprobe _).bind ?_
  rintro endSlope _ s _ rfl rfl
  refine (Action.related_shared _ rfl).bind ?_
  rintro bend _ s _ rfl rfl
  rw [proposal_shown h]
  refine (Action.related_lift (Except.related_map _ e) rfl).bind ?_
  rintro _ x s _ rfl rfl
  rw [limited_shown h]
  exact Action.related_lift (Except.related_map _ e) rfl

/-- The candidates for an integer order that is a double are numbers. -/
lemma shown_real (wideMode : Bool) {n : ℤ} (hn : 1 ≤ n) (hdouble : (Number.ofInt? n).isSome = true) :
    (Candidates.numbers double (.ok (double.div (double.ofRat 1) (double.ofRat n)))).Shown .real
      ((Value.integer n).candidates wideMode) where
  ofNumber := fun _ => rfl
  root := fun x => by
    obtain ⟨d, hd⟩ := Option.isSome_iff_exists.mp hdouble
    have hround : d = double.ofRat n := eq_of_ofInt? hd
    obtain ⟨hzero, -⟩ := reciprocal_order hn hd
    simp only [Value.candidates, Value.reciprocal, Value.plainReciprocal, Value.toNumber,
      Value.elementToNumber, Value.integerToNumber, hd, bind, Except.bind, hzero, pure, Except.pure,
      Value.exponentOf, Value.plainExponentOf, Bool.false_eq_true, if_false, Candidates.numbers, ← hround]
    cases boundedPower double x (double.div (double.ofRat 1) d) <;> rfl
  isBelow := Value.candidates_isBelow
  isAbove := Value.candidates_isAbove

end InitialStep

/-! ### Problems over numbers -/

/-- The dynamics of values act on lists of doubles as the dynamics of numbers do. -/
def Dynamics.ActsAs (wideMode : Bool) (F : Dynamics σ Value Value) (f : Dynamics σ Number (List Number)) :
    Prop :=
  ∀ t y s, (F (.real t) (.ofNumbers y) >>= fun v => liftM (v.doubleVector wideMode)).outcome s =
    (f t y).outcome s

/-- A right-hand side over values acts as it does over numbers. -/
lemma Dynamics.actsAs_onNumbers (wideMode : Bool) (g : RightHandSide) :
    ActsAs wideMode (fun t y => (liftM (g.apply wideMode t y) : Action σ Value))
      fun t y => liftM (g.onNumbers wideMode t y) := by
  intro t y s
  rw [Action.outcome_bind, Action.outcome_lift, Action.outcome_lift, RightHandSide.onNumbers]
  cases g.apply wideMode (.real t) (.ofNumbers y) <;> rfl

namespace IntegrationProblem

/-- The start of an integration as a problem of values. -/
def startProblem (P : IntegrationProblem Number) (slope : List Number) : StartProblem where
  state := ⟨.real P.start, .ofNumbers P.initial, .ofNumbers slope, [], []⟩
  scale := .ofNumbers P.scale
  order := .integer P.order
  forward := P.forward double

variable {wideMode : Bool} {F : Dynamics σ Value Value} {f : Dynamics σ Number (List Number)}

lemma double_mul_comm (x y : Number) : double.mul x y = double.mul y x := by
  cases x <;> cases y <;>
    simp [double, Rounding.mul, value?, mul_comm, Bool.xor_comm, Bool.or_comm, isNaN, isZero, isNegative]

/-- The Euler step in lists of doubles. -/
lemma eulerStep_ofNumbers (h : Number) (ys slopes : List Number) :
    eulerStep wideMode (.ofNumbers ys) (.ofNumbers slopes) (.real h) =
      .ok (.ofNumbers (advance double h ys slopes)) := by
  have helements (xs : List Number) : (Value.ofNumbers xs).elements = .ok (xs.map .real) := rfl
  have hadvance (y slope : Number) : ((Value.real slope).combine wideMode .mul (.real h) >>= fun d =>
      (Value.real y).combine wideMode .add d) = .ok (.real (double.add y (double.mul h slope))) := by
    rw [double_mul_comm]
    rfl
  rw [eulerStep_elements wideMode Value.real Value.real
    (fun y slope => .real (double.add y (double.mul h slope))) ys slopes rfl (helements ys)
    (helements slopes) fun y _ slope _ => hadvance y slope, advance, Value.ofNumbers, List.map_zipWith]

/-- The integration and the estimate see the same derivative at the end of the Euler step. -/
lemma probe_startProblem (hF : F.ActsAs wideMode f) (P : IntegrationProblem Number)
    (slope : List Number) (n : ℕ) (g : Number) (s : σ) :
    ((P.startProblem slope).probe wideMode F (.ofNumbers P.initial) (.ofNumbers slope) n g).outcome s =
      (do return (← f (double.add P.start g) (advance double g P.initial slope)).take n :
        Action σ (List Number)).outcome s := by
  have htime : (P.startProblem slope).state.time.combine wideMode .add (.real g) =
      .ok (.real (double.add P.start g)) := rfl
  unfold StartProblem.probe
  rw [Action.outcome_ok_bind (eulerStep_ofNumbers g P.initial slope), Action.outcome_ok_bind htime,
    ← bind_assoc, Action.outcome_bind, hF, Action.outcome_bind]

lemma compare_order (wideMode : Bool) (n : ℤ) :
    (Value.integer n).compare wideMode .atMost (.integer 0) = .ok (decide (n ≤ 0)) := by
  have hle : double.le (finite (n : ℚ)) (finite ((0 : ℤ) : ℚ)) = decide (n ≤ 0) := by
    rw [Bool.eq_iff_iff, double_le_iff, decide_eq_true_iff]
    simp only [isNaN_finite, lt, Int.cast_zero, true_and, decide_eq_false_iff_not, not_lt]
    exact_mod_cast Iff.rfl
  rw [Value.compare_plain wideMode .atMost (x := finite n) (y := finite (0 : ℤ)) rfl rfl]
  exact congrArg _ hle

lemma realVectors_startProblem (wideMode : Bool) (P : IntegrationProblem Number) (slope : List Number) :
    (P.startProblem slope).realVectors wideMode (.ofNumbers P.initial) (.ofNumbers slope) =
      if P.initial.length < P.scale.length then
        .error (.dimensionMismatch (.integer P.initial.length) (.integer P.scale.length))
      else .ok (StartVectors.leading ⟨P.initial, slope, P.scale⟩) := by
  have hscale : (P.startProblem slope).scale.doubleVector wideMode = .ok P.scale :=
    StartProblem.doubleVector_ofNumbers P.scale
  simp only [StartProblem.realVectors, hscale, StartProblem.doubleVector_ofNumbers, bind, Except.bind]
  split_ifs <;> rfl

/-- The first step of an integration, shown as a value, is the one that the policy finds for the start of
the integration as a problem of values. -/
theorem firstStep_startProblem (P : IntegrationProblem Number)
    (horder : (Number.ofInt? P.order).isSome = true) (p : Policy) (hF : F.ActsAs wideMode f)
    (slope : List Number) (s : σ) :
    Action.Related (fun v x => v = .real x) Eq
      ((p.firstStep wideMode F (P.startProblem slope)).outcome s)
      ((P.firstStep double p.controls f slope).outcome s) := by
  have hdirected (x : Number) : (P.startProblem slope).directed (.real x) =
      .ok (.real (InitialStep.directed double (P.forward double) x)) := by
    unfold StartProblem.directed InitialStep.directed startProblem
    cases P.forward double <;> rfl
  unfold Policy.firstStep StartProblem.firstStep IntegrationProblem.firstStep
  cases hinitial : p.controls.initialStep with
  | some h =>
    simp only [Policy.bounds, hinitial, Option.map_some]
    rw [hdirected]
    exact ⟨rfl, rfl⟩
  | none =>
    simp only [Policy.bounds, hinitial, Option.map_none]
    have hcompare : (P.startProblem slope).order.compare wideMode .atMost (.integer 0) =
        .ok (decide (P.order ≤ 0)) := compare_order wideMode P.order
    have hvectors : (P.startProblem slope).vectors wideMode =
        .ok (.ofNumbers P.initial, .ofNumbers slope) := rfl
    have hreal := realVectors_startProblem wideMode P slope
    unfold StartProblem.estimate
    rw [Action.outcome_ok_bind hcompare]
    by_cases hrefused : P.order ≤ 0
    · simp only [hrefused, decide_true, if_true, Action.outcome_bind, Action.outcome_throw]
      exact ⟨rfl, rfl⟩
    simp only [hrefused, decide_false, Bool.false_eq_true, if_false]
    rw [Action.outcome_ok_bind hvectors]
    dsimp only
    by_cases hlength : P.initial.length < P.scale.length
    · rw [if_pos hlength] at hreal
      simp only [hreal, hlength, if_true, Action.outcome_bind, Action.outcome_lift, Action.outcome_throw]
      exact ⟨rfl, rfl⟩
    · rw [if_neg hlength] at hreal
      have hshown : (InitialStep.Candidates.numbers double
          (.ok (double.div (double.ofRat 1) (double.ofRat P.order)))).Shown .real
            ((P.startProblem slope).order.candidates wideMode) :=
        InitialStep.shown_real wideMode (by omega) horder
      rw [Action.outcome_ok_bind hreal, if_neg hlength]
      refine (InitialStep.magnitude_shown hshown
        (probe_startProblem hF P slope P.scale.length) s).bind ?_
      rintro _ x s _ rfl rfl
      rw [InitialStep.bounded_shown hshown]
      refine (Action.related_lift (Except.related_map _ Value.real) rfl).bind ?_
      rintro _ y s _ rfl rfl
      rw [hdirected]
      exact ⟨rfl, rfl⟩

end IntegrationProblem

end AdaptiveStep
