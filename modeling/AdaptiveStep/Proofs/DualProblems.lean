import AdaptiveStep.Proofs.ListVectors
import AdaptiveStep.Proofs.RelatedEstimates
import AdaptiveStep.RightHandSide

/-!
# Problems over dual numbers

The real part of every operation on dual numbers is that operation on their real parts, whatever the
derivative parts are. So the estimate does not tell a problem over dual numbers from the problem of its
real parts: the first step is the same, and the dynamics are evaluated at dual numbers with the real
parts at which the real dynamics are.
-/

namespace AdaptiveStep

open Extended FloatType

variable {σ : Type} {wideMode : Bool}

namespace Value

/-- Dual numbers as a vector. -/
def ofDuals (ds : List Dual) : Value := listOf .dual ds

/-- The real parts of dual numbers as a vector. -/
def ofRealParts (ds : List Dual) : Value := .ofNumbers (ds.map Dual.value)

lemma ofRealParts_eq (ds : List Dual) : ofRealParts ds = listOf (fun d => .real d.value) ds := by
  simp [ofRealParts, ofNumbers, listOf]

/-- A dual number beside its real part. -/
def IsRealPart (t t' : Value) : Prop := ∃ d : Dual, t = .dual d ∧ t' = .real d.value

/-- A vector of dual numbers beside that of their real parts. -/
def AreRealParts (y y' : Value) : Prop := ∃ ds : List Dual, y = ofDuals ds ∧ y' = ofRealParts ds

lemma onComponents_listOf {α β : Type} {f : α → Value} {g : β → Value} {k : α → β}
    {op : Value → Except Failure Value} {xs : List α} (h : ∀ x ∈ xs, op (f x) = .ok (g (k x))) :
    (listOf f xs).onComponents op = .ok (listOf g (xs.map k)) := by
  have hmap : (xs.map f).mapM op = .ok ((xs.map k).map g) := by
    rw [List.mapM_map, List.map_map]
    exact mapM_eq_map h
  exact congrArg (fun r : Except Failure (List Value) => r >>= fun vs => pure (Value.list vs)) hmap

lemma doubleVector_ofDuals (ds : List Dual) :
    (ofDuals ds).doubleVector wideMode = .ok (ds.map Dual.value) :=
  doubleVector_listOf fun _ _ => rfl

lemma doubleVector_ofRealParts (ds : List Dual) :
    (ofRealParts ds).doubleVector wideMode = .ok (ds.map Dual.value) := by
  rw [ofRealParts_eq]
  exact doubleVector_listOf fun _ _ => rfl

end Value

open Value

/-- A dual number advanced along its derivative by a plain step. -/
def Dual.advanced (h : Number) (y slope : Dual) : Dual :=
  Operation.add.dual y (Operation.mul.dual slope ⟨h, .finite 0⟩)

lemma eulerStep_ofDuals (ys slopes : List Dual) (h : Number) :
    eulerStep wideMode (ofDuals ys) (ofDuals slopes) (.real h) =
      .ok (ofDuals (List.zipWith (Dual.advanced h) ys slopes)) := by
  rw [eulerStep_elements wideMode .dual .dual (fun y slope => .dual (y.advanced h slope)) ys slopes
    rfl rfl rfl (fun _ _ _ _ => rfl)]
  rw [ofDuals, listOf, List.map_zipWith]

lemma eulerStep_ofRealParts (ys slopes : List Dual) (h : Number) :
    eulerStep wideMode (ofRealParts ys) (ofRealParts slopes) (.real h) =
      .ok (ofRealParts (List.zipWith (Dual.advanced h) ys slopes)) := by
  rw [ofRealParts_eq, ofRealParts_eq, ofRealParts_eq,
    eulerStep_elements wideMode (fun d => .real d.value) (fun d => .real d.value)
      (fun y slope => .real (y.advanced h slope).value) ys slopes rfl rfl rfl (fun _ _ _ _ => rfl)]
  rw [listOf, List.map_zipWith]

/-- The dynamics `F` over dual numbers act on the real parts as `f` does, and on the world in the same
way. -/
def Dynamics.Lifts (wideMode : Bool) (F f : Dynamics σ Value Value) : Prop :=
  ∀ (t : Dual) (ys : List Dual) (s : σ),
    Action.Related (fun v v' => v.doubleVector wideMode = v'.doubleVector wideMode) Eq
      ((F (.dual t) (ofDuals ys)).outcome s) ((f (.real t.value) (ofRealParts ys)).outcome s)

namespace Start

variable {F f : Dynamics σ Value Value}

/-- The problem over dual numbers. -/
def dualProblem (D : Start Dual (List Dual)) : StartProblem := D.problem .dual ofDuals

/-- The problem of the real parts. -/
def realProblem (D : Start Dual (List Dual)) : StartProblem :=
  D.problem (fun t => .real t.value) ofRealParts

lemma joinBlocks_ofDuals {blocks : List (List Dual)} (hne : blocks ≠ []) :
    Except.Related AreRealParts (State.joinBlocks wideMode (blocks.map ofDuals))
      (State.joinBlocks wideMode (blocks.map ofRealParts)) := by
  rw [show blocks.map ofDuals = blocks.map (listOf .dual) from rfl,
    List.map_congr_left fun ds _ => ofRealParts_eq ds, State.joinBlocks_listOf _ hne,
    State.joinBlocks_listOf _ hne]
  exact ⟨blocks.flatten, rfl, (ofRealParts_eq _).symm⟩

lemma stepsAlike_ofDuals {y y' slope slope' : Value} (hy : AreRealParts y y')
    (hslope : AreRealParts slope slope') :
    StartProblem.StepsAlike wideMode AreRealParts (y, slope) (y', slope') := by
  obtain ⟨ys, rfl, rfl⟩ := hy
  obtain ⟨slopes, rfl, rfl⟩ := hslope
  refine ⟨?_, ?_, fun h _ => ?_⟩
  · rw [doubleVector_ofDuals, doubleVector_ofRealParts]
  · rw [doubleVector_ofDuals, doubleVector_ofRealParts]
  · rw [eulerStep_ofDuals, eulerStep_ofRealParts]
    exact ⟨_, rfl, rfl⟩

lemma alike_realParts (D : Start Dual (List Dual)) :
    StartProblem.Alike wideMode IsRealPart AreRealParts D.dualProblem D.realProblem where
  order := rfl
  forward := rfl
  scale := (doubleVector_ofDuals D.scale).trans (doubleVector_ofRealParts D.scale).symm
  start := rfl
  time _ _ := ⟨_, rfl, rfl⟩
  vectors := D.vectors_related (J := fun _ => AreRealParts) nofun nofun
    (joinBlocks_ofDuals (List.cons_ne_nil _ _))
    (fun _ _ _ => joinBlocks_ofDuals (List.cons_ne_nil _ _))
    fun _ _ _ _ _ _ _ hy hslope => stepsAlike_ofDuals hy hslope

lemma realParts_of_calls {calls calls' : List (Value × Value)}
    (h : List.Forall₂ (fun c d => IsRealPart c.1 d.1 ∧ AreRealParts c.2 d.2) calls calls') :
    ∃ points : List (Dual × List Dual),
      calls = points.map (fun p => (.dual p.1, ofDuals p.2)) ∧
      calls' = points.map fun p => (.real p.1.value, ofRealParts p.2) := by
  induction h with
  | nil => exact ⟨[], rfl, rfl⟩
  | cons hcall _ ih =>
    obtain ⟨points, rfl, rfl⟩ := ih
    obtain ⟨⟨t, ht, ht'⟩, ys, hys, hys'⟩ := hcall
    exact ⟨(t, ys) :: points, by simp [← ht, ← hys], by simp [← ht', ← hys']⟩

/-- Derivative parts do not change the first step. A problem over dual numbers and the problem of its
real parts have the same first step or fail for the same reason, and the dynamics are evaluated at
dual times and vectors whose real parts are those at which the real dynamics are. -/
theorem firstStep_dualProblem (D : Start Dual (List Dual)) (hF : Dynamics.Lifts wideMode F f)
    (bounds : StepBounds) (s : σ) :
    ∃ (r : Except Failure Value) (points : List (Dual × List Dual)) (s' : σ),
      (D.dualProblem.firstStep wideMode (Dynamics.watched F) bounds).outcome ([], s) =
        (r, points.map (fun p => (.dual p.1, ofDuals p.2)), s') ∧
      (D.realProblem.firstStep wideMode (Dynamics.watched f) bounds).outcome ([], s) =
        (r, points.map (fun p => (.real p.1.value, ofRealParts p.2)), s') := by
  have hlift : Dynamics.Related wideMode IsRealPart AreRealParts Eq F f := by
    rintro _ _ _ _ s _ ⟨t, rfl, rfl⟩ ⟨ys, rfl, rfl⟩ rfl
    exact hF t ys s
  obtain ⟨hresult, hcalls, hworld⟩ := StartProblem.firstStep_related (alike_realParts D)
    hlift.watched ([], s) ([], s) ⟨.nil, rfl⟩ bounds
  obtain ⟨points, hdual, hreal⟩ := realParts_of_calls hcalls
  refine ⟨_, points, _, Prod.ext hresult.eq (Prod.ext hdual hworld), ?_⟩
  exact Prod.ext rfl (Prod.ext hreal rfl)

/-- Dynamics under which each component decays, over dual numbers and over doubles. -/
def decaying (wideMode : Bool) : Dynamics Unit Value Value := fun t y =>
  liftM (RightHandSide.decay.apply wideMode t y)

lemma lifts_decaying : Dynamics.Lifts wideMode (decaying wideMode) (decaying wideMode) := by
  intro t ys s
  have hdual : RightHandSide.decay.apply wideMode (.dual t) (ofDuals ys) =
      .ok (ofDuals (ys.map Dual.neg)) := onComponents_listOf fun _ _ => rfl
  have hreal : RightHandSide.decay.apply wideMode (.real t.value) (ofRealParts ys) =
      .ok (ofRealParts (ys.map Dual.neg)) := by
    rw [ofRealParts_eq, ofRealParts_eq]
    exact onComponents_listOf fun _ _ => rfl
  simp only [decaying, Action.outcome_lift, hdual, hreal]
  exact ⟨(doubleVector_ofDuals _).trans (doubleVector_ofRealParts _).symm, rfl⟩

/-- Two blocks of dual numbers whose derivative parts are infinite or NaN. -/
def unboundedDuals : Start Dual (List Dual) where
  time := ⟨.finite 0, .nan⟩
  primary := [⟨.finite 1, .infinity false⟩, ⟨.finite 2, .finite 1⟩]
  derivative := some [⟨.finite (-1), .nan⟩, ⟨.finite (-2), .finite (-1)⟩]
  secondary := [[⟨.finite 3, .infinity true⟩]]
  secondaryDerivatives := [[⟨.finite (-3), .infinity false⟩]]
  scale := [⟨.finite 1, .nan⟩, ⟨.finite 1, .finite 0⟩]
  order := .integer 2
  forward := true

theorem firstStep_dualProblem_unboundedDuals :
    Dynamics.Lifts false (decaying false) (decaying false) ∧
      ∃ (r : Except Failure Value) (points : List (Dual × List Dual)) (s' : Unit),
        (unboundedDuals.dualProblem.firstStep false (Dynamics.watched (decaying false))
          ⟨.real (.finite 0), .real (.finite 10), none⟩).outcome ([], ()) =
          (r, points.map (fun p => (.dual p.1, ofDuals p.2)), s') ∧
        (unboundedDuals.realProblem.firstStep false (Dynamics.watched (decaying false))
          ⟨.real (.finite 0), .real (.finite 10), none⟩).outcome ([], ()) =
          (r, points.map (fun p => (.real p.1.value, ofRealParts p.2)), s') :=
  ⟨lifts_decaying, firstStep_dualProblem unboundedDuals lifts_decaying _ ()⟩

end Start

end AdaptiveStep
