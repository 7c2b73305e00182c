import AdaptiveStep.Proofs.StepNorms

/-!
# Two estimates side by side

Two runs are related if they fail for the same reason or give related results, and if they leave
related worlds. Runs made of related parts are related. So two problems have the same first step if
their vectors have the same real parts, their Euler steps and times are related, and the dynamics give
related vectors the same real parts. Dynamics that are watched tell in addition at which times and
vectors they were evaluated; those are related too.
-/

namespace AdaptiveStep

open Extended FloatType

variable {σ τ α β γ δ : Type}

/-- Both computations fail for the same reason, or their results are related. -/
def Except.Related (V : α → β → Prop) : Except Failure α → Except Failure β → Prop
  | .ok a, .ok b => V a b
  | .error e, .error e' => e = e'
  | .ok _, .error _ => False
  | .error _, .ok _ => False

namespace Except

variable {V : α → β → Prop} {W : γ → δ → Prop}

lemma related_self (x : Except Failure α) : Related Eq x x := by
  cases x <;> rfl

lemma Related.eq {x y : Except Failure α} (h : Related Eq x y) : x = y := by
  cases x <;> cases y <;> simp_all [Related]

lemma Related.bind {x : Except Failure α} {y : Except Failure β} {f : α → Except Failure γ}
    {g : β → Except Failure δ} (h : Related V x y) (hfg : ∀ a b, V a b → Related W (f a) (g b)) :
    Related W (x >>= f) (y >>= g) := by
  cases x <;> cases y
  case ok.ok => exact hfg _ _ h
  case error.error => exact h
  all_goals exact h.elim

end Except

/-- Outcomes with related results, in related worlds. -/
def Action.Related (V : α → β → Prop) (R : σ → τ → Prop) (x : Except Failure α × σ)
    (y : Except Failure β × τ) : Prop :=
  Except.Related V x.1 y.1 ∧ R x.2 y.2

namespace Action

variable {V : α → β → Prop} {W : γ → δ → Prop} {R : σ → τ → Prop} {s : σ} {t : τ}

lemma related_lift {x : Except Failure α} {y : Except Failure β} (h : Except.Related V x y)
    (hst : R s t) :
    Related V R ((liftM x : Action σ α).outcome s) ((liftM y : Action τ β).outcome t) := ⟨h, hst⟩

/-- A computation that both runs share. -/
lemma related_shared (x : Except Failure α) (hst : R s t) :
    Related Eq R ((liftM x : Action σ α).outcome s) ((liftM x : Action τ α).outcome t) :=
  related_lift (Except.related_self x) hst

/-- Runs in a row are related if the first ones are, and after related results and worlds so are
those that follow. -/
theorem Related.bind {p : Action σ α} {q : Action τ β} {f : α → Action σ γ} {g : β → Action τ δ}
    (h : Related V R (p.outcome s) (q.outcome t))
    (hfg : ∀ a b s t, V a b → R s t → Related W R ((f a).outcome s) ((g b).outcome t)) :
    Related W R ((p >>= f).outcome s) ((q >>= g).outcome t) := by
  rw [outcome_bind, outcome_bind]
  rcases hp : p.outcome s with ⟨_ | a, s'⟩ <;> rcases hq : q.outcome t with ⟨_ | b, t'⟩ <;>
    rw [hp, hq] at h
  case ok.ok => exact hfg a b s' t' h.1 h.2
  case error.error => exact h
  all_goals exact h.1.elim

end Action

/-! ### Dynamics -/

namespace Dynamics

/-- Dynamics that remember at which times and vectors they were evaluated. -/
def watched (f : Dynamics σ α β) : Dynamics (List (α × β) × σ) α β := fun t y =>
  ExceptT.mk fun s =>
    let (result, world) := (f t y).outcome s.2
    (result, (s.1 ++ [(t, y)], world))

lemma outcome_watched (f : Dynamics σ α β) (t : α) (y : β) (calls : List (α × β)) (s : σ) :
    (watched f t y).outcome (calls, s) =
      (((f t y).outcome s).1, (calls ++ [(t, y)], ((f t y).outcome s).2)) := rfl

/-- At related times and vectors both dynamics give vectors with the same real parts, or fail for the
same reason. -/
def Related (wideMode : Bool) (T V : Value → Value → Prop) (R : σ → τ → Prop)
    (F : Dynamics σ Value Value) (f : Dynamics τ Value Value) : Prop :=
  ∀ t t' y y' s s', T t t' → V y y' → R s s' →
    Action.Related (fun v v' => v.doubleVector wideMode = v'.doubleVector wideMode) R
      ((F t y).outcome s) ((f t' y').outcome s')

variable {wideMode : Bool} {T V : Value → Value → Prop} {R : σ → τ → Prop}
  {F : Dynamics σ Value Value} {f : Dynamics τ Value Value}

/-- Related dynamics that are watched have been evaluated at related times and vectors. -/
lemma Related.watched (h : Related wideMode T V R F f) :
    Related wideMode T V
      (fun p q => List.Forall₂ (fun c d => T c.1 d.1 ∧ V c.2 d.2) p.1 q.1 ∧ R p.2 q.2)
      (watched F) (watched f) := by
  rintro t t' y y' ⟨calls, s⟩ ⟨calls', s'⟩ ht hy ⟨hcalls, hs⟩
  obtain ⟨hresult, hworld⟩ := h t t' y y' s s' ht hy hs
  refine ⟨hresult, ?_, hworld⟩
  exact List.rel_append hcalls (.cons ⟨ht, hy⟩ .nil)

end Dynamics

/-! ### Problems -/

namespace StartProblem

variable {wideMode : Bool} {T V : Value → Value → Prop} {R : σ → τ → Prop} {s : σ} {s' : τ}
  {P Q : StartProblem} {F : Dynamics σ Value Value} {f : Dynamics τ Value Value}

/-- A vector and its slope beside another vector and its slope: the real parts are the same, and the
Euler steps are related. -/
structure StepsAlike (wideMode : Bool) (V : Value → Value → Prop) (p q : Value × Value) : Prop where
  state : p.1.doubleVector wideMode = q.1.doubleVector wideMode
  slope : p.2.doubleVector wideMode = q.2.doubleVector wideMode
  step : ∀ h, float64.Holds h → Except.Related V (eulerStep wideMode p.1 p.2 (.real h))
    (eulerStep wideMode q.1 q.2 (.real h))

/-- Two problems that the estimate does not tell apart. -/
structure Alike (wideMode : Bool) (T V : Value → Value → Prop) (P Q : StartProblem) : Prop where
  order : P.order = Q.order
  forward : P.forward = Q.forward
  scale : P.scale.doubleVector wideMode = Q.scale.doubleVector wideMode
  start : P.state.time.realPart wideMode = Q.state.time.realPart wideMode
  time : ∀ h, float64.Holds h → Except.Related T (P.state.time.combine wideMode .add (.real h))
    (Q.state.time.combine wideMode .add (.real h))
  vectors : Except.Related (StepsAlike wideMode V) (P.vectors wideMode) (Q.vectors wideMode)

lemma realVectors_alike (h : Alike wideMode T V P Q) {p q : Value × Value}
    (hpq : StepsAlike wideMode V p q) :
    P.realVectors wideMode p.1 p.2 = Q.realVectors wideMode q.1 q.2 := by
  unfold realVectors
  rw [h.scale, hpq.state, hpq.slope]

lemma probe_related (h : Alike wideMode T V P Q) (hF : Dynamics.Related wideMode T V R F f)
    {p q : Value × Value} (hpq : StepsAlike wideMode V p q) (count : ℕ) {g : Number}
    (hg : float64.Holds g) (hs : R s s') :
    Action.Related Eq R ((P.probe wideMode F p.1 p.2 count g).outcome s)
      ((Q.probe wideMode f q.1 q.2 count g).outcome s') := by
  unfold probe
  refine (Action.related_lift (hpq.step g hg) hs).bind fun y y' s s' hy hs => ?_
  refine (Action.related_lift (h.time g hg) hs).bind fun t t' s s' ht hs => ?_
  refine (hF t t' y y' s s' ht hy hs).bind fun v v' s s' hv hs => ?_
  rw [hv]
  refine (Action.related_shared _ hs).bind ?_
  rintro xs _ s s' rfl hs
  exact ⟨rfl, hs⟩

/-- A magnitude follows from the derivatives that the probes give. -/
lemma magnitude_related {C : InitialStep.Candidates Number α} {forward : Bool}
    {v : StartVectors Number} {p : Number → Action σ (List Number)}
    {q : Number → Action τ (List Number)} {start : Except Failure Number} (hs : R s s')
    (hpq : ∀ g s s', float64.Holds g → R s s' →
      Action.Related Eq R ((p g).outcome s) ((q g).outcome s')) :
    Action.Related Eq R ((InitialStep.magnitude double C forward v p start).outcome s)
      ((InitialStep.magnitude double C forward v q start).outcome s') := by
  unfold InitialStep.magnitude
  refine (Action.related_shared _ hs).bind ?_
  rintro size _ s s' rfl hs
  refine (Action.related_shared _ hs).bind ?_
  rintro slopeSize _ s s' rfl hs
  have hguess := InitialStep.holds_directed forward (InitialStep.holds_roughGuess size slopeSize)
  refine (hpq _ s s' hguess hs).bind ?_
  rintro endSlope _ s s' rfl hs
  refine (Action.related_shared _ hs).bind ?_
  rintro bend _ s s' rfl hs
  refine (Action.related_shared _ hs).bind ?_
  rintro h _ s s' rfl hs
  exact Action.related_shared _ hs

theorem estimate_related (h : Alike wideMode T V P Q) (hF : Dynamics.Related wideMode T V R F f)
    (hs : R s s') (least greatest : Value) :
    Action.Related Eq R ((P.estimate wideMode F least greatest).outcome s)
      ((Q.estimate wideMode f least greatest).outcome s') := by
  have hdirected (v : Value) : P.directed v = Q.directed v := by
    simp only [directed, h.forward]
  unfold estimate
  rw [h.order, h.forward, h.start]
  refine (Action.related_shared _ hs).bind ?_
  rintro refused _ s s' rfl hs
  cases refused
  case true => exact ⟨rfl, hs⟩
  refine (Action.related_lift h.vectors hs).bind fun p q s s' hpq hs => ?_
  dsimp only
  rw [realVectors_alike h hpq]
  refine (Action.related_shared _ hs).bind ?_
  rintro v _ s s' rfl hs
  have hprobe (g : Number) (s : σ) (s' : τ) (hg : float64.Holds g) (hs : R s s') :=
    probe_related h hF hpq v.scale.length hg hs
  refine (magnitude_related hs hprobe).bind ?_
  rintro x _ s s' rfl hs
  refine (Action.related_shared _ hs).bind ?_
  rintro y _ s s' rfl hs
  rw [hdirected]
  exact Action.related_shared _ hs

/-- Problems that the estimate does not tell apart have the same first step. -/
theorem firstStep_related (h : Alike wideMode T V P Q) (hF : Dynamics.Related wideMode T V R F f)
    (s : σ) (s' : τ) (hs : R s s') (bounds : StepBounds) :
    Action.Related Eq R ((P.firstStep wideMode F bounds).outcome s)
      ((Q.firstStep wideMode f bounds).outcome s') := by
  unfold firstStep
  split
  · rename_i step _
    have hdirected : P.directed step = Q.directed step := by simp only [directed, h.forward]
    rw [hdirected]
    exact Action.related_shared _ hs
  · exact estimate_related h hF hs bounds.least bounds.greatest

end StartProblem

/-! ### Problems made of blocks -/

/-- The blocks of an attached derivative are joined if they are as many as those of the state. -/
lemma State.completeDerivative_attached {S : State} (hattached : S.derivative ≠ .absent)
    (wideMode : Bool) :
    S.completeDerivative wideMode =
      if S.secondaryDerivatives.length = S.secondary.length then
        State.joinBlocks wideMode (S.derivative :: S.secondaryDerivatives)
      else .error (.derivativeCount S.secondary.length S.secondaryDerivatives.length) := by
  unfold completeDerivative
  split
  · next habsent => exact absurd habsent hattached
  · rfl

/-- The data of a problem over blocks `β` at a start time `τ`. The same data can be given to the
estimate in several ways. -/
structure Start (τ β : Type) where
  time : τ
  primary : β
  derivative : Option β
  secondary : List β
  secondaryDerivatives : List β
  scale : β
  order : Value
  forward : Bool

namespace Start

variable {wideMode : Bool} {V : Value → Value → Prop}

/-- The data as a problem whose time and blocks are values. -/
def problem (S : Start τ β) (time : τ → Value) (vector : β → Value) : StartProblem where
  state :=
    { time := time S.time
      primary := vector S.primary
      derivative := (S.derivative.map vector).getD .absent
      secondary := S.secondary.map vector
      secondaryDerivatives := S.secondaryDerivatives.map vector }
  scale := vector S.scale
  order := S.order
  forward := S.forward

/-- The blocks of the state. -/
def blocks (S : Start τ β) : List β := S.primary :: S.secondary

/-- The blocks of the derivative `slope`, which is attached. -/
def slopes (S : Start τ β) (slope : β) : List β := slope :: S.secondaryDerivatives

lemma completeDerivative_problem (S : Start τ β) (time : τ → Value) {vector : β → Value}
    (hvector : ∀ b, vector b ≠ .absent) :
    (S.problem time vector).state.completeDerivative wideMode =
      match S.derivative with
      | none => .error .noDerivative
      | some slope =>
        if S.secondaryDerivatives.length = S.secondary.length then
          State.joinBlocks wideMode ((S.slopes slope).map vector)
        else .error (.derivativeCount S.secondary.length S.secondaryDerivatives.length) := by
  cases hslope : S.derivative with
  | none => simp [problem, State.completeDerivative, hslope]
  | some slope =>
    have hderivative : (S.problem time vector).state.derivative = vector slope := by
      simp only [problem, hslope, Option.map_some, Option.getD_some]
    rw [State.completeDerivative_attached (hderivative ▸ hvector slope), hderivative]
    simp only [problem, List.length_map, slopes, List.map_cons]

/-- Two ways of giving the blocks: if joined blocks are related, and related vectors have related
Euler steps, so do the vectors of both problems. -/
theorem vectors_related (S : Start τ β) {time time' : τ → Value} {vector vector' : β → Value}
    (hvector : ∀ b, vector b ≠ .absent) (hvector' : ∀ b, vector' b ≠ .absent)
    {J : List β → Value → Value → Prop}
    (hstate : Except.Related (J S.blocks) (State.joinBlocks wideMode (S.blocks.map vector))
      (State.joinBlocks wideMode (S.blocks.map vector')))
    (hslope : ∀ slope, S.derivative = some slope →
      S.secondaryDerivatives.length = S.secondary.length →
      Except.Related (J (S.slopes slope)) (State.joinBlocks wideMode ((S.slopes slope).map vector))
        (State.joinBlocks wideMode ((S.slopes slope).map vector')))
    (hsteps : ∀ slope, S.derivative = some slope →
      S.secondaryDerivatives.length = S.secondary.length → ∀ y y' k k', J S.blocks y y' →
        J (S.slopes slope) k k' → StartProblem.StepsAlike wideMode V (y, k) (y', k')) :
    Except.Related (StartProblem.StepsAlike wideMode V) ((S.problem time vector).vectors wideMode)
      ((S.problem time' vector').vectors wideMode) := by
  unfold StartProblem.vectors
  refine Except.Related.bind hstate fun y y' hy => ?_
  rw [completeDerivative_problem S time hvector, completeDerivative_problem S time' hvector']
  cases hattached : S.derivative with
  | none => rfl
  | some slope =>
    dsimp only
    split
    · next hcount =>
      refine Except.Related.bind (hslope slope hattached hcount) fun k k' hk => ?_
      exact hsteps slope hattached hcount y y' k k' hy hk
    · rfl

end Start

end AdaptiveStep
