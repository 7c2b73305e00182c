import AdaptiveStep.Proofs.BlockEntries
import AdaptiveStep.Proofs.EstimateFailures
import AdaptiveStep.Proofs.EvaluatingActions
import AdaptiveStep.Proofs.RelatedEstimates

/-!
# What the dynamics see

The estimate evaluates the dynamics at most once, at the end of an Euler step. Where the blocks of the
derivative have the lengths of the state's blocks, the vector there is the complete state with each
component advanced along its own slope. The lengths are not compared before the step, so other
derivatives are refused only if there are fewer or more of them than blocks, or if all blocks are arrays
whose totals do not meet. From every other state of floats the dynamics are evaluated at a vector that
is cut short, shifted or repeated.
-/

namespace AdaptiveStep

open Extended FloatType

namespace StartProblem

variable {σ : Type} {s : σ} {wideMode : Bool} {P : StartProblem}

/-- The length of the Euler step, with the sign of the direction of integration. -/
def guess (P : StartProblem) (v : StartVectors Number) : Except Failure Number := do
  let size ← InitialStep.scaledSquares double v.scale v.state
  let slopeSize ← InitialStep.scaledSquares double v.scale v.slope
  return InitialStep.directed double P.forward (InitialStep.roughGuess double size slopeSize)

/-- The time and the vector at which the estimate evaluates the dynamics, or why it does not. -/
def evaluation (wideMode : Bool) (P : StartProblem) : Except Failure (Value × Value) := do
  if ← P.order.compare wideMode .atMost (.integer 0) then throw (.orderNotPositive P.order)
  let (y, slope) ← P.vectors wideMode
  let h ← P.guess (← P.realVectors wideMode y slope)
  let next ← eulerStep wideMode y slope (.real h)
  return (← P.state.time.combine wideMode .add (.real h), next)

/-- Evaluations, one or none. -/
def calls (r : Except Failure (Value × Value)) : List (Value × Value) :=
  match r with
  | .ok call => [call]
  | .error _ => []

lemma probe_evaluatesOnce (P : StartProblem) (f : Dynamics σ Value Value) (y slope : Value)
    (count : ℕ) (h : Number) :
    Action.EvaluatesOnce f (do
        let next ← eulerStep wideMode y slope (.real h)
        return (← P.state.time.combine wideMode .add (.real h), next))
      (P.probe wideMode f y slope count h) :=
  .lift_bind fun next => .lift_bind fun time => (Action.evaluatesOnce_call time next).bind fun _ =>
    (Action.computes_lift _).bind fun _ => Action.computes_pure _

lemma magnitude_evaluatesOnce {α : Type} {f : Dynamics σ Value Value}
    {C : InitialStep.Candidates Number α} {v : StartVectors Number}
    {probe : Number → Action σ (List Number)} {place : Number → Except Failure (Value × Value)}
    {start : Except Failure Number} (hprobe : ∀ h, Action.EvaluatesOnce f (place h) (probe h)) :
    Action.EvaluatesOnce f (P.guess v >>= place)
      (InitialStep.magnitude double C P.forward v probe start) := by
  unfold guess
  simp only [bind_assoc, pure_bind]
  exact .lift_bind fun _ => .lift_bind fun _ => (hprobe _).bind fun _ =>
    (Action.computes_lift _).bind fun _ => (Action.computes_lift _).bind fun _ =>
      Action.computes_lift _

/-- The estimate evaluates the dynamics at most once, and nowhere else than at the end of an Euler
step. -/
theorem estimate_evaluatesOnce (wideMode : Bool) (P : StartProblem) (f : Dynamics σ Value Value)
    (least greatest : Value) :
    Action.EvaluatesOnce f (P.evaluation wideMode) (P.estimate wideMode f least greatest) := by
  refine .lift_bind fun refused => ?_
  cases refused
  case true => exact Action.evaluatesOnce_throw _
  refine .lift_bind fun vectors => .lift_bind fun v => ?_
  exact (magnitude_evaluatesOnce fun h => probe_evaluatesOnce P f _ _ _ h).bind fun _ =>
    (Action.computes_lift _).bind fun _ => Action.computes_lift _

lemma calls_estimate (P : StartProblem) (f : Dynamics σ Value Value) (least greatest : Value)
    (s : σ) :
    ((P.estimate wideMode (Dynamics.watched f) least greatest).outcome ([], s)).2.1 =
      calls (P.evaluation wideMode) := by
  obtain ⟨finish, houtcome⟩ :=
    estimate_evaluatesOnce wideMode P (Dynamics.watched f) least greatest
  rw [houtcome]
  rcases P.evaluation wideMode with _ | ⟨t, y⟩
  · rfl
  · rfl

/-- A prescribed step needs no evaluation. -/
lemma calls_firstStep (P : StartProblem) (f : Dynamics σ Value Value) (bounds : StepBounds) (s : σ) :
    ((P.firstStep wideMode (Dynamics.watched f) bounds).outcome ([], s)).2.1 =
      match bounds.prescribed with
      | some _ => []
      | none => calls (P.evaluation wideMode) := by
  unfold firstStep
  cases bounds.prescribed with
  | some h => rfl
  | none => exact calls_estimate P f bounds.least bounds.greatest s

/-- The parts of an evaluation. -/
lemma evaluation_eq_ok {call : Value × Value} (h : P.evaluation wideMode = .ok call) :
    ∃ y slope v g, P.order.compare wideMode .atMost (.integer 0) = .ok false ∧
      P.vectors wideMode = .ok (y, slope) ∧ P.realVectors wideMode y slope = .ok v ∧
      eulerStep wideMode y slope (.real g) = .ok call.2 ∧
      P.state.time.combine wideMode .add (.real g) = .ok call.1 := by
  obtain ⟨refused, hrefused, h⟩ := Except.bind_eq_ok.mp h
  cases refused with
  | true => exact absurd h Except.throw_bind_ne_ok
  | false =>
    obtain ⟨⟨y, slope⟩, hvectors, h⟩ := Except.bind_eq_ok.mp h
    obtain ⟨v, hv, h⟩ := Except.bind_eq_ok.mp h
    obtain ⟨g, -, h⟩ := Except.bind_eq_ok.mp h
    obtain ⟨next, hnext, h⟩ := Except.bind_eq_ok.mp h
    obtain ⟨time, htime, h⟩ := Except.bind_eq_ok.mp h
    obtain rfl := Except.ok.inj h
    exact ⟨y, slope, v, g, hrefused, hvectors, hv, hnext, htime⟩

end StartProblem

namespace State

open Value

variable {wideMode : Bool} {S : State}

/-- The blocks of the state. -/
def blocks (S : State) : List Value := S.primary :: S.secondary

/-- The blocks of the derivative. -/
def slopes (S : State) : List Value := S.derivative :: S.secondaryDerivatives

/-- The state and its derivative, which is attached, are made of lists and arrays with one axis. -/
structure OfBlocks (S : State) : Prop where
  blocks : ∀ b ∈ S.blocks, b.IsBlock
  slopes : ∀ b ∈ S.slopes, b.IsBlock

/-- The blocks of the derivative have the lengths of the state's blocks. -/
def Matched (S : State) : Prop :=
  S.slopes.map (·.row.length) = S.blocks.map (·.row.length)

/-- The vector `v` has the components of the complete state, each advanced along the entry of the
derivative in the same block and at the same offset. -/
structure AdvancedTo (wideMode : Bool) (S : State) (h : Number) (v : Value) (rows : List (List Value)) :
    Prop where
  elements : v.elements = .ok rows.flatten
  dimension : S.completeDimension = .ok rows.flatten.length
  lengths : rows.map List.length = S.blocks.map (·.row.length)
  entries : ∀ i j u, entry rows i j = some u →
    ∃ y slope, entry (entries wideMode S.blocks) i j = some y ∧
      entry (entries wideMode S.slopes) i j = some slope ∧ y.advanced wideMode slope h = .ok u

/-- Wherever a problem that starts in this state evaluates the dynamics, they see the complete state
advanced along its own derivative, which matches it. -/
def SeenWhole (wideMode : Bool) (S : State) : Prop :=
  ∀ P : StartProblem, P.state = S → ∀ (σ : Type) (f : Dynamics σ Value Value) (bounds : StepBounds)
    (s : σ), ∀ call ∈ ((P.firstStep wideMode (Dynamics.watched f) bounds).outcome ([], s)).2.1,
      S.Matched ∧ ∃ h rows, S.time.combine wideMode .add (.real h) = .ok call.1 ∧
        S.AdvancedTo wideMode h call.2 rows

/-- The derivative has another number of blocks, or all blocks are arrays and the total lengths do not
meet. -/
def Refused (S : State) : Prop :=
  S.secondaryDerivatives.length ≠ S.secondary.length ∨
    ((∀ b ∈ S.blocks ++ S.slopes, b.isNumericArray = true) ∧
      (S.blocks.map (·.row.length)).sum ≠ (S.slopes.map (·.row.length)).sum ∧
      (S.blocks.map (·.row.length)).sum ≠ 1 ∧ (S.slopes.map (·.row.length)).sum ≠ 1)

lemma Joined.length {bs : List Value} {v : Value} (h : Joined wideMode bs v) :
    v.row.length = (bs.map (·.row.length)).sum := by
  rw [h.row, List.length_flatten, h.lengths]

lemma completeDimension_eq (hS : S.OfBlocks) :
    S.completeDimension = .ok (S.blocks.map (·.row.length)).sum := by
  have hsizes : (S.primary :: S.secondary).mapM Value.size = .ok (S.blocks.map (·.row.length)) :=
    mapM_eq_map fun b hb => (hS.blocks b hb).size
  rw [completeDimension, hsizes, List.sum_eq_foldl]
  rfl

lemma OfBlocks.attached (hS : S.OfBlocks) : S.derivative ≠ .absent := by
  have hblock : S.derivative.IsBlock := hS.slopes _ (List.mem_cons_self ..)
  intro habsent
  simp [habsent, IsBlock] at hblock

/-- The vectors of a state and its derivative, if they have as many blocks. -/
lemma exists_joined_vectors (hS : S.OfBlocks) (wideMode : Bool) :
    ∃ y slope, Joined wideMode S.blocks y ∧ Joined wideMode S.slopes slope ∧
      S.completeState wideMode = .ok y ∧
      (S.secondaryDerivatives.length = S.secondary.length →
        S.completeDerivative wideMode = .ok slope) := by
  obtain ⟨y, hy⟩ := exists_joined wideMode (List.cons_ne_nil _ _) hS.blocks
  obtain ⟨slope, hslope⟩ := exists_joined wideMode (List.cons_ne_nil _ _) hS.slopes
  refine ⟨y, slope, hy, hslope, hy.joins, fun hcount => ?_⟩
  rw [completeDerivative_attached hS.attached, if_pos hcount]
  exact hslope.joins

/-- The rows of an Euler step along a derivative that matches the state. -/
lemma exists_rows_eulerStep (hS : S.OfBlocks) (hmatched : S.Matched) {y slope v : Value}
    (hy : Joined wideMode S.blocks y) (hslope : Joined wideMode S.slopes slope) {h : Number}
    (hv : eulerStep wideMode y slope (.real h) = .ok v) :
    ∃ rows, S.AdvancedTo wideMode h v rows := by
  have hlength : y.row.length = slope.row.length := by rw [hy.length, hslope.length, hmatched]
  obtain ⟨hsteps, helements⟩ := eulerStep_row hy.isBlock hslope.isBlock hlength hv
  have hrows : (entries wideMode S.blocks).map List.length =
      (entries wideMode S.slopes).map List.length := by rw [hy.lengths, hslope.lengths, hmatched]
  rw [hy.row, hslope.row, zip_flatten hrows] at hsteps
  obtain ⟨rows, hflat, hrow⟩ := exists_rows hsteps
  obtain ⟨hlengths, hentries⟩ := entry_of_pairs hrows hrow
  rw [hy.lengths] at hlengths
  refine ⟨rows, by rw [helements, hflat], ?_, hlengths, hentries⟩
  rw [completeDimension_eq hS, List.length_flatten, hlengths]

/-- The vectors of a problem come from the blocks of its state, which are as many as those of the
derivative. -/
lemma joined_of_vectors {P : StartProblem} (hS : P.state.OfBlocks) {y slope : Value}
    (h : P.vectors wideMode = .ok (y, slope)) :
    Joined wideMode P.state.blocks y ∧ Joined wideMode P.state.slopes slope ∧
      P.state.secondaryDerivatives.length = P.state.secondary.length := by
  obtain ⟨y', slope', hy, hslope, hstate, hderivative⟩ := exists_joined_vectors hS wideMode
  obtain ⟨y'', hy'', h⟩ := Except.bind_eq_ok.mp h
  obtain ⟨slope'', hslope'', h⟩ := Except.bind_eq_ok.mp h
  obtain ⟨rfl, rfl⟩ := Prod.mk.inj (Except.ok.inj h)
  obtain rfl := Except.ok.inj (hstate.symm.trans hy'')
  have hcount : P.state.secondaryDerivatives.length = P.state.secondary.length := by
    by_contra hne
    rw [completeDerivative_attached hS.attached, if_neg hne] at hslope''
    simp at hslope''
  obtain rfl := Except.ok.inj ((hderivative hcount).symm.trans hslope'')
  exact ⟨hy, hslope, hcount⟩

/-- Arrays whose total lengths do not meet have no Euler step. -/
lemma not_refused (hcount : S.secondaryDerivatives.length = S.secondary.length) {y slope v : Value}
    (hy : Joined wideMode S.blocks y) (hslope : Joined wideMode S.slopes slope) {h : Number}
    (hv : eulerStep wideMode y slope (.real h) = .ok v) : ¬S.Refused := by
  rintro (hne | ⟨harrays, hlength, hone, hone'⟩)
  · exact hne hcount
  · have hyarray := hy.isNumericArray.mpr fun b hb => harrays b (List.mem_append_left _ hb)
    have hslopearray := hslope.isNumericArray.mpr fun b hb => harrays b (List.mem_append_right _ hb)
    have hmeet := (eulerStep_arrays_ok_iff hy.isBlock hslope.isBlock hyarray hslopearray).mp ⟨v, hv⟩
    rw [hy.length, hslope.length] at hmeet
    omega

/-- A state whose derivative matches it, or is refused, is seen whole. -/
lemma seenWhole_of_matched (hS : S.OfBlocks) (h : S.Matched ∨ S.Refused) :
    S.SeenWhole wideMode := by
  rintro P rfl σ f bounds s call hcall
  rw [StartProblem.calls_firstStep] at hcall
  cases hprescribed : bounds.prescribed with
  | some step => simp [hprescribed] at hcall
  | none =>
    rw [hprescribed] at hcall
    cases hevaluation : P.evaluation wideMode with
    | error e => simp [hevaluation, StartProblem.calls] at hcall
    | ok call' =>
      obtain rfl : call = call' := by simpa [hevaluation, StartProblem.calls] using hcall
      obtain ⟨y, slope, v, g, -, hvectors, -, hstep, htime⟩ := StartProblem.evaluation_eq_ok hevaluation
      obtain ⟨hy, hslope, hcount⟩ := joined_of_vectors hS hvectors
      have hmatched : P.state.Matched := h.resolve_right (not_refused hcount hy hslope hstep)
      obtain ⟨rows, hrows⟩ := exists_rows_eulerStep hS hmatched hy hslope hstep
      exact ⟨hmatched, g, rows, htime, hrows⟩

/-- The time and the components of the state and its derivative are floats. -/
structure OfFloats (S : State) : Prop where
  time : S.time.IsFloats []
  blocks : ∀ b ∈ S.blocks, b.IsVector b.row.length
  slopes : ∀ b ∈ S.slopes, b.IsVector b.row.length

/-- The start of a problem that looks at none of the components. -/
def unscaled (S : State) : StartProblem := ⟨S, .list [], .integer 1, true⟩

lemma Joined.isVector {bs : List Value} {v : Value} (h : Joined wideMode bs v) (hne : bs ≠ [])
    (hbs : ∀ b ∈ bs, b.IsVector b.row.length) : v.IsVector v.row.length := by
  have hforall : List.Forall₂ (fun b n => Value.IsVector n b) bs (bs.map (·.row.length)) :=
    List.forall₂_map_right_iff.mpr (List.forall₂_same.mpr hbs)
  obtain ⟨w, hw, hvector⟩ := joinBlocks_vector wideMode hforall hne
  obtain rfl := Except.ok.inj (h.joins.symm.trans hw)
  rwa [h.length]

lemma row_floats {v : Value} (hv : v.IsBlock) (hfloats : v.IsVector v.row.length) :
    ∀ w ∈ v.row, w.IsFloats [] := by
  obtain ⟨vs, hvs, -, hw⟩ := elements_vector hfloats
  obtain rfl := Except.ok.inj (hv.elements.symm.trans hvs)
  exact hw

lemma advanced_floats {y slope : Value} (hy : y.IsFloats []) (hslope : slope.IsFloats [])
    (g : Number) : ∃ u, y.advanced wideMode slope g = .ok u := by
  have hreal : (Value.real g).IsFloats [] := rfl
  obtain ⟨d, hd, hdfloats⟩ := combine_floats wideMode .mul hslope hreal (by simp) (.inl rfl)
  obtain ⟨u, hu, -⟩ := combine_floats wideMode .add hy hdfloats (by simp) (.inl rfl)
  exact ⟨u, by rw [advanced, hd]; exact hu⟩

/-- Floats that are not both arrays, or are arrays whose lengths meet, have an Euler step. -/
lemma exists_eulerStep (wideMode : Bool) {y slope : Value} (hy : y.IsBlock) (hslope : slope.IsBlock)
    (hyfloats : y.IsVector y.row.length) (hslopefloats : slope.IsVector slope.row.length)
    (h : y.isNumericArray = true → slope.isNumericArray = true →
      y.row.length = slope.row.length ∨ y.row.length = 1 ∨ slope.row.length = 1) (g : Number) :
    ∃ v, eulerStep wideMode y slope (.real g) = .ok v := by
  cases harray : y.isNumericArray && slope.isNumericArray with
  | true =>
    rw [Bool.and_eq_true] at harray
    exact (eulerStep_arrays_ok_iff hy hslope harray.1 harray.2).mpr (h harray.1 harray.2)
  | false =>
    have hadvanced : ∀ p ∈ y.row.zip slope.row, ∃ u, p.1.advanced wideMode p.2 g = .ok u := by
      intro p hp
      obtain ⟨hleft, hright⟩ := List.of_mem_zip hp
      exact advanced_floats (row_floats hy hyfloats _ hleft) (row_floats hslope hslopefloats _ hright) g
    obtain ⟨vs, hvs, -⟩ := mapM_ok hadvanced
    exact ⟨.list vs, by rw [eulerStep_list hy hslope harray, hvs]; rfl⟩

/-- The dynamics are evaluated from every state of floats that is not refused. -/
lemma exists_evaluation (wideMode : Bool) (hS : S.OfBlocks) (hfloats : S.OfFloats) (h : ¬S.Refused) :
    ∃ call, S.unscaled.evaluation wideMode = .ok call := by
  have hcount : S.secondaryDerivatives.length = S.secondary.length := by
    by_contra hne
    exact h (.inl hne)
  obtain ⟨y, slope, hy, hslope, hstate, hderivative⟩ := exists_joined_vectors hS wideMode
  have hyfloats := hy.isVector (List.cons_ne_nil _ _) hfloats.blocks
  have hslopefloats := hslope.isVector (List.cons_ne_nil _ _) hfloats.slopes
  have hvectors : S.unscaled.vectors wideMode = .ok (y, slope) := by
    simp only [StartProblem.vectors, unscaled, hstate, hderivative hcount]
    rfl
  obtain ⟨xs, hxs, -⟩ := doubleVector_vector wideMode hyfloats
  obtain ⟨ks, hks, -⟩ := doubleVector_vector wideMode hslopefloats
  have hscale : S.unscaled.scale.doubleVector wideMode = .ok [] := rfl
  have hreal : S.unscaled.realVectors wideMode y slope = .ok ⟨[], [], []⟩ := by
    simp [StartProblem.realVectors, hscale, hxs, hks, StartVectors.leading, bind, Except.bind, pure,
      Except.pure]
  obtain ⟨g, hg⟩ : ∃ g, S.unscaled.guess ⟨[], [], []⟩ = .ok g := ⟨_, rfl⟩
  have hmeet (hyarray : y.isNumericArray = true) (hslopearray : slope.isNumericArray = true) :
      y.row.length = slope.row.length ∨ y.row.length = 1 ∨ slope.row.length = 1 := by
    rw [hy.length, hslope.length]
    by_contra hlengths
    push Not at hlengths
    refine h (.inr ⟨fun b hb => ?_, hlengths⟩)
    rcases List.mem_append.mp hb with hb | hb
    · exact hy.isNumericArray.mp hyarray b hb
    · exact hslope.isNumericArray.mp hslopearray b hb
  obtain ⟨next, hnext⟩ :=
    exists_eulerStep wideMode hy.isBlock hslope.isBlock hyfloats hslopefloats hmeet g
  have hstart : S.unscaled.state.time.IsFloats [] := hfloats.time
  have hplain : (Value.real g).IsFloats [] := rfl
  obtain ⟨time, htime, -⟩ := combine_floats wideMode .add hstart hplain (by simp) (.inl rfl)
  have horder : S.unscaled.order.compare wideMode .atMost (.integer 0) = .ok false := rfl
  refine ⟨(time, next), ?_⟩
  rw [StartProblem.evaluation, horder, hvectors]
  simp [hreal, hg, hnext, htime, bind, Except.bind, pure, Except.pure]

/-- The dynamics see the complete state, advanced along its own derivative, where the blocks of the
derivative have the lengths of the state's blocks and where the derivative is refused. From any other
state of floats they are evaluated all the same. -/
theorem seenWhole_iff (hS : S.OfBlocks) (wideMode : Bool) :
    (S.Matched ∨ S.Refused → S.SeenWhole wideMode) ∧
      (S.OfFloats → S.SeenWhole wideMode → S.Matched ∨ S.Refused) := by
  refine ⟨seenWhole_of_matched hS, fun hfloats hseen => ?_⟩
  by_contra hneither
  push Not at hneither
  obtain ⟨call, hcall⟩ := exists_evaluation wideMode hS hfloats hneither.2
  have hmem : call ∈ ((S.unscaled.firstStep wideMode
      (Dynamics.watched fun _ _ => throw .singularDynamics : Dynamics (_ × Unit) Value Value)
      ⟨.real (.finite 0), .real (.finite 1), none⟩).outcome ([], ())).2.1 := by
    rw [StartProblem.calls_firstStep, hcall]
    exact List.mem_singleton_self call
  exact hneither.1 (hseen S.unscaled rfl Unit _ _ () call hmem).1

/-- A state of an array and a list, with a derivative of the same lengths. -/
def evenBlocks : State where
  time := .real (.finite 0)
  primary := .array ⟨.host, .real .float32, false, [2], [.ofInt 1, .ofInt 2]⟩
  derivative := .list [.real (.finite 3), .real (.finite 4)]
  secondary := [.list [.real (.finite 5)]]
  secondaryDerivatives := [.array ⟨.device, .integer false, false, [1], [.ofInt 6]⟩]

theorem seenWhole_evenBlocks :
    evenBlocks.OfBlocks ∧ evenBlocks.Matched ∧ evenBlocks.SeenWhole false := by
  have hblocks : evenBlocks.OfBlocks := by
    constructor
    · intro b hb
      simp only [blocks, evenBlocks, List.mem_cons, List.not_mem_nil, or_false] at hb
      rcases hb with rfl | rfl
      · exact ⟨rfl, fun _ => rfl⟩
      · trivial
    · intro b hb
      simp only [slopes, evenBlocks, List.mem_cons, List.not_mem_nil, or_false] at hb
      rcases hb with rfl | rfl
      · trivial
      · exact ⟨rfl, fun _ => rfl⟩
  have hmatched : evenBlocks.Matched := rfl
  exact ⟨hblocks, hmatched, (seenWhole_iff hblocks false).1 (.inl hmatched)⟩

/-- The start of a problem whose derivative has fewer components than its state. -/
def shortSlope : StartProblem where
  state := ⟨.real (.finite 0), .list [.real (.finite 1), .real (.finite 2)], .list [.real (.finite 1)],
    [], []⟩
  scale := .list [.real (.finite 1)]
  order := .integer 1
  forward := true

/-- From this state the dynamics see a vector of one component, although there are two. -/
theorem shortSlope_not_seenWhole :
    shortSlope.state.OfBlocks ∧ shortSlope.state.completeDimension = .ok 2 ∧
      (∃ call, shortSlope.evaluation false = .ok call ∧
        call.2.doubleVector false = .ok [Number.ofRat (101 / 100)]) ∧
      ¬shortSlope.state.SeenWhole false := by
  have hseen : ((shortSlope.evaluation false).toOption.bind fun call =>
      (call.2.doubleVector false).toOption) = some [Number.ofRat (101 / 100)] := by decide +kernel
  obtain ⟨call, hcall, hvector⟩ : ∃ call, shortSlope.evaluation false = .ok call ∧
      call.2.doubleVector false = .ok [Number.ofRat (101 / 100)] := by
    cases hcall : shortSlope.evaluation false with
    | error e => simp [hcall, Except.toOption] at hseen
    | ok call =>
      cases hvector : call.2.doubleVector false with
      | error e => simp [hcall, hvector, Except.toOption] at hseen
      | ok xs => exact ⟨call, rfl, by simpa [hcall, hvector, Except.toOption] using hseen⟩
  refine ⟨⟨?_, ?_⟩, rfl, ⟨call, hcall, hvector⟩, fun h => ?_⟩
  · simp [blocks, shortSlope, IsBlock]
  · simp [slopes, shortSlope, IsBlock]
  · have hmem : call ∈ ((shortSlope.firstStep false
        (Dynamics.watched (StartProblem.constantSlope (.finite 1)))
        ⟨.real (.finite 0), .real (.finite 10), none⟩).outcome ([], ())).2.1 := by
      rw [StartProblem.calls_firstStep, hcall]
      exact List.mem_singleton_self call
    have hmatched := (h shortSlope rfl Unit _ _ () call hmem).1
    simp [Matched, slopes, blocks, shortSlope, row, Value.elements] at hmatched

end State

end AdaptiveStep
