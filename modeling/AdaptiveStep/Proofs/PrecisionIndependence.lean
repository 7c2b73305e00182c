import AdaptiveStep.Proofs.KeptRealParts
import AdaptiveStep.Proofs.PlainCandidates
import AdaptiveStep.Proofs.SingleArrays

/-!
# Precision settings and the first step

The configured float type does not enter the estimate of a first step. But asking for double precision
turns the wide mode of the device on, and the estimate meets the device in two places: where the
real part of a complex number or of an array without axes is taken, and where blocks that are all
arrays are joined. It is the same under all settings as long as the device keeps what it gets there.
-/

namespace AdaptiveStep

open Extended FloatType

/-! ### Settings -/

/-- Whether double precision is asked for, which turns the wide mode on. -/
def PrecisionRequest.asksDouble (request : PrecisionRequest) : Bool :=
  request.floatType? = some .float64

namespace Precision

/-- The settings after a series of requests. One that fails changes nothing. -/
def after (p : Precision) (requests : List PrecisionRequest) : Precision :=
  requests.foldl (fun p request => (p.set request).toOption.getD p) p

/-- The wide mode is on if it was, or if double precision was ever asked for. -/
theorem wideMode_after (p : Precision) (requests : List PrecisionRequest) :
    (p.after requests).wideMode =
      (p.wideMode || requests.any PrecisionRequest.asksDouble) := by
  have hset (p : Precision) (request : PrecisionRequest) :
      ((p.set request).toOption.getD p).wideMode = (p.wideMode || request.asksDouble) := by
    unfold set PrecisionRequest.asksDouble
    cases request.floatType? with
    | none => simp [Except.toOption]
    | some t => simp [Except.toOption, setType]
  unfold after
  induction requests generalizing p with
  | nil => simp
  | cons request requests ih =>
    rw [List.foldl_cons, ih, hset, List.any_cons, Bool.or_assoc]

end Precision

/-! ### Euler steps -/

section

open Value

variable {y slope : Value} {wideMode wideMode' : Bool}

lemma Value.IsSingle.keepsRealParts {v : Value} (hv : v.IsSingle) : v.KeepsRealParts := by
  cases v with
  | array a => exact .inl rfl
  | _ => exact hv.elim

/-- The Euler step of a vector and a slope on the host that have real parts. -/
theorem eulerStep_host (hy : y.OnHost) (hslope : slope.OnHost) {xs slopes : List Number}
    (hxs : y.doubleVector wideMode = .ok xs) (hslopes : slope.doubleVector wideMode = .ok slopes)
    (h : Number) : eulerStep wideMode y slope (.real h) = eulerStep wideMode' y slope (.real h) := by
  let advance (wideMode : Bool) (p : Value × Value) : Except Failure Value := do
    p.1.combine wideMode .add (← p.2.combine wideMode .mul (.real h))
  have hadvance {y slope : Value} (hy : y.IsHostElement) (hslope : slope.IsHostElement) :
      advance wideMode (y, slope) = advance wideMode' (y, slope) := by
    have hproduct : slope.combine wideMode .mul (.real h) = slope.combine wideMode' .mul (.real h) :=
      combine_host .mul hslope trivial
    simp only [advance]
    rw [← hproduct]
    cases hp : slope.combine wideMode .mul (.real h) with
    | error e => rfl
    | ok p => exact combine_host .add hy (hslope.scaled hp)
  unfold eulerStep
  dsimp only
  split_ifs with harrays
  · obtain ⟨⟨a, rfl⟩, ⟨b, rfl⟩⟩ : (∃ a, y = .array a) ∧ ∃ b, slope = .array b := by
      cases y <;> cases slope <;> simp_all [isNumericArray]
    have ha : (Value.array a).IsHostElement := hy
    have hb : (Value.array b).IsHostElement := hslope
    exact hadvance ha hb
  · cases hys : y.elements with
    | error e => rfl
    | ok ys =>
      cases hss : slope.elements with
      | error e => rfl
      | ok ss =>
        have hpairs : (ys.zip ss).mapM (advance wideMode) = (ys.zip ss).mapM (advance wideMode') :=
          mapM_congr fun p hp => hadvance
            (hy.isHostElement_elements hxs hys p.1 (List.of_mem_zip hp).1)
            (hslope.isHostElement_elements hslopes hss p.2 (List.of_mem_zip hp).2)
        simp only [advance] at hpairs
        simp only [bind, Except.bind] at hpairs ⊢
        rw [hpairs]

/-- The Euler step of arrays of single precision on the device, by a double. -/
theorem eulerStep_single (hy : y.IsSingle) (hslope : slope.IsSingle) {h : Number}
    (hh : float64.Holds h) :
    eulerStep wideMode y slope (.real h) = eulerStep wideMode' y slope (.real h) := by
  obtain ⟨⟨a, rfl⟩, ⟨b, rfl⟩⟩ : (∃ a, y = .array a) ∧ ∃ b, slope = .array b := by
    cases y <;> cases slope <;> simp_all [Value.IsSingle]
  obtain ⟨hproduct, hsingle⟩ :=
    combine_single_double .mul hslope hh wideMode wideMode'
  simp only [eulerStep, isNumericArray, Bool.and_self, if_true]
  rw [← hproduct]
  cases hp : (array b).combine wideMode .mul (real h) with
  | error e => rfl
  | ok p => exact combine_single .add hy (hsingle p hp)

end

/-! ### Blocks -/

namespace State

open Value

variable {blocks : List Value} {wideMode wideMode' : Bool}

/-- Blocks that are not joined on the device, with real parts that the device keeps. -/
inductive HostBlocks : List Value → Prop
  | one {block : Value} (host : block.OnHost) (kept : block.KeepsRealParts) : HostBlocks [block]
  | mixed {blocks : List Value} (elements : blocks.mapM numericArray? = none)
      (host : ∀ b ∈ blocks, b.OnHost)
      (kept : ∀ b ∈ blocks, ∀ vs, b.elements = .ok vs → ∀ v ∈ vs, v.KeepsRealPart) :
      HostBlocks blocks

/-- Several arrays in single precision, or in a type that doubles reach by way of it. -/
def SingleBlocks (blocks : List Value) : Prop :=
  ∃ as : List NumericArray, 2 ≤ as.length ∧ blocks = as.map array ∧ ∀ a ∈ as, a.type.IsSingle

lemma mapM_numericArray (as : List NumericArray) : (as.map array).mapM numericArray? = some as := by
  induction as with
  | nil => rfl
  | cons a as ih => simp [List.mapM_cons, numericArray?, ih]

theorem joinBlocks_host (h : HostBlocks blocks) (wideMode wideMode' : Bool) :
    joinBlocks wideMode blocks = joinBlocks wideMode' blocks ∧
      ∀ v, joinBlocks wideMode blocks = .ok v → v.OnHost ∧ v.KeepsRealParts := by
  cases h with
  | one host kept => exact ⟨rfl, fun v hv => Except.ok.inj hv ▸ ⟨host, kept⟩⟩
  | mixed helements host kept =>
    match blocks with
    | [] => simp at helements
    | [b] =>
      refine ⟨rfl, fun v hv => ?_⟩
      obtain rfl := Except.ok.inj hv
      exact ⟨host _ (by simp), .inr (kept _ (by simp))⟩
    | b :: c :: bs =>
      rw [joinBlocks_cons_cons, joinBlocks_cons_cons, helements]
      refine ⟨rfl, fun v hv => ?_⟩
      obtain ⟨vss, hvss, hv⟩ := Except.bind_eq_ok.mp hv
      obtain rfl := Except.ok.inj hv
      have hblock {w : Value} (hw : w ∈ vss.flatten) :
          ∃ block ∈ b :: c :: bs, ∃ vs, block.elements = .ok vs ∧ w ∈ vs := by
        obtain ⟨vs, hvs, hw⟩ := List.mem_flatten.mp hw
        obtain ⟨block, hblock, hvs⟩ := mem_of_mapM_ok hvss hvs
        exact ⟨block, hblock, vs, hvs, hw⟩
      constructor
      · intro w hw
        obtain ⟨block, hblock, vs, hvs, hw⟩ := hblock hw
        exact (host block hblock).side_elements hvs w hw
      · refine .inr fun ws hws w hw => ?_
        obtain rfl := Except.ok.inj hws
        obtain ⟨block, hblock, vs, hvs, hw⟩ := hblock hw
        exact kept block hblock vs hvs w hw

theorem joinBlocks_single (h : SingleBlocks blocks) (wideMode wideMode' : Bool) :
    joinBlocks wideMode blocks = joinBlocks wideMode' blocks ∧
      ∀ v, joinBlocks wideMode blocks = .ok v → v.IsSingle := by
  obtain ⟨as, hlength, rfl, hsingle⟩ := h
  have hsome := mapM_numericArray as
  match as, hlength with
  | a :: b :: as, _ =>
    obtain ⟨hjoined, htype⟩ :=
      NumericArray.joined_single (List.cons_ne_nil a (b :: as)) hsingle wideMode wideMode'
    have hjoin (wideMode : Bool) : joinBlocks wideMode ((a :: b :: as).map array) =
        .ok (.array (.joined wideMode (a :: b :: as))) := by
      simp only [List.map_cons] at hsome ⊢
      rw [joinBlocks_cons_cons, hsome]
    refine ⟨by rw [hjoin, hjoin, hjoined], fun v hv => ?_⟩
    rw [hjoin] at hv
    obtain rfl := Except.ok.inj hv
    exact ⟨rfl, rfl, htype⟩

/-- Without derivatives of all blocks it is an error in both modes. -/
lemma completeDerivative_cases (S : State) :
    (∃ e, ∀ wideMode, S.completeDerivative wideMode = .error e) ∨
      ∀ wideMode, S.completeDerivative wideMode =
        joinBlocks wideMode (S.derivative :: S.secondaryDerivatives) := by
  unfold completeDerivative
  split
  · exact .inl ⟨_, fun _ => rfl⟩
  · split_ifs
    · exact .inr fun _ => rfl
    · exact .inl ⟨_, fun _ => rfl⟩

end State

/-! ### Problems -/

/-- Nothing that the problem is made of is rounded on a narrow device. -/
structure StartProblem.KeepsPrecision (P : StartProblem) : Prop where
  blocks : (State.HostBlocks (P.state.primary :: P.state.secondary) ∧
      State.HostBlocks (P.state.derivative :: P.state.secondaryDerivatives)) ∨
    (State.SingleBlocks (P.state.primary :: P.state.secondary) ∧
      State.SingleBlocks (P.state.derivative :: P.state.secondaryDerivatives))
  scale : P.scale.KeepsRealParts
  time_host : P.state.time.IsHostElement
  time_kept : P.state.time.KeepsRealPart
  order : P.order.side = .plain

/-- The derivatives have real parts that a narrow device does not round. -/
def Dynamics.KeepsPrecision {σ : Type} (f : Dynamics σ Value Value) : Prop :=
  ∀ t y s v s', (f t y).outcome s = (.ok v, s') → v.KeepsRealParts

namespace StartProblem

open Value State

variable {σ : Type} {s : σ} {P : StartProblem} {f : Dynamics σ Value Value} {y slope : Value}
  {least greatest : Value} {wideMode wideMode' : Bool}

/-- A vector and its slope that the wide mode does not matter for. -/
structure SameSteps (y slope : Value) : Prop where
  state_kept : y.KeepsRealParts
  slope_kept : slope.KeepsRealParts
  place : (y.OnHost ∧ slope.OnHost) ∨ (y.IsSingle ∧ slope.IsSingle)

lemma vectors_keepsPrecision (hP : P.KeepsPrecision) (wideMode wideMode' : Bool) :
    P.vectors wideMode = P.vectors wideMode' ∧
      ∀ y slope, P.vectors wideMode = .ok (y, slope) → SameSteps y slope := by
  have hresult {y slope : Value} (h : P.vectors wideMode = .ok (y, slope)) :
      joinBlocks wideMode (P.state.primary :: P.state.secondary) = .ok y ∧
        joinBlocks wideMode (P.state.derivative :: P.state.secondaryDerivatives) = .ok slope := by
    obtain ⟨y', hy, h⟩ := Except.bind_eq_ok.mp h
    obtain ⟨slope', hslope, h⟩ := Except.bind_eq_ok.mp h
    obtain ⟨rfl, rfl⟩ := Prod.mk.inj (Except.ok.inj h)
    rcases P.state.completeDerivative_cases with ⟨e, herror⟩ | hjoin
    · simp [herror] at hslope
    · exact ⟨hy, hjoin wideMode ▸ hslope⟩
  have hsame (hy : joinBlocks wideMode (P.state.primary :: P.state.secondary) =
        joinBlocks wideMode' (P.state.primary :: P.state.secondary))
      (hslope : joinBlocks wideMode (P.state.derivative :: P.state.secondaryDerivatives) =
        joinBlocks wideMode' (P.state.derivative :: P.state.secondaryDerivatives)) :
      P.vectors wideMode = P.vectors wideMode' := by
    have hderivative : P.state.completeDerivative wideMode =
        P.state.completeDerivative wideMode' := by
      rcases P.state.completeDerivative_cases with ⟨e, herror⟩ | hjoin
      · rw [herror, herror]
      · rw [hjoin, hjoin, hslope]
    simp only [vectors, completeState, hy, hderivative]
  rcases hP.blocks with ⟨hy, hslope⟩ | ⟨hy, hslope⟩
  · obtain ⟨hyjoin, hyvector⟩ := joinBlocks_host hy wideMode wideMode'
    obtain ⟨hslopejoin, hslopevector⟩ := joinBlocks_host hslope wideMode wideMode'
    refine ⟨hsame hyjoin hslopejoin, fun y slope h => ?_⟩
    obtain ⟨hyhost, hykept⟩ := hyvector y (hresult h).1
    obtain ⟨hslopehost, hslopekept⟩ := hslopevector slope (hresult h).2
    exact ⟨hykept, hslopekept, .inl ⟨hyhost, hslopehost⟩⟩
  · obtain ⟨hyjoin, hyvector⟩ := joinBlocks_single hy wideMode wideMode'
    obtain ⟨hslopejoin, hslopevector⟩ := joinBlocks_single hslope wideMode wideMode'
    refine ⟨hsame hyjoin hslopejoin, fun y slope h => ?_⟩
    have hysingle := hyvector y (hresult h).1
    have hslopesingle := hslopevector slope (hresult h).2
    exact ⟨hysingle.keepsRealParts, hslopesingle.keepsRealParts, .inr ⟨hysingle, hslopesingle⟩⟩

lemma realVectors_keepsPrecision (hP : P.KeepsPrecision) (h : SameSteps y slope) :
    P.realVectors wideMode y slope = P.realVectors wideMode' y slope := by
  unfold realVectors
  rw [doubleVector_eq hP.scale wideMode wideMode', doubleVector_eq h.state_kept wideMode wideMode',
    doubleVector_eq h.slope_kept wideMode wideMode']

lemma doubleVectors_of_realVectors {v : StartVectors Number}
    (h : P.realVectors wideMode y slope = .ok v) :
    (∃ xs, y.doubleVector wideMode = .ok xs) ∧ ∃ slopes, slope.doubleVector wideMode = .ok slopes := by
  unfold realVectors at h
  obtain ⟨scale, -, h⟩ := Except.bind_eq_ok.mp h
  obtain ⟨state, hstate, h⟩ := Except.bind_eq_ok.mp h
  dsimp only at h
  split_ifs at h
  · exact absurd h Except.throw_bind_ne_ok
  · obtain ⟨slopes, hslopes, -⟩ := Except.bind_eq_ok.mp h
    exact ⟨⟨state, hstate⟩, ⟨slopes, hslopes⟩⟩

lemma probe_keepsPrecision (hP : P.KeepsPrecision) (hf : Dynamics.KeepsPrecision f)
    (hsteps : SameSteps y slope) {v : StartVectors Number}
    (hv : P.realVectors wideMode y slope = .ok v) {h : Number} (hh : float64.Holds h) (count : ℕ) :
    (P.probe wideMode f y slope count h).outcome s =
      (P.probe wideMode' f y slope count h).outcome s := by
  have hnext : eulerStep wideMode y slope (.real h) = eulerStep wideMode' y slope (.real h) := by
    obtain ⟨⟨xs, hxs⟩, ⟨slopes, hslopes⟩⟩ := doubleVectors_of_realVectors hv
    rcases hsteps.place with ⟨hy, hslope⟩ | ⟨hy, hslope⟩
    · exact eulerStep_host hy hslope hxs hslopes h
    · exact eulerStep_single hy hslope hh
  have htime : P.state.time.combine wideMode .add (.real h) =
      P.state.time.combine wideMode' .add (.real h) := combine_host .add hP.time_host trivial
  unfold probe
  simp only [Action.outcome_bind, Action.outcome_lift, Action.outcome_pure, hnext, htime]
  cases eulerStep wideMode' y slope (.real h) with
  | error e => rfl
  | ok next =>
    cases P.state.time.combine wideMode' .add (.real h) with
    | error e => rfl
    | ok time =>
      dsimp only
      rcases hresult : (f time next).outcome s with ⟨_ | result, s'⟩
      · rfl
      · have hkept := hf time next s result s' hresult
        dsimp only
        rw [doubleVector_eq hkept wideMode wideMode']

/-- The estimate is the same in both modes. -/
theorem estimate_keepsPrecision (hP : P.KeepsPrecision) (hf : Dynamics.KeepsPrecision f)
    (hleast : least.side = .plain) (hgreatest : greatest.side = .plain) :
    (P.estimate wideMode f least greatest).outcome s =
      (P.estimate wideMode' f least greatest).outcome s := by
  obtain ⟨hvectors, hsteps⟩ := vectors_keepsPrecision hP wideMode wideMode'
  have horder (wideMode : Bool) : P.order.compare wideMode .atMost (.integer 0) =
      comparePlain .atMost P.order (.integer 0) := compare_of_plain .atMost hP.order rfl
  have hstart : P.state.time.realPart wideMode = P.state.time.realPart wideMode' :=
    realPart_eq hP.time_kept
  unfold estimate
  rw [horder, horder, hstart, ← hvectors]
  simp only [Action.outcome_bind, Action.outcome_lift]
  cases comparePlain .atMost P.order (.integer 0) with
  | error e => rfl
  | ok refused =>
    cases refused with
    | true => simp only [if_true, Action.outcome_bind, Action.outcome_throw]
    | false =>
      simp only [Bool.false_eq_true, if_false, Action.outcome_bind, Action.outcome_lift]
      rcases hp : P.vectors wideMode with _ | ⟨y, slope⟩
      · rfl
      · have hstep := hsteps y slope hp
        have hreal : P.realVectors wideMode y slope = P.realVectors wideMode' y slope :=
          realVectors_keepsPrecision hP hstep
        dsimp only
        rw [← hreal]
        cases hv : P.realVectors wideMode y slope with
        | error e => rfl
        | ok v =>
          dsimp only
          have hprobe (g : Number) (hg : float64.Holds g) :
              (P.probe wideMode f y slope v.scale.length g).outcome s =
                (P.probe wideMode' f y slope v.scale.length g).outcome s :=
            probe_keepsPrecision hP hf hstep hv hg _
          let magnitude (candidates : InitialStep.Candidates Number Value) (wideMode : Bool) :=
            (InitialStep.magnitude double candidates P.forward v
              (P.probe wideMode f y slope v.scale.length) (P.state.time.realPart wideMode')).outcome s
          have hleft : magnitude (P.order.candidates wideMode) wideMode =
              magnitude P.order.plainCandidates wideMode' :=
            InitialStep.magnitude_candidates hP.order hprobe
          have hright : magnitude (P.order.candidates wideMode') wideMode' =
              magnitude P.order.plainCandidates wideMode' :=
            InitialStep.magnitude_candidates hP.order fun _ _ => rfl
          simp only [magnitude] at hleft hright
          rw [hleft, hright]
          rcases hh : (InitialStep.magnitude double P.order.plainCandidates P.forward v
            (P.probe wideMode' f y slope v.scale.length)
            (P.state.time.realPart wideMode')).outcome s with ⟨_ | h, s'⟩
          · rfl
          · have hplain := InitialStep.side_magnitude hh
            dsimp only
            rw [InitialStep.bounded_candidates hplain hleast hgreatest,
              InitialStep.bounded_candidates hplain hleast hgreatest]

/-- The settings do not matter for a first step that is prescribed, nor if double precision was asked
for on both sides or on neither, nor if nothing that the problem is made of is rounded on a narrow
device. -/
theorem firstStep_precision_independent (p : Precision) (requests requests' : List PrecisionRequest)
    (bounds : StepBounds)
    (h : bounds.prescribed.isSome = true ∨
      (p.wideMode || requests.any PrecisionRequest.asksDouble) =
        (p.wideMode || requests'.any PrecisionRequest.asksDouble) ∨
      (P.KeepsPrecision ∧ Dynamics.KeepsPrecision f ∧ bounds.least.side = .plain ∧
        bounds.greatest.side = .plain)) :
    (P.firstStep (p.after requests).wideMode f bounds).outcome s =
      (P.firstStep (p.after requests').wideMode f bounds).outcome s := by
  rcases h with hprescribed | hagree | ⟨hP, hf, hleast, hgreatest⟩
  · obtain ⟨step, hstep⟩ := Option.isSome_iff_exists.mp hprescribed
    simp only [firstStep, hstep]
  · rw [Precision.wideMode_after, Precision.wideMode_after, hagree]
  · unfold firstStep
    split
    · rfl
    · exact estimate_keepsPrecision hP hf hleast hgreatest

/-- A state with a complex number, a dual number and a second block that is an array of doubles. The
complex number has a real part of single precision. -/
def mixedBlocks : List Value :=
  [.list [.complex ⟨.finite (1 / 2), Number.ofRat (1 / 10)⟩, .dual ⟨Number.ofRat (1 / 10), .finite 1⟩],
    .array ⟨.host, .real .float64, false, [1], [.ofReal (Number.ofRat (1 / 10))]⟩]

lemma hostBlocks_mixedBlocks : HostBlocks mixedBlocks := by
  have hhalf : float32.Holds (.finite (1 / 2)) :=
    ⟨⟨1, -1, by norm_num, by decide, by decide⟩, by norm_num [FloatType.format]⟩
  refine .mixed rfl ?_ ?_
  · intro b hb
    simp only [mixedBlocks, List.mem_cons, List.not_mem_nil, or_false] at hb
    rcases hb with rfl | rfl
    · simp [OnHost, side]
    · rfl
  · intro b hb vs hvs w hw
    simp only [mixedBlocks, List.mem_cons, List.not_mem_nil, or_false] at hb
    rcases hb with rfl | rfl
    · obtain rfl := Except.ok.inj hvs
      simp only [List.mem_cons, List.not_mem_nil, or_false] at hw
      rcases hw with rfl | rfl
      · exact hhalf
      · trivial
    · obtain rfl := Except.ok.inj hvs
      obtain rfl := List.mem_singleton.mp hw
      trivial

/-- A problem whose state and derivative are made of these blocks. -/
def mixedStart : StartProblem where
  state := ⟨.real (.finite 0), mixedBlocks.head!, mixedBlocks.head!, mixedBlocks.tail, mixedBlocks.tail⟩
  scale := .list [.real (.finite 1)]
  order := .integer 1
  forward := true

lemma keepsPrecision_mixedStart : mixedStart.KeepsPrecision where
  blocks := .inl ⟨hostBlocks_mixedBlocks, hostBlocks_mixedBlocks⟩
  scale := .inr fun vs hvs w hw => by
    obtain rfl := Except.ok.inj hvs
    obtain rfl := List.mem_singleton.mp hw
    trivial
  time_host := trivial
  time_kept := trivial
  order := rfl

theorem firstStep_precision_independent_mixedStart :
    mixedStart.KeepsPrecision ∧ Dynamics.KeepsPrecision (constantSlope (.finite 1)) ∧
      (mixedStart.firstStep Precision.initial.wideMode (constantSlope (.finite 1))
          ⟨.real (.finite 0), .real (.finite 10), none⟩).outcome () =
        (mixedStart.firstStep (Precision.initial.after [.deviceType "float64"]).wideMode
          (constantSlope (.finite 1)) ⟨.real (.finite 0), .real (.finite 10), none⟩).outcome () := by
  have hdynamics : Dynamics.KeepsPrecision (constantSlope (.finite 1)) := by
    intro t y s v s' h
    obtain ⟨rfl, -⟩ : Value.list [.real (.finite 1)] = v ∧ s = s' := by simpa [constantSlope] using h
    refine .inr fun vs hvs w hw => ?_
    obtain rfl := Except.ok.inj hvs
    obtain rfl := List.mem_singleton.mp hw
    trivial
  refine ⟨keepsPrecision_mixedStart, hdynamics, ?_⟩
  exact firstStep_precision_independent .initial [] [.deviceType "float64"] _
    (.inr (.inr ⟨keepsPrecision_mixedStart, hdynamics, rfl, rfl⟩))

/-- A tenth as a complex number. It is no number of single precision. -/
def complexTenth : Value := .complex ⟨Number.ofRat (1 / 10), .finite 0⟩

/-- The start of a problem over the complex numbers that grows by a tenth. -/
def complexStart : StartProblem where
  state := ⟨.real (.finite 0), .list [.complex ⟨.finite 1, .finite 0⟩], .list [complexTenth], [], []⟩
  scale := .list [.real (.finite 1)]
  order := .integer 1
  forward := true

/-- The first step of this problem changes when double precision is asked for. -/
theorem complexStart_precision_dependent :
    (complexStart.firstStep (Precision.initial.after []).wideMode
        (fun _ _ => pure (.list [complexTenth]) : Dynamics Unit Value Value)
        ⟨.real (.finite 0), .real (.finite 10), none⟩).outcome () ≠
      (complexStart.firstStep (Precision.initial.after [.deviceType "float64"]).wideMode
        (fun _ _ => pure (.list [complexTenth]) : Dynamics Unit Value Value)
        ⟨.real (.finite 0), .real (.finite 10), none⟩).outcome () := by
  intro h
  have hstep := congrArg (fun r => r.1.toOption.bind Value.realNumber?) h
  revert hstep
  decide +kernel

end StartProblem

end AdaptiveStep
