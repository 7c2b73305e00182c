import AdaptiveStep.Proofs.ErrorSizes

/-!
# Validated dimensions

A validation holds the tolerances of a policy against the number of components of a state, and so do
the allowed errors: both find the same fault or none. Only a new configuration changes the number of
tolerances. What was validated once therefore fits until then, whatever else is asked of the policy
and whether or not it fails. The recorded number of components fits as well, unless it comes from a
later validation that failed: it is recorded before the tolerances are looked at.
-/

namespace AdaptiveStep

namespace Controls

variable {c d : Controls Number}

/-- The numbers of tolerances, in the order in which they are held against a dimension. -/
def toleranceSizes (c : Controls Number) : List ℕ :=
  c.absolute.size?.toList ++ c.relative.size?.toList

lemma requireDimension_eq (c : Controls Number) (n : ℕ) :
    c.requireDimension n = requireSizes n c.toleranceSizes := by
  rw [toleranceSizes, requireSizes_append, ← Tolerance.requireSize_eq, ← Tolerance.requireSize_eq]
  rfl

lemma toleranceSizes_eq (h : c.vector = d.vector) : c.toleranceSizes = d.toleranceSizes := by
  simp only [toleranceSizes, absolute, relative, h]
  cases d.vector <;> rfl

end Controls

namespace Value

variable {n : ℕ} {v : Value} {wideMode : Bool} {q : Precision} {e : Failure}

/-! ### Conversions never fail for a size -/

lemma realPart_family (h : v.realPart wideMode = .error e) : e.family ≠ .dimension := by
  cases v with
  | integer n =>
    simp only [realPart, integerToNumber] at h
    split at h <;> cases h
    decide
  | rational x =>
    simp only [realPart, rationalToNumber] at h
    split at h <;> cases h
    decide
  | scalar t z => cases t <;> cases h
  | array a =>
    simp only [realPart] at h
    split at h <;> cases h
    decide
  | _ => cases h <;> decide

lemma HasComponents.realVector_family (hv : v.HasComponents n) (h : v.realVector q = .error e) :
    e.family ≠ .dimension := by
  have hlist {items : List Value}
      (h : (do let xs ← items.mapM (realPart q.wideMode)
               return xs.map q.type.convert) = Except.error e) : e.family ≠ .dimension := by
    cases hxs : items.mapM (realPart q.wideMode) with
    | ok xs => simp [hxs, bind, Except.bind, pure, Except.pure] at h
    | error e' =>
      obtain rfl : e' = e := by simpa [hxs, bind, Except.bind] using h
      obtain ⟨w, -, hw⟩ := mapM_error hxs
      exact realPart_family hw
  cases v with
  | list items => exact hlist h
  | tuple items => exact hlist h
  | objects shape items =>
    obtain ⟨rfl, -⟩ := hv
    exact hlist h
  | array a => exact nomatch h
  | _ => exact hv.elim

end Value

namespace Policy

variable {n : ℕ} {p p' : Policy} {q : Precision} {state : State} {old new : Value} {σ : Type}

/-- The tolerances fit a state with so many components. -/
def Fits (n : ℕ) (p : Policy) : Prop :=
  ∀ size ∈ p.controls.toleranceSizes, size = n

/-- The tolerances fit the recorded number of components. -/
def Validated (p : Policy) : Prop :=
  ∃ n, p.mainDimension = some n ∧ p.Fits n

/-- Errors of steps with so many components are never refused for their dimension. -/
def Accepts (n : ℕ) (p : Policy) : Prop :=
  ∀ (q : Precision) (errors old new : Value), errors.HasComponents n → old.HasComponents n →
    new.HasComponents n → ∀ e,
      (p.thresholds q old new = .error e → e.family ≠ .dimension) ∧
      (p.errorNorm q errors old new = .error e → e.family ≠ .dimension)

lemma isTolerance_toleranceValue (t : FloatType) (a : Tolerance Number) :
    (toleranceValue a).IsTolerance t a.size? := by
  cases a with
  | uniform x => exact ⟨rfl, Value.isItem_real t x⟩
  | perComponent xs => exact ⟨by simp [Tolerance.size?], by simp [Value.isItem_real]⟩

lemma Fits.thresholds (hp : p.Fits n) (hold : old.HasComponents n) (hnew : new.HasComponents n) :
    (∃ allowed, p.thresholds q old new = .ok ⟨[n], allowed⟩ ∧ allowed.length = n) ∨
      ∃ e, p.thresholds q old new = .error e ∧ e.family ≠ .dimension := by
  unfold Policy.thresholds
  cases hxs : old.realVector q with
  | error e =>
    exact .inr ⟨e, by simp only [Value.thresholds, hxs]; rfl, hold.realVector_family hxs⟩
  | ok xs =>
    cases hys : new.realVector q with
    | error e =>
      exact .inr ⟨e, by simp only [Value.thresholds, hxs, hys]; rfl, hnew.realVector_family hys⟩
    | ok ys =>
      obtain rfl := hold.length_realVector hxs
      obtain ⟨g, a, hg, ha, hasize⟩ := (isTolerance_toleranceValue q.type p.controls.absolute).grid
      obtain ⟨h, r, hh, hr, hrsize⟩ := (isTolerance_toleranceValue q.type p.controls.relative).grid
      have hsizes : ∀ size ∈ ys.length :: (a.size?.toList ++ r.size?.toList), size = xs.length := by
        rw [hasize, hrsize]
        exact List.forall_mem_cons.mpr ⟨hnew.length_realVector hys, hp⟩
      refine .inl ⟨allowedErrors q.arithmetic xs ys a r, ?_, length_allowedErrors hsizes⟩
      rw [Value.thresholds_of_tolerances hxs hys hg hh ha hr, thresholds_of_sizes hsizes, Except.map,
        length_allowedErrors hsizes]

/-- Tolerances that fit leave no reason to refuse a dimension. -/
theorem Fits.accepts (hp : p.Fits n) : p.Accepts n := by
  intro q errors old new herrors hold hnew e
  rcases hp.thresholds (q := q) hold hnew with ⟨allowed, hallowed, hlength⟩ | ⟨e', he', hfamily⟩
  · refine ⟨fun h => by simp [hallowed] at h, fun h => ?_⟩
    unfold Policy.thresholds at hallowed
    simp only [Policy.errorNorm, Value.errorNorm, hallowed, bind, Except.bind] at h
    cases hes : errors.realVector q with
    | error e' =>
      obtain rfl : e' = e := by simpa [hes] using h
      exact herrors.realVector_family hes
    | ok es =>
      have hsize : es.length = allowed.length := (herrors.length_realVector hes).trans hlength.symm
      simp [hes, scaledError, requireSize, hsize, bind, Except.bind, pure, Except.pure] at h
  · have hsame {e : Failure} (h : p.thresholds q old new = .error e) : e' = e :=
      Except.error.inj (he'.symm.trans h)
    refine ⟨fun h => hsame h ▸ hfamily, fun h => ?_⟩
    unfold Policy.thresholds at he'
    simp only [Policy.errorNorm, Value.errorNorm, he', bind, Except.bind, Except.error.injEq] at h
    exact h ▸ hfamily

/-! ### Validations -/

/-- A validation and the allowed errors of its state end alike. -/
lemma validate_as_thresholds (p : Policy) (h : state.primary.IsRealVector q.wideMode n) :
    ∃ allowed, ((validate state).outcome p).1 = requireSizes n p.controls.toleranceSizes ∧
      p.thresholds q state.primary state.primary = (do
        requireSizes n p.controls.toleranceSizes
        return allowed) := by
  obtain ⟨allowed, hallowed⟩ := Value.thresholds_sizes h h
    (isTolerance_toleranceValue q.type p.controls.absolute)
    (isTolerance_toleranceValue q.type p.controls.relative)
  refine ⟨allowed, ?_, ?_⟩
  · rw [validate_outcome, State.primaryDimension, h.components.size,
      ← Controls.requireDimension_eq]
  · rw [Policy.thresholds, hallowed, requireSizes_cons, requireSize, if_pos rfl]
    rfl

lemma validated_of_validate (h : (validate state).outcome p = (.ok (), p')) : p'.Validated := by
  rw [validate_outcome] at h
  cases hdimension : state.primaryDimension with
  | error e => simp [hdimension] at h
  | ok n =>
    simp only [hdimension, Prod.mk.injEq] at h
    obtain ⟨hsizes, rfl⟩ := h
    rw [Controls.requireDimension_eq] at hsizes
    rcases sizes_cases n p.controls.toleranceSizes with hfits | ⟨m, hm⟩
    · exact ⟨n, rfl, hfits⟩
    · rw [requireSizes_error hm] at hsizes
      exact nomatch hsizes

/-! ### Requests after a validation -/

/-- A request that gave the policy new settings. -/
def Request.Reconfigures (request : Request σ) (answer : Except Failure Answer) : Prop :=
  ∃ c, request = .call c ∧ c.newBounds? ≠ none ∧ ∃ a, answer = .ok a

/-- A validation that failed. -/
def Request.FailsToValidate (request : Request σ) (answer : Except Failure Answer) : Prop :=
  ∃ state e, request = .call (.validate state) ∧ answer = .error e

/-- Requests in a row, each with its answer. -/
def answered (requests : List (Precision × Request σ)) (p : Policy) (world : σ) :
    List (Request σ × Except Failure Answer) :=
  (requests.map Prod.snd).zip (serve requests p world).1

/-- A call records the dimension of the state that it validates, whether or not it fails. -/
lemma perform_mainDimension (c : Call) (wideMode : Bool) (p : Policy) :
    ((c.perform wideMode).outcome p).2.mainDimension = c.dimension?.or p.mainDimension := by
  obtain ⟨_, hframe⟩ := perform_frame c wideMode p
  rw [hframe]

lemma answer_fits {request : Request σ} {world : σ} (hp : p.Fits n)
    (h : ¬request.Reconfigures (request.answer q p world).1) :
    (request.answer q p world).2.1.Fits n := by
  have hvector : (request.answer q p world).2.1.controls.vector = p.controls.vector := by
    cases request with
    | call c =>
      rcases houtcome : (c.perform q.wideMode).outcome p with ⟨result, p'⟩
      simp only [Request.answer, houtcome] at h ⊢
      cases result with
      | error e =>
        rw [perform_error houtcome]
        exact c.controlsAfterFailure_vector p.controls
      | ok =>
        have hnew : c.newBounds? = none := by
          by_contra hnew
          exact h ⟨c, rfl, hnew, _, rfl⟩
        simpa only [houtcome] using perform_vector (p := p) hnew q.wideMode
    | _ => rfl
  rw [Fits, Controls.toleranceSizes_eq hvector]
  exact hp

lemma answer_validated {request : Request σ} {world : σ} (hp : p.Validated)
    (h : ¬request.Reconfigures (request.answer q p world).1)
    (hvalidates : ¬request.FailsToValidate (request.answer q p world).1) :
    (request.answer q p world).2.1.Validated := by
  obtain ⟨n, hdimension, hfits⟩ := hp
  have hkept (hsame : (request.answer q p world).2.1.mainDimension = p.mainDimension) :
      (request.answer q p world).2.1.Validated :=
    ⟨n, hsame.trans hdimension, answer_fits hfits h⟩
  cases request with
  | call c =>
    have hcall : (Request.answer q p world (.call c)).2.1.mainDimension =
        c.dimension?.or p.mainDimension := perform_mainDimension c q.wideMode p
    cases c with
    | validate state =>
      rcases houtcome : (validate state).outcome p with ⟨result, p'⟩
      simp only [Request.answer, Call.perform, houtcome] at hvalidates ⊢
      cases result with
      | error e => exact (hvalidates ⟨state, e, rfl, rfl⟩).elim
      | ok => exact validated_of_validate houtcome
    | _ => exact hkept hcall
  | _ => exact hkept rfl

/-- Tolerances that fit keep fitting until there are others. -/
lemma serve_fits {requests : List (Precision × Request σ)} {world : σ} (hp : p.Fits n)
    (h : ∀ r ∈ answered requests p world, ¬r.1.Reconfigures r.2) :
    (serve requests p world).2.1.Fits n := by
  induction requests generalizing p world with
  | nil => exact hp
  | cons request requests ih =>
    obtain ⟨hrequest, hrequests⟩ := List.forall_mem_cons.mp h
    exact ih (answer_fits hp hrequest) hrequests

lemma serve_validated {requests : List (Precision × Request σ)} {world : σ} (hp : p.Validated)
    (h : ∀ r ∈ answered requests p world, ¬r.1.Reconfigures r.2)
    (hvalidates : ∀ r ∈ answered requests p world, ¬r.1.FailsToValidate r.2) :
    (serve requests p world).2.1.Validated := by
  induction requests generalizing p world with
  | nil => exact hp
  | cons request requests ih =>
    obtain ⟨hrequest, hrequests⟩ := List.forall_mem_cons.mp h
    obtain ⟨hvalidate, hvalidates⟩ := List.forall_mem_cons.mp hvalidates
    exact ih (answer_validated hp hrequest hvalidate) hrequests hvalidates

/-- A policy holds a state and a step between two states against the same sizes. A validation returns
exactly if there are allowed errors for its state, and otherwise both name the same two dimensions. The
dimension of a validation that returned is accepted until the policy gets new settings, and so is the
recorded one as long as no later validation fails. -/
theorem validated_dimension (p : Policy) :
    (∀ (q : Precision) (state : State) (n : ℕ), state.primary.IsRealVector q.wideMode n →
      (((validate state).outcome p).1 = .ok () ↔
        ∃ allowed, p.thresholds q state.primary state.primary = .ok allowed) ∧
      ∀ e, ((validate state).outcome p).1 = .error e →
        ∃ actual, e = .dimensionMismatch (.integer n) (.integer actual) ∧
          p.thresholds q state.primary state.primary = .error e) ∧
    ∀ (state : State) (p' : Policy), (validate state).outcome p = (.ok (), p') →
      ∃ n, p'.mainDimension = some n ∧
        ∀ (requests : List (Precision × Request σ)) (world : σ),
          (∀ r ∈ answered requests p' world, ¬r.1.Reconfigures r.2) →
          (serve requests p' world).2.1.Accepts n ∧
          ((∀ r ∈ answered requests p' world, ¬r.1.FailsToValidate r.2) →
            ∃ m, (serve requests p' world).2.1.mainDimension = some m ∧
              (serve requests p' world).2.1.Accepts m) := by
  constructor
  · intro q state n hstate
    obtain ⟨allowed, hvalidate, hthresholds⟩ := validate_as_thresholds p hstate
    rw [hvalidate, hthresholds]
    rcases sizes_cases n p.controls.toleranceSizes with hsizes | ⟨actual, hactual⟩
    · rw [requireSizes_ok hsizes]
      exact ⟨⟨fun _ => ⟨allowed, rfl⟩, fun _ => rfl⟩, fun e h => by simp at h⟩
    · rw [requireSizes_error hactual]
      refine ⟨⟨fun h => by simp at h, fun ⟨x, h⟩ => by simp [bind, Except.bind] at h⟩, fun e h => ?_⟩
      exact ⟨actual, (Except.error.inj h).symm, congrArg Except.error (Except.error.inj h)⟩
  · intro state p' h
    have hvalidated := validated_of_validate h
    obtain ⟨n, hdimension, hfits⟩ := hvalidated
    refine ⟨n, hdimension, fun requests world hrequests => ⟨(serve_fits hfits hrequests).accepts, ?_⟩⟩
    intro hvalidates
    obtain ⟨m, hm, hfits⟩ := serve_validated ⟨n, hdimension, hfits⟩ hrequests hvalidates
    exact ⟨m, hm, hfits.accepts⟩

/-- So many zeros, and a state of them. -/
def zeros (n : ℕ) : Value := .list (List.replicate n (.real (.finite 0)))

def zeroState (n : ℕ) : State := ⟨.real (.finite 0), zeros n, .absent, [], []⟩

/-- A policy with tolerances for two components. -/
def pairTolerances : Except Failure Policy :=
  create (.real (.finite 1)) (.real (.finite 4)) (.list [.real (.finite 1), .real (.finite 1)])
    (.list [.real (.finite 1), .real (.finite 1)])

lemma pairTolerances_ok : ∃ p, pairTolerances = .ok p ∧
    p.controls.vector = some ([.finite 1, .finite 1], [.finite 1, .finite 1]) :=
  ⟨_, by rw [pairTolerances, create_eq]; rfl, rfl⟩

lemma isRealVector_zeros (wideMode : Bool) (n : ℕ) : (zeros n).IsRealVector wideMode n := by
  refine ⟨List.length_replicate, fun v hv => ?_⟩
  rw [List.eq_of_mem_replicate hv]
  exact ⟨_, rfl⟩

lemma toleranceSizes_pair {p : Policy}
    (hp : p.controls.vector = some ([.finite 1, .finite 1], [.finite 1, .finite 1])) :
    p.controls.toleranceSizes = [2, 2] := by
  simp [Controls.toleranceSizes, Controls.absolute, Controls.relative, hp, Tolerance.size?]

lemma validate_pair {p : Policy}
    (hp : p.controls.vector = some ([.finite 1, .finite 1], [.finite 1, .finite 1])) (n : ℕ) :
    (validate (zeroState n)).outcome p =
      (requireSizes n [2, 2], { p with mainDimension := some n }) := by
  have hdimension : (zeroState n).primaryDimension = .ok n :=
    (isRealVector_zeros false n).components.size
  simp only [validate_outcome, hdimension, Controls.requireDimension_eq, toleranceSizes_pair hp]

theorem validated_dimension_pair : ∃ p p', pairTolerances = .ok p ∧
    (validate (zeroState 2)).outcome p = (.ok (), p') ∧
    (∃ allowed, p.thresholds .initial (zeros 2) (zeros 2) = .ok allowed) ∧
    p.thresholds .initial (zeros 3) (zeros 3) =
      .error (.dimensionMismatch (.integer 3) (.integer 2)) ∧
    (serve [(.initial, .call (.validate (zeroState 3)))] p' ()).2.1.Accepts 2 ∧
    (serve [(.initial, .call .reset)] p' ()).2.1.mainDimension = some 2 ∧
    (serve [(.initial, .call .reset)] p' ()).2.1.Accepts 2 := by
  obtain ⟨p, hp, hvector⟩ := pairTolerances_ok
  have hvalidate := validate_pair hvector
  obtain ⟨hagree, haccepts⟩ := validated_dimension (σ := Unit) p
  obtain ⟨hiff, -⟩ := hagree .initial (zeroState 2) 2 (isRealVector_zeros _ 2)
  obtain ⟨-, herror⟩ := hagree .initial (zeroState 3) 3 (isRealVector_zeros _ 3)
  obtain ⟨actual, hactual, hthresholds⟩ := herror _ (by rw [hvalidate]; rfl)
  obtain ⟨n, hn, hserve⟩ := haccepts (zeroState 2) _ (hvalidate 2)
  obtain rfl : 2 = n := Option.some.inj hn
  refine ⟨p, _, hp, hvalidate 2, hiff.mp (by rw [hvalidate]; rfl), hthresholds, ?_, ?_⟩
  · exact (hserve [(.initial, .call (.validate (zeroState 3)))] () (by
      simp [answered, serve, Request.Reconfigures, Call.newBounds?])).1
  · obtain ⟨m, hm, haccepts⟩ := (hserve [(.initial, .call .reset)] () (by
      simp [answered, serve, Request.Reconfigures, Call.newBounds?])).2 (by
      simp [answered, serve, Request.FailsToValidate])
    obtain rfl : 2 = m := Option.some.inj hm
    exact ⟨hm, haccepts⟩

/-- A validation that fails has recorded the dimension of its state, which the tolerances do not fit. The
one before it returned, and nothing was reconfigured in between. -/
theorem failed_validation_recorded : ∃ p, pairTolerances = .ok p ∧
    let requests : List (Precision × Request Unit) :=
      [(.initial, .call (.validate (zeroState 2))), (.initial, .call (.validate (zeroState 3)))]
    let q := (serve requests p ()).2.1
    ((validate (zeroState 2)).outcome p).1 = .ok () ∧
      (∀ r ∈ answered requests p (), ¬r.1.Reconfigures r.2) ∧ q.mainDimension = some 3 ∧
      q.thresholds .initial (zeros 3) (zeros 3) =
        .error (.dimensionMismatch (.integer 3) (.integer 2)) := by
  obtain ⟨p, hp, hvector⟩ := pairTolerances_ok
  refine ⟨p, hp, ?_⟩
  intro requests q
  have hq : q.controls.toleranceSizes = [2, 2] := toleranceSizes_pair hvector
  have hzeros : (zeroState 3).primary.IsRealVector Precision.initial.wideMode 3 :=
    isRealVector_zeros _ 3
  obtain ⟨allowed, -, hthresholds⟩ := validate_as_thresholds q hzeros
  refine ⟨?_, ?_, rfl, ?_⟩
  · rw [validate_pair hvector]
    rfl
  · simp [answered, requests, serve, Request.Reconfigures, Call.newBounds?]
  · rw [hq] at hthresholds
    exact hthresholds

end Policy

end AdaptiveStep
