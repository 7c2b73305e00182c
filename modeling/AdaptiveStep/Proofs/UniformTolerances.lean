import AdaptiveStep.Proofs.DeviceNumbers
import AdaptiveStep.Proofs.FloatVectors
import AdaptiveStep.Proofs.PolicyRequests

/-!
# One tolerance for all components

A scalar tolerance and a tolerance per component that is the same everywhere ask for the same errors.
`Policy.spread` replaces the scalar tolerances of a policy by one pair for each of `n` components.
Creation commutes with it, and so does every request whose vectors have `n` components, so that both
policies give the same answers for good.
-/

namespace AdaptiveStep

open Extended

/-- A number for all components allows what the same number for each component allows. -/
lemma thresholds_replicate {α : Type} (A : Arithmetic α) {n : ℕ} {old new : List α}
    (hold : old.length = n) (a r : α) :
    thresholds A old new (.perComponent (List.replicate n a)) (.perComponent (List.replicate n r)) =
      thresholds A old new (.uniform a) (.uniform r) := by
  simp [thresholds, Tolerance.requireSize, Tolerance.size?, Tolerance.spread, requireSize, hold]

namespace Value

variable {n : ℕ} {v old new a : Value} {p : Precision}

/-! ### Vectors of so many components -/

/-- A list, or an array with one axis, of so many components of any kind. -/
def HasComponents (n : ℕ) : Value → Prop
  | list items => items.length = n
  | tuple items => items.length = n
  | array a => a.shape = [n] ∧ a.items.length = n
  | objects shape items => shape = [n] ∧ items.length = n
  | _ => False

lemma HasComponents.size (hv : v.HasComponents n) : v.size = .ok n := by
  cases v with
  | list items => exact congrArg Except.ok hv
  | tuple items => exact congrArg Except.ok hv
  | array a => simp only [Value.size, hv.1]
  | objects shape items => simp only [Value.size, hv.1]
  | _ => exact hv.elim

lemma HasComponents.length_realVector (hv : v.HasComponents n) {xs : List Number}
    (h : v.realVector p = .ok xs) : xs.length = n := by
  have hlist {items : List Value} (hlength : items.length = n)
      (h : (do let xs ← items.mapM (realPart p.wideMode)
               return xs.map p.type.convert) = Except.ok xs) : xs.length = n := by
    obtain ⟨ys, hys, h⟩ := Except.bind_eq_ok.mp h
    rw [← Except.ok.inj h, List.length_map, ← hlength]
    exact length_of_mapM_ok hys
  cases v with
  | list items => exact hlist hv h
  | tuple items => exact hlist hv h
  | array a =>
    rw [← Except.ok.inj h]
    simpa [NumericArray.onDevice, NumericArray.cast] using hv.2
  | objects shape items =>
    obtain ⟨rfl, hlength⟩ := hv
    exact hlist hlength h
  | _ => exact hv.elim

/-! ### Tolerances on the device -/

lemma spreadAll_reals (xs : List Number) :
    spreadAll (xs.map real) = xs.map fun x => ⟨[], [real x], true⟩ := by
  induction xs with
  | nil => rfl
  | cons x xs ih => rw [List.map_cons, spreadAll, ih]; rfl

lemma commonAxes_replicate (n : ℕ) : commonAxes (List.replicate n []) = [] := by
  rcases n with _ | _ | n <;> rfl

/-- Values without parts make a spread with one axis. -/
lemma stack_leaves (leaves : List Value) :
    Spread.stack (leaves.map fun v => ⟨[], [v], true⟩) = ⟨[leaves.length], leaves, true⟩ := by
  have hleaves (vs : List Value) : (vs.map fun v => [v]).flatten = vs := by
    rw [← List.flatMap_def, List.flatMap_singleton']
  rcases leaves with _ | ⟨v, vs⟩
  · rfl
  · have haxes : commonAxes ([] :: List.replicate vs.length []) = [] :=
      commonAxes_replicate (vs.length + 1)
    simp [Spread.stack, Function.comp_def, haxes, hleaves]

lemma spread_reals (xs : List Number) :
    (tuple (xs.map real)).spread = ⟨[xs.length], xs.map real, true⟩ := by
  have hstack := stack_leaves (xs.map real)
  rw [List.map_map, List.length_map] at hstack
  rw [spread, spreadAll_reals]
  exact hstack

lemma holdsAny_reals (xs : List Number) : holdsAny isAbsent (xs.map real) = false := by
  induction xs with
  | nil => rfl
  | cons x xs ih => rw [List.map_cons, holdsAny, ih]; rfl

lemma grid_reals (xs : List Number) :
    (tuple (xs.map real)).grid p = .ok ⟨[xs.length], xs.map p.type.convert⟩ := by
  have hpresent : (tuple (xs.map real)).holds isAbsent = false := holdsAny_reals xs
  have hitems : (xs.map real).mapM (ItemType.real p.type).itemOf =
      .ok (xs.map fun x => ComplexNumber.ofReal (p.type.convert x)) := by
    induction xs with
    | nil => rfl
    | cons x xs ih =>
      simp [List.mapM_cons, itemOf_float, ih (holdsAny_reals xs), bind, Except.bind, pure,
        Except.pure]
  simp [grid, deviceReals, deviceItems, hpresent, spread_reals, itemsOf, hitems, bind, Except.bind,
    pure, Except.pure, Function.comp_def, ComplexNumber.ofReal]

/-- Scalar tolerances allow what the same tolerances per component allow. -/
theorem thresholds_reals (hold : old.HasComponents n) (x y : Number) :
    Value.thresholds p old new (tuple ((List.replicate n x).map real))
        (tuple ((List.replicate n y).map real)) =
      Value.thresholds p old new (real x) (real y) := by
  unfold Value.thresholds
  cases hxs : old.realVector p with
  | error e => rfl
  | ok xs =>
    cases new.realVector p with
    | error e => rfl
    | ok ys =>
      have hlength := hold.length_realVector hxs
      simp only [grid_reals, grid_real, bind, Except.bind, Grid.tolerance?]
      simp only [List.map_replicate, thresholds_replicate _ hlength]

lemma mapM_replicate {α β : Type} (f : α → Except Failure β) {x : α}
    (hn : n ≠ 0 ∨ ∃ y, f x = .ok y) :
    (List.replicate n x).mapM f = (f x).map (List.replicate n) := by
  cases hx : f x with
  | ok y =>
    clear hn
    induction n with
    | zero => rfl
    | succ n ih =>
      rw [List.replicate_succ, List.mapM_cons, hx, ih]
      rfl
  | error e =>
    obtain ⟨m, rfl⟩ := Nat.exists_eq_succ_of_ne_zero (hn.resolve_right (by simp [hx]))
    rw [List.replicate_succ, List.mapM_cons, hx]
    rfl

lemma numbers_replicate (hn : n ≠ 0 ∨ ∃ x, a.toNumber = .ok x) :
    (list (List.replicate n a)).numbers = a.toNumber.map (List.replicate n) :=
  mapM_replicate toNumber hn

end Value

namespace Controls

variable {n : ℕ} {least greatest absolute relative : Value}

/-- The scalar tolerances, once for each of so many components. -/
def spread (n : ℕ) (c : Controls Number) : Controls Number :=
  { c with
    scalarAbsolute := .finite 0
    scalarRelative := .finite 0
    vector := some (List.replicate n c.scalarAbsolute, List.replicate n c.scalarRelative) }

/-- Tolerances that are given once for each component are spread over the components. -/
lemma ofArguments_replicate (habsolute : absolute.isSequence = false)
    (hrelative : relative.isSequence = false)
    (hn : n ≠ 0 ∨ (∃ x, absolute.toNumber = .ok x) ∧ ∃ y, relative.toNumber = .ok y) :
    ofArguments least greatest (.list (List.replicate n absolute))
        (.list (List.replicate n relative)) =
      (ofArguments least greatest absolute relative).map (spread n) := by
  have hsequence (v : Value) : (Value.list (List.replicate n v)).isSequence = true := rfl
  simp only [ofArguments, habsolute, hrelative, hsequence, bne_self_eq_false, Bool.false_eq_true,
    if_false, if_true, vectorForm, scalarForm, Value.numbers_replicate (hn.imp_right And.left),
    Value.numbers_replicate (hn.imp_right And.right)]
  cases least.toNumber with
  | error e => rfl
  | ok x =>
    cases greatest.toNumber with
    | error e => rfl
    | ok y => cases absolute.toNumber <;> cases relative.toNumber <;> rfl

end Controls

namespace Policy

variable {n : ℕ} {p : Policy} {least greatest absolute relative : Value} {σ : Type}

/-- The policy with its scalar tolerances once for each of so many components. -/
def spread (n : ℕ) (p : Policy) : Policy :=
  { p with controls := p.controls.spread n }

lemma create_replicate (habsolute : absolute.isSequence = false)
    (hrelative : relative.isSequence = false)
    (hn : n ≠ 0 ∨ (∃ x, absolute.toNumber = .ok x) ∧ ∃ y, relative.toNumber = .ok y) :
    create least greatest (.list (List.replicate n absolute)) (.list (List.replicate n relative)) =
      (create least greatest absolute relative).map (spread n) := by
  rw [create_eq, create_eq, Controls.ofArguments_replicate habsolute hrelative hn]
  cases Controls.ofArguments least greatest absolute relative <;> rfl

lemma create_vector (habsolute : absolute.isSequence = false)
    (h : create least greatest absolute relative = .ok p) : p.controls.vector = none := by
  rw [create_eq] at h
  cases hsettings : Controls.ofArguments least greatest absolute relative with
  | error e => simp [hsettings, Except.map] at h
  | ok c =>
    have hc : c.vector = none := by
      simp only [Controls.ofArguments, habsolute, Bool.false_eq_true, if_false] at hsettings
      split_ifs at hsettings
      simp only [Controls.scalarForm, Except.bind_eq_ok, pure, Except.pure, Except.ok.injEq]
        at hsettings
      obtain ⟨_, -, _, -, _, -, _, -, rfl⟩ := hsettings
      rfl
    simp only [hsettings, Except.map, Except.ok.injEq] at h
    rw [← h]
    exact hc

/-- A request that configures nothing and whose vectors have so many components. -/
def Request.Fits (n : ℕ) : Request σ → Prop
  | call c =>
    match c with
    | .setInitialStep _ => True
    | .validate state => state.primary.HasComponents n
    | .setStep _ _ => True
    | .reset => True
    | _ => False
  | firstStep _ _ => True
  | filterStep _ _ _ => True
  | thresholds old new => old.HasComponents n ∧ new.HasComponents n
  | errorNorm errors old new =>
    errors.HasComponents n ∧ old.HasComponents n ∧ new.HasComponents n

lemma setInitialStep_spread (wideMode : Bool) (step : Value) (p : Policy) :
    (setInitialStep wideMode step).outcome (p.spread n) =
      ((setInitialStep wideMode step).outcome p).map id (spread n) := by
  have hignores : (p.spread n).ignores wideMode step = p.ignores wideMode step := rfl
  simp only [setInitialStep, change, Action.outcome_bind, Action.outcome_get, Action.outcome_lift,
    hignores]
  cases p.ignores wideMode step with
  | error e => rfl
  | ok ignored =>
    cases ignored
    · simp only [Bool.false_eq_true, if_false, Action.outcome_bind, Action.outcome_lift]
      cases step.toNumber <;> rfl
    · rfl

lemma validate_spread {state : State} (hstate : state.primary.HasComponents n)
    (hp : p.controls.vector = none) :
    (validate state).outcome (p.spread n) = ((validate state).outcome p).map id (spread n) := by
  have hscalar : p.controls.requireDimension n = .ok () := by
    simp [Controls.requireDimension, Controls.absolute, Controls.relative, hp,
      Tolerance.requireSize, Tolerance.size?, bind, Except.bind]
  have hspread : (p.spread n).controls.requireDimension n = .ok () := by
    simp [Controls.requireDimension, Controls.absolute, Controls.relative, spread, Controls.spread,
      Tolerance.requireSize, Tolerance.size?, requireSize, bind, Except.bind]
  have hdimension : state.primaryDimension = .ok n := hstate.size
  simp only [validate_outcome, hdimension, hscalar, hspread]
  rfl

lemma perform_spread {c : Call} (hc : (Request.call c : Request σ).Fits n)
    (hp : p.controls.vector = none) (wideMode : Bool) :
    (c.perform wideMode).outcome (p.spread n) =
      ((c.perform wideMode).outcome p).map id (spread n) := by
  cases c with
  | setInitialStep step => exact setInitialStep_spread wideMode step p
  | validate state => exact validate_spread hc hp
  | setStep start size => rfl
  | reset => rfl
  | _ => exact hc.elim

lemma Request.Fits.newBounds {c : Call} (hc : (Request.call c : Request σ).Fits n) :
    c.newBounds? = none := by
  cases c <;> first | rfl | exact hc.elim

lemma perform_vector {c : Call} (hnew : c.newBounds? = none) (wideMode : Bool) :
    ((c.perform wideMode).outcome p).2.controls.vector = p.controls.vector := by
  rcases h : (c.perform wideMode).outcome p with ⟨result, q⟩
  rcases perform_other hnew h with ⟨_, _, -, -, -, hq⟩ | hq | hq <;> rw [hq]

lemma toleranceValue_spread (p : Policy) :
    toleranceValue (p.spread n).controls.absolute =
        .tuple ((List.replicate n p.controls.scalarAbsolute).map .real) ∧
      toleranceValue (p.spread n).controls.relative =
        .tuple ((List.replicate n p.controls.scalarRelative).map .real) :=
  ⟨rfl, rfl⟩

lemma thresholds_spread {old : Value} (hold : old.HasComponents n) (hp : p.controls.vector = none)
    (q : Precision) (new : Value) :
    (p.spread n).thresholds q old new = p.thresholds q old new := by
  unfold thresholds
  rw [(toleranceValue_spread p).1, (toleranceValue_spread p).2, Value.thresholds_reals hold]
  simp [Controls.absolute, Controls.relative, hp, toleranceValue]

lemma errorNorm_spread {old : Value} (hold : old.HasComponents n) (hp : p.controls.vector = none)
    (q : Precision) (errors new : Value) :
    (p.spread n).errorNorm q errors old new = p.errorNorm q errors old new := by
  have hthresholds := thresholds_spread hold hp q new
  unfold thresholds at hthresholds
  unfold errorNorm Value.errorNorm
  rw [hthresholds]

/-- A request with vectors of so many components gets the same answer from the policy with spread
tolerances, and leaves the policy that it leaves otherwise, with spread tolerances again. -/
theorem answer_spread {request : Request σ} (hfits : request.Fits n)
    (hp : p.controls.vector = none) (q : Precision) (world : σ) :
    request.answer q (p.spread n) world =
      ((request.answer q p world).1, (request.answer q p world).2.1.spread n,
        (request.answer q p world).2.2) := by
  cases request with
  | call c => simp only [Request.answer, perform_spread hfits hp, Prod.map, id]
  | firstStep dynamics P => rfl
  | filterStep h forward acceptSmall => rfl
  | thresholds old new => simp only [Request.answer, thresholds_spread hfits.1 hp]
  | errorNorm errors old new => simp only [Request.answer, errorNorm_spread hfits.2.1 hp]

lemma answer_vector {request : Request σ} (hfits : request.Fits n) (q : Precision) (world : σ) :
    (request.answer q p world).2.1.controls.vector = p.controls.vector := by
  cases request with
  | call c => exact perform_vector hfits.newBounds q.wideMode
  | _ => rfl

theorem serve_spread {requests : List (Precision × Request σ)}
    (hfits : ∀ request ∈ requests, request.2.Fits n) (hp : p.controls.vector = none) (world : σ) :
    serve requests (p.spread n) world =
      ((serve requests p world).1, (serve requests p world).2.1.spread n,
        (serve requests p world).2.2) := by
  induction requests generalizing p world with
  | nil => rfl
  | cons request requests ih =>
    obtain ⟨q, request⟩ := request
    have hrequest : request.Fits n := hfits (q, request) (by simp)
    have hvector := (answer_vector hrequest q world).trans hp
    have hrest := ih (fun request h => hfits request (by simp [h])) hvector
      (request.answer q p world).2.2
    simp only [serve, answer_spread hrequest hp, hrest]

/-- Policies that agree in everything but their tolerances. -/
structure SameApartFromTolerances (p q : Policy) : Prop where
  least_eq : p.controls.least = q.controls.least
  greatest_eq : p.controls.greatest = q.controls.greatest
  initialStep_eq : p.controls.initialStep = q.controls.initialStep
  mainDimension_eq : p.mainDimension = q.mainDimension
  stepStart_eq : p.stepStart = q.stepStart
  stepSize_eq : p.stepSize = q.stepSize

/-- A tolerance for all components makes the same policy as the tolerance given once for each of `n`
components: both creations fail alike, or both policies give the same answers to all requests with
vectors of `n` components and stay the same apart from their tolerances. A tolerance is a number; all that
`hn` leaves out is a value that is none, given for no components at all, which the list never converts. -/
theorem uniform_tolerances_same (least greatest : Value) (habsolute : absolute.isSequence = false)
    (hrelative : relative.isSequence = false)
    (hn : n ≠ 0 ∨ (∃ x, absolute.toNumber = .ok x) ∧ ∃ y, relative.toNumber = .ok y) :
    (∃ e, create least greatest absolute relative = .error e ∧
      create least greatest (.list (List.replicate n absolute))
        (.list (List.replicate n relative)) = .error e) ∨
    ∃ p q, create least greatest absolute relative = .ok p ∧
      create least greatest (.list (List.replicate n absolute))
        (.list (List.replicate n relative)) = .ok q ∧
      ∀ (requests : List (Precision × Request σ)) (world : σ),
        (∀ request ∈ requests, request.2.Fits n) →
        (serve requests p world).1 = (serve requests q world).1 ∧
        (serve requests p world).2.1.SameApartFromTolerances (serve requests q world).2.1 ∧
        (serve requests p world).2.2 = (serve requests q world).2.2 := by
  rw [create_replicate habsolute hrelative hn]
  cases hcreate : create least greatest absolute relative with
  | error e => exact .inl ⟨e, rfl, rfl⟩
  | ok p =>
    refine .inr ⟨p, p.spread n, rfl, rfl, fun requests world hfits => ?_⟩
    rw [serve_spread hfits (create_vector habsolute hcreate)]
    exact ⟨rfl, ⟨rfl, rfl, rfl, rfl, rfl, rfl⟩, rfl⟩

/-- The errors of a step with two components, after a validation. -/
def twoComponents : List (Precision × Request Unit) :=
  let old : Value := .list [.real (.finite 1), .real (.finite 2)]
  let new : Value := .list [.real (.finite 3), .integer 4]
  [(.initial, .call (.validate ⟨.real (.finite 0), old, .absent, [], []⟩)),
    (.initial, .thresholds old new), (⟨.float16, true⟩, .errorNorm new old new),
    (.initial, .filterStep (.real (.finite 100)) true false), (.initial, .call .reset)]

theorem uniform_tolerances_same_wideSteps : ∃ q,
    create (.real (Number.ofRat (7 / 10))) (.real (.finite 10))
      (.list [.real (.finite 1), .real (.finite 1)])
      (.list [.real (.finite 1), .real (.finite 1)]) = .ok q ∧
    (serve twoComponents wideSteps ()).1 = (serve twoComponents q ()).1 ∧
    (serve twoComponents q ()).2.1.mainDimension = some 2 := by
  have hone : (Value.real (.finite 1)).isSequence = false := rfl
  rcases uniform_tolerances_same (n := 2) (σ := Unit) (.real (Number.ofRat (7 / 10)))
      (.real (.finite 10)) hone hone
      (.inl (by decide)) with ⟨e, he, -⟩ | ⟨p, q, hp, hq, hserve⟩
  · simp [create_wideSteps] at he
  · obtain rfl := Except.ok.inj (create_wideSteps.symm.trans hp)
    obtain ⟨hanswers, hsame, -⟩ := hserve twoComponents () (by
      simp [twoComponents, Request.Fits, Value.HasComponents])
    exact ⟨q, hq, hanswers, hsame.mainDimension_eq.symm.trans rfl⟩

end Policy

end AdaptiveStep
