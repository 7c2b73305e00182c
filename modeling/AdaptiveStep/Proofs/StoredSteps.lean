import AdaptiveStep.Proofs.FailedCalls

/-!
# The stored first step

`Policy.Visited` describes the policies that calls lead to, those that fail included. The first step
that such a policy stores is a positive number between its bounds as long as no call upsets it. There
are two ways to upset it: a prescribed step that passes the comparisons with the bounds although it
converts to no positive number between them, and new bounds of which only the first one converts.
-/

namespace AdaptiveStep

open Extended FloatType

namespace Controls

/-- A positive number between the bounds. -/
structure Admits (c : Controls Number) (h : Number) : Prop where
  positive : (finite 0).lt h = true
  least_le : double.le c.least h = true
  le_greatest : double.le h c.greatest = true

/-- The prescribed step, if there is one, is a positive number between the bounds. -/
def StepSound (c : Controls Number) : Prop :=
  ∀ h, c.initialStep = some h → c.Admits h

lemma stepSound_of_none {c : Controls Number} (h : c.initialStep = none) : c.StepSound := by
  simp [StepSound, h]

/-- A number that is not negative and between the bounds is admitted unless something is NaN or the
number is zero. -/
lemma not_admits_iff {c : Controls Number} {y : Number} (hzero : y.lt (finite 0) = false)
    (hleast : y.lt c.least = false) (hgreatest : c.greatest.lt y = false) :
    ¬c.Admits y ↔ y.isNaN = true ∨ y.isZero = true ∨ c.least.isNaN = true ∨
      c.greatest.isNaN = true := by
  have hpositive : (finite 0).lt y = true ↔ y.isNaN = false ∧ y.isZero = false := by
    constructor
    · intro h
      refine ⟨(lt_iff.mp h).2.1, ?_⟩
      rcases y with _ | (_ | _) | _ | q
      case finite => simpa [lt, isZero] using (show (0 : ℚ) < q by simpa [lt] using h).ne'
      all_goals simp_all [lt, isZero]
    · rintro ⟨hnumber, hne⟩
      rw [← lt_abs hzero]
      exact zero_lt_abs hnumber hne
  have hadmits : c.Admits y ↔ y.isNaN = false ∧ y.isZero = false ∧ c.least.isNaN = false ∧
      c.greatest.isNaN = false := by
    constructor
    · rintro ⟨h1, h2, h3⟩
      exact ⟨(hpositive.mp h1).1, (hpositive.mp h1).2, (double_le_iff.mp h2).1,
        (double_le_iff.mp h3).2.1⟩
    · rintro ⟨h1, h2, h3, h4⟩
      exact ⟨hpositive.mpr ⟨h1, h2⟩, double_le_iff.mpr ⟨h3, h1, hleast⟩,
        double_le_iff.mpr ⟨h1, h4, hgreatest⟩⟩
  rw [hadmits]
  simp only [not_and_or, Bool.not_eq_false]

end Controls

namespace Policy

/-- The policies that admitted calls lead to, whether or not the calls fail. Only the creation may
not, which gives no policy then. -/
inductive Visited (admits : Call → Prop) : Policy → Prop where
  | create {least greatest absolute relative : Value} {p : Policy} :
    admits (.setStepSizeControl least greatest absolute relative) →
    Policy.create least greatest absolute relative = .ok p → Visited admits p
  | call {p q : Policy} {c : Call} {result : Except Failure Unit} (wideMode : Bool) :
    Visited admits p → admits c → (c.perform wideMode).outcome p = (result, q) → Visited admits q

/-- A call that makes the stored step unsound: it stores one that is not admitted, or it fails
between its bounds after it has raised the minimal step above the stored one. -/
def Call.Upsets (wideMode : Bool) (p : Policy) (c : Call) : Prop :=
  (∃ step x, c = .setInitialStep step ∧ p.ignores wideMode step = .ok false ∧
    step.toNumber = .ok x ∧ ¬p.controls.Admits x) ∨
  ∃ perComponent least greatest x e h, c.newBounds? = some (perComponent, least, greatest) ∧
    least.toNumber = .ok x ∧ greatest.toNumber = .error e ∧ p.controls.initialStep = some h ∧
    double.le x.abs h = false

variable {admits : Call → Prop} {p q : Policy} {c : Call} {wideMode perComponent : Bool}
  {least greatest : Value} {result : Except Failure Unit}

/-- What new bounds do to the bounds and to the stored step, whether or not the call fails. -/
lemma perform_newBounds (hnew : c.newBounds? = some (perComponent, least, greatest))
    (h : (c.perform wideMode).outcome p = (result, q)) :
    ((∃ e, least.toNumber = .error e) ∧ q.controls = p.controls) ∨
    (∃ x e, least.toNumber = .ok x ∧ greatest.toNumber = .error e ∧
      q.controls = { p.controls with least := x.abs }) ∨
    Rebounded least greatest q.controls := by
  cases result with
  | ok => exact .inr (.inr (rebounded_of_newBounds hnew h))
  | error e =>
    have hcontrols : q.controls = p.controls.rebounded perComponent least greatest := by
      rw [perform_error h]
      simp [Call.controlsAfterFailure, hnew]
    rw [hcontrols]
    cases hleast : least.toNumber with
    | error e => exact .inl ⟨⟨e, rfl⟩, p.controls.rebounded_of_least_error hleast⟩
    | ok x =>
      cases hgreatest : greatest.toNumber with
      | error e =>
        exact .inr (.inl ⟨x, e, rfl, rfl, p.controls.rebounded_of_greatest_error hleast hgreatest⟩)
      | ok y =>
        refine .inr (.inr ⟨⟨x, hleast, ?_⟩, ⟨y, hgreatest, ?_⟩, ?_⟩) <;>
          simp only [Controls.rebounded, hleast, hgreatest] <;> split_ifs <;> rfl

/-- What other calls do to the settings, whether or not they fail. -/
lemma perform_other (hnew : c.newBounds? = none) (h : (c.perform wideMode).outcome p = (result, q)) :
    (∃ step x, c = .setInitialStep step ∧ p.ignores wideMode step = .ok false ∧
      step.toNumber = .ok x ∧ q.controls = { p.controls with initialStep := some x }) ∨
    q.controls = { p.controls with initialStep := none } ∨ q.controls = p.controls := by
  cases result with
  | error e =>
    refine .inr (.inr ?_)
    rw [perform_error h]
    simp [Call.controlsAfterFailure, hnew]
  | ok =>
    rcases perform_ok h with ⟨_, _, _, hbounds, -⟩ | hstored | hq | hq
    · simp [hnew] at hbounds
    · exact .inl hstored
    · exact .inr (.inl hq)
    · exact .inr (.inr hq)

theorem Visited.proper (hp : Visited admits p) (hdoubles : ∀ c, admits c → c.HoldsDoubles) :
    p.controls.Proper := by
  induction hp with
  | create hadmits hcreate => exact (create_ok hcreate).proper (hdoubles _ hadmits)
  | @call p q c result wideMode _ hadmits hcall ih =>
    cases hnew : c.newBounds? with
    | some bounds =>
      have hargs := (hdoubles _ hadmits).newBounds hnew
      rcases perform_newBounds hnew hcall with ⟨-, hq⟩ | ⟨x, e, hx, -, hq⟩ | hbounds
      · rw [hq]
        exact ih
      · rw [hq]
        exact { ih with
          least_holds := holds_abs (Value.holds_toNumber hargs.1 hx)
          least_sign := isNegative_abs x }
      · exact hbounds.proper hargs
    | none =>
      rcases perform_other hnew hcall with ⟨step, x, rfl, -, hx, hq⟩ | hq | hq
      · rw [hq]
        refine { ih with initial_holds := fun h hh => ?_ }
        obtain rfl := Option.some.inj hh
        exact Value.holds_toNumber (hdoubles _ hadmits) hx
      · rw [hq]
        exact { ih with initial_holds := fun h hh => by simp at hh }
      · rw [hq]
        exact ih

lemma stepSound_of_not_upsets (hp : p.controls.StepSound)
    (h : (c.perform wideMode).outcome p = (result, q)) (hc : ¬c.Upsets wideMode p) :
    q.controls.StepSound := by
  cases hnew : c.newBounds? with
  | some bounds =>
    rcases perform_newBounds hnew h with ⟨-, hq⟩ | ⟨x, e, hx, he, hq⟩ | hbounds
    · rw [hq]
      exact hp
    · -- the old step meets a new minimal step
      rw [hq]
      intro h hh
      obtain ⟨hpositive, -, hgreatest⟩ := hp h hh
      refine ⟨hpositive, ?_, hgreatest⟩
      by_contra hle
      exact hc (.inr ⟨_, _, _, x, e, h, hnew, hx, he, hh, by simpa using hle⟩)
    · exact Controls.stepSound_of_none hbounds.initialStep_eq
  | none =>
    rcases perform_other hnew h with ⟨step, x, rfl, hkept, hx, hq⟩ | hq | hq
    · rw [hq]
      intro h hh
      obtain rfl := Option.some.inj hh
      by_contra hadmits
      exact hc (.inl ⟨step, x, rfl, hkept, hx, fun hx => hadmits ⟨hx.1, hx.2, hx.3⟩⟩)
    · rw [hq]
      exact Controls.stepSound_of_none rfl
    · rw [hq]
      exact hp

lemma not_stepSound_of_upsets (h : (c.perform wideMode).outcome p = (result, q))
    (hc : c.Upsets wideMode p) : ¬q.controls.StepSound := by
  intro hsound
  rcases hc with ⟨step, x, rfl, hkept, hx, hadmits⟩ |
    ⟨perComponent, least, greatest, x, e, y, hnew, hx, he, hy, hle⟩
  · simp only [Call.perform, setInitialStep, change, Action.outcome_bind, Action.outcome_get,
      Action.outcome_lift, hkept, Bool.false_eq_true, if_false, hx, Action.outcome_modify,
      Prod.mk.injEq] at h
    obtain ⟨-, rfl⟩ := h
    obtain ⟨h1, h2, h3⟩ := hsound x rfl
    exact hadmits ⟨h1, h2, h3⟩
  · rcases perform_newBounds hnew h with ⟨⟨e', he'⟩, -⟩ | ⟨x', e', hx', -, hq⟩ | hbounds
    · simp [hx] at he'
    · obtain rfl := Except.ok.inj (hx.symm.trans hx')
      rw [hq] at hsound
      have hle' := (hsound y hy).least_le
      simp [hle] at hle'
    · obtain ⟨z, hz, -⟩ := hbounds.greatest_eq
      simp [he] at hz

lemma Visited.stepSound (hsteady : ∀ p wideMode c, Visited admits p → admits c →
    ¬c.Upsets wideMode p) (hp : Visited admits p) : p.controls.StepSound := by
  induction hp with
  | create hadmits hcreate => exact Controls.stepSound_of_none (create_ok hcreate).initialStep_eq
  | @call p q c result wideMode hvisited hadmits hcall ih =>
    exact stepSound_of_not_upsets ih hcall (hsteady p wideMode c hvisited hadmits)

/-- A plain real number upsets the stored step if it passes the comparisons although something is NaN
or the double that is stored is zero. -/
lemma upsets_setInitialStep_iff (hproper : p.controls.Proper) {step : Value}
    (hdouble : step.HoldsDouble) (hreal : step.realNumber?.isSome = true) :
    (Call.setInitialStep step).Upsets wideMode p ↔
      p.ignores wideMode step = .ok false ∧ ∃ y, step.toNumber = .ok y ∧
        (y.isNaN = true ∨ y.isZero = true ∨ p.controls.least.isNaN = true ∨
          p.controls.greatest.isNaN = true) := by
  obtain ⟨x, hx⟩ := Option.isSome_iff_exists.mp hreal
  have hadmits {y : Number} (hkept : p.ignores wideMode step = .ok false)
      (hy : step.toNumber = .ok y) := by
    obtain ⟨hzero, hleast, hgreatest⟩ := kept_within hproper hdouble hx hkept hy
    exact Controls.not_admits_iff hzero hleast hgreatest
  constructor
  · rintro (⟨step', y, hstep, hkept, hy, hrefused⟩ | ⟨_, _, _, _, _, _, hnew, -⟩)
    · obtain rfl := Call.setInitialStep.inj hstep
      exact ⟨hkept, y, hy, (hadmits hkept hy).mp hrefused⟩
    · simp [Call.newBounds?] at hnew
  · rintro ⟨hkept, y, hy, hcause⟩
    exact .inl ⟨step, y, rfl, hkept, hy, (hadmits hkept hy).mpr hcause⟩

/-- The stored steps of all policies that calls lead to are sound exactly if no call upsets one. A
plain real number upsets it only if something is NaN or the number is stored as zero. -/
theorem visited_stepSound_iff (hdoubles : ∀ c, admits c → c.HoldsDoubles) :
    ((∀ p, Visited admits p → p.controls.StepSound) ↔
      ∀ p wideMode c, Visited admits p → admits c → ¬c.Upsets wideMode p) ∧
    ∀ p wideMode step, Visited admits p → admits (.setInitialStep step) →
      step.realNumber?.isSome = true →
      ((Call.setInitialStep step).Upsets wideMode p ↔
        p.ignores wideMode step = .ok false ∧ ∃ y, step.toNumber = .ok y ∧
          (y.isNaN = true ∨ y.isZero = true ∨ p.controls.least.isNaN = true ∨
            p.controls.greatest.isNaN = true)) := by
  refine ⟨⟨fun hsound p wideMode c hp hc hupsets => ?_, fun hsteady p hp => hp.stepSound hsteady⟩, ?_⟩
  · rcases h : (c.perform wideMode).outcome p with ⟨result, q⟩
    exact not_stepSound_of_upsets h hupsets (hsound q (hp.call wideMode hc h))
  · intro p wideMode step hp hc hreal
    exact upsets_setInitialStep_iff (hp.proper hdoubles) (hdoubles _ hc) hreal

/-- A call that cannot upset a stored step: if its first bound converts so does the second, no bound is
NaN, and a prescribed step is a plain real number that is stored neither as NaN nor as zero. -/
structure Call.Settles (c : Call) : Prop where
  doubles : c.HoldsDoubles
  bounds : ∀ perComponent least greatest x, c.newBounds? = some (perComponent, least, greatest) →
    least.toNumber = .ok x → x.isNaN = false ∧ ∃ y, greatest.toNumber = .ok y ∧ y.isNaN = false
  step : ∀ step, c = .setInitialStep step → step.realNumber?.isSome = true ∧
    ∀ y, step.toNumber = .ok y → y.isNaN = false ∧ y.isZero = false

lemma Rebounded.bounds_numbers {d : Controls Number} (hc : c.Settles)
    (hnew : c.newBounds? = some (perComponent, least, greatest)) (h : Rebounded least greatest d) :
    d.least.isNaN = false ∧ d.greatest.isNaN = false := by
  obtain ⟨⟨x, hx, hleast⟩, ⟨y, hy, hgreatest⟩, -⟩ := h
  obtain ⟨hxnumber, z, hz, hznumber⟩ := hc.bounds _ _ _ x hnew hx
  obtain rfl := Except.ok.inj (hy.symm.trans hz)
  rw [hleast, hgreatest, isNaN_abs, isNaN_abs]
  exact ⟨hxnumber, hznumber⟩

lemma Visited.bounds_numbers (hp : Visited Call.Settles p) :
    p.controls.least.isNaN = false ∧ p.controls.greatest.isNaN = false := by
  induction hp with
  | @create least greatest absolute relative p hadmits hcreate =>
    cases hnew : (Call.setStepSizeControl least greatest absolute relative).newBounds? with
    | some bounds =>
      have hbounds : bounds = (absolute.isSequence, least, greatest) := by
        simp only [Call.newBounds?] at hnew
        split_ifs at hnew
        exact (Option.some.inj hnew).symm
      exact (create_ok hcreate).bounds_numbers hadmits (hbounds ▸ hnew)
    | none =>
      have hmixed : absolute.isSequence ≠ relative.isSequence := by
        simpa [Call.newBounds?] using hnew
      simp [Policy.create, setStepSizeControl, hmixed] at hcreate
  | @call p q c result wideMode _ hadmits hcall ih =>
    cases hnew : c.newBounds? with
    | some bounds =>
      rcases perform_newBounds hnew hcall with ⟨-, hq⟩ | ⟨x, e, hx, he, -⟩ | hbounds
      · rw [hq]
        exact ih
      · obtain ⟨-, y, hy, -⟩ := hadmits.bounds _ _ _ x hnew hx
        simp [he] at hy
      · exact hbounds.bounds_numbers hadmits hnew
    | none =>
      rcases perform_other hnew hcall with ⟨_, _, -, -, -, hq⟩ | hq | hq <;>
        · rw [hq]
          exact ih

/-- Calls that settle the bounds and the steps they prescribe never upset a stored step. -/
lemma Visited.not_upsets (hp : Visited Call.Settles p) (hc : c.Settles) : ¬c.Upsets wideMode p := by
  intro hupsets
  cases hnew : c.newBounds? with
  | some bounds =>
    rcases hupsets with ⟨_, _, rfl, -⟩ | ⟨_, _, _, x, e, _, hbounds, hx, he, -⟩
    · simp [Call.newBounds?] at hnew
    · obtain ⟨-, y, hy, -⟩ := hc.bounds _ _ _ x hbounds hx
      simp [he] at hy
  | none =>
    rcases id hupsets with ⟨step, _, rfl, -⟩ | ⟨_, _, _, _, _, _, hbounds, -⟩
    · obtain ⟨hreal, hstep⟩ := hc.step step rfl
      obtain ⟨hleast, hgreatest⟩ := hp.bounds_numbers
      obtain ⟨-, y, hy, hcause⟩ := (upsets_setInitialStep_iff (hp.proper fun _ h => h.doubles)
        hc.doubles hreal).mp hupsets
      obtain ⟨hnumber, hzero⟩ := hstep y hy
      simp [hleast, hgreatest, hnumber, hzero] at hcause
    · simp [hnew] at hbounds

theorem visited_stepSound_wideSteps :
    Visited Call.Settles wideSteps ∧ ∀ p, Visited Call.Settles p → p.controls.StepSound := by
  refine ⟨?_, (visited_stepSound_iff fun _ h => h.doubles).1.mpr fun _ _ _ hp hc => hp.not_upsets hc⟩
  refine .create ⟨admits_wideSteps, ?_, fun _ h => by simp at h⟩ create_wideSteps
  intro perComponent least greatest x hnew hx
  simp only [Call.newBounds?, Value.isSequence, if_true, Option.some.injEq, Prod.mk.injEq] at hnew
  obtain ⟨-, rfl, rfl⟩ := hnew
  obtain rfl := Except.ok.inj hx
  exact ⟨by decide +kernel, _, rfl, rfl⟩

/-- A prescribed step that is NaN passes the comparisons and is stored. -/
theorem nan_stored :
    ∃ q, Visited Call.HoldsDoubles q ∧ q.controls.initialStep = some .nan ∧
      ¬q.controls.StepSound := by
  let q := { wideSteps with controls := { wideSteps.controls with initialStep := some .nan } }
  have hkept : (wideSteps.ignores false (.real .nan)).toOption = some false := by decide +kernel
  have hcall : ((Call.setInitialStep (.real .nan)).perform false).outcome wideSteps = (.ok (), q) := by
    cases hi : wideSteps.ignores false (.real .nan) with
    | error => simp [hi, Except.toOption] at hkept
    | ok ignored =>
      obtain rfl : ignored = false := by simpa [hi, Except.toOption] using hkept
      simp [Call.perform, setInitialStep, change, Action.outcome_bind, hi, Value.toNumber,
        Value.elementToNumber, q]
  have hnan : (Call.setInitialStep (.real .nan)).HoldsDoubles :=
    Value.holdsDouble_real (x := .nan) trivial
  have hvisited : Visited Call.HoldsDoubles q :=
    .call false (.create admits_wideSteps create_wideSteps) hnan hcall
  exact ⟨q, hvisited, rfl, fun h => by simpa using (h .nan rfl).positive⟩

end Policy

end AdaptiveStep
