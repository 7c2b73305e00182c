import AdaptiveStep.Proofs.FirstStepBounds
import AdaptiveStep.Proofs.Reconfiguration
import AdaptiveStep.Proofs.RoundedRoots

/-!
# Provisional step sizes

Only a reset computes a step size, the geometric mean of the bounds of that moment. Every other call
leaves the size to the integrator, new bounds included. So the size respects the bounds that a policy
was created or last reset with, as long as their product is within the range of doubles, and it
respects the present ones if these are still the same.
-/

namespace AdaptiveStep

open Extended FloatType

namespace Controls

/-- The geometric mean of the bounds. -/
def mean (c : Controls Number) : Number := double.sqrt (double.mul c.least c.greatest)

/-- The bounds are finite and in order, and their product stays in the range of doubles. -/
def KeepsMean (c : Controls Number) : Prop :=
  ∃ a b : ℚ, c.least = finite a ∧ c.greatest = finite b ∧ a ≤ b ∧ float64.KeepsProduct a b

/-- The size is a real number between the bounds. -/
def Encloses (c : Controls Number) (size : Value) : Prop :=
  ∃ x : Number, size = .real x ∧ double.le c.least x = true ∧ double.le x c.greatest = true

variable {c : Controls Number}

theorem encloses_mean (hproper : c.Proper) (h : c.KeepsMean) : c.Encloses (.real c.mean) := by
  obtain ⟨a, b, hleast, hgreatest, hle, hproduct⟩ := h
  have ha : float64.Holds (finite a) := hleast ▸ hproper.least_holds
  have hb : float64.Holds (finite b) := hgreatest ▸ hproper.greatest_holds
  have hzero : 0 ≤ a := by simpa [hleast, isNegative] using hproper.least_sign
  obtain ⟨m, hm, hbelow, habove⟩ := exists_squareRoot_mul_between ha hb hzero hle hproduct
  have hmean : c.mean = finite m := by
    rw [mean, hleast, hgreatest]
    exact hm
  refine ⟨finite m, by rw [hmean], ?_, ?_⟩
  · simpa [hleast, double_le_iff, isNaN, lt] using hbelow
  · simpa [hgreatest, double_le_iff, isNaN, lt] using habove

end Controls

namespace Policy

variable {p q : Policy} {c : Controls Number} {call : Call} {calls : List Call}
  {admits : Call → Prop} {wideMode : Bool}

/-- Calls without new bounds leave the bounds. -/
lemma perform_bounds (hnew : call.newBounds? = none)
    (h : (call.perform wideMode).outcome p = (.ok (), q)) :
    q.controls.least = p.controls.least ∧ q.controls.greatest = p.controls.greatest := by
  rcases perform_ok h with ⟨_, _, _, hbounds, -⟩ | ⟨_, _, -, -, -, hq⟩ | hq | hq
  · rw [hnew] at hbounds
    exact nomatch hbounds
  all_goals simp [hq]

/-! ### The bounds that a step size comes from -/

/-- A call that neither assigns nor computes a step size. -/
def Call.LeavesSize (p : Policy) (call : Call) : Prop :=
  call ≠ .reset ∧ ∀ start size, call = .setStep start size → size = p.stepSize

/-- The policies that admitted calls lead to, none of which fails or assigns a step size, with the
settings that they were created or last reset with and the calls since then, the last one first. -/
inductive Provisional (admits : Call → Prop) : Controls Number → List Call → Policy → Prop where
  | create {least greatest absolute relative : Value} {p : Policy} :
    admits (.setStepSizeControl least greatest absolute relative) →
    Policy.create least greatest absolute relative = .ok p → Provisional admits p.controls [] p
  | reset {p : Policy} {c : Controls Number} {calls : List Call} :
    Provisional admits c calls p → admits .reset → Provisional admits p.controls [] p.reset
  | call {p q : Policy} {c : Controls Number} {calls : List Call} {call : Call} (wideMode : Bool) :
    Provisional admits c calls p → admits call → call.LeavesSize p →
    (call.perform wideMode).outcome p = (.ok (), q) → Provisional admits c (call :: calls) q

/-- No policy without an assigned step size is left out. -/
theorem Reached.exists_provisional (hp : Reached admits p)
    (hsize : ∀ start size, ¬admits (.setStep start size)) : ∃ c calls, Provisional admits c calls p := by
  induction hp with
  | create hadmits hcreate => exact ⟨_, [], .create hadmits hcreate⟩
  | @call p q call wideMode _ hadmits hcall ih =>
    obtain ⟨c, calls, hp⟩ := ih
    by_cases hreset : call = .reset
    · subst hreset
      obtain rfl : p.reset = q := by simpa [Call.perform] using hcall
      exact ⟨_, [], .reset hp hadmits⟩
    · refine ⟨c, call :: calls, .call wideMode hp hadmits ⟨hreset, ?_⟩ hcall⟩
      rintro start size rfl
      exact absurd hadmits (hsize start size)

lemma Provisional.reached (hp : Provisional admits c calls p) : Reached admits p := by
  induction hp with
  | create hadmits hcreate => exact .create hadmits hcreate
  | reset _ hadmits ih => exact .call false ih hadmits rfl
  | call wideMode _ hadmits _ hcall ih => exact .call wideMode ih hadmits hcall

/-- The settings that the step size comes from are those of a reached policy. -/
lemma Provisional.exists_reached (hp : Provisional admits c calls p) :
    ∃ p₀, Reached admits p₀ ∧ p₀.controls = c := by
  induction hp with
  | create hadmits hcreate => exact ⟨_, .create hadmits hcreate, rfl⟩
  | reset hp => exact ⟨_, hp.reached, rfl⟩
  | call _ _ _ _ _ ih => exact ih

/-- The step size is the mean of the bounds at the last reset. -/
theorem Provisional.stepSize_eq (hp : Provisional admits c calls p) : p.stepSize = .real c.mean := by
  induction hp with
  | create hadmits hcreate =>
    unfold Policy.create at hcreate
    split at hcreate
    · rw [← Except.ok.inj hcreate]
      rfl
    · exact nomatch hcreate
  | reset => rfl
  | @call p q c calls call wideMode _ _ hleaves hcall ih =>
    obtain ⟨_, hframe⟩ := perform_frame call wideMode p
    rw [hcall] at hframe
    obtain rfl : q = _ := hframe
    refine Eq.trans ?_ ih
    cases call with
    | setStep start size => exact hleaves.2 start size rfl
    | reset => exact absurd rfl hleaves.1
    | _ => rfl

lemma Provisional.bounds_eq (hp : Provisional admits c calls p)
    (hcalls : ∀ call ∈ calls, call.newBounds? = none) :
    p.controls.least = c.least ∧ p.controls.greatest = c.greatest := by
  induction hp with
  | create | reset => exact ⟨rfl, rfl⟩
  | call _ _ _ _ hcall ih =>
    obtain ⟨hnew, hcalls⟩ := List.forall_mem_cons.mp hcalls
    obtain ⟨hleast, hgreatest⟩ := perform_bounds hnew hcall
    obtain ⟨hleast', hgreatest'⟩ := ih hcalls
    exact ⟨hleast.trans hleast', hgreatest.trans hgreatest'⟩

/-- The step size is the geometric mean of the bounds at the last reset, and these enclose it if they
are finite and in order and their product stays in the range of doubles. Until there are new bounds
the same holds of the present ones. -/
theorem Provisional.encloses_stepSize (hp : Provisional admits c calls p)
    (hdoubles : ∀ call, admits call → call.HoldsDoubles) :
    p.stepSize = .real (double.sqrt (double.mul c.least c.greatest)) ∧
    (c.KeepsMean → c.Encloses p.stepSize) ∧
    ((∀ call ∈ calls, call.newBounds? = none) → p.controls.KeepsMean →
      p.controls.Encloses p.stepSize) := by
  obtain ⟨p₀, hp₀, hcontrols⟩ := hp.exists_reached
  have hproper : c.Proper := hcontrols ▸ hp₀.proper hdoubles
  have hbetween (hmean : c.KeepsMean) : c.Encloses p.stepSize := by
    rw [hp.stepSize_eq]
    exact Controls.encloses_mean hproper hmean
  refine ⟨hp.stepSize_eq, hbetween, fun hcalls hmean => ?_⟩
  obtain ⟨hleast, hgreatest⟩ := hp.bounds_eq hcalls
  simp only [Controls.KeepsMean, hleast, hgreatest] at hmean
  simp only [Controls.Encloses, hleast, hgreatest]
  exact hbetween hmean

/-- Bounds from ten to twenty. -/
def moveBounds : Call :=
  .configureScalar (.real (.finite 10)) (.real (.finite 20)) (.real (.finite 1)) (.real (.finite 1))

/-- The wide steps with these bounds, and the step size from before. -/
def movedSteps : Policy :=
  { wideSteps with controls := ⟨.finite 10, .finite 20, .finite 1, .finite 1, none, none⟩ }

lemma moveBounds_outcome : (moveBounds.perform false).outcome wideSteps = (.ok (), movedSteps) := by
  have hleast : (finite 10 : Number).abs = finite 10 := by decide +kernel
  have hgreatest : (finite 20 : Number).abs = finite 20 := by decide +kernel
  simp [moveBounds, Call.perform, configureScalar_outcome, Controls.scalarForm, configured, movedSteps,
    Value.toNumber, Value.elementToNumber, hleast, hgreatest, bind, Except.bind, pure, Except.pure]

lemma holdsDoubles_moveBounds : moveBounds.HoldsDoubles := by
  have hleast : float64.Holds (finite 10) := holds_of_convert_eq (by decide +kernel)
  have hgreatest : float64.Holds (finite 20) := holds_of_convert_eq (by decide +kernel)
  exact ⟨Value.holdsDouble_real hleast, Value.holdsDouble_real hgreatest⟩

lemma provisional_movedSteps :
    Provisional Call.HoldsDoubles wideSteps.controls [moveBounds] movedSteps :=
  .call false (.create admits_wideSteps create_wideSteps) holdsDoubles_moveBounds
    ⟨nofun, nofun⟩ moveBounds_outcome

lemma keepsMean_movedSteps : movedSteps.controls.KeepsMean :=
  ⟨10, 20, rfl, rfl, by norm_num, 200, by decide +kernel, .inl (by decide +kernel)⟩

theorem encloses_stepSize_movedSteps :
    Provisional Call.HoldsDoubles movedSteps.controls [] movedSteps.reset ∧
      (∀ call : Call, call.HoldsDoubles → call.HoldsDoubles) ∧
      movedSteps.controls.Encloses movedSteps.reset.stepSize := by
  have hreset : Provisional Call.HoldsDoubles movedSteps.controls [] movedSteps.reset :=
    .reset provisional_movedSteps trivial
  exact ⟨hreset, fun _ h => h,
    (hreset.encloses_stepSize fun _ h => h).2.1 keepsMean_movedSteps⟩

/-- New bounds leave a step size that they do not enclose. -/
theorem movedSteps_not_enclosed :
    Provisional Call.HoldsDoubles wideSteps.controls [moveBounds] movedSteps ∧
      movedSteps.controls.KeepsMean ∧ ¬movedSteps.controls.Encloses movedSteps.stepSize := by
  refine ⟨provisional_movedSteps, keepsMean_movedSteps, ?_⟩
  rintro ⟨x, hx, hleast, -⟩
  obtain rfl := Value.real.inj hx
  revert hleast
  decide +kernel

end Policy

end AdaptiveStep
