import AdaptiveStep.StepFilter
import AdaptiveStep.Proofs.Actions
import AdaptiveStep.Proofs.FloatRounding

/-!
# The filter on numbers

The filter in closed form for steps that are plain numbers of any arithmetic, and its agreement with
the filter on elements for real steps. In double precision it tests exactly whether a step is below
or above the bounds.
-/

namespace AdaptiveStep

open Extended FloatType

namespace Arithmetic

variable {α : Type} (A : Arithmetic α) (tooSmall : α → α → Failure)

/-- A filtered step cut to the maximal step under its own sign. -/
def clamped (filtered : FilteredStep α) (greatest : α) : FilteredStep α :=
  if A.lt (A.ofRat 0) (A.sub filtered.step greatest) then ⟨greatest, .greatest⟩
  else if A.lt (A.add filtered.step greatest) (A.ofRat 0) then ⟨A.neg greatest, .opposite⟩
  else filtered

lemma of_clamped_source {filtered : FilteredStep α} {greatest : α}
    (h : (A.clamped filtered greatest).source = .proposal) :
    filtered.source = .proposal ∧
      A.lt (A.ofRat 0) (A.sub filtered.step greatest) = false ∧
      A.lt (A.add filtered.step greatest) (A.ofRat 0) = false := by
  unfold clamped at h
  split_ifs at h with habove hopposite
  exact ⟨h, by simpa using habove, by simpa using hopposite⟩

/-- The minimal step in the direction of the integration. -/
def minimalStep (forward : Bool) (least : α) : FilteredStep α :=
  if forward then ⟨least, .least⟩ else ⟨A.neg least, .opposite⟩

lemma clamp_eq (h : α) (filtered : FilteredStep α) (greatest : α) :
    (A.stepField tooSmall).clamp h filtered greatest = .ok (A.clamped filtered greatest) := by
  simp only [StepField.clamp, stepField, bind, Except.bind, pure, Except.pure, clamped]
  split_ifs <;> rfl

theorem filterStep_eq (h : α) (forward acceptSmall : Bool) (least greatest : α) :
    (A.stepField tooSmall).filterStep h forward acceptSmall least greatest =
      if A.lt (A.sub (A.abs h) least) (A.ofRat 0) then
        if acceptSmall then .ok (A.clamped (A.minimalStep forward least) greatest)
        else .error (tooSmall (A.abs h) least)
      else .ok (A.clamped ⟨h, .proposal⟩ greatest) := by
  have hbelow : (A.stepField tooSmall).isBelow h least =
      .ok (A.lt (A.sub (A.abs h) least) (A.ofRat 0)) := rfl
  have hminimal : (A.stepField tooSmall).minimal h forward least =
      .ok (A.minimalStep forward least) := by
    cases forward <;> rfl
  unfold StepField.filterStep
  rw [hbelow, hminimal]
  simp only [bind, Except.bind, clamp_eq]
  split_ifs <;> rfl

end Arithmetic

lemma double_ofRat_zero : double.ofRat 0 = .finite 0 := by
  simp [double, Rounding.ofRat, rounding]

/-! The tests of the filter on doubles, as comparisons. -/

section Tests

variable {x b : Number}

lemma double_sub_lt_zero (hx : float64.Holds x) (hb : float64.Holds b) :
    double.lt (double.sub x b) (double.ofRat 0) = x.lt b := by
  rw [double_ofRat_zero]
  exact (sign_sub hx hb).1

lemma zero_lt_double_sub (hx : float64.Holds x) (hb : float64.Holds b) :
    double.lt (double.ofRat 0) (double.sub x b) = b.lt x := by
  rw [double_ofRat_zero]
  exact (sign_sub hx hb).2

lemma double_add_lt_zero (hx : float64.Holds x) (hb : float64.Holds b) :
    double.lt (double.add x b) (double.ofRat 0) = x.lt b.neg := by
  rw [double_ofRat_zero, double, arithmetic_add, add_eq_sub_neg]
  exact (sign_sub hx (holds_neg hb)).1

end Tests

namespace Value

variable {wideMode : Bool}

@[simp] lemma combine_real (op : Operation) (x y : Number) :
    combine wideMode op (real x) (real y) = .ok (real (op.number double x y)) := rfl

lemma isBelow_real (h least : Number) :
    (stepField wideMode).isBelow (real h) (real least) =
      .ok ((double.sub h.abs least).lt (.finite 0)) := rfl

lemma minimal_real (h : Number) (forward : Bool) (least : Number) :
    (stepField wideMode).minimal (real h) forward (real least) =
      .ok ⟨real (double.minimalStep forward least).step,
        (double.minimalStep forward least).source⟩ := by
  cases forward <;> rfl

lemma clamp_real (h : Number) (filtered : FilteredStep Number) (greatest : Number) :
    (stepField wideMode).clamp (real h) ⟨real filtered.step, filtered.source⟩ (real greatest) =
      .ok ⟨real (double.clamped filtered greatest).step,
        (double.clamped filtered greatest).source⟩ := by
  have hlt : double.lt = Extended.lt := rfl
  have hconstant (y : Number) : constantLike wideMode (real h) (real y) = .ok (real y) := rfl
  simp only [StepField.clamp, stepField, combine_real, Arithmetic.clamped, double_ofRat_zero, hlt, realPart,
    Operation.number, bind, Except.bind, pure, Except.pure, hconstant, neg, negElement]
  split_ifs <;> rfl

/-- Real steps are filtered as the doubles they are. -/
theorem filterStep_real (h least greatest : Number) (forward acceptSmall : Bool) :
    filterStep wideMode (real h) forward acceptSmall (real least) (real greatest) =
      (doubleSteps.filterStep h forward acceptSmall least greatest).map
        fun r => ⟨real r.step, r.source⟩ := by
  have hlt : double.lt = Extended.lt := rfl
  have habs : double.abs = Extended.abs := rfl
  have hsmall : (stepField wideMode).tooSmall (real h) (real least) =
      .ok (.minimalStep (real h.abs) (real least)) := rfl
  have hproposal : (stepField wideMode).clamp (real h) ⟨real h, .proposal⟩ (real greatest) =
      .ok ⟨real (double.clamped ⟨h, .proposal⟩ greatest).step,
        (double.clamped ⟨h, .proposal⟩ greatest).source⟩ :=
    clamp_real h ⟨h, .proposal⟩ greatest
  rw [doubleSteps, Arithmetic.filterStep_eq, filterStep, StepField.filterStep, isBelow_real,
    minimal_real, hsmall, hproposal, double_ofRat_zero, hlt, habs]
  simp only [bind, Except.bind, clamp_real]
  split_ifs <;> rfl

/-- A real step neither below nor above the bounds passes the filter. -/
theorem filterStep_real_of_fits {h least greatest : Number} (hsign : greatest.isNegative = false)
    (hleast : h.abs.lt least = false) (hgreatest : greatest.lt h.abs = false)
    (forward acceptSmall : Bool) :
    filterStep wideMode (real h) forward acceptSmall (real least) (real greatest) =
      .ok ⟨real h, .proposal⟩ := by
  rw [lt_abs_eq hsign, Bool.or_eq_false_iff] at hgreatest
  have hbelow : double.lt (double.sub (double.abs h) least) (double.ofRat 0) = false := by
    rw [double_ofRat_zero]
    exact not_sub_lt_zero hleast
  have habove : double.lt (double.ofRat 0) (double.sub h greatest) = false := by
    rw [double_ofRat_zero]
    exact not_zero_lt_sub hgreatest.1
  have hopposite : double.lt (double.add h greatest) (double.ofRat 0) = false := by
    rw [double_ofRat_zero, double, arithmetic_add, add_eq_sub_neg]
    exact not_sub_lt_zero hgreatest.2
  rw [filterStep_real, doubleSteps, Arithmetic.filterStep_eq, hbelow]
  simp [Arithmetic.clamped, habove, hopposite, Except.map]

/-- A real step that passes the filter lies between the bounds, if all of them are doubles. -/
theorem fits_of_filterStep_real {h least greatest : Number} {forward acceptSmall : Bool}
    (hh : float64.Holds h) (hleast : float64.Holds least) (hgreatest : float64.Holds greatest)
    (hsign : greatest.isNegative = false)
    (hfilter : filterStep wideMode (real h) forward acceptSmall (real least) (real greatest) =
      .ok ⟨real h, .proposal⟩) :
    h.abs.lt least = false ∧ greatest.lt h.abs = false := by
  have hbelow : double.lt (double.sub (double.abs h) least) (double.ofRat 0) = h.abs.lt least :=
    double_sub_lt_zero (holds_abs hh) hleast
  rw [filterStep_real, doubleSteps, Arithmetic.filterStep_eq, hbelow] at hfilter
  cases hlt : h.abs.lt least
  · simp only [hlt, Bool.false_eq_true, if_false, Except.map, Except.ok.injEq] at hfilter
    obtain ⟨-, h1, h2⟩ := double.of_clamped_source (congrArg FilteredStep.source hfilter)
    rw [lt_abs_eq hsign, ← zero_lt_double_sub hh hgreatest, ← double_add_lt_zero hh hgreatest, h1, h2]
    exact ⟨rfl, rfl⟩
  · -- a raised step comes from a bound
    cases acceptSmall
    · simp [hlt, Except.map] at hfilter
    · simp only [hlt, if_true, Except.map, Except.ok.injEq] at hfilter
      obtain ⟨hsource, -⟩ := double.of_clamped_source (congrArg FilteredStep.source hfilter)
      cases forward <;> simp [Arithmetic.minimalStep] at hsource

end Value

end AdaptiveStep
