import AdaptiveStep.Proofs.FirstStepBounds
import AdaptiveStep.Proofs.StepProposals

/-!
# The invariant of the integration loop

In exact arithmetic every attempted step goes in the direction of the integration, keeps the maximal
step and the time that is left, and is as long as the minimal step unless it takes all of the time
that is left. The time is the start time plus the accepted steps.
-/

namespace AdaptiveStep

open Extended

/-- Whether a number has the sign of the direction of integration. -/
def Extended.HasDirection (forward : Bool) (h : Extended ℝ) : Prop :=
  if forward then (finite 0).lt h = true else h.lt (finite 0) = true

/-- Bounds of steps, the greater one not zero. -/
structure Bounding (least greatest : Extended ℝ) : Prop where
  least_number : least.isNaN = false
  greatest_number : greatest.isNaN = false
  least_sign : least.isNegative = false
  greatest_sign : greatest.isNegative = false
  ordered : greatest.lt least = false
  positive : (finite 0).lt greatest = true

/-- A step in the direction of the integration and between the bounds. -/
structure Admissible (forward : Bool) (least greatest h : Extended ℝ) : Prop where
  directed : h.HasDirection forward
  notBelow : h.abs.lt least = false
  notAbove : greatest.lt h.abs = false

variable {forward acceptSmall : Bool} {least greatest h : Extended ℝ}
  {tooSmall : Extended ℝ → Extended ℝ → Failure}

lemma exact_clamped (f : FilteredStep (Extended ℝ)) :
    exact.clamped f greatest =
      if greatest.lt f.step then ⟨greatest, .greatest⟩
      else if f.step.lt greatest.neg then ⟨greatest.neg, .opposite⟩ else f := by
  have hadd : exact.add f.step greatest = exact.sub f.step greatest.neg := by
    simp [exact, Rounding.arithmetic, Rounding.sub]
  simp only [Arithmetic.clamped, hadd, exact_ofRat, Rat.cast_zero, exact_lt, exact_neg,
    (exact_sign_sub _ _).1, (exact_sign_sub _ _).2]

/-- Cutting a step to the maximal one makes it admissible, if it is not below the minimal one. -/
lemma admissible_clamped (hb : Bounding least greatest) {f : FilteredStep (Extended ℝ)}
    (hdirected : f.step.HasDirection forward) (hleast : f.step.abs.lt least = false) :
    Admissible forward least greatest (exact.clamped f greatest).step := by
  have hgreatest : greatest.abs = greatest := abs_eq_self hb.greatest_sign
  rw [exact_clamped]
  split_ifs with habove hbelow
  · cases forward
    · have hneg : greatest.lt (finite 0) = true := lt_trans habove hdirected
      rw [lt_asymm hb.positive] at hneg
      simp at hneg
    · exact ⟨hb.positive, by rw [hgreatest]; exact hb.ordered, by rw [hgreatest]; exact lt_self _⟩
  · cases forward
    · refine ⟨(neg_lt_zero greatest).trans hb.positive, ?_, ?_⟩
      · rw [Extended.abs_neg, hgreatest]
        exact hb.ordered
      · rw [Extended.abs_neg, hgreatest]
        exact lt_self _
    · have hneg : (finite 0).lt greatest.neg = true := lt_trans hdirected hbelow
      rw [lt_asymm ((neg_lt_zero greatest).trans hb.positive)] at hneg
      simp at hneg
  · refine ⟨hdirected, hleast, ?_⟩
    rw [lt_abs_eq hb.greatest_sign]
    simp [habove, hbelow]

/-- The filter makes every step in the direction of the integration admissible. -/
theorem admissible_of_filterStep (hb : Bounding least greatest) (hh : h.HasDirection forward)
    {r : FilteredStep (Extended ℝ)}
    (hr : (exact.stepField tooSmall).filterStep h forward acceptSmall least greatest = .ok r) :
    Admissible forward least greatest r.step := by
  have hbelow : exact.lt (exact.sub (exact.abs h) least) (exact.ofRat 0) = h.abs.lt least := by
    simpa using (exact_sign_sub h.abs least).1
  rw [Arithmetic.filterStep_eq, hbelow] at hr
  cases hlt : h.abs.lt least
  · simp only [hlt, Bool.false_eq_true, if_false, Except.ok.injEq] at hr
    rw [← hr]
    exact admissible_clamped hb hh hlt
  · -- the minimal step takes the place of a shorter one
    have hpositive : (finite 0).lt least = true :=
      lt_of_not_lt_of_lt rfl (lt_zero_of_isNegative (isNegative_abs h)) hlt
    have habs : least.abs = least := abs_eq_self hb.least_sign
    cases acceptSmall
    · simp [hlt] at hr
    · simp only [hlt, if_true, Except.ok.injEq] at hr
      rw [← hr]
      cases forward
      · refine admissible_clamped hb (f := ⟨least.neg, .opposite⟩) ((neg_lt_zero least).trans hpositive) ?_
        rw [Extended.abs_neg, habs]
        exact lt_self _
      · refine admissible_clamped hb (f := ⟨least, .least⟩) hpositive ?_
        rw [habs]
        exact lt_self _

/-- A step that is neither below nor above the bounds passes the filter. -/
lemma filterStep_of_fits (hsign : greatest.isNegative = false) (hleast : h.abs.lt least = false)
    (hgreatest : greatest.lt h.abs = false) (forward acceptSmall : Bool) :
    (exact.stepField tooSmall).filterStep h forward acceptSmall least greatest = .ok ⟨h, .proposal⟩ := by
  have hbelow : exact.lt (exact.sub (exact.abs h) least) (exact.ofRat 0) = false := by
    simpa [hleast] using (exact_sign_sub h.abs least).1
  rw [lt_abs_eq hsign, Bool.or_eq_false_iff] at hgreatest
  rw [Arithmetic.filterStep_eq, hbelow, if_neg Bool.false_ne_true, exact_clamped]
  simp [hgreatest]

namespace IntegrationProblem

variable {σ α : Type}

def timeAfter (P : IntegrationProblem α) (done : List (Attempt α)) : α :=
  (done.getLast?.map Attempt.time).getD P.start

def stateAfter (P : IntegrationProblem α) (done : List (Attempt α)) : List α :=
  (done.getLast?.map Attempt.state).getD P.initial

/-- The sum of the accepted steps. -/
def acceptedTime (A : Arithmetic α) (done : List (Attempt α)) : α :=
  A.sum ((done.filter Attempt.accepted).map Attempt.step)

@[simp] lemma timeAfter_append (P : IntegrationProblem α) (done : List (Attempt α))
    (a : Attempt α) : P.timeAfter (done ++ [a]) = a.time := by
  simp [timeAfter]

@[simp] lemma stateAfter_append (P : IntegrationProblem α) (done : List (Attempt α))
    (a : Attempt α) : P.stateAfter (done ++ [a]) = a.state := by
  simp [stateAfter]

lemma acceptedTime_append (A : Arithmetic α) (done : List (Attempt α)) (a : Attempt α) :
    acceptedTime A (done ++ [a]) =
      if a.accepted then A.add (acceptedTime A done) a.step else acceptedTime A done := by
  cases h : a.accepted <;> simp [acceptedTime, Arithmetic.sum, h]

/-- The time lies between the start and the end, and it is the start time plus the accepted
steps. -/
structure OnTime (P : IntegrationProblem (Extended ℝ)) (done : List (Attempt (Extended ℝ))) :
    Prop where
  total : P.timeAfter done = exact.add P.start (acceptedTime exact done)
  between : ∃ x z t : ℝ, P.start = .finite x ∧ P.finish = .finite z ∧
    P.timeAfter done = .finite t ∧ t ∈ Set.uIcc x z

/-- What holds of an attempt after others. -/
structure Sound (P : IntegrationProblem (Extended ℝ)) (least greatest : Extended ℝ)
    (done : List (Attempt (Extended ℝ))) (a : Attempt (Extended ℝ)) : Prop where
  onTime : P.OnTime done
  directed : a.step.HasDirection (P.forward exact)
  atMost : exact.le a.step.abs greatest = true
  inTime : exact.le a.step.abs (P.remaining exact (P.timeAfter done)) = true
  atLeast : exact.le least a.step.abs = true ∨
    a.step.abs = P.remaining exact (P.timeAfter done)
  accepted : a.accepted = true → a.time = exact.add (P.timeAfter done) a.step
  rejected : a.accepted = false → a.time = P.timeAfter done ∧ a.state = P.stateAfter done

/-- A real step `v` towards the end time that is attempted at the time `t`. -/
structure Towards (x z t v : ℝ) : Prop where
  sign : if x < z then 0 < v else v < 0
  inTime : |v| ≤ |z - t|

lemma Towards.mem {x z t v : ℝ} (ht : t ∈ Set.uIcc x z) (hv : Towards x z t v) :
    t + v ∈ Set.uIcc x z := by
  obtain ⟨hsign, htime⟩ := hv
  rcases lt_or_ge x z with h | h
  · rw [Set.uIcc_of_le h.le, Set.mem_Icc] at ht ⊢
    rw [if_pos h] at hsign
    rw [abs_of_pos hsign, abs_of_nonneg (by linarith)] at htime
    constructor <;> linarith
  · rw [Set.uIcc_of_ge h, Set.mem_Icc] at ht ⊢
    rw [if_neg h.not_gt] at hsign
    rw [abs_of_neg hsign, abs_of_nonpos (by linarith)] at htime
    constructor <;> linarith

variable {P : IntegrationProblem (Extended ℝ)} {least greatest h : Extended ℝ} {x z t : ℝ}

lemma forward_exact (hstart : P.start = .finite x) (hfinish : P.finish = .finite z) :
    P.forward exact = decide (x < z) := by
  simp [forward, hstart, hfinish, lt]

lemma remaining_exact (hfinish : P.finish = .finite z) :
    P.remaining exact (.finite t) = .finite |z - t| := by
  simp [remaining, hfinish, abs_finite]

lemma ne_of_not_isFinished (hfinish : P.finish = .finite z)
    (h : P.isFinished exact (.finite t) = false) : t ≠ z := by
  rintro rfl
  rw [isFinished, remaining_exact hfinish, exact_ofRat] at h
  norm_num [lt] at h

/-- A truncated step goes towards the end time, and it is as long as the step unless it takes all
the time that is left. -/
lemma truncated_exact (hstart : P.start = .finite x) (hfinish : P.finish = .finite z)
    (ht : t ∈ Set.uIcc x z) (hne : t ≠ z)
    (hh : Admissible (P.forward exact) least greatest h) :
    ∃ v, P.truncated exact (.finite t) h = .finite v ∧ Towards x z t v ∧
      greatest.lt (.finite |v|) = false ∧
      (Extended.lt (.finite |v|) least = false ∨ |v| = |z - t|) := by
  have hdirected := hh.directed
  rw [HasDirection, forward_exact hstart hfinish] at hdirected
  have htruncated : P.truncated exact (.finite t) h =
      if Extended.lt (.finite |z - t|) h.abs then .finite (z - t) else h := by
    simp only [truncated, remaining_exact hfinish, hfinish, exact_lt, exact_abs, exact_sub_finite]
  rw [htruncated]
  split_ifs with hlt
  · refine ⟨z - t, rfl, ⟨?_, le_rfl⟩, ?_, .inr rfl⟩
    · rcases lt_or_ge x z with hxz | hxz
      · rw [Set.uIcc_of_le hxz.le, Set.mem_Icc] at ht
        rw [if_pos hxz]
        exact sub_pos.mpr (lt_of_le_of_ne ht.2 hne)
      · rw [Set.uIcc_of_ge hxz, Set.mem_Icc] at ht
        rw [if_neg hxz.not_gt]
        exact sub_neg.mpr (lt_of_le_of_ne ht.1 hne.symm)
    · by_contra habove
      have hgreatest := lt_trans (by simpa using habove) hlt
      rw [hh.notAbove] at hgreatest
      simp at hgreatest
  · -- the step is not longer than the time that is left, so it is finite
    rcases h with _ | (_ | _) | _ | v
    case finite =>
      have hle : |v| ≤ |z - t| := by simpa [abs_finite, lt] using hlt
      refine ⟨v, rfl, ⟨?_, hle⟩, ?_, .inl ?_⟩
      · rcases lt_or_ge x z with hxz | hxz
        · simpa [hxz, lt] using hdirected
        · simpa [hxz.not_gt, lt] using hdirected
      · simpa [abs_finite] using hh.notAbove
      · simpa [abs_finite] using hh.notBelow
    all_goals simp_all [lt, Extended.abs]

lemma exact_le {x y : Extended ℝ} (hx : x.isNaN = false) (hy : y.isNaN = false)
    (h : y.lt x = false) : exact.le x y = true := by
  simp [Arithmetic.le, hx, hy, h]

lemma add_exact_assoc {x t v : ℝ} {y : Extended ℝ}
    (h : exact.add (.finite x) y = .finite t) :
    exact.add (.finite x) (exact.add y (.finite v)) = .finite (t + v) := by
  cases y
  case finite b =>
    have hb : x + b = t := by simpa using h
    simp [← hb, add_assoc]
  case negativeZero =>
    obtain rfl : x = t := by simpa [exact, Rounding.arithmetic, Rounding.add] using h
    exact exact_add_finite
  all_goals simp [exact, Rounding.arithmetic, Rounding.add] at h

/-! ### One attempt -/

section

variable {S : Setting α} {P : IntegrationProblem α} {c : Controls α}
  {f : Dynamics σ α (List α)} {s s' : σ} {t h : α} {y : List α} {a : Attempt α}

/-- An attempt takes the truncated step, and it moves on only if it is accepted. -/
lemma attempt_ok (hok : (P.attempt S c f t y h).outcome s = (.ok a, s')) :
    a.step = P.truncated S.arithmetic t h ∧
      (a.accepted = true → a.time = S.arithmetic.add t a.step) ∧
      (a.accepted = false → a.time = t ∧ a.state = y) := by
  simp only [attempt, Action.outcome_bind_eq_ok, Action.outcome_lift, Prod.mk.injEq] at hok
  obtain ⟨slope, _, -, endSlope, _, -, error, _, -, hok⟩ := hok
  split_ifs at hok
  · obtain ⟨rfl, -⟩ : _ = a ∧ _ := by simpa using hok
    simp
  · obtain ⟨rfl, -⟩ : _ = a ∧ _ := by simpa using hok
    simp

/-- The next step is a proposed one after the filter. -/
lemma nextStep_ok {h' : α} (hok : P.nextStep S c a = .ok h') :
    ∃ w r, proposeAtOrder S.arithmetic (.standard S.arithmetic) (S.arithmetic.ofRat (P.order - 1))
        a.error a.step = .ok w ∧
      S.steps.filterStep w (P.forward S.arithmetic) P.acceptSmall c.least c.greatest = .ok r ∧
      r.step = h' := by
  rw [nextStep_eq] at hok
  obtain ⟨w, hw, hok⟩ := Except.bind_eq_ok.mp hok
  obtain ⟨r, hr, hstep⟩ := Except.bind_eq_ok.mp hok
  exact ⟨w, r, hw, hr, Except.ok.inj hstep⟩

lemma attempts_zero_run : ((P.attempts S c f 0 t y h).run s).1.attempts = [] := rfl

/-- One pass of the loop. -/
lemma attempts_succ (n : ℕ) :
    (P.attempts S c f (n + 1) t y h).run s =
      if P.isFinished S.arithmetic t then (⟨[], .ok true⟩, s)
      else match (P.attempt S c f t y h).outcome s with
        | (.error e, s') => (⟨[], .error e⟩, s')
        | (.ok a, s') =>
          match P.nextStep S c a with
          | .error e => (⟨[a], .error e⟩, s')
          | .ok h' =>
            let r := (P.attempts S c f n a.time a.state h').run s'
            (⟨a :: r.1.attempts, r.1.ending⟩, r.2) := by
  rw [attempts]
  split_ifs with hfinished
  · rfl
  · simp only [Action.outcome, StateT.run_bind]
    rcases (P.attempt S c f t y h).run.run s with ⟨_ | a, s'⟩
    · rfl
    · change (StateT.run (match P.nextStep S c a with
          | .error e => pure ⟨[a], .error e⟩
          | .ok h' => do
            let rest ← P.attempts S c f n a.time a.state h'
            return (⟨a :: rest.attempts, rest.ending⟩ : Integration α)) s') = _
      dsimp only
      cases P.nextStep S c a <;> rfl

/-- An attempt, and then the rest of the run. -/
lemma attempts_of_attempt {s'' : σ} {n : ℕ} {h' : α} {r : Integration α}
    (hunfinished : P.isFinished S.arithmetic t = false)
    (ha : (P.attempt S c f t y h).outcome s = (.ok a, s')) (hnext : P.nextStep S c a = .ok h')
    (hrest : (P.attempts S c f n a.time a.state h').run s' = (r, s'')) :
    (P.attempts S c f (n + 1) t y h).run s = (⟨a :: r.attempts, r.ending⟩, s'') := by
  simp only [attempts_succ, hunfinished, Bool.false_eq_true, if_false, ha, hnext, hrest]

lemma attempts_succ_run (n : ℕ) :
    ((P.attempts S c f (n + 1) t y h).run s).1.attempts =
      if P.isFinished S.arithmetic t then []
      else match (P.attempt S c f t y h).outcome s with
        | (.error _, _) => []
        | (.ok a, s') =>
          match P.nextStep S c a with
          | .error _ => [a]
          | .ok h' => a :: ((P.attempts S c f n a.time a.state h').run s').1.attempts := by
  rw [attempts_succ]
  split_ifs
  · rfl
  · rcases (P.attempt S c f t y h).outcome s with ⟨_ | a, s'⟩
    · rfl
    · dsimp only
      cases P.nextStep S c a <;> rfl

/-- The whole run of an integration. -/
lemma integrate_outcome :
    (P.integrate S c f).run s =
      match (P.prepare S c f).outcome s with
      | (.error e, s') => (⟨[], .error e⟩, s')
      | (.ok h, s') => (P.attempts S c f P.maxSteps P.start P.initial h).run s' := by
  simp only [integrate, Action.outcome, StateT.run_bind]
  rcases (P.prepare S c f).run.run s with ⟨_ | h, s'⟩ <;> rfl

end

/-! ### The loop -/

section

variable {P : IntegrationProblem (Extended ℝ)} {c : Controls (Extended ℝ)}
  {tooSmall : Extended ℝ → Extended ℝ → Failure} {f : Dynamics σ (Extended ℝ) (List (Extended ℝ))}
  {s s' : σ} {h h' : Extended ℝ} {done : List (Attempt (Extended ℝ))} {a : Attempt (Extended ℝ)}

/-- An attempt with an admissible step is sound, and the time after it is the accepted time
again. -/
theorem sound_of_attempt (htime : P.OnTime done)
    (hunfinished : P.isFinished exact (P.timeAfter done) = false)
    (hh : Admissible (P.forward exact) c.least c.greatest h)
    (hb : Bounding c.least c.greatest)
    (hok : (P.attempt (.exact tooSmall) c f (P.timeAfter done) (P.stateAfter done) h).outcome s =
      (.ok a, s')) :
    P.Sound c.least c.greatest done a ∧ P.OnTime (done ++ [a]) ∧
      ∃ v, a.step = .finite v ∧ (Extended.finite v).HasDirection (P.forward exact) := by
  obtain ⟨x, z, t, hstart, hfinish, ht, hmem⟩ := htime.between
  obtain ⟨hstep, haccepted, hrejected⟩ := attempt_ok hok
  rw [ht] at hunfinished hstep
  obtain ⟨v, hv, htowards, hgreatest, hleast⟩ := truncated_exact hstart hfinish hmem
    (ne_of_not_isFinished hfinish hunfinished) hh
  have hstep : a.step = .finite v := hstep.trans hv
  have hdirected : (Extended.finite v).HasDirection (P.forward exact) := by
    rw [HasDirection, forward_exact hstart hfinish]
    have hsign := htowards.sign
    rcases lt_or_ge x z with h | h
    · simpa [h, lt] using hsign
    · simpa [h.not_gt, lt] using hsign
  have htime' : a.time = P.timeAfter done ∨ a.time = .finite (t + v) ∧ a.accepted = true := by
    cases ha : a.accepted
    · exact .inl (hrejected ha).1
    · refine .inr ⟨?_, rfl⟩
      rw [haccepted ha, hstep, ht]
      exact exact_add_finite
  have hremaining : P.remaining exact (P.timeAfter done) = .finite |z - t| := by
    rw [ht, remaining_exact hfinish]
  have habs : a.step.abs = .finite |v| := by rw [hstep, abs_finite]
  refine ⟨⟨htime, hstep ▸ hdirected, ?_, ?_, ?_, haccepted, hrejected⟩, ⟨?_, ?_⟩, v, hstep,
    hdirected⟩
  · rw [habs]
    exact exact_le rfl hb.greatest_number hgreatest
  · rw [habs, hremaining]
    exact exact_le rfl rfl (by simpa [lt] using htowards.inTime)
  · rw [habs, hremaining]
    exact hleast.imp (exact_le hb.least_number rfl) (congrArg _)
  · rw [timeAfter_append, acceptedTime_append]
    cases ha : a.accepted
    · simpa [(hrejected ha).1] using htime.total
    · have htotal := htime.total
      rw [hstart, ht] at htotal
      rw [haccepted ha, hstep, ht, hstart, if_pos rfl, add_exact_assoc htotal.symm]
      exact exact_add_finite
  · rw [timeAfter_append]
    rcases htime' with h | ⟨h, -⟩
    · exact ⟨x, z, t, hstart, hfinish, h.trans ht, hmem⟩
    · exact ⟨x, z, t + v, hstart, hfinish, h, htowards.mem hmem⟩

/-- The factor keeps the direction of a step, and the filter its bounds. -/
theorem admissible_of_nextStep (hb : Bounding c.least c.greatest) {v : ℝ}
    (hstep : a.step = .finite v) (hv : (Extended.finite v).HasDirection (P.forward exact))
    (hok : P.nextStep (.exact tooSmall) c a = .ok h') :
    Admissible (P.forward exact) c.least c.greatest h' := by
  obtain ⟨w, r, hw, hr, rfl⟩ := nextStep_ok hok
  obtain ⟨hzero, rfl⟩ := proposeAtOrder_eq_ok.mp hw
  have horder : exact.add (exact.ofRat (P.order - 1)) (exact.ofRat 1) =
      .finite (P.order : ℝ) := by
    simp
  have hne : (P.order : ℝ) ≠ 0 := by
    have h : (exact.add (exact.ofRat (P.order - 1)) (exact.ofRat 1)).isZero = false := hzero
    simpa [horder, isZero] using h
  obtain ⟨k, hk, hlow, -⟩ := stepFactor_exact (1 / P.order) a.error
  have hk0 : 0 < k := by linarith
  have hv0 : v ≠ 0 := by
    rintro rfl
    unfold HasDirection at hv
    split_ifs at hv <;> simp at hv
  have hnext : proposeStep exact (.standard exact) (orderExponent exact (exact.ofRat (P.order - 1)))
      a.error a.step = .finite (v * k) := by
    rw [orderExponent, horder, exact_one, exact_div_finite hne one_ne_zero, proposeStep, hk, hstep,
      exact_mul_finite (mul_ne_zero hv0 hk0.ne')]
  refine admissible_of_filterStep hb ?_ hr
  have hdirected : (Extended.finite (v * k)).HasDirection (P.forward exact) := by
    unfold HasDirection at hv ⊢
    split_ifs at hv ⊢
    · simpa [lt] using mul_pos (by simpa [lt] using hv) hk0
    · simpa [lt] using mul_neg_of_neg_of_pos (by simpa [lt] using hv) hk0
  exact hnext ▸ hdirected

/-- Every attempt of a run of the loop is sound. -/
theorem attempts_sound (hb : Bounding c.least c.greatest) (n : ℕ) (htime : P.OnTime done)
    (hh : Admissible (P.forward exact) c.least c.greatest h)
    {before after : List (Attempt (Extended ℝ))}
    (hsplit : ((P.attempts (.exact tooSmall) c f n (P.timeAfter done) (P.stateAfter done) h).run
      s).1.attempts = before ++ a :: after) :
    P.Sound c.least c.greatest (done ++ before) a := by
  induction n generalizing done h s before with
  | zero => simp [attempts_zero_run] at hsplit
  | succ n ih =>
    rw [attempts_succ_run] at hsplit
    split_ifs at hsplit with hfinished
    · simp at hsplit
    · rcases hok : (P.attempt (.exact tooSmall) c f (P.timeAfter done) (P.stateAfter done)
        h).outcome s with ⟨_ | a', s'⟩
      · simp [hok] at hsplit
      · obtain ⟨hsound, htime', v, hv, hdirected⟩ :=
          sound_of_attempt htime (Bool.eq_false_iff.mpr hfinished) hh hb hok
        rcases hnext : P.nextStep (.exact tooSmall) c a' with _ | h'
        · simp only [hok, hnext] at hsplit
          cases before with
          | nil =>
            obtain ⟨rfl, -⟩ := List.cons.inj hsplit
            simpa using hsound
          | cons b before => simp at hsplit
        · simp only [hok, hnext] at hsplit
          cases before with
          | nil =>
            obtain ⟨rfl, -⟩ := List.cons.inj hsplit
            simpa using hsound
          | cons b before =>
            obtain ⟨rfl, hrest⟩ := List.cons.inj hsplit
            have hstep := admissible_of_nextStep hb hv hdirected hnext
            have hsound' : P.Sound c.least c.greatest (done ++ [a'] ++ before) a :=
              ih htime' hstep (by rw [timeAfter_append, stateAfter_append]; exact hrest)
            simpa using hsound'

/-- A magnitude between the bounds is admissible in the direction of the integration, unless it is
zero or NaN. -/
lemma admissible_directed {y : Extended ℝ} (hzero : y.lt (finite 0) = false)
    (hleast : y.lt c.least = false) (hgreatest : c.greatest.lt y = false) {forward : Bool}
    (hh : InitialStep.directed exact forward y = h) (hnumber : h.isNaN = false)
    (hnonzero : h.isZero = false) : Admissible forward c.least c.greatest h := by
  have hpositive (hn : y.isNaN = false) (hz : y.isZero = false) : (finite 0).lt y = true := by
    rcases y with _ | (_ | _) | _ | a
    case finite =>
      have ha : 0 ≤ a := by simpa [lt] using hzero
      have hne : a ≠ 0 := by simpa [isZero] using hz
      simpa [lt] using lt_of_le_of_ne ha hne.symm
    all_goals simp_all [isNaN, isZero, lt]
  have habs : h.abs = y.abs := by
    rw [← hh]
    cases forward
    · exact Extended.abs_neg y
    · rfl
  refine ⟨?_, ?_, ?_⟩
  · rw [← hh] at hnumber hnonzero ⊢
    cases forward
    · exact (neg_lt_zero y).trans (hpositive ((isNaN_neg y).symm.trans hnumber)
        ((isZero_neg y).symm.trans hnonzero))
    · exact hpositive hnumber hnonzero
  · rwa [habs, abs_lt hzero]
  · rwa [habs, lt_abs hzero]

/-- The first step is admissible, unless it is zero or NaN. -/
lemma admissible_of_firstStep (hb : Bounding c.least c.greatest)
    (hwithin : c.StepWithin) {slope : List (Extended ℝ)} (hok : (P.firstStep exact c f slope).outcome s = (.ok h, s'))
    (hnumber : h.isNaN = false) (hnonzero : h.isZero = false) :
    Admissible (P.forward exact) c.least c.greatest h := by
  have hzero {v : Extended ℝ} (hleast : v.lt c.least = false) : v.lt (finite 0) = false := by
    by_contra hlt
    simp [lt_of_lt_of_not_lt (by simpa using hlt) hb.least_number
      (lt_zero_of_isNegative hb.least_sign)] at hleast
  unfold firstStep at hok
  cases hinitial : c.initialStep with
  | some v =>
    simp only [hinitial, Action.outcome_pure, Prod.mk.injEq, Except.ok.injEq] at hok
    obtain ⟨hleast, hgreatest⟩ := hwithin v hinitial
    exact admissible_directed (hzero hleast) hleast hgreatest hok.1 hnumber hnonzero
  | none =>
    simp only [hinitial] at hok
    split_ifs at hok with horder hlength hlength
    · simp at hok
    · simp at hok
    · simp at hok
    · simp only [Action.outcome_bind_eq_ok, Action.outcome_lift, Action.outcome_pure,
        Prod.mk.injEq, Except.ok.injEq] at hok
      obtain ⟨y, _, -, z, _, ⟨hz, -⟩, hh, -⟩ := hok
      obtain ⟨z, rfl, hleast, hgreatest⟩ := InitialStep.bounded_ok (e := id) (fun _ _ => rfl)
        (fun _ _ => rfl) hb.ordered hz
      exact admissible_directed (hzero hleast) hleast hgreatest hh hnumber hnonzero

lemma onTime_nil {x z : ℝ} (hstart : P.start = .finite x) (hfinish : P.finish = .finite z) :
    P.OnTime [] := by
  refine ⟨?_, x, z, x, hstart, hfinish, hstart, Set.left_mem_uIcc⟩
  simp [timeAfter, acceptedTime, Arithmetic.sum, hstart]

lemma integrate_run (S : Setting (Extended ℝ)) :
    ((P.integrate S c f).run s).1.attempts =
      match (P.prepare S c f).outcome s with
      | (.error _, _) => []
      | (.ok h, s') => ((P.attempts S c f P.maxSteps P.start P.initial h).run s').1.attempts := by
  rw [integrate_outcome]
  rcases (P.prepare S c f).outcome s with ⟨_ | h, s'⟩ <;> rfl

/-- Every attempt of an integration is sound, if its first step is a number other than zero. -/
theorem sound_of_integrate (hb : Bounding c.least c.greatest)
    (hwithin : c.StepWithin) {x z : ℝ} (hstart : P.start = .finite x) (hfinish : P.finish = .finite z)
    (hfirst : ∀ h s', (P.prepare (.exact tooSmall) c f).outcome s = (.ok h, s') →
      h.isNaN = false ∧ h.isZero = false)
    {before after : List (Attempt (Extended ℝ))}
    (hsplit : ((P.integrate (.exact tooSmall) c f).run s).1.attempts = before ++ a :: after) :
    P.Sound c.least c.greatest before a := by
  rw [integrate_run] at hsplit
  rcases hprepare : (P.prepare (.exact tooSmall) c f).outcome s with ⟨_ | h, s'⟩
  · simp [hprepare] at hsplit
  · simp only [hprepare] at hsplit
    obtain ⟨hnumber, hnonzero⟩ := hfirst h s' hprepare
    simp only [prepare, Action.outcome_bind_eq_ok, Action.outcome_lift, Prod.mk.injEq] at hprepare
    obtain ⟨slope, _, -, _, _, -, hfirstStep⟩ := hprepare
    have hh := admissible_of_firstStep hb hwithin hfirstStep hnumber hnonzero
    have hsound := attempts_sound hb P.maxSteps (onTime_nil hstart hfinish) hh hsplit
    simpa using hsound

end

end IntegrationProblem

def Controls.map {α β : Type} (e : α → β) (c : Controls α) : Controls β where
  least := e c.least
  greatest := e c.greatest
  scalarAbsolute := e c.scalarAbsolute
  scalarRelative := e c.scalarRelative
  vector := c.vector.map fun v => (v.1.map e, v.2.map e)
  initialStep := c.initialStep.map e

end AdaptiveStep
