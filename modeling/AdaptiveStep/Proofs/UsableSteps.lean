import AdaptiveStep.Proofs.FirstStepBounds
import AdaptiveStep.Proofs.RoughGuess

/-!
# Usable first steps

A first step is usable if it is a number between the bounds with the sign of the direction. The
comparisons that limit the estimate fail beside NaN and then keep what they limit, so NaN in the rough
guess reaches the step, and nothing else makes the step NaN. The estimate is usable exactly if the
scaled vectors determine the rough guess.
-/

namespace AdaptiveStep

open Extended FloatType

section

variable {x y : Number}

lemma isNaN_min (x y : Number) : (double.min x y).isNaN = x.isNaN := by
  unfold Arithmetic.min
  split_ifs with h
  · obtain ⟨hy, hx, -⟩ := lt_iff.mp h
    rw [hx, hy]
  · rfl

lemma isNaN_max (x y : Number) : (double.max x y).isNaN = x.isNaN := by
  unfold Arithmetic.max
  split_ifs with h
  · obtain ⟨hx, hy, -⟩ := lt_iff.mp h
    rw [hx, hy]
  · rfl

lemma not_lt_min (x y : Number) : y.lt (double.min x y) = false := by
  unfold Arithmetic.min
  split_ifs with h
  · exact lt_self y
  · exact Bool.eq_false_iff.mpr h

lemma max_not_lt (x y : Number) : (double.max x y).lt y = false := by
  unfold Arithmetic.max
  split_ifs with h
  · exact lt_self y
  · exact Bool.eq_false_iff.mpr h

end

/-- The scaled vectors leave the rough guess open: neither sum of squares is tiny, and they have no
ratio, because a component has no quotient with its scale or because both sums have overflowed. -/
def StartVectors.Undetermined (v : StartVectors Number) : Prop :=
  ∃ size slopeSize, InitialStep.scaledSquares double v.scale v.state = .ok size ∧
    InitialStep.scaledSquares double v.scale v.slope = .ok slopeSize ∧
    size.lt InitialStep.tiny = false ∧ slopeSize.lt InitialStep.tiny = false ∧
    (InitialStep.LacksQuotient v.scale v.state ∨ InitialStep.LacksQuotient v.scale v.slope ∨
      (size.isInfinite = true ∧ slopeSize.isInfinite = true))

namespace InitialStep

/-- A step that an integration can take: a number with a magnitude between the bounds and, unless it is
zero, the sign of the direction. -/
structure Usable (forward : Bool) (least greatest h : Number) : Prop where
  number : h.isNaN = false
  least_le : double.le least h.abs = true
  le_greatest : double.le h.abs greatest = true
  direction : h.isZero = false → h.isNegative = !forward

variable {wideMode : Bool} {order least greatest v : Value} {guess h a b : Number}

/-- What a candidate is limited to. -/
lemma limited_eq (guess h : Number) (start : Except Failure Number) :
    limited double (order.candidates wideMode) guess (.real h) start = start.map fun t =>
      .real (double.max (double.min (double.mul (double.ofRat 100) (double.abs guess)) h)
        (double.mul (double.ofRat (1 / 1000000000000)) (double.abs t))) := by
  have hnumber (x : Number) : (order.candidates wideMode).ofNumber x = .real x := rfl
  have hreal (c : Prop) [Decidable c] (x y : Number) :
      (if c then Value.real x else .real y) = .real (if c then x else y) := by split_ifs <;> rfl
  cases start with
  | error e => simp only [limited, hnumber, Value.candidates_isBelow, bind, Except.bind, Except.map]
  | ok t =>
    simp only [limited, hnumber, Value.candidates_isBelow, hreal, Value.candidates_isAbove, bind,
      Except.bind, Except.map, pure, Except.pure, ← apply_ite]
    rfl

lemma isNaN_limited {start : Except Failure Number}
    (hv : limited double (order.candidates wideMode) guess (.real h) start = .ok v) :
    ∃ y, v = .real y ∧ y.isNaN = guess.isNaN := by
  have hhundred : double.ofRat 100 = finite 100 := by decide +kernel
  rw [limited_eq] at hv
  cases start with
  | error e => simp [Except.map] at hv
  | ok t =>
    refine ⟨_, (Except.ok.inj hv).symm, ?_⟩
    rw [isNaN_max, isNaN_min, hhundred]
    exact (isNaN_mul_of_pos (t := float64) (by norm_num) _).trans (isNaN_abs guess)

/-- The magnitude is NaN exactly if the vectors leave the rough guess open. -/
theorem isNaN_magnitude {σ : Type} {s s' : σ} (horder : order.realNumber?.isSome = true)
    {forward : Bool} {w : StartVectors Number} {probe : Number → Action σ (List Number)}
    {start : Except Failure Number}
    (hv : (magnitude double (order.candidates wideMode) forward w probe start).outcome s =
      (.ok v, s')) : ∃ y, v = .real y ∧ (y.isNaN = true ↔ w.Undetermined) := by
  simp only [magnitude, Action.outcome_bind_eq_ok, Action.outcome_lift, Prod.mk.injEq] at hv
  obtain ⟨size, _, ⟨hsize, -⟩, slopeSize, _, ⟨hslope, -⟩, _, _, -, _, _, -, u, _, ⟨hu, -⟩, hv, -⟩ := hv
  obtain ⟨x, rfl⟩ := proposal_real horder hu
  obtain ⟨y, rfl, hy⟩ := isNaN_limited hv
  refine ⟨y, rfl, ?_⟩
  have hdirected : (directed double forward (roughGuess double size slopeSize)).isNaN =
      (roughGuess double size slopeSize).isNaN := by
    unfold directed
    split_ifs
    · rfl
    · exact isNaN_neg _
  rw [hy, hdirected, isNaN_roughGuess_iff (isNegative_scaledSquares hsize)
    (isNegative_scaledSquares hslope), isNaN_scaledSquares_iff hsize, isNaN_scaledSquares_iff hslope]
  constructor
  · exact fun h => ⟨size, slopeSize, hsize, hslope, h⟩
  · rintro ⟨_, _, hsize', hslope', h⟩
    obtain rfl := Except.ok.inj (hsize.symm.trans hsize')
    obtain rfl := Except.ok.inj (hslope.symm.trans hslope')
    exact h

/-- A candidate is brought between bounds that are plain real numbers, in either order. -/
lemma bounded_plain (hleast : least.realNumber? = some a) (hgreatest : greatest.realNumber? = some b)
    (hv : bounded (order.candidates wideMode) least greatest (.real h) = .ok v) :
    v.realNumber? = some (double.min (double.max h a) b) := by
  have hbelow : (order.candidates wideMode).isBelow (.real h) least = .ok (h.lt a) :=
    Value.compare_plain wideMode .below rfl hleast
  have habove {w : Value} {z : Number} (hw : w.realNumber? = some z) :
      (order.candidates wideMode).isAbove w greatest = .ok (b.lt z) :=
    Value.compare_plain wideMode .above hw hgreatest
  have hraised : (if h.lt a then least else .real h).realNumber? = some (double.max h a) := by
    change _ = some (if h.lt a then a else h)
    split_ifs
    · exact hleast
    · rfl
  simp only [bounded, hbelow, Except.bind_eq_ok, Except.ok.injEq, exists_eq_left',
    habove hraised] at hv
  change _ = some (if b.lt (double.max h a) then b else double.max h a)
  by_cases hgt : b.lt (double.max h a) = true
  · rw [if_pos hgt] at hv ⊢
    exact Except.ok.inj hv ▸ hgreatest
  · rw [if_neg hgt] at hv ⊢
    exact Except.ok.inj hv ▸ hraised

/-- A magnitude is brought between bounds that are plain real numbers, unless it is NaN. -/
lemma bounded_number (hleast : least.realNumber? = some a) (hgreatest : greatest.realNumber? = some b)
    (hle : b.lt a = false)
    (hv : bounded (order.candidates wideMode) least greatest (.real h) = .ok v) :
    ∃ z, v.realNumber? = some z ∧ z.isNaN = h.isNaN ∧ z.lt a = false ∧ b.lt z = false := by
  refine ⟨_, bounded_plain hleast hgreatest hv, by rw [isNaN_min, isNaN_max], ?_, ?_⟩
  · unfold Arithmetic.min
    split_ifs
    · exact hle
    · exact max_not_lt h a
  · exact not_lt_min (double.max h a) b

end InitialStep

/-- A plain real number has an opposite, which is a plain real number. -/
lemma Value.neg_number {v w : Value} {z : Number} (hv : v.realNumber? = some z) (h : v.neg = .ok w) :
    ∃ x, w.realNumber? = some x ∧ x.isNaN = z.isNaN ∧ x.abs = z.abs ∧
      (z.isZero = false → x = z.neg) := by
  have hfinite (q : ℚ) : (finite (-q)).isNaN = (finite q).isNaN ∧ (finite (-q)).abs = (finite q).abs ∧
      ((finite q).isZero = false → finite (-q) = (finite q).neg) := by
    by_cases hq : q = 0
    · simp [hq, isZero]
    · rw [← neg_finite hq]
      exact ⟨isNaN_neg _, abs_neg _, fun _ => rfl⟩
  cases v <;> simp only [realNumber?, Option.some.injEq, reduceCtorEq] at hv <;> subst hv <;>
    simp only [neg, negElement, Except.ok.injEq] at h <;> subst h
  case real x => exact ⟨x.neg, rfl, isNaN_neg x, abs_neg x, fun _ => rfl⟩
  case integer n => exact ⟨_, rfl, by push_cast; exact hfinite n⟩
  case boolean b => exact ⟨_, rfl, by cases b <;> [simpa using hfinite 0; simpa using hfinite 1]⟩
  case rational q => exact ⟨_, rfl, hfinite q⟩

namespace StartProblem

variable {σ : Type} {s s' : σ} {wideMode : Bool} {P : StartProblem} {f : Dynamics σ Value Value}
  {least greatest v : Value} {a b : Number}

/-- A magnitude that is not below zero takes the sign of the direction. -/
lemma directed_number {u : Value} {z : Number} (hu : u.realNumber? = some z)
    (hz : z.lt (finite 0) = false) (h : P.directed u = .ok v) :
    ∃ x, v.realNumber? = some x ∧ x.isNaN = z.isNaN ∧ x.abs = z.abs ∧
      (x.isNaN = false → x.isZero = false → x.isNegative = !P.forward) := by
  have hsign {x : Number} (hx : x.lt (finite 0) = false) (hzero : x.isZero = false) :
      x.isNegative = false := by
    rcases x with _ | (_ | _) | _ | q <;> simp_all [lt, isZero, isNegative]
  unfold directed at h
  split_ifs at h with hforward
  · obtain rfl := Except.ok.inj h
    exact ⟨z, hu, rfl, rfl, fun _ hzero => by rw [hsign hz hzero, hforward]; rfl⟩
  · obtain ⟨x, hx, hnan, habs, hneg⟩ := Value.neg_number hu h
    refine ⟨x, hx, hnan, habs, fun hnumber hzero => ?_⟩
    have hzero' : z.isZero = false := by
      by_contra h
      have hx0 := habs.trans (abs_of_isZero (by simpa using h))
      have hpositive := zero_lt_abs hnumber hzero
      simp [hx0] at hpositive
    rw [hneg hzero', isNegative_neg (by rw [← hnan, hnumber]), hsign hz hzero']
    simpa using hforward

/-- With bounds in order the estimate for a method of a plain real order is a usable step exactly if
the vectors determine the rough guess. -/
theorem estimate_usable_iff (horder : P.order.realNumber?.isSome = true)
    (hleast : least.realNumber? = some a) (hgreatest : greatest.realNumber? = some b)
    (hsign : double.le (finite 0) a = true) (hle : double.le a b = true)
    (h : (P.estimate wideMode f least greatest).outcome s = (.ok v, s')) :
    ∃ w x, P.startVectors wideMode = .ok w ∧ v.realNumber? = some x ∧
      (InitialStep.Usable P.forward a b x ↔ ¬w.Undetermined) := by
  obtain ⟨-, ha, hzero⟩ := double_le_iff.mp hsign
  obtain ⟨-, hb, hba⟩ := double_le_iff.mp hle
  simp only [estimate, Action.outcome_bind_eq_ok, Action.outcome_lift, Prod.mk.injEq] at h
  obtain ⟨refused, _, ⟨-, rfl⟩, h⟩ := h
  cases refused
  case true => simp at h
  simp only [Bool.false_eq_true, if_false, Action.outcome_bind_eq_ok, Action.outcome_lift,
    Prod.mk.injEq] at h
  obtain ⟨⟨y, slope⟩, _, ⟨hvectors, -⟩, w, _, ⟨hw, -⟩, m, _, hm, u, _, ⟨hu, -⟩, hv, -⟩ := h
  have hstart : P.startVectors wideMode = .ok w := by simp [startVectors, hvectors, hw, bind, Except.bind]
  -- every stage after the magnitude keeps NaN and makes none
  obtain ⟨x, rfl, hx⟩ := InitialStep.isNaN_magnitude horder hm
  obtain ⟨z, hz, hznan, hza, hbz⟩ := InitialStep.bounded_number hleast hgreatest hba hu
  have hz0 : z.lt (finite 0) = false := by
    by_contra hlt
    simp [lt_of_lt_of_not_lt (by simpa using hlt) ha hzero] at hza
  obtain ⟨r, hr, hrnan, habs, hdirection⟩ := directed_number hz hz0 hv
  refine ⟨w, r, hstart, hr, ?_⟩
  rw [← hx, ← hznan, ← hrnan, Bool.not_eq_true]
  constructor
  · exact InitialStep.Usable.number
  · intro hnumber
    have hznumber : z.abs.isNaN = false := by rw [isNaN_abs, ← hrnan, hnumber]
    refine ⟨hnumber, ?_, ?_, hdirection hnumber⟩
    · rw [habs, double_le_iff, abs_lt hz0]
      exact ⟨ha, hznumber, hza⟩
    · rw [habs, double_le_iff, lt_abs hz0]
      exact ⟨hznumber, hb, hbz⟩

/-- A single component that is zero with the derivative one, on the given scale. -/
def zeroStart (scale : Number) : StartProblem where
  state := ⟨.real (.finite 0), .list [.real (.finite 0)], .list [.real (.finite 1)], [], []⟩
  scale := .list [.real scale]
  order := .integer 1
  forward := true

/-- On the scale one the sum for the state is tiny, and the step is usable. -/
theorem estimate_usable_zeroStart :
    ∃ v s', ((zeroStart (.finite 1)).estimate false (constantSlope (.finite 1)) (.real (.finite 0))
        (.integer 10)).outcome () = (.ok v, s') ∧
      ∃ x, v.realNumber? = some x ∧ InitialStep.Usable true (.finite 0) (.finite 10) x := by
  rcases h : ((zeroStart (.finite 1)).estimate false (constantSlope (.finite 1)) (.real (.finite 0))
    (.integer 10)).outcome () with ⟨_ | v, s'⟩
  · have hok : (((zeroStart (.finite 1)).estimate false (constantSlope (.finite 1))
        (.real (.finite 0)) (.integer 10)).outcome ()).1.toOption.isSome = true := by decide +kernel
    simp [h, Except.toOption] at hok
  · obtain ⟨w, x, hw, hx, hiff⟩ := estimate_usable_iff (a := .finite 0) (b := .finite 10) rfl rfl rfl
      (by decide +kernel) (by decide +kernel) h
    refine ⟨v, s', rfl, x, hx, hiff.mpr ?_⟩
    rintro ⟨size, -, hsize, -, hlarge, -⟩
    have hstate : ((zeroStart (.finite 1)).startVectors false).toOption.bind (fun w =>
        (InitialStep.scaledSquares double w.scale w.state).toOption.map
          (Extended.lt · InitialStep.tiny)) = some true := by decide +kernel
    simp [hw, hsize, hlarge, Except.toOption] at hstate

/-- On the scale zero the state has no quotient with its scale, and the step is NaN although both
bounds are one half. -/
theorem zeroStart_not_usable :
    ∃ v s', ((zeroStart (.finite 0)).estimate false (constantSlope (.finite 1))
        (.real (.finite (1 / 2))) (.real (.finite (1 / 2)))).outcome () = (.ok v, s') ∧
      ∃ x, v.realNumber? = some x ∧ ¬InitialStep.Usable true (.finite (1 / 2)) (.finite (1 / 2)) x := by
  have hnan : (((zeroStart (.finite 0)).estimate false (constantSlope (.finite 1))
      (.real (.finite (1 / 2))) (.real (.finite (1 / 2)))).outcome ()).1.toOption.bind
        Value.realNumber? = some .nan := by decide +kernel
  rcases h : ((zeroStart (.finite 0)).estimate false (constantSlope (.finite 1))
    (.real (.finite (1 / 2))) (.real (.finite (1 / 2)))).outcome () with ⟨_ | v, s'⟩
  · rw [h] at hnan
    simp [Except.toOption] at hnan
  · rw [h] at hnan
    exact ⟨v, s', rfl, .nan, hnan, fun husable => by simpa using husable.number⟩

end StartProblem

end AdaptiveStep
