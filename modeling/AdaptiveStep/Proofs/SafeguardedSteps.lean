import AdaptiveStep.Proofs.EulerProbes
import AdaptiveStep.Proofs.UsableSteps

/-!
# Safeguards of the first step

Whatever the dynamics return, the estimate is not above a hundred times the rough guess, unless the
floor for late start times or the minimal step is, and neither below the floor nor below the minimal
step, unless the maximal step is. Every limit keeps what it limits beside NaN, so only a rough guess that
is NaN reaches the result. The bounds may come in either order.
-/

namespace AdaptiveStep

open Extended FloatType

section

variable {x y : Number}

lemma place_min (hx : x.isNaN = false) (hy : y.isNaN = false) :
    (double.min x y).place = min x.place y.place := by
  unfold Arithmetic.min
  split_ifs with h
  · exact (min_eq_right (lt_iff.mp h).2.2.le).symm
  · have hle : x.place ≤ y.place := (lt_eq_false_iff hy hx).mp (Bool.eq_false_iff.mpr h)
    exact (min_eq_left hle).symm

lemma place_max (hx : x.isNaN = false) (hy : y.isNaN = false) :
    (double.max x y).place = max x.place y.place := by
  unfold Arithmetic.max
  split_ifs with h
  · exact (max_eq_right (lt_iff.mp h).2.2.le).symm
  · have hle : y.place ≤ x.place := (lt_eq_false_iff hx hy).mp (Bool.eq_false_iff.mpr h)
    exact (max_eq_left hle).symm

/-- The smaller of two numbers is not above the first, and it is the first beside NaN. -/
lemma place_min_le (x y : Number) : (double.min x y).place ≤ x.place := by
  unfold Arithmetic.min
  split_ifs with h
  · exact (lt_iff.mp h).2.2.le
  · exact le_rfl

lemma double_le_iff_place (hx : x.isNaN = false) (hy : y.isNaN = false) :
    double.le x y = true ↔ x.place ≤ y.place := by
  rw [double_le_iff, lt_eq_false_iff hy hx]
  simp [hx, hy]

end

namespace InitialStep

/-- The least step that moves the start time. -/
def timeFloor (t : Number) : Number := double.mul (double.ofRat (1 / 1000000000000)) t.abs

/-- The longest step that a rough guess allows. -/
def reach (guess : Number) : Number := double.mul (double.ofRat 100) guess.abs

/-- A step with the sign of the direction, unless it is zero, and with a magnitude that the bounds, the
floor and the reach of the rough guess allow. -/
structure Safeguarded (forward : Bool) (least greatest floor reach h : Number) : Prop where
  above : double.le (double.min greatest (double.max least floor)) h.abs = true
  below : double.le h.abs (double.min greatest (double.max (double.max least floor) reach)) = true
  direction : h.isZero = false → h.isNegative = !forward

variable {wideMode : Bool} {order v : Value} {t guess h a b : Number}

lemma isNaN_timeFloor (t : Number) : (timeFloor t).isNaN = t.isNaN := by
  have hsmall : double.ofRat (1 / 1000000000000) = finite (4951760157141521 / 2 ^ 92) := by decide +kernel
  rw [timeFloor, hsmall]
  exact (isNaN_mul_of_pos (t := float64) (by norm_num) _).trans (isNaN_abs t)

lemma isNaN_reach (guess : Number) : (reach guess).isNaN = guess.isNaN := by
  have hhundred : double.ofRat 100 = finite 100 := by decide +kernel
  rw [reach, hhundred]
  exact (isNaN_mul_of_pos (t := float64) (by norm_num) _).trans (isNaN_abs guess)

/-- A candidate with all its limits. -/
def confined (guess h t a b : Number) : Number :=
  double.min (double.max (double.max (double.min (reach guess) h) (timeFloor t)) a) b

lemma isNaN_confined : (confined guess h t a b).isNaN = guess.isNaN := by
  rw [confined, isNaN_min, isNaN_max, isNaN_max, isNaN_min, isNaN_reach]

lemma place_confined (ha : a.isNaN = false) (hb : b.isNaN = false) (ht : t.isNaN = false)
    (hguess : guess.isNaN = false) :
    (confined guess h t a b).place =
      min (max (max (double.min (reach guess) h).place (timeFloor t).place) a.place) b.place := by
  have hshort : (double.min (reach guess) h).isNaN = false := by rw [isNaN_min, isNaN_reach, hguess]
  have hlong : (double.max (double.min (reach guess) h) (timeFloor t)).isNaN = false := by
    rw [isNaN_max, hshort]
  rw [confined, place_min (by rw [isNaN_max, hlong]) hb, place_max hlong ha,
    place_max hshort (by rw [isNaN_timeFloor, ht])]

lemma confined_not_lt_zero (ha : double.le (finite 0) a = true) (hb : double.le (finite 0) b = true)
    (ht : t.isNaN = false) : (confined guess h t a b).lt (finite 0) = false := by
  obtain ⟨-, ha, hazero⟩ := double_le_iff.mp ha
  obtain ⟨-, hb, hbzero⟩ := double_le_iff.mp hb
  cases hguess : guess.isNaN
  · rw [lt_eq_false_iff ha rfl] at hazero
    rw [lt_eq_false_iff hb rfl] at hbzero
    rw [lt_eq_false_iff (by rw [isNaN_confined, hguess]) rfl, place_confined ha hb ht hguess]
    exact le_min (hazero.trans (le_max_right _ _)) hbzero
  · rw [← isNaN_confined (h := h) (t := t) (a := a) (b := b)] at hguess
    by_contra hlt
    simp [(lt_iff.mp (by simpa using hlt)).1] at hguess

/-- A confined magnitude in the direction of integration is safeguarded. -/
lemma safeguarded_of_confined (ha : double.le (finite 0) a = true)
    (hb : double.le (finite 0) b = true) (ht : t.isNaN = false) (hguess : guess.isNaN = false)
    {x : Number} {forward : Bool} (hx : x.abs = (confined guess h t a b).abs)
    (hdirection : x.isZero = false → x.isNegative = !forward) :
    Safeguarded forward a b (timeFloor t) (reach guess) x := by
  have hzero : (confined guess h t a b).lt (finite 0) = false := confined_not_lt_zero ha hb ht
  obtain ⟨-, ha, -⟩ := double_le_iff.mp ha
  obtain ⟨-, hb, -⟩ := double_le_iff.mp hb
  have hfloor : (timeFloor t).isNaN = false := by rw [isNaN_timeFloor, ht]
  have hreach : (reach guess).isNaN = false := by rw [isNaN_reach, hguess]
  have hnumber : x.abs.isNaN = false := by rw [hx, isNaN_abs, isNaN_confined, hguess]
  have hlower : (double.max a (timeFloor t)).isNaN = false := by rw [isNaN_max, ha]
  have hupper : (double.max (double.max a (timeFloor t)) (reach guess)).isNaN = false := by
    rw [isNaN_max, hlower]
  have hplace : x.abs.place =
      min b.place (max (max (double.min (reach guess) h).place (timeFloor t).place) a.place) := by
    rw [hx, place_abs hzero, place_confined ha hb ht hguess, min_comm]
  refine ⟨?_, ?_, hdirection⟩
  · rw [double_le_iff_place (by rw [isNaN_min, hb]) hnumber, place_min hb hlower,
      place_max ha hfloor, hplace]
    exact min_le_min_left _ (max_le (le_max_right _ _) (le_max_of_le_left (le_max_right _ _)))
  · rw [double_le_iff_place hnumber (by rw [isNaN_min, hb]), place_min hb hupper,
      place_max hlower hreach, place_max ha hfloor, hplace]
    refine min_le_min_left _ (max_le (max_le ?_ ?_) ?_)
    · exact (place_min_le _ _).trans (le_max_right _ _)
    · exact le_max_of_le_left (le_max_right _ _)
    · exact le_max_of_le_left (le_max_left _ _)

/-- The magnitude before it is brought between the bounds, for the rough guess with which the dynamics
are probed. -/
lemma magnitude_limited {σ : Type} {s s' : σ} (horder : order.realNumber?.isSome = true)
    {P : StartProblem} {w : StartVectors Number} {probe : Number → Action σ (List Number)}
    (hv : (magnitude double (order.candidates wideMode) P.forward w probe (.ok t)).outcome s =
      (.ok v, s')) :
    ∃ g h, P.guess w = .ok g ∧ v = .real (double.max (double.min (reach g) h) (timeFloor t)) := by
  simp only [magnitude, Action.outcome_bind_eq_ok, Action.outcome_lift, Prod.mk.injEq] at hv
  obtain ⟨size, _, ⟨hsize, -⟩, slopeSize, _, ⟨hslope, -⟩, _, _, -, _, _, -, u, _, ⟨hu, -⟩, hv, -⟩ := hv
  obtain ⟨h, rfl⟩ := proposal_real horder hu
  rw [limited_eq] at hv
  refine ⟨_, h, ?_, (Except.ok.inj hv).symm⟩
  simp only [StartProblem.guess, hsize, hslope]
  rfl

end InitialStep

namespace StartProblem

variable {σ : Type} {s s' : σ} {wideMode : Bool} {P : StartProblem} {f : Dynamics σ Value Value}
  {least greatest v : Value} {a b t : Number}

/-- The estimate for a method of a plain real order is NaN exactly if the rough guess is, with which
the dynamics are probed, and it is safeguarded otherwise. -/
theorem estimate_safeguarded (horder : P.order.realNumber?.isSome = true)
    (hleast : least.realNumber? = some a) (hgreatest : greatest.realNumber? = some b)
    (ha : double.le (finite 0) a = true) (hb : double.le (finite 0) b = true)
    (htime : P.state.time.realPart wideMode = .ok t) (ht : t.isNaN = false)
    (h : (P.estimate wideMode f least greatest).outcome s = (.ok v, s')) :
    ∃ w guess x, P.startVectors wideMode = .ok w ∧ P.guess w = .ok guess ∧
      v.realNumber? = some x ∧ (x.isNaN = true ↔ guess.isNaN = true) ∧
      (guess.isNaN = false → InitialStep.Safeguarded P.forward a b (InitialStep.timeFloor t)
        (InitialStep.reach guess) x) := by
  simp only [estimate, Action.outcome_bind_eq_ok, Action.outcome_lift, Prod.mk.injEq, htime] at h
  obtain ⟨refused, _, ⟨-, rfl⟩, h⟩ := h
  cases refused
  case true => simp at h
  simp only [Bool.false_eq_true, if_false, Action.outcome_bind_eq_ok, Action.outcome_lift,
    Prod.mk.injEq] at h
  obtain ⟨⟨y, slope⟩, _, ⟨hvectors, -⟩, w, _, ⟨hw, -⟩, m, _, hm, u, _, ⟨hu, -⟩, hv, -⟩ := h
  have hstart : P.startVectors wideMode = .ok w := by simp [startVectors, hvectors, hw, bind, Except.bind]
  obtain ⟨g, r, hguess, rfl⟩ := InitialStep.magnitude_limited horder hm
  have hplain : u.realNumber? = some (InitialStep.confined g r t a b) :=
    InitialStep.bounded_plain hleast hgreatest hu
  obtain ⟨x, hx, hnan, habs, hdirection⟩ :=
    directed_number hplain (InitialStep.confined_not_lt_zero ha hb ht) hv
  rw [InitialStep.isNaN_confined] at hnan
  refine ⟨w, g, x, hstart, hguess, hx, by rw [hnan], fun hg => ?_⟩
  exact InitialStep.safeguarded_of_confined ha hb ht hg habs (hdirection (by rw [hnan, hg]))

/-- Between crossed bounds and with dynamics that return NaN the step is still safeguarded. -/
theorem estimate_safeguarded_zeroStart :
    ∃ v s' guess, ((zeroStart (.finite 1)).estimate false (constantSlope .nan)
        (.real (.finite (1 / 2))) (.real (.finite (1 / 4)))).outcome () = (.ok v, s') ∧
      ∃ x, v.realNumber? = some x ∧ InitialStep.Safeguarded true (.finite (1 / 2)) (.finite (1 / 4))
        (InitialStep.timeFloor (.finite 0)) (InitialStep.reach guess) x := by
  rcases h : ((zeroStart (.finite 1)).estimate false (constantSlope .nan)
    (.real (.finite (1 / 2))) (.real (.finite (1 / 4)))).outcome () with ⟨_ | v, s'⟩
  · have hok : (((zeroStart (.finite 1)).estimate false (constantSlope .nan)
        (.real (.finite (1 / 2))) (.real (.finite (1 / 4)))).outcome ()).1.toOption.isSome = true := by
      decide +kernel
    rw [h] at hok
    simp [Except.toOption] at hok
  · obtain ⟨w, guess, x, hw, hguess, hx, -, hsafe⟩ := estimate_safeguarded (t := .finite 0)
      (a := .finite (1 / 2)) (b := .finite (1 / 4)) rfl rfl rfl (by decide +kernel)
      (by decide +kernel) rfl rfl h
    have hnumber : ((zeroStart (.finite 1)).startVectors false).toOption.bind (fun w =>
        ((zeroStart (.finite 1)).guess w).toOption.map Extended.isNaN) = some false := by
      decide +kernel
    exact ⟨v, s', guess, rfl, x, hx, hsafe (by simpa [hw, hguess, Except.toOption] using hnumber)⟩

end StartProblem

end AdaptiveStep
