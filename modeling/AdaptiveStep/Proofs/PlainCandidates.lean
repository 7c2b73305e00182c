import AdaptiveStep.Proofs.FloatVectors
import AdaptiveStep.Proofs.StepNorms

/-!
# Candidates that are no arrays

Nothing but an array meets the device. If the order and the bounds of a first step are none, then no
candidate for the step is one either, and the magnitude is found without the device.
-/

namespace AdaptiveStep

open Extended FloatType

namespace Value

variable {order v w : Value} {wideMode wideMode' : Bool}

lemma compare_of_plain (r : Relation) (hv : v.side = .plain) (hw : w.side = .plain) :
    v.compare wideMode r w = comparePlain r v w := by
  unfold compare compareWith
  rw [hv, hw]

lemma side_plainReciprocal (h : order.plainReciprocal = .ok v) : v.side = .plain := by
  unfold plainReciprocal at h
  split at h
  · obtain ⟨x, -, h⟩ := Except.bind_eq_ok.mp h
    split_ifs at h
    · exact absurd h Except.throw_bind_ne_ok
    · obtain rfl := Except.ok.inj h
      rfl
  · split_ifs at h
  · obtain ⟨d, -, h⟩ := Except.bind_eq_ok.mp h
    obtain rfl := Except.ok.inj h
    rfl
  · obtain ⟨x, -, h⟩ := Except.bind_eq_ok.mp h
    split_ifs at h
    · exact absurd h Except.throw_bind_ne_ok
    · obtain rfl := Except.ok.inj h
      rfl

/-- Candidates for a first step that are no arrays, for an order that is none either. -/
def plainCandidates (order : Value) : InitialStep.Candidates Number Value where
  ofNumber := .real
  root x := order.plainReciprocal >>= plainExponentOf x
  isBelow := comparePlain .below
  isAbove := comparePlain .above

lemma candidates_root_plain (horder : order.side = .plain) :
    (order.candidates wideMode).root = order.plainCandidates.root := by
  have hreciprocal : order.reciprocal wideMode = order.plainReciprocal := by
    cases order with
    | array a => rcases side_array a with h | h <;> simp [h] at horder
    | scalar t z => simp at horder
    | objects shape items => simp [side] at horder
    | _ => rfl
  have hexponent {v : Value} (hv : v.side = .plain) (x : Number) :
      v.exponentOf wideMode x = v.plainExponentOf x := by
    cases v with
    | array a => rcases side_array a with h | h <;> simp [h] at hv
    | scalar t z => simp at hv
    | objects shape items => simp [side] at hv
    | _ => rfl
  funext x
  simp only [candidates, plainCandidates, hreciprocal]
  cases h : order.plainReciprocal with
  | error e => rfl
  | ok v => exact hexponent (side_plainReciprocal h) x

end Value

namespace InitialStep

open Value

variable {order h least greatest : Value} {norm guess : Number} {start : Except Failure Number}
  {wideMode : Bool}

lemma isBelow_candidates (hh : h.side = .plain) (hleast : least.side = .plain) :
    (order.candidates wideMode).isBelow h least = comparePlain .below h least :=
  compare_of_plain .below hh hleast

lemma isAbove_candidates (hh : h.side = .plain) (hleast : least.side = .plain) :
    (order.candidates wideMode).isAbove h least = comparePlain .above h least :=
  compare_of_plain .above hh hleast

lemma proposal_candidates (horder : order.side = .plain) :
    proposal double (order.candidates wideMode) norm guess =
      proposal double order.plainCandidates norm guess := by
  unfold proposal
  rw [candidates_root_plain horder]
  rfl

lemma side_proposal {v : Value} (hv : proposal double order.plainCandidates norm guess = .ok v) :
    v.side = .plain := by
  unfold proposal at hv
  split_ifs at hv
  · obtain rfl := Except.ok.inj hv
    rfl
  · obtain ⟨w, -, hv⟩ := Except.bind_eq_ok.mp hv
    obtain ⟨x, -, hv⟩ := Except.bind_eq_ok.mp hv
    obtain ⟨y, -, hv⟩ := Except.bind_eq_ok.mp hv
    obtain rfl := Except.ok.inj hv
    rfl

lemma limited_candidates (hh : h.side = .plain) :
    limited double (order.candidates wideMode) guess h start =
      limited double order.plainCandidates guess h start := by
  have hnumber (x : Number) : (order.candidates wideMode).ofNumber x = .real x := rfl
  have hnumber' (x : Number) : order.plainCandidates.ofNumber x = .real x := rfl
  have hbelow : order.plainCandidates.isBelow = comparePlain .below := rfl
  have habove : order.plainCandidates.isAbove = comparePlain .above := rfl
  simp only [limited, hnumber, hnumber', hbelow, habove, isBelow_candidates hh (side_real _)]
  refine bind_congr fun b => bind_congr fun x => ?_
  rw [isAbove_candidates (side_real _) (by split_ifs <;> simp [hh])]

lemma side_limited (hh : h.side = .plain) {v : Value}
    (hv : limited double order.plainCandidates guess h start = .ok v) : v.side = .plain := by
  obtain ⟨b, -, hv⟩ := Except.bind_eq_ok.mp hv
  obtain ⟨x, -, hv⟩ := Except.bind_eq_ok.mp hv
  obtain ⟨c, -, hv⟩ := Except.bind_eq_ok.mp hv
  split_ifs at hv <;> obtain rfl := Except.ok.inj hv
  all_goals first | rfl | exact hh

lemma bounded_candidates (hh : h.side = .plain) (hleast : least.side = .plain)
    (hgreatest : greatest.side = .plain) :
    bounded (order.candidates wideMode) least greatest h =
      bounded order.plainCandidates least greatest h := by
  have hbelow : order.plainCandidates.isBelow = comparePlain .below := rfl
  have habove : order.plainCandidates.isAbove = comparePlain .above := rfl
  simp only [bounded, hbelow, habove, isBelow_candidates hh hleast]
  refine bind_congr fun b => ?_
  rw [isAbove_candidates (by split_ifs <;> assumption) hgreatest]

variable {σ : Type} {s : σ} {forward : Bool} {v : StartVectors Number}
  {probe probe' : Number → Action σ (List Number)}

/-- The magnitude for an order that is no array, with a probe that agrees on doubles. -/
theorem magnitude_candidates (horder : order.side = .plain)
    (hprobe : ∀ g, float64.Holds g → (probe g).outcome s = (probe' g).outcome s) :
    (magnitude double (order.candidates wideMode) forward v probe start).outcome s =
      (magnitude double order.plainCandidates forward v probe' start).outcome s := by
  unfold magnitude
  simp only [Action.outcome_bind, Action.outcome_lift, proposal_candidates horder]
  cases scaledSquares double v.scale v.state with
  | error e => rfl
  | ok size =>
    cases scaledSquares double v.scale v.slope with
    | error e => rfl
    | ok slopeSize =>
      let guess := directed double forward (roughGuess double size slopeSize)
      have hguess : (probe guess).outcome s = (probe' guess).outcome s :=
        hprobe guess (holds_directed forward (holds_roughGuess size slopeSize))
      simp only [guess] at hguess
      simp only [hguess]
      rcases (probe' (directed double forward (roughGuess double size slopeSize))).outcome s
        with ⟨_ | endSlope, s'⟩
      · rfl
      · dsimp only
        cases curvature double v (directed double forward (roughGuess double size slopeSize))
          endSlope with
        | error e => rfl
        | ok bend =>
          dsimp only
          cases hh : proposal double order.plainCandidates
            (double.max (double.sqrt slopeSize) bend)
            (directed double forward (roughGuess double size slopeSize)) with
          | error e => rfl
          | ok h => simp only [limited_candidates (side_proposal hh)]

lemma side_magnitude {s' : σ} {w : Value}
    (h : (magnitude double order.plainCandidates forward v probe start).outcome s = (.ok w, s')) :
    w.side = .plain := by
  simp only [magnitude, Action.outcome_bind_eq_ok, Action.outcome_lift, Prod.mk.injEq] at h
  obtain ⟨size, _, -, slopeSize, _, -, endSlope, _, -, bend, _, -, w, _, ⟨hw, -⟩, hv, -⟩ := h
  exact side_limited (side_proposal hw) hv

end InitialStep

end AdaptiveStep
