import AdaptiveStep.Proofs.FirstStepBounds
import AdaptiveStep.Proofs.Signs

/-!
# The norms that size the first step

The estimate of the first step follows from three numbers: the rough guess, and the scaled norms of
the first and of the second derivative. None of them is negative. The norm of the second derivative
counts only in the direction of later times, though: the quotient that estimates it is divided by a
negative step in the other direction, so it is never the greater of the two norms there.
-/

namespace AdaptiveStep

open Extended FloatType

/-! ### Vectors that meet -/

section

variable {α β γ δ ε : Type}

lemma pairwise_map (f : γ → δ → ε) (g : α → γ) (k : β → δ) (xs : List α) (ys : List β) :
    pairwise f (xs.map g) (ys.map k) = pairwise (fun x y => f (g x) (k y)) xs ys := by
  unfold pairwise
  simp only [List.length_map, List.zipWith_map]
  split_ifs
  · rfl
  · rcases xs with _ | ⟨x, _ | ⟨x', xs⟩⟩ <;> rcases ys with _ | ⟨y, _ | ⟨y', ys⟩⟩ <;>
      simp [Function.comp_def]

lemma map_pairwise (f : α → β → γ) (g : γ → δ) (xs : List α) (ys : List β) :
    (pairwise f xs ys).map (List.map g) = pairwise (fun x y => g (f x y)) xs ys := by
  unfold pairwise
  split_ifs
  · simp [Except.map, List.map_zipWith]
  · rcases xs with _ | ⟨x, _ | ⟨x', xs⟩⟩ <;> rcases ys with _ | ⟨y, _ | ⟨y', ys⟩⟩ <;>
      simp [Except.map, Function.comp_def]

lemma pairwise_congr {f g : α → β → γ} {xs : List α} {ys : List β}
    (h : ∀ x ∈ xs, ∀ y ∈ ys, f x y = g x y) : pairwise f xs ys = pairwise g xs ys := by
  have hzip : List.zipWith f xs ys = List.zipWith g xs ys := by
    rw [← List.map_uncurry_zip_eq_zipWith, ← List.map_uncurry_zip_eq_zipWith]
    exact List.map_congr_left fun p hp => h p.1 (List.of_mem_zip hp).1 p.2 (List.of_mem_zip hp).2
  unfold pairwise
  split_ifs
  · rw [hzip]
  · rcases xs with _ | ⟨x, _ | ⟨x', xs⟩⟩ <;> rcases ys with _ | ⟨y, _ | ⟨y', ys⟩⟩ <;> simp_all

lemma mem_of_pairwise {xs : List α} {ys : List β} {ps : List (α × β)}
    (h : pairwise Prod.mk xs ys = .ok ps) {p : α × β} (hp : p ∈ ps) : p.1 ∈ xs ∧ p.2 ∈ ys := by
  unfold pairwise at h
  split_ifs at h
  · obtain rfl := Except.ok.inj h
    rw [← List.zip_eq_zipWith] at hp
    exact List.of_mem_zip hp
  · rcases xs with _ | ⟨x, _ | ⟨x', xs⟩⟩ <;> rcases ys with _ | ⟨y, _ | ⟨y', ys⟩⟩ <;>
      simp_all only [Except.ok.injEq, reduceCtorEq]
    all_goals
      subst h
      simp only [List.mem_map, List.mem_cons] at hp
      rcases hp with ⟨a, ha, rfl⟩
      simp_all

end

namespace InitialStep

variable {scale xs ys : List Number} {v : StartVectors Number} {guess : Number}

lemma scaledSquares_eq (scale xs : List Number) :
    scaledSquares double scale xs =
      (pairwise (fun x s => double.square (double.div x s)) xs scale).map double.pairwiseSum := by
  rw [← map_pairwise double.div double.square]
  unfold scaledSquares
  cases pairwise double.div xs scale <;> rfl

/-- What sizes the first step: the rough guess, and the scaled norms of the first and of the second
derivative. -/
structure Norms where
  guess : Number
  slope : Number
  curvature : Number

namespace Norms

/-- No sign is set. -/
structure Unsigned (n : Norms) : Prop where
  guess : n.guess.isNegative = false
  slope : n.slope.isNegative = false
  curvature : n.curvature.isNegative = false

/-- The norm that sizes the step: the greater one, but in the direction of earlier times always that
of the first derivative. -/
def sizing (forward : Bool) (n : Norms) : Number :=
  if forward then double.max n.slope n.curvature else n.slope

end Norms

/-- The norms, with the derivative at the end of an Euler step in the direction of integration. -/
def norms {σ : Type} (forward : Bool) (v : StartVectors Number)
    (probe : Number → Action σ (List Number)) : Action σ Norms := do
  let size ← scaledSquares double v.scale v.state
  let slopeSize ← scaledSquares double v.scale v.slope
  let guess := roughGuess double size slopeSize
  let endSlope ← probe (directed double forward guess)
  return ⟨guess, double.sqrt slopeSize, ← curvature double v guess endSlope⟩

lemma isNegative_scaledSquares {x : Number} (h : scaledSquares double scale xs = .ok x) :
    x.isNegative = false := by
  rw [scaledSquares] at h
  obtain ⟨qs, -, hx⟩ := Except.bind_eq_ok.mp h
  rw [← Except.ok.inj hx]
  refine isNegative_sum (Arithmetic.isSum_pairwiseSum _) fun y hy => ?_
  obtain ⟨q, -, rfl⟩ := List.mem_map.mp hy
  exact isNegative_mul_self q

lemma isNegative_roughGuess {size slopeSize : Number} (hsize : size.isNegative = false)
    (hslope : slopeSize.isNegative = false) :
    (roughGuess double size slopeSize).isNegative = false := by
  have hround {q : ℚ} (hq : 0 ≤ q) : (double.ofRat q).isNegative = false :=
    isNegative_round (t := float64) hq
  unfold roughGuess
  dsimp only
  split_ifs
  · exact hround (by norm_num)
  · exact isNegative_mul (t := float64) (hround (by norm_num))
      (isNegative_squareRoot (isNegative_div hsize hslope))

lemma holds_roughGuess (size slopeSize : Number) :
    float64.Holds (roughGuess double size slopeSize) := by
  unfold roughGuess
  dsimp only
  split_ifs
  · exact holds_ofRat _
  · exact holds_mul _ _

lemma holds_directed (forward : Bool) {x : Number} (hx : float64.Holds x) :
    float64.Holds (directed double forward x) := by
  cases forward
  · exact holds_neg hx
  · exact hx

lemma isNegative_curvature (hguess : guess.isNegative = false) {x : Number}
    (h : curvature double v guess ys = .ok x) : x.isNegative = false := by
  unfold curvature at h
  obtain ⟨change, -, h⟩ := Except.bind_eq_ok.mp h
  obtain ⟨squares, hsquares, h⟩ := Except.bind_eq_ok.mp h
  dsimp only at h
  split_ifs at h
  · exact absurd h Except.throw_bind_ne_ok
  · rw [← Except.ok.inj h]
    exact isNegative_div (t := float64) (isNegative_squareRoot (isNegative_scaledSquares hsquares))
      hguess

variable {σ : Type} {s s' : σ} {forward : Bool} {probe : Number → Action σ (List Number)}

lemma unsigned_of_norms {n : Norms} (h : (norms forward v probe).outcome s = (.ok n, s')) :
    n.Unsigned := by
  simp only [norms, Action.outcome_bind_eq_ok, Action.outcome_lift, Action.outcome_pure,
    Prod.mk.injEq, Except.ok.injEq] at h
  obtain ⟨size, _, ⟨hsize, -⟩, slopeSize, _, ⟨hslope, -⟩, endSlope, _, -, bend, _, ⟨hbend, -⟩,
    rfl, -⟩ := h
  have hguess := isNegative_roughGuess (isNegative_scaledSquares hsize)
    (isNegative_scaledSquares hslope)
  exact ⟨hguess, isNegative_squareRoot (t := float64) (isNegative_scaledSquares hslope),
    isNegative_curvature hguess hbend⟩

lemma curvature_neg : curvature double v guess.neg ys =
    (curvature double v guess ys).map Extended.neg := by
  unfold curvature
  cases pairwise double.sub ys v.slope with
  | error e => rfl
  | ok change =>
    cases hsquares : scaledSquares double v.scale change with
    | error e => simp [bind, Except.bind, hsquares, Except.map]
    | ok x =>
      have hzero : double.isZero guess.neg = double.isZero guess := isZero_neg guess
      simp only [bind, Except.bind, hsquares, hzero]
      split_ifs
      · rfl
      · simp only [Except.map, pure, Except.pure, double, arithmetic_div,
          Rounding.div_neg_right float64.rounding_isOdd]

/-- Without signs the norm of the second derivative, with the sign of the opposite direction, is
never the greater one. -/
lemma max_neg {n : Norms} (hn : n.Unsigned) : double.max n.slope n.curvature.neg = n.slope := by
  have hlt : n.slope.lt n.curvature.neg = false := by
    by_contra h
    have hpositive : (finite 0).lt n.curvature.neg = true :=
      lt_of_not_lt_of_lt rfl (lt_zero_of_isNegative hn.slope) (by simpa using h)
    rw [zero_lt_neg, lt_zero_of_isNegative hn.curvature] at hpositive
    simp at hpositive
  simp [Arithmetic.max, double, hlt]

/-- The magnitude of the first step follows from the norms alone. -/
theorem magnitude_eq {β : Type} (C : Candidates Number β) (start : Except Failure Number) :
    (magnitude double C forward v probe start).outcome s =
      (norms forward v probe >>= fun n => liftM (do
        let h ← proposal double C (n.sizing forward) n.guess
        limited double C n.guess h start)).outcome s := by
  have habs (x : Number) : double.abs x.neg = double.abs x := Extended.abs_neg x
  have hproposal (x g : Number) : proposal double C x g.neg = proposal double C x g := by
    simp only [proposal, habs]
  have hlimited (g : Number) (h : β) :
      limited double C g.neg h start = limited double C g h start := by
    simp only [limited, habs]
  have hunsigned : ∀ n s', (norms forward v probe).outcome s = (.ok n, s') → n.Unsigned :=
    fun _ _ => unsigned_of_norms
  unfold norms at hunsigned ⊢
  unfold magnitude
  simp only [Action.outcome_bind, Action.outcome_lift, Action.outcome_pure] at hunsigned ⊢
  cases hsize : scaledSquares double v.scale v.state with
  | error e => rfl
  | ok size =>
    cases hslope : scaledSquares double v.scale v.slope with
    | error e => rfl
    | ok slopeSize =>
      simp only [hsize, hslope] at hunsigned ⊢
      rcases hprobe : (probe (directed double forward (roughGuess double size slopeSize))).outcome s
        with ⟨_ | endSlope, s'⟩
      · rfl
      · simp only [hprobe] at hunsigned ⊢
        cases forward
        · -- with a negative guess the quotient is negative and the maximum ignores it
          have hdirected (g : Number) : directed double false g = g.neg := rfl
          rw [hdirected, curvature_neg]
          cases hbend : curvature double v (roughGuess double size slopeSize) endSlope with
          | error e => rfl
          | ok bend =>
            have hmax := max_neg (hunsigned _ s' (by rw [hbend]))
            simp only [Except.map, hproposal, hlimited, Norms.sizing, Bool.false_eq_true,
              if_false] at hmax ⊢
            rw [hmax]
            cases proposal double C (double.sqrt slopeSize) (roughGuess double size slopeSize) <;> rfl
        · have hdirected (g : Number) : directed double true g = g := rfl
          rw [hdirected]
          cases curvature double v (roughGuess double size slopeSize) endSlope with
          | error e => rfl
          | ok bend =>
            simp only [Norms.sizing, if_true]
            cases proposal double C (double.max (double.sqrt slopeSize) bend)
              (roughGuess double size slopeSize) <;> rfl

end InitialStep

namespace StartProblem

variable {σ : Type} {s : σ} {wideMode : Bool} {P : StartProblem} {least greatest : Number}

/-- The vectors that the estimate works with. -/
def startVectors (wideMode : Bool) (P : StartProblem) : Except Failure (StartVectors Number) := do
  let (y, slope) ← P.vectors wideMode
  P.realVectors wideMode y slope

def norms (wideMode : Bool) (P : StartProblem) (f : Dynamics σ Value Value) :
    Action σ InitialStep.Norms := do
  if ← P.order.compare wideMode .atMost (.integer 0) then throw (.orderNotPositive P.order)
  let (y, slope) ← P.vectors wideMode
  let v ← P.realVectors wideMode y slope
  InitialStep.norms P.forward v (P.probe wideMode f y slope v.scale.length)

/-- The magnitude of the first step that a norm of the derivatives gives. -/
def sized (wideMode : Bool) (P : StartProblem) (least greatest norm guess : Number) :
    Except Failure Value := do
  let candidates := P.order.candidates wideMode
  let h ← InitialStep.proposal double candidates norm guess
  let h ← InitialStep.limited double candidates guess h (P.state.time.realPart wideMode)
  InitialStep.bounded candidates (.real least) (.real greatest) h

/-- The estimate is a function of the norms. -/
theorem estimate_eq (P : StartProblem) (f : Dynamics σ Value Value) (least greatest : Number) :
    (P.estimate wideMode f (.real least) (.real greatest)).outcome s =
      (P.norms wideMode f >>= fun n => liftM (do
        P.directed (← P.sized wideMode least greatest (n.sizing P.forward) n.guess))).outcome s := by
  unfold estimate norms
  simp only [Action.outcome_bind, Action.outcome_lift]
  cases P.order.compare wideMode .atMost (.integer 0) with
  | error e => rfl
  | ok refused =>
    cases refused
    · simp only [Bool.false_eq_true, if_false, Action.outcome_bind, Action.outcome_lift,
        InitialStep.magnitude_eq]
      rcases P.vectors wideMode with _ | ⟨y, slope⟩
      · rfl
      · dsimp only
        rcases P.realVectors wideMode y slope with _ | v
        · rfl
        · dsimp only
          rcases (InitialStep.norms P.forward v
            (P.probe wideMode f y slope v.scale.length)).outcome s with ⟨_ | n, s'⟩
          · rfl
          · simp only [sized]
            cases InitialStep.proposal double (P.order.candidates wideMode) (n.sizing P.forward)
              n.guess with
            | error e => rfl
            | ok h =>
              simp only [bind, Except.bind]
              cases InitialStep.limited double (P.order.candidates wideMode) n.guess h
                (P.state.time.realPart wideMode) with
              | error e => rfl
              | ok h =>
                dsimp only
                cases InitialStep.bounded (P.order.candidates wideMode) (.real least)
                  (.real greatest) h <;> rfl
    · rfl

lemma sized_real (horder : P.order.realNumber?.isSome = true) {norm guess : Number} {v : Value}
    (h : P.sized wideMode least greatest norm guess = .ok v) : ∃ x, v = .real x := by
  obtain ⟨w, hw, h⟩ := Except.bind_eq_ok.mp h
  obtain ⟨y, rfl⟩ := InitialStep.proposal_real horder hw
  obtain ⟨w, hw, h⟩ := Except.bind_eq_ok.mp h
  obtain ⟨z, rfl⟩ := InitialStep.limited_real hw
  simp only [InitialStep.bounded, Value.candidates_isBelow, bind, Except.bind] at h
  have hraised : (if z.lt least = true then Value.real least else .real z) =
      .real (if z.lt least = true then least else z) := by split_ifs <;> rfl
  rw [hraised, Value.candidates_isAbove] at h
  dsimp only at h
  split_ifs at h <;> exact ⟨_, (Except.ok.inj h).symm⟩

/-- Dynamics with a constant derivative of a single component. -/
def constantSlope (x : Number) : Dynamics Unit Value Value := fun _ _ => pure (.list [.real x])

end StartProblem

end AdaptiveStep
