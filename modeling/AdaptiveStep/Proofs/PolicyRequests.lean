import AdaptiveStep.Proofs.Reconfiguration
import AdaptiveStep.Proofs.StoredSteps

/-!
# Requests to a policy

A caller changes a policy by calls and asks it for first steps, for filtered steps and for the errors
of steps. `Policy.serve` answers requests in a row, each under a precision of its own, and goes on
after a failure with what the failed request left. All along, a policy with tolerances per component
has no scalar ones, and its bounds are without a sign.
-/

namespace AdaptiveStep

open Extended

namespace Controls

variable {α : Type}

/-- The absolute tolerances per component, if there are any. -/
def vectorAbsolute? (c : Controls α) : Option (List α) := c.vector.map Prod.fst

/-- The relative tolerances per component, if there are any. -/
def vectorRelative? (c : Controls α) : Option (List α) := c.vector.map Prod.snd

/-- Tolerances per component leave no scalar ones, and no bound is negative. -/
structure Exclusive (c : Controls Number) : Prop where
  scalar_eq : c.vector ≠ none → c.scalarAbsolute = .finite 0 ∧ c.scalarRelative = .finite 0
  least_sign : c.least.isNegative = false
  greatest_sign : c.greatest.isNegative = false

variable {c d : Controls Number} {perComponent : Bool} {least greatest absolute relative : Value}

lemma Exclusive.of_scalarForm (h : scalarForm least greatest absolute relative = .ok c) :
    c.Exclusive := by
  simp only [scalarForm, Except.bind_eq_ok, pure, Except.pure, Except.ok.injEq] at h
  obtain ⟨x, -, y, -, a, -, r, -, rfl⟩ := h
  exact ⟨by simp, isNegative_abs x, isNegative_abs y⟩

lemma Exclusive.of_vectorForm (h : vectorForm least greatest absolute relative = .ok c) :
    c.Exclusive := by
  simp only [vectorForm, Except.bind_eq_ok, pure, Except.pure, Except.ok.injEq] at h
  obtain ⟨x, -, y, -, a, -, r, -, rfl⟩ := h
  exact ⟨fun _ => ⟨rfl, rfl⟩, isNegative_abs x, isNegative_abs y⟩

lemma Exclusive.of_arguments (h : ofArguments least greatest absolute relative = .ok c) :
    c.Exclusive := by
  unfold ofArguments at h
  split_ifs at h
  · exact .of_vectorForm h
  · exact .of_scalarForm h

lemma Exclusive.rebounded (hc : c.Exclusive) :
    (c.rebounded perComponent least greatest).Exclusive := by
  cases hleast : least.toNumber with
  | error e =>
    rw [c.rebounded_of_least_error hleast]
    exact hc
  | ok x =>
    cases hgreatest : greatest.toNumber with
    | error e =>
      rw [c.rebounded_of_greatest_error hleast hgreatest]
      exact { hc with least_sign := isNegative_abs x }
    | ok y =>
      simp only [Controls.rebounded, hleast, hgreatest]
      cases perComponent
      · exact ⟨hc.scalar_eq, isNegative_abs x, isNegative_abs y⟩
      · exact ⟨fun _ => ⟨rfl, rfl⟩, isNegative_abs x, isNegative_abs y⟩

end Controls

namespace Policy

/-- What a caller asks of a policy: a call that changes it, or one of its answers. -/
inductive Request (σ : Type) where
  | call (c : Call)
  | firstStep (dynamics : Dynamics σ Value Value) (P : StartProblem)
  | filterStep (h : Value) (forward acceptSmall : Bool)
  | thresholds (old new : Value)
  | errorNorm (errors old new : Value)

inductive Answer where
  | done
  | step (h : Value)
  | filtered (h : FilteredStep Value)
  | allowed (errors : Grid)
  | norm (error : Number)

variable {σ : Type}

/-- The answer to a request. The dynamics act on a world of their own. -/
def Request.answer (q : Precision) (p : Policy) (world : σ) :
    Request σ → Except Failure Answer × Policy × σ
  | call c =>
    let (result, p) := (c.perform q.wideMode).outcome p
    (result.map fun _ => .done, p, world)
  | firstStep dynamics P =>
    let (result, world) := (p.firstStep q.wideMode dynamics P).outcome world
    (result.map .step, p, world)
  | filterStep h forward acceptSmall =>
    ((p.filterStep q.wideMode h forward acceptSmall).map .filtered, p, world)
  | thresholds old new => ((p.thresholds q old new).map .allowed, p, world)
  | errorNorm errors old new => ((p.errorNorm q errors old new).map .norm, p, world)

/-- The answers to requests in a row, with the policy and the world that they leave. -/
def serve : List (Precision × Request σ) → Policy → σ → List (Except Failure Answer) × Policy × σ
  | [], p, world => ([], p, world)
  | (q, request) :: requests, p, world =>
    let (answer, p, world) := request.answer q p world
    let (answers, p, world) := serve requests p world
    (answer :: answers, p, world)

variable {p q : Policy} {c : Call} {wideMode perComponent : Bool}
  {least greatest absolute relative : Value} {result : Except Failure Unit}

lemma configured_exclusive {settings : Except Failure (Controls Number)}
    (hp : p.controls.Exclusive) (hsettings : ∀ c, settings = .ok c → c.Exclusive) :
    (p.configured perComponent least greatest settings).2.controls.Exclusive := by
  cases settings with
  | error e => exact hp.rebounded
  | ok c => exact hsettings c rfl

/-- A call keeps the tolerances apart, whether or not it fails. -/
lemma perform_exclusive (hp : p.controls.Exclusive)
    (h : (c.perform wideMode).outcome p = (result, q)) : q.controls.Exclusive := by
  have hother (hnew : c.newBounds? = none) : q.controls.Exclusive := by
    rcases perform_other hnew h with ⟨_, _, -, -, -, hq⟩ | hq | hq
    all_goals
      rw [hq]
      exact ⟨hp.scalar_eq, hp.least_sign, hp.greatest_sign⟩
  have hq : q = ((c.perform wideMode).outcome p).2 := by rw [h]
  cases c with
  | setStepSizeControl least greatest absolute relative =>
    simp only [Call.perform] at hq
    by_cases hsame : absolute.isSequence = relative.isSequence
    · rw [hq, setStepSizeControl_outcome hsame]
      exact configured_exclusive hp fun _ => .of_arguments
    · rw [hq, setStepSizeControl_mixed hsame]
      exact hp
  | configureScalar least greatest absolute relative =>
    simp only [Call.perform, configureScalar_outcome] at hq
    rw [hq]
    exact configured_exclusive hp fun _ => .of_scalarForm
  | configureVector least greatest absolute relative =>
    simp only [Call.perform, configureVector_outcome] at hq
    rw [hq]
    exact configured_exclusive hp fun _ => .of_vectorForm
  | _ => exact hother rfl

lemma answer_exclusive (hp : p.controls.Exclusive) (q : Precision) (world : σ)
    (request : Request σ) : (request.answer q p world).2.1.controls.Exclusive := by
  cases request with
  | call c => exact perform_exclusive hp rfl
  | _ => exact hp

lemma serve_exclusive (hp : p.controls.Exclusive) (requests : List (Precision × Request σ))
    (world : σ) : (serve requests p world).2.1.controls.Exclusive := by
  induction requests generalizing p world with
  | nil => exact hp
  | cons request requests ih => exact ih (answer_exclusive hp request.1 world request.2) _

lemma create_exclusive (h : create least greatest absolute relative = .ok p) :
    p.controls.Exclusive := by
  rw [create_eq] at h
  cases hsettings : Controls.ofArguments least greatest absolute relative with
  | error e => simp [hsettings, Except.map] at h
  | ok c =>
    simp only [hsettings, Except.map, Except.ok.injEq] at h
    rw [← h]
    exact .of_arguments hsettings

/-- Whatever is asked of a policy, and whether or not it fails: beside tolerances per component, of
which there are both or none, the scalar tolerances are zero, and no bound is negative. -/
theorem served_tolerances_exclusive (hcreate : create least greatest absolute relative = .ok p)
    (requests : List (Precision × Request σ)) (world : σ) {c : Controls Number}
    (hc : c = (serve requests p world).2.1.controls) :
    (c.vectorAbsolute?.isSome = true ∨ c.vectorRelative?.isSome = true →
      c.scalarAbsolute = .finite 0 ∧ c.scalarRelative = .finite 0) ∧
    c.vectorAbsolute?.isSome = c.vectorRelative?.isSome ∧
    c.least.isNegative = false ∧ c.greatest.isNegative = false := by
  have hexclusive : c.Exclusive := by
    rw [hc]
    exact serve_exclusive (create_exclusive hcreate) requests world
  refine ⟨fun h => hexclusive.scalar_eq ?_, ?_, hexclusive.least_sign, hexclusive.greatest_sign⟩
  · rintro hnone
    simp [Controls.vectorAbsolute?, Controls.vectorRelative?, hnone] at h
  · simp [Controls.vectorAbsolute?, Controls.vectorRelative?]

/-- New tolerances per component, and then others of which one is no number. -/
def brokenTolerances : List (Precision × Request Unit) :=
  [(.initial, .call (.configureVector (.real (.finite 1)) (.real (.finite 2))
      (.list [.real (.finite 3), .real (.finite 4)]) (.list [.real (.finite 5), .real (.finite 6)]))),
    (.initial, .call (.configureVector (.real (.finite 1)) (.real (.finite 2))
      (.list [.real (.finite 7), .real (.finite 8)]) (.list [.real (.finite 9), .absent]))),
    (.initial, .thresholds (.list [.real (.finite 1)]) (.list [.real (.finite 1)]))]

theorem served_tolerances_exclusive_wideSteps :
    let c := (serve brokenTolerances wideSteps ()).2.1.controls
    c.vectorAbsolute? = some [.finite 3, .finite 4] ∧ c.scalarAbsolute = .finite 0 ∧
      c.scalarRelative = .finite 0 ∧ c.vectorRelative?.isSome = true ∧
      c.least.isNegative = false ∧ c.greatest.isNegative = false := by
  intro c
  have hvector : c.vectorAbsolute? = some [.finite 3, .finite 4] := rfl
  obtain ⟨hscalar, hboth, hleast, hgreatest⟩ :=
    served_tolerances_exclusive create_wideSteps brokenTolerances () (c := c) rfl
  obtain ⟨habsolute, hrelative⟩ := hscalar (.inl (by rw [hvector]; rfl))
  exact ⟨hvector, habsolute, hrelative, by rw [← hboth, hvector]; rfl, hleast, hgreatest⟩

end Policy

end AdaptiveStep
