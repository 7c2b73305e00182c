import Mathlib
import AdaptiveStep.Evaluation

/-!
# Outcomes of actions

An action in a state gives a result or a failure, and a state. These equations say so for the ways
in which actions are put together.
-/

namespace AdaptiveStep

namespace Action

variable {σ α β : Type} {s s' : σ}

@[simp] lemma outcome_pure (a : α) : (pure a : Action σ α).outcome s = (.ok a, s) := rfl

@[simp] lemma outcome_throw (e : Failure) : (throw e : Action σ α).outcome s = (.error e, s) := rfl

@[simp] lemma outcome_lift (x : Except Failure α) :
    (liftM x : Action σ α).outcome s = (x, s) := rfl

@[simp] lemma outcome_modify (f : σ → σ) :
    (modify f : Action σ Unit).outcome s = (.ok (), f s) := rfl

@[simp] lemma outcome_get : (get : Action σ σ).outcome s = (.ok s, s) := rfl

lemma outcome_bind (p : Action σ α) (f : α → Action σ β) :
    (p >>= f).outcome s =
      match p.outcome s with
      | (.ok a, s') => (f a).outcome s'
      | (.error e, s') => (.error e, s') := by
  unfold outcome
  rcases h : p.run.run s with ⟨_ | a, s'⟩
  · simp [h]
    rfl
  · simp [h]
    rfl

lemma outcome_ok_bind {x : Except Failure α} {a : α} (hx : x = .ok a) (f : α → Action σ β) :
    ((liftM x : Action σ α) >>= f).outcome s = (f a).outcome s := by
  rw [outcome_bind, outcome_lift, hx]

/-- A result of two actions in a row is one of the second after one of the first. -/
lemma outcome_bind_eq_ok {p : Action σ α} {f : α → Action σ β} {b : β} :
    (p >>= f).outcome s = (.ok b, s') ↔
      ∃ a s'', p.outcome s = (.ok a, s'') ∧ (f a).outcome s'' = (.ok b, s') := by
  rw [outcome_bind]
  rcases p.outcome s with ⟨_ | a, s''⟩
  · simp
  · simp

/-! ### Results in two worlds -/

variable {τ : Type} {t : τ}

/-- The results of actions in a row are the same in both worlds if those of the first actions are, and
after a common result those of the actions that follow. -/
lemma result_bind {p : Action σ α} {q : Action τ α} {f : α → Action σ β} {g : α → Action τ β}
    (h : (p.outcome s).1 = (q.outcome t).1)
    (hfg : ∀ a s' t', p.outcome s = (.ok a, s') → q.outcome t = (.ok a, t') →
      ((f a).outcome s').1 = ((g a).outcome t').1) :
    ((p >>= f).outcome s).1 = ((q >>= g).outcome t).1 := by
  rw [outcome_bind, outcome_bind]
  rcases hp : p.outcome s with ⟨_ | a, s'⟩ <;> rcases hq : q.outcome t with ⟨_ | b, t'⟩ <;>
    rw [hp, hq] at h
  case ok.ok =>
    obtain rfl := Except.ok.inj h
    exact hfg a s' t' hp hq
  case error.error => exact congrArg Except.error (Except.error.inj h)
  all_goals cases h

/-- A computation that both sides share leaves the worlds alone. -/
lemma result_lift_bind (x : Except Failure α) {f : α → Action σ β} {g : α → Action τ β}
    (hfg : ∀ a, x = .ok a → ((f a).outcome s).1 = ((g a).outcome t).1) :
    (((liftM x : Action σ α) >>= f).outcome s).1 =
      (((liftM x : Action τ α) >>= g).outcome t).1 := by
  refine result_bind rfl fun a s' t' hs ht => ?_
  obtain ⟨ha, rfl⟩ := Prod.mk.inj hs
  obtain ⟨-, rfl⟩ := Prod.mk.inj ht
  exact hfg a ha

end Action

lemma ok_of_toOption {α : Type} {result : Except Failure α} {y : α} (hresult : result.toOption = some y) :
    result = .ok y := by
  cases result with
  | error e => simp [Except.toOption] at hresult
  | ok y' => exact congrArg Except.ok (Option.some.inj hresult)

/-- A result of two computations in a row is one of the second after one of the first. -/
lemma Except.bind_eq_ok {α β : Type} {x : Except Failure α} {f : α → Except Failure β} {b : β} :
    (x >>= f) = .ok b ↔ ∃ a, x = .ok a ∧ f a = .ok b := by
  cases x
  · simp [bind, Except.bind]
  · simp [bind, Except.bind]

@[simp] lemma Except.throw_ne_ok {α : Type} {e : Failure} {a : α} :
    (throw e : Except Failure α) ≠ .ok a := nofun

lemma Except.throw_bind_ne_ok {α β : Type} {e : Failure} {f : α → Except Failure β} {b : β} :
    (throw e >>= f) ≠ .ok b := nofun

end AdaptiveStep
