import AdaptiveStep.Proofs.CountedEvaluations
import AdaptiveStep.Proofs.IntegrationInvariant
import AdaptiveStep.Proofs.RelatedEstimates

/-!
# Integration within a budget

The loop of the integration has no measure that decreases: rejected attempts may repeat for ever.
But every attempt takes two evaluations of the dynamics, and the counter refuses those beyond its
limit. So with counted dynamics, whatever they do, the loop stops by itself, and it stops at the end
time or with a failure.
-/

namespace AdaptiveStep

variable {σ τ ε α β : Type}

/-- The counter has the limit `m`, and it has counted the evaluations that were watched, which are
not more. -/
structure Tallied (m : ℕ) (s : Counted (List (τ × ε) × σ)) : Prop where
  limit : s.counter.limit = m
  watched : s.world.1.length = s.counter.count
  within : s.counter.count ≤ m

lemma tallied_start (m : ℕ) (world : σ) :
    Tallied m (Counted.start ⟨m, 0⟩ (([] : List (τ × ε)), world)) :=
  ⟨rfl, rfl, m.zero_le⟩

lemma tallied_iff {m : ℕ} {s : Counted (List (τ × ε) × σ)} :
    Tallied m s ↔ Counted.TalliedFrom m 0 s :=
  ⟨fun h => ⟨h.limit, by rw [h.watched, Nat.zero_add], h.within⟩,
    fun h => ⟨h.limit, by rw [h.watched, Nat.zero_add], h.within⟩⟩

namespace Action

/-- An action that keeps the tally, and that takes at least `k` evaluations if it has a result. -/
structure Spends (m k : ℕ) (p : Action (Counted (List (τ × ε) × σ)) α) : Prop where
  tallied : ∀ s, Tallied m s → Tallied m (p.outcome s).2
  spent : ∀ s a s', Tallied m s → p.outcome s = (.ok a, s') →
    s.counter.count + k ≤ s'.counter.count

variable {m k l : ℕ} {p : Action (Counted (List (τ × ε) × σ)) α}

lemma spends_lift (x : Except Failure α) :
    Spends m 0 (liftM x : Action (Counted (List (τ × ε) × σ)) α) := by
  refine ⟨fun s hs => by simpa, fun s a s' _ h => ?_⟩
  obtain ⟨-, rfl⟩ := Prod.mk.inj h
  simp

lemma spends_pure (a : α) : Spends m 0 (pure a : Action (Counted (List (τ × ε) × σ)) α) :=
  spends_lift (.ok a)

lemma spends_throw (e : Failure) : Spends m 0 (throw e : Action (Counted (List (τ × ε) × σ)) α) :=
  spends_lift (.error e)

lemma Spends.tallied_of_outcome {r : Except Failure α} {s s' : Counted (List (τ × ε) × σ)}
    (h : Spends m k p) (hs : Tallied m s) (hr : p.outcome s = (r, s')) : Tallied m s' := by
  simpa [hr] using h.tallied s hs

lemma Spends.of_le (h : Spends m k p) (hl : l ≤ k) : Spends m l p :=
  ⟨h.tallied, fun s a s' hs hok => by have := h.spent s a s' hs hok; omega⟩

/-- Actions in a row take the evaluations of both. -/
lemma Spends.bind {f : α → Action (Counted (List (τ × ε) × σ)) β} (hp : Spends m k p)
    (hf : ∀ a, Spends m l (f a)) : Spends m (k + l) (p >>= f) := by
  constructor
  · intro s hs
    rw [outcome_bind]
    rcases hfirst : p.outcome s with ⟨_ | a, s'⟩
    · exact hp.tallied_of_outcome hs hfirst
    · exact (hf a).tallied s' (hp.tallied_of_outcome hs hfirst)
  · intro s b s'' hs hok
    obtain ⟨a, s', hfirst, hsecond⟩ := outcome_bind_eq_ok.mp hok
    have := hp.spent s a s' hs hfirst
    have := (hf a).spent s' b s'' (hp.tallied_of_outcome hs hfirst) hsecond
    omega

/-- Counted dynamics take one evaluation, unless they refuse to. -/
lemma spends_counted (shown : τ → Value) (f : Dynamics σ τ ε) (t : τ) (y : ε) :
    Spends m 1 (counted shown (Dynamics.watched f) t y) := by
  constructor
  · exact fun s hs => tallied_iff.mpr ((tallied_iff.mp hs).call t y)
  · intro s a s' _ hok
    rw [outcome_counted] at hok
    split_ifs at hok
    · simp at hok
    · obtain ⟨-, rfl⟩ := Prod.mk.inj hok
      exact le_rfl

end Action

namespace InitialStep

variable {m : ℕ} {A : Arithmetic α} {C : Candidates α β} {forward : Bool} {v : StartVectors α}
  {start : Except Failure α}

lemma spends_magnitude {probe : α → Action (Counted (List (τ × ε) × σ)) (List α)}
    (hprobe : ∀ h, Action.Spends m 0 (probe h)) :
    Action.Spends m 0 (magnitude A C forward v probe start) :=
  (Action.spends_lift _).bind fun _ => (Action.spends_lift _).bind fun _ => (hprobe _).bind fun _ =>
    (Action.spends_lift _).bind fun _ => (Action.spends_lift _).bind fun _ => Action.spends_lift _

end InitialStep

namespace IntegrationProblem

section

variable {m : ℕ} {shown : α → Value} {f : Dynamics σ α (List α)} {S : Setting α}
  {P : IntegrationProblem α} {c : Controls α}

lemma spends_firstStep (slope : List α) :
    Action.Spends m 0 (P.firstStep S.arithmetic c (counted shown (Dynamics.watched f)) slope) := by
  have hprobe (h : α) : Action.Spends m 0 (do
      return (← counted shown (Dynamics.watched f) (S.arithmetic.add P.start h)
        (advance S.arithmetic h P.initial slope)).take P.scale.length) :=
    ((Action.spends_counted shown f _ _).of_le zero_le_one).bind fun _ => Action.spends_pure _
  unfold firstStep
  cases c.initialStep with
  | some h => exact Action.spends_pure _
  | none =>
    dsimp only
    split_ifs
    · exact Action.spends_throw _
    · exact Action.spends_throw _
    · exact Action.spends_throw _
    · exact (InitialStep.spends_magnitude hprobe).bind fun _ =>
        (Action.spends_lift _).bind fun _ => Action.spends_pure _

/-- Before the loop the derivative at the start is evaluated. -/
lemma spends_prepare :
    Action.Spends m 1 (P.prepare S c (counted shown (Dynamics.watched f))) :=
  (Action.spends_counted shown f _ _).bind fun _ =>
    (Action.spends_lift _).bind fun _ => spends_firstStep _

/-- An attempt evaluates the derivative at both ends of its step. -/
lemma spends_attempt (t : α) (y : List α) (h : α) :
    Action.Spends m 2 (P.attempt S c (counted shown (Dynamics.watched f)) t y h) := by
  unfold attempt
  dsimp only
  refine (Action.spends_counted shown f _ _).bind (l := 1) fun _ =>
    (Action.spends_counted shown f _ _).bind (l := 0) fun _ =>
      (Action.spends_lift _).bind (l := 0) fun _ => ?_
  split_ifs
  · exact Action.spends_pure _
  · exact Action.spends_pure _

end

section

variable {S : Setting α} {P : IntegrationProblem α} {c : Controls α} {f : Dynamics σ α (List α)}
  {s : σ} {t h : α} {y : List α}

/-- A loop that does not break off tells whether hardly any time is left. -/
lemma ending_attempts (n : ℕ) (done : List (Attempt α)) {b : Bool}
    (hok : ((P.attempts S c f n (P.timeAfter done) y h).run s).1.ending = .ok b) :
    P.isFinished S.arithmetic
      (P.timeAfter (done ++ ((P.attempts S c f n (P.timeAfter done) y h).run s).1.attempts)) = b := by
  induction n generalizing done y h s with
  | zero =>
    obtain rfl := Except.ok.inj hok
    exact congrArg (fun done => P.isFinished S.arithmetic (P.timeAfter done)) (List.append_nil done)
  | succ n ih =>
    rw [attempts_succ] at hok ⊢
    split_ifs at hok ⊢ with hfinished
    · obtain rfl := Except.ok.inj hok
      simpa using hfinished
    · rcases hattempt : (P.attempt S c f (P.timeAfter done) y h).outcome s with ⟨_ | a, s'⟩
      · simp [hattempt] at hok
      · rcases hnext : P.nextStep S c a with _ | h'
        · simp [hattempt, hnext] at hok
        · simp only [hattempt, hnext] at hok ⊢
          have hrest := ih (done ++ [a]) (by rw [timeAfter_append]; exact hok)
          simpa [timeAfter_append] using hrest

end

section

variable {m : ℕ} {shown : α → Value} {f : Dynamics σ α (List α)} {S : Setting α}
  {P : IntegrationProblem α} {c : Controls α} {s : Counted (List (α × List α) × σ)} {t h : α}
  {y : List α}

/-- A run of the loop keeps the tally, and its attempts take two evaluations each. -/
theorem attempts_within (n : ℕ) (hs : Tallied m s) :
    Tallied m ((P.attempts S c (counted shown (Dynamics.watched f)) n t y h).run s).2 ∧
      s.counter.count + 2 * ((P.attempts S c (counted shown (Dynamics.watched f)) n t y h).run
        s).1.attempts.length ≤ m := by
  induction n generalizing t y h s with
  | zero => exact ⟨hs, hs.within⟩
  | succ n ih =>
    rw [attempts_succ]
    split_ifs
    · exact ⟨hs, hs.within⟩
    · have hattempt : Action.Spends m 2
          (P.attempt S c (counted shown (Dynamics.watched f)) t y h) := spends_attempt t y h
      rcases hok : (P.attempt S c (counted shown (Dynamics.watched f)) t y h).outcome s with
        ⟨_ | a, s'⟩
      · exact ⟨hattempt.tallied_of_outcome hs hok, hs.within⟩
      · have hs' := hattempt.tallied_of_outcome hs hok
        have hcount := hattempt.spent s a s' hs hok
        have hwithin := hs'.within
        rcases hnext : P.nextStep S c a with _ | h'
        · refine ⟨by simpa [hnext] using hs', ?_⟩
          simp only [hnext, List.length_singleton]
          omega
        · obtain ⟨htallied, hrest⟩ := ih (t := a.time) (y := a.state) (h := h') hs'
          refine ⟨by simpa [hnext] using htallied, ?_⟩
          simp only [hnext, List.length_cons]
          omega

/-- With more attempts allowed than the budget has evaluations for, the loop stops by itself. -/
theorem attempts_stop {n k : ℕ} (hs : Tallied m s) (hn : m < s.counter.count + 2 * n) (hk : n ≤ k) :
    (P.attempts S c (counted shown (Dynamics.watched f)) k t y h).run s =
        (P.attempts S c (counted shown (Dynamics.watched f)) n t y h).run s ∧
      ((P.attempts S c (counted shown (Dynamics.watched f)) n t y h).run s).1.ending ≠
        .ok false := by
  induction n generalizing t y h s k with
  | zero => exact absurd hs.within (by omega)
  | succ n ih =>
    obtain ⟨k, rfl⟩ : ∃ j, k = j + 1 := ⟨k - 1, by omega⟩
    rw [attempts_succ, attempts_succ]
    split_ifs
    · simp
    · have hattempt : Action.Spends m 2
          (P.attempt S c (counted shown (Dynamics.watched f)) t y h) := spends_attempt t y h
      rcases hok : (P.attempt S c (counted shown (Dynamics.watched f)) t y h).outcome s with
        ⟨_ | a, s'⟩
      · simp
      · have hs' := hattempt.tallied_of_outcome hs hok
        have hcount := hattempt.spent s a s' hs hok
        rcases hnext : P.nextStep S c a with _ | h'
        · simp [hnext]
        · obtain ⟨hsame, hending⟩ := ih (t := a.time) (y := a.state) (h := h') (k := k) hs'
            (by omega) (by omega)
          exact ⟨by simp [hnext, hsame], by simpa [hnext] using hending⟩

end

/-- The integration with at most `m` evaluations and `n` attempts, which are watched. -/
def budgeted (S : Setting α) (P : IntegrationProblem α) (c : Controls α) (shown : α → Value)
    (f : Dynamics σ α (List α)) (m n : ℕ) (world : σ) :
    Integration α × Counted (List (α × List α) × σ) :=
  ({ P with maxSteps := n }.integrate S c (counted shown (Dynamics.watched f))).run
    (Counted.start ⟨m, 0⟩ ([], world))

section

variable (S : Setting α) (P : IntegrationProblem α) (c : Controls α) (shown : α → Value)
  (f : Dynamics σ α (List α)) (m : ℕ) (world : σ)

/-- How many steps are allowed does not matter to the loop, which is told how many there are. -/
lemma attempts_maxSteps (k n : ℕ) :
    { P with maxSteps := k }.attempts S c f n = P.attempts S c f n := by
  induction n with
  | zero => rfl
  | succ n ih =>
    funext t y h
    rw [attempts, attempts, ih]
    rfl

/-- Either there is no first step, or the loop starts with all but one evaluation of the budget left
at most. -/
lemma budgeted_cases :
    (∃ e s, Tallied m s ∧ ∀ n, P.budgeted S c shown f m n world = (⟨[], .error e⟩, s)) ∨
    ∃ h s, Tallied m s ∧ 1 ≤ s.counter.count ∧ ∀ n, P.budgeted S c shown f m n world =
      (P.attempts S c (counted shown (Dynamics.watched f)) n P.start P.initial h).run s := by
  have hstart : Tallied m (Counted.start ⟨m, 0⟩ (([] : List (α × List α)), world)) :=
    tallied_start m world
  have hprepare : Action.Spends m 1 (P.prepare S c (counted shown (Dynamics.watched f))) :=
    spends_prepare
  rcases hok : (P.prepare S c (counted shown (Dynamics.watched f))).outcome
    (.start ⟨m, 0⟩ ([], world)) with ⟨e | h, s⟩
  · refine .inl ⟨e, s, hprepare.tallied_of_outcome hstart hok, fun n => ?_⟩
    have hok : ({ P with maxSteps := n }.prepare S c (counted shown (Dynamics.watched f))).outcome
      (.start ⟨m, 0⟩ ([], world)) = (.error e, s) := hok
    rw [budgeted, integrate_outcome, hok]
  · refine .inr ⟨h, s, hprepare.tallied_of_outcome hstart hok, ?_, fun n => ?_⟩
    · simpa [Counted.start] using hprepare.spent _ h s hstart hok
    · have hok : ({ P with maxSteps := n }.prepare S c (counted shown (Dynamics.watched f))).outcome
        (.start ⟨m, 0⟩ ([], world)) = (.ok h, s) := hok
      rw [budgeted, integrate_outcome, hok, attempts_maxSteps]

/-- A budget of `m` evaluations bounds an integration, whatever the dynamics do: they are evaluated
at most `m` times, there are at most half as many attempts, and with the number of attempts not
limited otherwise the integration stops, with a failure or because no more time is left than the loop
ends at. -/
theorem budgeted_stops :
    (∀ n, (P.budgeted S c shown f m n world).2.world.1.length ≤ m ∧
      (P.budgeted S c shown f m n world).1.attempts.length ≤ m / 2) ∧
    ∃ r, (∀ n, m / 2 < n → P.budgeted S c shown f m n world = r) ∧
      ((∃ e, r.1.ending = .error e) ∨
        r.1.ending = .ok true ∧
          P.isFinished S.arithmetic (P.timeAfter r.1.attempts) = true) := by
  rcases budgeted_cases S P c shown f m world with
    ⟨e, s, hs, hrun⟩ | ⟨h, s, hs, hcount, hrun⟩
  · refine ⟨fun n => ?_, _, fun n _ => hrun n, .inl ⟨e, rfl⟩⟩
    rw [hrun]
    exact ⟨hs.watched.trans_le hs.within, Nat.zero_le _⟩
  · refine ⟨fun n => ?_, (P.budgeted S c shown f m (m / 2 + 1) world), fun n hn => ?_, ?_⟩
    · rw [hrun]
      obtain ⟨htallied, hattempts⟩ := attempts_within n hs
      exact ⟨htallied.watched.trans_le htallied.within, by omega⟩
    · rw [hrun, hrun]
      exact (attempts_stop hs (by omega) hn).1
    · rw [hrun]
      rcases hend : ((P.attempts S c (counted shown (Dynamics.watched f)) (m / 2 + 1) P.start
        P.initial h).run s).1.ending with e | b
      · exact .inl ⟨e, rfl⟩
      · cases b
        · exact absurd hend (attempts_stop hs (by omega) (m / 2 + 1).le_refl).2
        · exact .inr ⟨rfl, ending_attempts _ [] hend⟩

end

end IntegrationProblem

end AdaptiveStep
