import AdaptiveStep.Proofs.EvaluatingActions
import AdaptiveStep.Proofs.RelatedEstimates

/-!
# Runs of counted dynamics

A caller evaluates counted dynamics and resets the counter, in any order and as often as it likes. At
every point of such a run the count is the number of evaluations since the last reset, whether or not
they failed, and it is within the budget. An evaluation is refused exactly if the budget is used up;
any other gives what the dynamics give.
-/

namespace AdaptiveStep

variable {σ τ ε : Type}

namespace EvaluationCounter

variable {budget : Option ℤ} {c : EvaluationCounter}

/-- An accepted budget is the limit of a counter that has counted nothing. -/
lemma ofLimit_ok (h : ofLimit budget = .ok c) :
    c.count = 0 ∧ (c.limit : ℤ) = budget.getD unlimited := by
  cases budget with
  | none =>
    obtain rfl := Except.ok.inj h
    exact ⟨rfl, rfl⟩
  | some n =>
    simp only [ofLimit] at h
    split_ifs at h with hn
    obtain rfl := Except.ok.inj h
    exact ⟨rfl, Int.toNat_of_nonneg (not_lt.mp hn)⟩

end EvaluationCounter

/-- What a caller does with counted dynamics. -/
inductive CounterRequest (τ ε : Type) where
  | call (t : τ) (y : ε)
  | reset

namespace CounterRequest

def isCall : CounterRequest τ ε → Bool
  | call _ _ => true
  | reset => false

end CounterRequest

namespace Counted

/-- What a request leaves, whether or not it fails. -/
def perform (shown : τ → Value) (f : Dynamics σ τ ε) (s : Counted σ) :
    CounterRequest τ ε → Counted σ
  | .call t y => ((counted shown f t y).outcome s).2
  | .reset => { s with counter := s.counter.reset }

/-- What requests in a row leave. -/
def after (shown : τ → Value) (f : Dynamics σ τ ε) (requests : List (CounterRequest τ ε))
    (s : Counted σ) : Counted σ :=
  requests.foldl (perform shown f) s

variable {shown : τ → Value} {f : Dynamics σ τ ε} {s : Counted σ}

@[simp] lemma after_nil : after shown f [] s = s := rfl

@[simp] lemma after_concat (requests : List (CounterRequest τ ε)) (request : CounterRequest τ ε) :
    after shown f (requests ++ [request]) s = perform shown f (after shown f requests s) request :=
  List.foldl_concat ..

/-- The evaluations of watched dynamics that a run has added since its last reset. -/
def sinceReset (shown : τ → Value) (f : Dynamics σ τ ε) (requests : List (CounterRequest τ ε))
    (s : Counted (List (τ × ε) × σ)) : List (τ × ε) :=
  let upToReset := requests.rdropWhile CounterRequest.isCall
  (after shown (Dynamics.watched f) requests s).world.1.drop
    (after shown (Dynamics.watched f) upToReset s).world.1.length

/-- The counter has the limit `m`, and it has counted the evaluations that were watched after the
first `k`, which are not more. -/
structure TalliedFrom (m k : ℕ) (s : Counted (List (τ × ε) × σ)) : Prop where
  limit : s.counter.limit = m
  watched : s.world.1.length = k + s.counter.count
  within : s.counter.count ≤ m

section

variable {m k : ℕ} {s : Counted (List (τ × ε) × σ)}

/-- An evaluation is counted when it is watched, unless it is refused. -/
lemma TalliedFrom.call (h : TalliedFrom m k s) (t : τ) (y : ε) :
    TalliedFrom m k ((counted shown (Dynamics.watched f) t y).outcome s).2 := by
  obtain ⟨counter, notes, calls, world⟩ := s
  rw [Action.outcome_counted]
  split_ifs with hexhausted
  · exact ⟨h.limit, h.watched, h.within⟩
  · refine ⟨h.limit, ?_, ?_⟩
    · have hwatched : calls.length = k + counter.count := h.watched
      simp only [evaluated, Dynamics.outcome_watched, EvaluationCounter.increment,
        List.length_append, List.length_singleton]
      omega
    · exact h.limit ▸ Nat.lt_of_not_le hexhausted

/-- After a reset only later evaluations count. -/
lemma TalliedFrom.reset (h : TalliedFrom m k s) :
    TalliedFrom m s.world.1.length (perform shown (Dynamics.watched f) s .reset) :=
  ⟨h.limit, rfl, Nat.zero_le m⟩

/-- At every point of a run the counter has counted the evaluations since the last reset. -/
theorem talliedFrom_after (shown : τ → Value) (f : Dynamics σ τ ε) (hs : TalliedFrom m 0 s)
    (hlog : s.world.1 = []) (requests : List (CounterRequest τ ε)) :
    TalliedFrom m
      (after shown (Dynamics.watched f) (requests.rdropWhile CounterRequest.isCall) s).world.1.length
      (after shown (Dynamics.watched f) requests s) := by
  induction requests using List.reverseRecOn with
  | nil => simpa [hlog] using hs
  | append_singleton requests request ih =>
    cases request with
    | call t y =>
      rw [List.rdropWhile_concat_pos _ _ _ rfl, after_concat]
      exact ih.call t y
    | reset =>
      rw [List.rdropWhile_concat_neg _ _ _ (by simp [CounterRequest.isCall]), after_concat]
      exact ih.reset

end

/-- At every point of a run with an accepted budget, whatever the dynamics do: the count is the number
of evaluations since the last reset and within the budget. The next evaluation is refused exactly if
the count has reached the budget, and then the dynamics are not evaluated and the count stays; else it
is counted and gives what the dynamics give. -/
theorem count_after {budget : Option ℤ} {c : EvaluationCounter}
    (hc : EvaluationCounter.ofLimit budget = .ok c) (shown : τ → Value) (f : Dynamics σ τ ε)
    (world : σ) (requests : List (CounterRequest τ ε)) {s : Counted (List (τ × ε) × σ)}
    (hs : s = after shown (Dynamics.watched f) requests (start c ([], world))) :
    (s.counter.limit : ℤ) = budget.getD EvaluationCounter.unlimited ∧
    s.counter.count = (sinceReset shown f requests (start c ([], world))).length ∧
    s.counter.count ≤ s.counter.limit ∧
    ∀ t y r s', (counted shown (Dynamics.watched f) t y).outcome s = (r, s') →
      (s.counter.count = s.counter.limit →
        r = .error (.budgetExhausted (.integer s.counter.limit)) ∧
          s'.counter = s.counter ∧ s'.world = s.world) ∧
      (s.counter.count ≠ s.counter.limit →
        r = ((f t y).outcome s.world.2).1 ∧ s'.counter = s.counter.increment ∧
          s'.world = (s.world.1 ++ [(t, y)], ((f t y).outcome s.world.2).2)) := by
  obtain ⟨hzero, hlimit⟩ := EvaluationCounter.ofLimit_ok hc
  have hstart : TalliedFrom c.limit 0 (start c (([] : List (τ × ε)), world)) :=
    ⟨rfl, by simp [start, hzero], by simp [start, hzero]⟩
  have htally := talliedFrom_after shown f hstart rfl requests
  rw [← hs] at htally
  have hwithin : s.counter.count ≤ s.counter.limit := htally.limit ▸ htally.within
  refine ⟨by rw [htally.limit, hlimit], ?_, hwithin, fun t y r s' hcall => ?_⟩
  · simp only [sinceReset, ← hs, List.length_drop, htally.watched]
    omega
  · rw [Action.outcome_counted] at hcall
    constructor
    · intro hfull
      rw [if_pos hfull.ge, Prod.mk.injEq] at hcall
      obtain ⟨rfl, rfl⟩ := hcall
      exact ⟨rfl, rfl, rfl⟩
    · intro hleft
      rw [if_neg (by omega), Prod.mk.injEq] at hcall
      obtain ⟨rfl, rfl⟩ := hcall
      exact ⟨rfl, rfl, rfl⟩

/-- Dynamics that fail at time zero. -/
def failingAtZero : Dynamics Unit ℕ ℕ := fun t y => if t = 0 then throw .singularDynamics else pure y

/-- An evaluation that fails, one that is refused, and one after a reset. -/
def mixedRequests : List (CounterRequest ℕ ℕ) := [.call 0 5, .call 1 5, .reset, .call 1 5]

theorem count_after_mixedRequests :
    let shown : ℕ → Value := fun t => .integer t
    let s := after shown (Dynamics.watched failingAtZero) mixedRequests (start ⟨1, 0⟩ ([], ()))
    s.world.1 = [(0, 5), (1, 5)] ∧ s.counter.count = 1 ∧
      ((counted shown (Dynamics.watched failingAtZero) 1 5).outcome s).1 =
        .error (.budgetExhausted (.integer 1)) ∧
      ((counted shown (Dynamics.watched failingAtZero) 1 5).outcome s).2.counter.count = 1 := by
  intro shown s
  have hc : EvaluationCounter.ofLimit (some 1) = .ok ⟨1, 0⟩ := rfl
  obtain ⟨-, hcount, -, hcall⟩ := count_after hc shown failingAtZero () mixedRequests (s := s) rfl
  have hone : s.counter.count = 1 := hcount
  rcases hrun : (counted shown (Dynamics.watched failingAtZero) 1 5).outcome s with ⟨r, s'⟩
  obtain ⟨hresult, hcounter, -⟩ := (hcall 1 5 r s' hrun).1 hone
  exact ⟨rfl, hone, hresult, by rw [hcounter, hone]⟩

end Counted

end AdaptiveStep
