import AdaptiveStep.Proofs.Actions
import AdaptiveStep.Proofs.FloatRounding
import AdaptiveStep.Value.Order

/-!
# Conversions give doubles

Every number that a value converts to is a double, if the floats that came in were doubles. Numbers
read from text are rounded, so they are doubles as well.
-/

namespace AdaptiveStep

open Extended FloatType

lemma holds_zero (t : FloatType) (negative : Bool) : t.Holds (zero negative) := by
  cases negative
  · simpa [zero, Holds] using Format.holdsWithin_zero
  · trivial

lemma holds_ofRat (q : ℚ) : float64.Holds (Number.ofRat q) := holds_round q

namespace Number

lemma holds_ofDecimal (negative : Bool) (coefficient : ℕ) (exponent : ℤ) :
    float64.Holds (ofDecimal negative coefficient exponent) := by
  unfold ofDecimal
  dsimp only
  split_ifs with hzero hlarge hneg
  · exact holds_zero _ _
  · trivial
  all_goals
    have hcoefficient : (coefficient : ℚ) ≠ 0 := by
      simp only [Bool.or_eq_true, decide_eq_true_eq, not_or] at hzero
      exact_mod_cast hzero.1
    have hne : (coefficient : ℚ) * 10 ^ exponent ≠ 0 :=
      mul_ne_zero hcoefficient (zpow_ne_zero _ (by norm_num))
  · have hround := holds_round (t := float64) (-(coefficient * 10 ^ exponent))
    rwa [Rounding.round, if_neg (neg_ne_zero.mpr hne)] at hround
  · have hround := holds_round (t := float64) (coefficient * 10 ^ exponent)
    rwa [Rounding.round, if_neg hne] at hround

lemma holds_scanUnsigned {negative : Bool} {cs rest : List Char} {x : Number}
    (h : scanUnsigned? negative cs = some (x, rest)) : float64.Holds x := by
  unfold scanUnsigned? at h
  dsimp only at h
  split_ifs at h
  simp only [Option.some.injEq, Prod.mk.injEq] at h
  rw [← h.1]
  exact holds_ofDecimal _ _ _

lemma holds_scan {cs rest : List Char} {x : Number} (h : scan? cs = some (x, rest)) :
    float64.Holds x := by
  unfold scan? at h
  dsimp only at h
  split at h
  · simp only [Option.some.injEq, Prod.mk.injEq] at h
    rw [← h.1]; trivial
  · simp only [Option.some.injEq, Prod.mk.injEq] at h
    rw [← h.1]; trivial
  · simp only [Option.some.injEq, Prod.mk.injEq] at h
    rw [← h.1]; trivial
  · exact holds_scanUnsigned h

theorem holds_read {s : String} {x : Number} (h : read? s = some x) : float64.Holds x := by
  unfold read? at h
  simp only [Option.bind_eq_bind, Option.bind_eq_some_iff] at h
  obtain ⟨cs, -, ⟨y, rest⟩, hscan, hrest⟩ := h
  split at hrest
  · rename_i heq
    simp only [Option.some.injEq, Prod.mk.injEq] at hrest heq
    rw [← hrest, ← heq.1]
    exact holds_scan hscan
  · simp at hrest

end Number

namespace Value

/-- A float that is the value or its only element is a double. -/
def HoldsDouble (v : Value) : Prop :=
  ∀ x, v = .real x ∨ v = .objects [] [.real x] → float64.Holds x

lemma holdsDouble_real {x : Number} (hx : float64.Holds x) : (real x).HoldsDouble := by
  rintro y (h | h)
  · exact real.inj h ▸ hx
  · exact nomatch h

/-- An integer that is not too large becomes the nearest double. -/
lemma integerToNumber_eq {n : ℤ} {x : Number} (h : integerToNumber n = .ok x) :
    x = Number.ofRat n := by
  unfold integerToNumber Number.ofInt? at h
  cases hn : Number.ofRat n <;> simp_all

lemma rationalToNumber_eq {q : ℚ} {x : Number} (h : rationalToNumber q = .ok x) :
    x = Number.ofRat q := by
  unfold rationalToNumber at h
  cases hq : Number.ofRat q <;> simp_all

lemma integerToNumber_boolean (b : Bool) :
    integerToNumber (if b then 1 else 0) = .ok (.finite (if b then 1 else 0)) := by
  cases b <;> exact ok_of_toOption (by decide +kernel)

lemma holds_boolean (b : Bool) : float64.Holds (.finite (if b then 1 else 0)) := by
  have hone : float64.Holds (.finite 1) :=
    ⟨⟨1, 0, by simp, by decide, by decide⟩, by
      rw [abs_one, ← zpow_zero (2 : ℚ), two_zpow_lt_iff]; decide⟩
  cases b
  · simpa [zero] using holds_zero float64 false
  · simpa using hone

lemma holds_elementToNumber {v : Value} {x : Number} (hv : ∀ y, v = .real y → float64.Holds y)
    (h : v.elementToNumber = .ok x) : float64.Holds x := by
  cases v
  case real y =>
    simp only [elementToNumber, Except.ok.injEq] at h
    exact h ▸ hv y rfl
  case integer n =>
    rw [integerToNumber_eq h]
    exact holds_ofRat n
  case boolean b =>
    simp only [elementToNumber, Except.ok.injEq] at h
    exact h ▸ holds_boolean b
  case rational q =>
    rw [rationalToNumber_eq h]
    exact holds_ofRat q
  case scalar t z =>
    simp only [elementToNumber, Except.ok.injEq] at h
    exact h ▸ holds_convert _
  case array a =>
    simp only [elementToNumber] at h
    split at h
    · unfold itemToNumber at h
      split at h
      · simp at h
      · simp at h
      · simp only [Except.ok.injEq] at h
        exact h ▸ holds_convert _
    · simp at h
  case text s =>
    simp only [elementToNumber] at h
    split at h
    · rename_i hread
      simp only [Except.ok.injEq] at h
      exact h ▸ Number.holds_read hread
    · simp at h
  all_goals simp [elementToNumber] at h

/-- What a value converts to is a double. -/
theorem holds_toNumber {v : Value} {x : Number} (hv : v.HoldsDouble) (h : v.toNumber = .ok x) :
    float64.Holds x := by
  unfold toNumber at h
  split at h
  · exact holds_elementToNumber (fun y hy => hv y (.inr (by rw [hy]))) h
  · simp at h
  · exact holds_elementToNumber (fun y hy => hv y (.inl hy)) h

/-- A plain real number becomes the nearest double. -/
theorem toNumber_eq_convert {v : Value} {x y : Number} (hv : v.HoldsDouble)
    (hx : v.realNumber? = some x) (h : v.toNumber = .ok y) : y = float64.convert x := by
  cases v <;> simp only [realNumber?, Option.some.injEq, reduceCtorEq] at hx <;> subst hx
  case real =>
    simp only [toNumber, elementToNumber, Except.ok.injEq] at h
    rw [← h, convert_of_holds (hv _ (.inl rfl))]
  case integer n => exact integerToNumber_eq h
  case boolean b =>
    simp only [toNumber, elementToNumber, Except.ok.injEq] at h
    rw [← h, convert_of_holds (holds_boolean b)]
  case rational q => exact rationalToNumber_eq h

/-- Plain real numbers are compared exactly. -/
theorem compare_plain {v w : Value} {x y : Number} (wideMode : Bool) (r : Relation)
    (hx : v.realNumber? = some x) (hy : w.realNumber? = some y) :
    v.compare wideMode r w = .ok (r.number x y) := by
  have hside {v : Value} {x : Number} (h : v.realNumber? = some x) : v.side = .plain := by
    cases v <;> simp_all [realNumber?, side]
  unfold compare compareWith
  rw [hside hx, hside hy]
  simp only [comparePlain, hx, hy]

end Value

end AdaptiveStep
