import AdaptiveStep.InitialStep
import AdaptiveStep.Proofs.Conversions
import AdaptiveStep.Proofs.FilteredSteps
import AdaptiveStep.Proofs.Signs

/-!
# The filter on plain real steps

The filter decides by the signs of differences, and these tell the order of doubles. A small step is
refused, or raised to the minimal step and then cut like any other; a large step is cut under its own
sign; every other step, NaN included, is given back. The bounds may be infinite and may come in either
order. Integers and rational numbers are filtered as the doubles that they convert to, except that a step
that passes is given back as it came.
-/

namespace AdaptiveStep

open Extended FloatType InitialStep

namespace Extended

variable {x b : Number}

lemma isNegative_of_zero_lt (h : (finite 0).lt x = true) : x.isNegative = false := by
  rcases x with _ | (_ | _) | _ | q
  case finite =>
    have hq : 0 < q := by simpa [lt] using h
    simpa [isNegative] using hq.le
  all_goals simp_all [lt, isNegative]

/-- What is above a bound that is not below zero has no minus sign. -/
lemma isNegative_of_lt (hb : b.lt (finite 0) = false) (h : b.lt x = true) : x.isNegative = false :=
  isNegative_of_zero_lt (lt_of_not_lt_of_lt rfl hb h)

lemma not_abs_lt_zero (x : Number) : x.abs.lt (finite 0) = false :=
  lt_zero_of_isNegative (isNegative_abs x)

lemma isNegative_of_lt_neg (hb : b.lt (finite 0) = false) (h : x.lt b.neg = true) :
    x.isNegative = true := by
  have hneg : x.neg.isNegative = false := by
    refine isNegative_of_lt hb ?_
    rw [← neg_lt_neg, neg_neg]
    exact h
  rw [isNegative_neg (lt_iff.mp h).1] at hneg
  simpa using hneg

end Extended

section Doubles

variable {x a b : Number}

/-- A double is cut to the maximal step under its own sign. -/
lemma clamped_double (hx : float64.Holds x) (hb : float64.Holds b) (hb0 : b.lt (finite 0) = false)
    (source : StepSource) :
    double.clamped ⟨x, source⟩ b =
      if b.lt x.abs then
        ⟨directed double (!x.isNegative) b, if x.isNegative then .opposite else .greatest⟩
      else ⟨x, source⟩ := by
  rw [Arithmetic.clamped, zero_lt_double_sub hx hb, double_add_lt_zero hx hb, lt_abs_eq_of_not_lt hb0]
  cases hlt : b.lt x
  · cases hlt' : x.lt b.neg
    · simp
    · simp [isNegative_of_lt_neg hb0 hlt', directed]
  · simp [isNegative_of_lt hb0 hlt, directed]

/-- A minimal step is cut to the maximal step in the direction of the integration. -/
lemma clamped_minimalStep (ha : float64.Holds a) (hb : float64.Holds b)
    (ha0 : (finite 0).lt a = true) (hb0 : b.lt (finite 0) = false) (forward : Bool) :
    ∃ source, source ≠ .proposal ∧ double.clamped (double.minimalStep forward a) b =
      ⟨directed double forward (double.min a b), source⟩ := by
  have hsign := isNegative_of_zero_lt ha0
  have hdirected : double.minimalStep forward a =
      ⟨directed double forward a, if forward then .least else .opposite⟩ := by
    cases forward <;> rfl
  have habs : (directed double forward a).abs = a := by
    cases forward
    · exact (Extended.abs_neg a).trans (abs_eq_self hsign)
    · exact abs_eq_self hsign
  have hnegative : (directed double forward a).isNegative = !forward := by
    cases forward
    · exact (isNegative_neg (lt_iff.mp ha0).2.1).trans (by rw [hsign])
    · exact hsign
  have hholds : float64.Holds (directed double forward a) := by
    cases forward
    · exact holds_neg ha
    · exact ha
  have hmin : double.min a b = if b.lt a then b else a := rfl
  rw [hdirected, clamped_double hholds hb hb0, habs, hnegative, hmin]
  cases b.lt a
  · exact ⟨if forward then .least else .opposite, by cases forward <;> decide, rfl⟩
  · exact ⟨if !forward then .opposite else .greatest, by cases forward <;> decide, by simp⟩

end Doubles

namespace Value

variable {wideMode forward acceptSmall : Bool}

/-! ### Steps that the filter cannot tell apart -/

section Imitation

variable {R : Value → Value → Prop} {v w : Value}

/-- Two elements are on the same side of every bound. -/
def SameSide (wideMode : Bool) (v w : Value) : Prop :=
  ∀ b, float64.Holds b →
    (combine wideMode .sub v (real b) >>= (stepField wideMode).isPositive) =
      (combine wideMode .sub w (real b) >>= (stepField wideMode).isPositive) ∧
    (combine wideMode .add v (real b) >>= (stepField wideMode).isNegative) =
      (combine wideMode .add w (real b) >>= (stepField wideMode).isNegative)

/-- The tests of the filter find the same of both steps, and the constants that it makes in their fields
are related. -/
structure Imitates (wideMode : Bool) (R : Value → Value → Prop) (v w : Value) : Prop where
  below : ∀ b, (stepField wideMode).isBelow v (real b) = (stepField wideMode).isBelow w (real b)
  tooSmall : ∀ b, (stepField wideMode).tooSmall v (real b) = (stepField wideMode).tooSmall w (real b)
  side : SameSide wideMode v w
  constant : ∀ b, float64.Holds b → ∃ c d, constantLike wideMode v (real b) = .ok c ∧
    constantLike wideMode w (real b) = .ok d ∧ R c d ∧ SameSide wideMode c d

/-- The same failure, or results from the same source: each the step that came in, or constants that are
related. -/
def Agree (R : Value → Value → Prop) (v w : Value) :
    Except Failure (FilteredStep Value) → Except Failure (FilteredStep Value) → Prop
  | .ok r, .ok r' =>
    r.source = r'.source ∧ if r.source = .proposal then r.step = v ∧ r'.step = w else R r.step r'.step
  | .error e, .error e' => e = e'
  | .ok _, .error _ => False
  | .error _, .ok _ => False

variable {b : Number}

lemma Imitates.clamp (h : Imitates wideMode R v w) (hb : float64.Holds b) {c d : Value}
    (hside : SameSide wideMode c d) {source : StepSource}
    (hfiltered : if source = .proposal then c = v ∧ d = w else R c d) :
    Agree R v w ((stepField wideMode).clamp v ⟨c, source⟩ (real b))
      ((stepField wideMode).clamp w ⟨d, source⟩ (real b)) := by
  have hneg : (stepField wideMode).negBound (real b) = .ok (real b.neg) := rfl
  obtain ⟨habove, hopposite⟩ := hside b hb
  obtain ⟨c₁, d₁, hc₁, hd₁, hrelated₁, -⟩ := h.constant b hb
  obtain ⟨c₂, d₂, hc₂, hd₂, hrelated₂, -⟩ := h.constant b.neg (holds_neg hb)
  have hconstant (u : Value) (x : Number) : (stepField wideMode).constantLike u (real x) =
      Value.constantLike wideMode u (real x) := rfl
  have hsub (u : Value) : (stepField wideMode).subBound u (real b) = combine wideMode .sub u (real b) := rfl
  have hadd (u : Value) : (stepField wideMode).addBound u (real b) = combine wideMode .add u (real b) := rfl
  simp only [StepField.clamp, ← bind_assoc, hsub, hadd, habove, hopposite, hneg]
  cases (combine wideMode .sub d (real b) >>= (stepField wideMode).isPositive) with
  | error e => rfl
  | ok above =>
    cases above with
    | true => simpa [bind, Except.bind, pure, Except.pure, hconstant, hc₁, hd₁, Agree] using hrelated₁
    | false =>
      cases (combine wideMode .add d (real b) >>= (stepField wideMode).isNegative) with
      | error e => rfl
      | ok opposite =>
        cases opposite with
        | true => simpa [bind, Except.bind, pure, Except.pure, hconstant, hc₂, hd₂, Agree] using hrelated₂
        | false => exact ⟨rfl, hfiltered⟩

lemma Imitates.minimal (h : Imitates wideMode R v w) (hb : float64.Holds b) (forward : Bool) :
    ∃ c d source, (stepField wideMode).minimal v forward (real b) = .ok ⟨c, source⟩ ∧
      (stepField wideMode).minimal w forward (real b) = .ok ⟨d, source⟩ ∧ source ≠ .proposal ∧ R c d ∧
      SameSide wideMode c d := by
  have hminimal {u c : Value} {x : Number} {source : StepSource}
      (hc : constantLike wideMode u (real x) = .ok c) :
      (do return ⟨← constantLike wideMode u (real x), source⟩) = Except.ok (FilteredStep.mk c source) := by
    rw [hc]
    rfl
  cases forward with
  | true =>
    obtain ⟨c, d, hc, hd, hrelated, hside⟩ := h.constant b hb
    exact ⟨c, d, .least, hminimal hc, hminimal hd, by decide, hrelated, hside⟩
  | false =>
    obtain ⟨c, d, hc, hd, hrelated, hside⟩ := h.constant b.neg (holds_neg hb)
    exact ⟨c, d, .opposite, hminimal hc, hminimal hd, by decide, hrelated, hside⟩

/-- Steps that the filter cannot tell apart have results that agree. -/
theorem Imitates.filterStep (h : Imitates wideMode R v w) {least greatest : Number}
    (hleast : float64.Holds least) (hgreatest : float64.Holds greatest) (forward acceptSmall : Bool) :
    Agree R v w (filterStep wideMode v forward acceptSmall (real least) (real greatest))
      (filterStep wideMode w forward acceptSmall (real least) (real greatest)) := by
  obtain ⟨c, d, source, hv, hw, hsource, hrelated, hside⟩ := h.minimal hleast forward
  unfold Value.filterStep StepField.filterStep
  rw [h.below, h.tooSmall, hv, hw]
  cases (stepField wideMode).isBelow w (real least) with
  | error e => rfl
  | ok below =>
    cases below with
    | false => exact h.clamp hgreatest h.side (by simp)
    | true =>
      cases acceptSmall with
      | false => cases (stepField wideMode).tooSmall w (real least) <;> rfl
      | true => exact h.clamp hgreatest hside (by simpa [hsource] using hrelated)

variable {c d : Value} {result : Except Failure (FilteredStep Value)}

lemma Agree.of_error {e : Failure} (h : Agree R v w result (.error e)) : result = .error e := by
  cases result with
  | error e' => exact congrArg Except.error h
  | ok r => exact h.elim

lemma Agree.of_proposal (h : Agree R v w result (.ok ⟨d, .proposal⟩)) : result = .ok ⟨v, .proposal⟩ := by
  cases result with
  | error e => exact h.elim
  | ok r =>
    obtain ⟨step, source⟩ := r
    obtain ⟨rfl, hstep⟩ := h
    rw [← (show step = v ∧ d = w from hstep).1]

lemma Agree.of_constant {source : StepSource} (hsource : source ≠ .proposal)
    (h : Agree R v w result (.ok ⟨d, source⟩)) : ∃ c, result = .ok ⟨c, source⟩ ∧ R c d := by
  cases result with
  | error e => exact h.elim
  | ok r =>
    obtain ⟨step, source'⟩ := r
    obtain ⟨rfl, hrelated⟩ := h
    rw [if_neg hsource] at hrelated
    exact ⟨step, rfl, hrelated⟩

end Imitation

/-! ### Plain real numbers -/

section Plain

variable {v : Value} {x : Number}

/-- A plain real number meets a double as the double that it converts to. -/
lemma combine_plainReal (wideMode : Bool) (hreal : v.realNumber?.isSome = true)
    (hx : v.toNumber = .ok x) (op : Operation) (b : Number) :
    combine wideMode op v (real b) = .ok (real (op.number double x b)) := by
  have hplain {p : PlainNumber} (hp : p.isComplex = false) (hpx : p.toNumber = .ok x) :
      p.combine op (.real b) = .ok (real (op.number double x b)) := by
    cases p
    case complex => simp [PlainNumber.isComplex] at hp
    all_goals
      simp only [PlainNumber.combine, PlainNumber.asRational?, PlainNumber.isComplex, hpx]
      rfl
  cases v with
  | real y => exact hplain (p := .real y) rfl hx
  | integer n => exact hplain (p := .integer n) rfl hx
  | boolean c => exact hplain (p := .integer (if c then 1 else 0)) rfl ((integerToNumber_boolean c).trans hx)
  | rational q => exact hplain (p := .rational q) rfl hx
  | _ => simp [realNumber?] at hreal

lemma realPart_plain (hreal : v.realNumber?.isSome = true) (hx : v.toNumber = .ok x) :
    v.realPart wideMode = .ok x := by
  cases v with
  | real | integer | boolean | rational => exact hx
  | _ => simp [realNumber?] at hreal

lemma constantLike_plain (hreal : v.realNumber?.isSome = true) (b : Number) :
    constantLike wideMode v (real b) = .ok (real b) := by
  cases v with
  | real | integer | boolean | rational => rfl
  | _ => simp [realNumber?] at hreal

lemma ofRat_eq_convert (q : ℚ) : Number.ofRat q = float64.convert (finite q) := rfl

lemma integerToNumber_abs {n : ℤ} (hx : integerToNumber n = .ok x) :
    integerToNumber n.natAbs = .ok x.abs := by
  have habs : Number.ofRat (n.natAbs : ℤ) = (Number.ofRat n).abs := by
    rw [ofRat_eq_convert, ofRat_eq_convert, finite_natAbs, convert_abs]
  obtain rfl := integerToNumber_eq hx
  unfold integerToNumber Number.ofInt? at hx ⊢
  rw [habs]
  cases hn : Number.ofRat n <;> simp_all [Extended.abs]
  split_ifs <;> rfl

lemma rationalToNumber_abs {q : ℚ} (hx : rationalToNumber q = .ok x) :
    rationalToNumber q.abs = .ok x.abs := by
  have habs : Number.ofRat q.abs = (Number.ofRat q).abs := by
    rw [ofRat_eq_convert, ofRat_eq_convert, finite_ratAbs, convert_abs]
  obtain rfl := rationalToNumber_eq hx
  unfold rationalToNumber at hx ⊢
  rw [habs]
  cases hq : Number.ofRat q <;> simp_all [Extended.abs]
  split_ifs <;> rfl

lemma magnitude_plain (hreal : v.realNumber?.isSome = true) (hx : v.toNumber = .ok x) :
    ∃ m, v.magnitude = .ok m ∧ m.realNumber?.isSome = true ∧ m.toNumber = .ok x.abs := by
  cases v with
  | real y =>
    obtain rfl := Except.ok.inj hx
    exact ⟨_, rfl, rfl, rfl⟩
  | integer n => exact ⟨_, rfl, rfl, integerToNumber_abs hx⟩
  | boolean b =>
    obtain rfl := Except.ok.inj hx
    refine ⟨_, rfl, rfl, (integerToNumber_boolean b).trans ?_⟩
    cases b <;> rfl
  | rational q => exact ⟨_, rfl, rfl, rationalToNumber_abs hx⟩
  | _ => simp [realNumber?] at hreal

/-- The filter cannot tell a plain real number from the double that it converts to. -/
lemma imitates_plain (wideMode : Bool) (hreal : v.realNumber?.isSome = true)
    (hx : v.toNumber = .ok x) : Imitates wideMode Eq v (real x) := by
  obtain ⟨m, hm, hmreal, hmx⟩ := magnitude_plain hreal hx
  have hcombine := combine_plainReal wideMode hreal hx
  refine ⟨fun b => ?_, fun b => ?_, fun b _ => ?_, fun b _ => ?_⟩
  · have hdifference := combine_plainReal wideMode hmreal hmx .sub b
    simp only [StepField.isBelow, stepField, hm, hdifference, bind, Except.bind]
    rfl
  · simp only [stepField, realPart_plain hreal hx]
    rfl
  · rw [hcombine, hcombine]
    exact ⟨rfl, rfl⟩
  · exact ⟨real b, real b, constantLike_plain hreal b, rfl, rfl, fun _ _ => ⟨rfl, rfl⟩⟩

end Plain

/-! ### The complete filter -/

section Complete

variable {v : Value} {x least greatest : Number}

/-- Real steps by cases: refused or raised below the minimal step, cut beyond the maximal step, and given
back otherwise. -/
lemma filterStep_real_cases (wideMode : Bool) (hx : float64.Holds x) (hleast : float64.Holds least)
    (hgreatest : float64.Holds greatest) (hgreatest0 : greatest.lt (finite 0) = false)
    (forward acceptSmall : Bool) :
    (x.abs.lt least = true → acceptSmall = false →
      filterStep wideMode (real x) forward acceptSmall (real least) (real greatest) =
        .error (.minimalStep (real x.abs) (real least))) ∧
    (x.abs.lt least = true → acceptSmall = true → ∃ source, source ≠ .proposal ∧
      filterStep wideMode (real x) forward acceptSmall (real least) (real greatest) =
        .ok ⟨real (directed double forward (double.min least greatest)), source⟩) ∧
    (x.abs.lt least = false → greatest.lt x.abs = true → ∃ source, source ≠ .proposal ∧
      filterStep wideMode (real x) forward acceptSmall (real least) (real greatest) =
        .ok ⟨real (directed double (!x.isNegative) greatest), source⟩) ∧
    (x.abs.lt least = false → greatest.lt x.abs = false →
      filterStep wideMode (real x) forward acceptSmall (real least) (real greatest) =
        .ok ⟨real x, .proposal⟩) := by
  have hbelow : double.lt (double.sub (double.abs x) least) (double.ofRat 0) = x.abs.lt least :=
    double_sub_lt_zero (holds_abs hx) hleast
  rw [filterStep_real, doubleSteps, Arithmetic.filterStep_eq, hbelow,
    clamped_double hx hgreatest hgreatest0]
  refine ⟨?_, ?_, ?_, ?_⟩
  · rintro hlt rfl
    rw [hlt]
    rfl
  · rintro hlt rfl
    have hpositive : (finite 0).lt least = true := lt_of_not_lt_of_lt rfl (not_abs_lt_zero x) hlt
    obtain ⟨source, hsource, hclamped⟩ := clamped_minimalStep hleast hgreatest hpositive hgreatest0 forward
    rw [hlt, hclamped]
    exact ⟨source, hsource, rfl⟩
  · intro hlt hbeyond
    rw [hlt, hbeyond]
    exact ⟨if x.isNegative then .opposite else .greatest, by cases x.isNegative <;> decide, rfl⟩
  · intro hlt hbeyond
    rw [hlt, hbeyond]
    rfl

/-- A step below the minimal step where small steps are not accepted. -/
def IsRefused (x least : Number) (acceptSmall : Bool) : Prop :=
  x.abs.lt least = true ∧ acceptSmall = false

/-- NaN, or a step with a magnitude between the bounds. -/
def IsKept (x least greatest : Number) : Prop :=
  x.isNaN = true ∨ (double.le least x.abs = true ∧ double.le x.abs greatest = true)

lemma isKept_iff (hleast : least.isNaN = false) (hgreatest : greatest.isNaN = false) :
    IsKept x least greatest ↔ x.abs.lt least = false ∧ greatest.lt x.abs = false := by
  rw [IsKept, double_le_iff, double_le_iff, isNaN_abs]
  cases hx : x.isNaN
  · simp [hleast, hgreatest]
  · have hnan : x.abs = .nan := by
      cases x <;> simp_all [isNaN, Extended.abs]
    simp [hnan]

/-- The filter on plain real numbers. It refuses a small step that is not accepted, and it gives back NaN
and what lies between the bounds. Of every other step it makes a double with the magnitude brought between
the bounds, in the direction of the integration if the step was small and under its own sign if not. -/
theorem filterStep_plain (wideMode : Bool) (hreal : v.realNumber?.isSome = true)
    (hdouble : v.HoldsDouble) (hx : v.toNumber = .ok x) (hleast : float64.Holds least)
    (hgreatest : float64.Holds greatest) (hleast0 : double.le (finite 0) least = true)
    (hgreatest0 : double.le (finite 0) greatest = true) (forward acceptSmall : Bool) :
    (∀ e, filterStep wideMode v forward acceptSmall (real least) (real greatest) = .error e ↔
      IsRefused x least acceptSmall ∧ e = .minimalStep (real x.abs) (real least)) ∧
    (filterStep wideMode v forward acceptSmall (real least) (real greatest) = .ok ⟨v, .proposal⟩ ↔
      IsKept x least greatest) ∧
    (¬IsRefused x least acceptSmall → ¬IsKept x least greatest → ∃ source, source ≠ .proposal ∧
      filterStep wideMode v forward acceptSmall (real least) (real greatest) =
        .ok ⟨real (directed double (if x.abs.lt least then forward else !x.isNegative)
          (double.min (double.max x.abs least) greatest)), source⟩) := by
  obtain ⟨-, hleastNumber, -⟩ := double_le_iff.mp hleast0
  obtain ⟨-, hgreatestNumber, hgreatestSign⟩ := double_le_iff.mp hgreatest0
  obtain ⟨hrefused, hraised, hcut, hkept⟩ := filterStep_real_cases wideMode
    (holds_toNumber hdouble hx) hleast hgreatest hgreatestSign forward acceptSmall
  have hagree := (imitates_plain wideMode hreal hx).filterStep hleast hgreatest forward
    acceptSmall
  have hmax : double.max x.abs least = if x.abs.lt least then least else x.abs := rfl
  have hmin : double.min x.abs greatest = if greatest.lt x.abs then greatest else x.abs := rfl
  rw [isKept_iff hleastNumber hgreatestNumber, hmax, IsRefused]
  cases hlt : x.abs.lt least
  · cases hbeyond : greatest.lt x.abs
    · rw [hkept hlt hbeyond] at hagree
      rw [hagree.of_proposal]
      simp
    · obtain ⟨source, hsource, hresult⟩ := hcut hlt hbeyond
      rw [hresult] at hagree
      obtain ⟨c, hc, rfl⟩ := hagree.of_constant hsource
      rw [hc]
      refine ⟨by simp, by simp [hsource], fun _ _ => ⟨source, hsource, ?_⟩⟩
      simp [hmin, hbeyond]
  · cases acceptSmall
    · rw [hrefused hlt rfl] at hagree
      rw [hagree.of_error]
      refine ⟨fun e => ⟨fun h => ⟨⟨rfl, rfl⟩, (Except.error.inj h).symm⟩, fun h => congrArg _ h.2.symm⟩,
        by simp, fun h => absurd ⟨rfl, rfl⟩ h⟩
    · obtain ⟨source, hsource, hresult⟩ := hraised hlt rfl
      rw [hresult] at hagree
      obtain ⟨c, hc, rfl⟩ := hagree.of_constant hsource
      rw [hc]
      exact ⟨by simp, by simp [hsource], fun _ _ => ⟨source, hsource, by simp⟩⟩

/-- Between crossed bounds a small step against the direction of the integration is raised in that
direction and then cut. -/
theorem filterStep_plain_crossedBounds :
    (rational (-1 / 8)).toNumber = .ok (finite (-1 / 8)) ∧
      ¬IsRefused (finite (-1 / 8)) (finite (1 / 2)) true ∧
      ¬IsKept (finite (-1 / 8)) (finite (1 / 2)) (finite (1 / 4)) ∧
      ∃ source, source ≠ .proposal ∧ filterStep false (rational (-1 / 8)) true true
        (real (finite (1 / 2))) (real (finite (1 / 4))) = .ok ⟨real (finite (1 / 4)), source⟩ := by
  have hx : (rational (-1 / 8)).toNumber = .ok (finite (-1 / 8)) := ok_of_toOption (by decide +kernel)
  have hdouble : (rational (-1 / 8)).HoldsDouble := by
    rintro y (h | h) <;> cases h
  have hrefused : ¬IsRefused (finite (-1 / 8)) (finite (1 / 2)) true := by simp [IsRefused]
  have hkept : ¬IsKept (finite (-1 / 8)) (finite (1 / 2)) (finite (1 / 4)) := by
    rw [isKept_iff rfl rfl]
    decide +kernel
  obtain ⟨source, hsource, hresult⟩ := (filterStep_plain false rfl hdouble hx
    (holds_of_convert_eq (x := finite (1 / 2)) (by decide +kernel))
    (holds_of_convert_eq (x := finite (1 / 4)) (by decide +kernel)) (by decide +kernel)
    (by decide +kernel) true true).2.2 hrefused hkept
  have hsize : directed double (if (finite (-1 / 8) : Number).abs.lt (finite (1 / 2)) then true
      else !(finite (-1 / 8) : Number).isNegative) (double.min (double.max (finite (-1 / 8) : Number).abs
        (finite (1 / 2))) (finite (1 / 4))) = finite (1 / 4) := by decide +kernel
  rw [hsize] at hresult
  exact ⟨hx, hrefused, hkept, source, hsource, hresult⟩

end Complete

end Value

end AdaptiveStep
