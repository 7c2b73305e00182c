import AdaptiveStep.Proofs.StepTests

/-!
# Filtered steps are stable

A step that the filter gives passes the filter again. It was given back because it passed, or it is the
constant made of a bound, and then it lies between the bounds if they are rounded for the tests as the
constant was. That is so in every field but one: a constant in half precision on the device is rounded
from a double at once, while the bounds that it is compared with go through single precision first. There
the constant may be rounded to the other side of the bound it was made of, and the filter refuses it.
-/

namespace AdaptiveStep

open Extended FloatType

/-- Doubles `0 ≤ least ≤ greatest`. -/
structure StepLimits (least greatest : Number) : Prop where
  holds_least : float64.Holds least
  holds_greatest : float64.Holds greatest
  nonneg : double.le (.finite 0) least = true
  ordered : double.le least greatest = true

namespace StepLimits

variable {least greatest b : Number}

/-- A bound or the opposite of one. -/
def IsLimit (least greatest b : Number) : Prop :=
  b = least ∨ b = greatest ∨ b = least.neg ∨ b = greatest.neg

lemma holds_limit (h : StepLimits least greatest) (hb : IsLimit least greatest b) : float64.Holds b := by
  rcases hb with rfl | rfl | rfl | rfl
  · exact h.holds_least
  · exact h.holds_greatest
  · exact holds_neg h.holds_least
  · exact holds_neg h.holds_greatest

lemma greatest_not_lt_zero (h : StepLimits least greatest) : greatest.lt (finite 0) = false := by
  obtain ⟨-, hleast, hnonneg⟩ := double_le_iff.mp h.nonneg
  obtain ⟨-, -, hordered⟩ := double_le_iff.mp h.ordered
  exact not_lt_trans hleast hordered hnonneg

/-- Bounds lie between the bounds in magnitude. -/
lemma between (h : StepLimits least greatest) (hb : IsLimit least greatest b) :
    b.abs.lt least = false ∧ greatest.lt b.abs = false := by
  obtain ⟨-, -, hnonneg⟩ := double_le_iff.mp h.nonneg
  obtain ⟨-, -, hordered⟩ := double_le_iff.mp h.ordered
  have hleast : least.abs.lt least = false ∧ greatest.lt least.abs = false := by
    rw [abs_lt hnonneg, lt_abs hnonneg]
    exact ⟨lt_self _, hordered⟩
  have hgreatest : greatest.abs.lt least = false ∧ greatest.lt greatest.abs = false := by
    rw [abs_lt h.greatest_not_lt_zero, lt_abs h.greatest_not_lt_zero]
    exact ⟨hordered, lt_self _⟩
  rcases hb with rfl | rfl | rfl | rfl
  · exact hleast
  · exact hgreatest
  · rwa [Extended.abs_neg]
  · rwa [Extended.abs_neg]

/-- Conversions keep bounds between the bounds. -/
lemma between_converted (h : StepLimits least greatest) (hb : IsLimit least greatest b) (t : FloatType) :
    (t.convert b).abs.lt (t.convert least) = false ∧
      (t.convert greatest).lt (t.convert b).abs = false := by
  have hconvert {x y : Number} (hlt : x.lt y = false) : (t.convert x).lt (t.convert y) = false := by
    by_contra hconverted
    simp [lt_of_convert_lt (by simpa using hconverted)] at hlt
  rw [← convert_abs]
  exact ⟨hconvert (h.between hb).1, hconvert (h.between hb).2⟩

end StepLimits

/-! ### Constants -/

namespace FloatType

variable {t : FloatType} {x y : Number}

/-- A finite number of the type. -/
def HoldsFinite (t : FloatType) (x : Number) : Prop := t.Holds x ∧ x.value?.isSome = true

lemma isZero_mul_zero (hx : t.HoldsFinite x) : (t.rounding.mul x (finite 0)).isZero = true := by
  obtain ⟨a, ha⟩ := Option.isSome_iff_exists.mp hx.2
  have hzero : (finite 0 : Number).value? = some 0 := rfl
  simp only [Rounding.mul, ha, hzero, mul_zero, if_true]
  cases (x.isNegative ^^ (finite 0 : Number).isNegative) <;> rfl

lemma isZero_add (hx : x.isZero = true) (hy : y.isZero = true) :
    (t.rounding.add x y).isZero = true := by
  rcases x with _ | _ | _ | a <;> rcases y with _ | _ | _ | b <;> simp [isZero] at hx hy
  case finite.finite =>
    subst hx hy
    simp [Rounding.add, Rounding.round, isZero]
  case negativeZero.negativeZero => rfl
  case negativeZero.finite => exact decide_eq_true hy
  case finite.negativeZero => exact decide_eq_true hx

lemma isZero_sub (hx : x.isZero = true) (hy : y.isZero = true) :
    (t.rounding.sub x y).isZero = true :=
  isZero_add hx (by rwa [isZero_neg])

/-- A zero in front of a number changes at most the sign of a zero. -/
lemma add_of_isZero (hx : x.isZero = true) (hy : t.Holds y) :
    t.Holds (t.rounding.add x y) ∧ (t.rounding.add x y).abs = y.abs := by
  rcases x with _ | _ | _ | a <;> simp [isZero] at hx
  case negativeZero => cases y <;> exact ⟨hy, rfl⟩
  case finite =>
    subst hx
    rcases y with _ | negative | _ | b
    case finite =>
      have hround : t.rounding.add (finite 0) (finite b) = finite b := by
        rw [Rounding.add, zero_add, round_eq_self hy]
      rw [hround]
      exact ⟨hy, rfl⟩
    case negativeZero => exact ⟨holds_zero t false, abs_of_isZero (x := finite 0) (by simp [isZero])⟩
    all_goals exact ⟨trivial, rfl⟩

end FloatType

namespace Value

variable {wideMode : Bool}

/-- A step of any field with finite components: a plain number, or one item on the host or on the
device. -/
inductive IsStep (wideMode : Bool) : Value → Prop
  | real {x : Number} (hx : float64.HoldsFinite x) : IsStep wideMode (.real x)
  | integer (n : ℤ) : IsStep wideMode (.integer n)
  | boolean (b : Bool) : IsStep wideMode (.boolean b)
  | rational (q : ℚ) : IsStep wideMode (.rational q)
  | dual {d : Dual} (hvalue : float64.HoldsFinite d.value)
      (hderivative : float64.HoldsFinite d.derivative) : IsStep wideMode (.dual d)
  | complex {z : ComplexNumber} (hre : float64.HoldsFinite z.re) (him : float64.HoldsFinite z.im) :
      IsStep wideMode (.complex z)
  | scalar {t : ItemType} {z : ComplexNumber} (ht : t.IsInexact) (hre : t.part.HoldsFinite z.re)
      (him : t.part.HoldsFinite z.im) : IsStep wideMode (.scalar t z)
  | hostArray {t : ItemType} {z : ComplexNumber} (ht : t.IsInexact) (hre : t.part.HoldsFinite z.re)
      (him : t.part.HoldsFinite z.im) : IsStep wideMode (.array (.single t z))
  | deviceArray {t : ItemType} {weak : Bool} {z : ComplexNumber} (ht : t.IsInexact)
      (hnarrow : t.narrowed wideMode = t) (hre : t.part.HoldsFinite z.re)
      (him : t.part.HoldsFinite z.im) : IsStep wideMode (.array ⟨.device, t, weak, [], [z]⟩)

/-- An array of half precision on the device, where plain numbers are of single precision. -/
def RoundsTwice (wideMode : Bool) (h : Value) : Prop :=
  wideMode = false ∧ ∃ weak z, h = .array ⟨.device, .real .float16, weak, [], [z]⟩

/-- The element is tested as the bound `b` in the type `t`. Unless the bounds are rounded twice, they are
rounded to the type as well. -/
def TestsAsLimit (wideMode : Bool) (h : Value) (b : Number) (v : Value) : Prop :=
  ∃ t c x, v.TestsAs wideMode t c x ∧ x.abs = (t.convert b).abs ∧
    (¬h.RoundsTwice wideMode → ∀ y, float64.Holds y → c y = t.convert y)

variable {h v : Value} {b : Number}

lemma testsAsLimit_double {x : Number} (hv : v.TestsAs wideMode float64 id x) (hb : float64.Holds b)
    (hx : x.abs = b.abs) : h.TestsAsLimit wideMode b v :=
  ⟨float64, id, x, hv, by rw [convert_of_holds hb, hx], fun _ _ hy => (convert_of_holds hy).symm⟩

lemma testsAsLimit_item {t : ItemType} {x : Number} (hv : v.TestsAs wideMode t.part t.part.convert x)
    (hx : x.abs = (t.part.convert b).abs) : h.TestsAsLimit wideMode b v :=
  ⟨t.part, t.part.convert, x, hv, hx, fun _ _ _ => rfl⟩

/-- A complex number times zero, to which a number without an imaginary part is added. -/
lemma complex_constant {t : FloatType} {z w : ComplexNumber} (hre : t.HoldsFinite z.re)
    (him : t.HoldsFinite z.im) (hw : t.Holds w.re) (hwim : w.im.isZero = true) :
    let c := Operation.add.complex t.arithmetic
      (Operation.mul.complex t.arithmetic z (.ofReal (.finite 0))) w
    t.Holds c.re ∧ c.re.abs = w.re.abs ∧ c.im.isZero = true := by
  have hzero := isZero_sub (t := t) (isZero_mul_zero hre) (isZero_mul_zero him)
  have hzeroIm := isZero_add (t := t) (isZero_mul_zero hre) (isZero_mul_zero him)
  obtain ⟨hholds, habs⟩ := add_of_isZero hzero hw
  exact ⟨hholds, habs, isZero_add hzeroIm hwim⟩

lemma cast_complex {wide : Bool} {z : ComplexNumber} (hre : (ItemType.complex wide).part.Holds z.re)
    (him : (ItemType.complex wide).part.Holds z.im) :
    (ItemType.complex wide).cast (.complex wide) z = z := by
  obtain ⟨x, y⟩ := z
  simp only [ItemType.cast, convert_of_holds hre, convert_of_holds him]

/-- The item times zero, to which the double is added. -/
def constantItem (t : ItemType) (z : ComplexNumber) (b : Number) : ComplexNumber :=
  Operation.add.item t (t.cast t (Operation.mul.item t (t.cast t z) (t.doubleItem (.finite 0))))
    (t.doubleItem b)

lemma constantLike_scalar (wide : Bool) (z : ComplexNumber) (b : Number) :
    constantLike wideMode (scalar (.complex wide) z) (real b) =
      .ok (scalar (.complex wide) (constantItem (.complex wide) z b)) := by
  have hcomplex : (ItemType.complex wide).IsInexact := trivial
  change (combine wideMode .mul (scalar (.complex wide) z) (real (.finite 0)) >>= fun c =>
    combine wideMode .add c (real b)) = _
  rw [combine_scalar hcomplex]
  simp only [bind, Except.bind]
  rw [combine_scalar hcomplex]
  rfl

lemma holdsReal_constantItem {wide : Bool} {z : ComplexNumber}
    (hre : (ItemType.complex wide).part.HoldsFinite z.re)
    (him : (ItemType.complex wide).part.HoldsFinite z.im) (b : Number) :
    (ItemType.complex wide).HoldsReal (constantItem (.complex wide) z b) ∧
      (constantItem (.complex wide) z b).re.abs = ((ItemType.complex wide).part.convert b).abs := by
  have hzero : (ItemType.complex wide).doubleItem (.finite 0) = .ofReal (.finite 0) := by
    have hconvert := convert_of_holds (holds_zero (ItemType.complex wide).part false)
    simp only [zero, Bool.false_eq_true, if_false] at hconvert
    simp only [ItemType.doubleItem, ItemType.cast, ComplexNumber.ofReal, hconvert]
  have hproduct : (ItemType.complex wide).cast (.complex wide)
      (Operation.mul.complex (ItemType.complex wide).part.arithmetic z (.ofReal (.finite 0))) =
      Operation.mul.complex (ItemType.complex wide).part.arithmetic z (.ofReal (.finite 0)) :=
    cast_complex (holds_of_isZero (isZero_sub (isZero_mul_zero hre) (isZero_mul_zero him)))
      (holds_of_isZero (isZero_add (isZero_mul_zero hre) (isZero_mul_zero him)))
  have hdouble := ItemType.holdsReal_doubleItem (t := .complex wide) trivial b
  rw [constantItem, cast_complex hre.1 him.1, hzero]
  simp only [Operation.item]
  rw [hproduct]
  obtain ⟨hholds, habs, hcim⟩ := complex_constant hre him hdouble.re hdouble.im
  exact ⟨⟨hholds, hcim⟩, habs⟩

/-- A plain number on the device is rounded to the type at once, except for half precision. -/
lemma plain_eq_convert {t : ItemType} (ht : t.IsInexact) (hnarrow : t.narrowed wideMode = t)
    (htwice : ¬(wideMode = false ∧ t = .real .float16)) {y : Number} (hy : float64.Holds y) :
    Precision.plain ⟨t.part, wideMode⟩ y = t.part.convert y := by
  unfold Precision.plain
  cases wideMode with
  | true => exact congrArg t.part.convert (convert_of_holds hy)
  | false =>
    have hsingle : float32.convert (float32.convert y) = float32.convert y :=
      convert_of_holds (holds_convert y)
    rcases t with _ | (_ | _ | _ | _) | (_ | _)
    case integer => exact ht.elim
    case real.float16 => exact absurd ⟨rfl, rfl⟩ htwice
    case real.bfloat16 =>
      have hrounded : float32.rounding.convert (float32.rounding.convert y) =
        float32.rounding.convert y := hsingle
      change bfloat16.rounding.convert (float32.rounding.convert (float32.rounding.convert y)) = _
      rw [hrounded]
      rfl
    case real.float64 => cases hnarrow
    case complex.true => cases hnarrow
    all_goals exact hsingle

theorem testsAsLimit_constant (hstep : h.IsStep wideMode) (hb : float64.Holds b)
    (hv : constantLike wideMode h (real b) = .ok v) : h.TestsAsLimit wideMode b v := by
  cases hstep with
  | real | integer | boolean | rational =>
    obtain rfl : real b = v := Except.ok.inj hv
    exact testsAsLimit_double (testsAs_real b) hb rfl
  | dual hvalue hderivative =>
    obtain rfl := Except.ok.inj hv
    exact testsAsLimit_double (testsAs_dual _) hb (add_of_isZero (isZero_mul_zero hvalue) hb).2
  | complex hre him =>
    obtain rfl := Except.ok.inj hv
    have him' : (ComplexNumber.ofReal b).im.isZero = true := by simp [ComplexNumber.ofReal, isZero]
    obtain ⟨hholds, habs, hcim⟩ := complex_constant hre him (w := .ofReal b) hb him'
    exact testsAsLimit_double (testsAs_complex hholds hcim) hb habs
  | @scalar t z ht hre him =>
    cases t with
    | integer => exact ht.elim
    | real t =>
      obtain rfl : real b = v := Except.ok.inj hv
      exact testsAsLimit_double (testsAs_real b) hb rfl
    | complex wide =>
      obtain ⟨hholds, habs⟩ := holdsReal_constantItem hre him b
      obtain rfl := Except.ok.inj ((constantLike_scalar wide z b).symm.trans hv)
      exact testsAsLimit_item (testsAs_scalar ht hholds) habs
  | @hostArray t z ht hre him =>
    have hitem := ItemType.holdsReal_doubleItem ht b
    obtain ⟨w, hw, rfl⟩ := exists_item_of_constantLike hv
    obtain rfl := Except.ok.inj ((itemOf_real ht b).symm.trans hw)
    exact testsAsLimit_item (testsAs_single ht hitem) (congrArg Extended.abs (ItemType.doubleItem_re ht b))
  | @deviceArray t weak z ht hnarrow hre him =>
    have hitem := ItemType.holdsReal_doubleItem ht b
    obtain ⟨w, hw, rfl⟩ := exists_item_of_constantLike hv
    obtain rfl := Except.ok.inj ((itemOf_real ht b).symm.trans hw)
    refine ⟨t.part, _, _, testsAs_onDevice ht hitem hnarrow, by rw [ItemType.doubleItem_re ht], ?_⟩
    intro htwice y hy
    refine plain_eq_convert ht hnarrow ?_ hy
    rintro ⟨hmode, rfl⟩
    exact htwice ⟨hmode, weak, z, rfl⟩

end Value

/-! ### Stability -/

/-- Half precision on the device where plain numbers are of single precision. -/
def narrowHalf : Precision := ⟨.float16, false⟩

namespace Value

variable {wideMode : Bool} {h : Value} {least greatest : Number} {forward acceptSmall : Bool}
  {r : FilteredStep Value}

lemma plain_not_lt_zero {q : Precision} {x : Number} (hx : x.lt (finite 0) = false) :
    (q.plain x).lt (finite 0) = false :=
  convert_lt_of_holds (holds_zero q.type false) (convert_lt_of_holds (holds_zero _ false) hx)

/-- A number on the device passes exactly if it lies between the bounds as they meet it. -/
lemma passes_number_iff {q : Precision} {x : Number} (hq : q.Wide) (hx : q.type.Holds x)
    (least : Number) (hgreatest : greatest.lt (finite 0) = false) :
    (stepField q.wideMode).Passes (array (q.number x)) (real least) (real greatest) ↔
      x.abs.lt (q.plain least) = false ∧ (q.plain greatest).lt x.abs = false := by
  have hsign := plain_not_lt_zero (q := q) hgreatest
  constructor
  · intro hpasses
    have hfilter : filterStep q.wideMode (array (q.number x)) true false (real least) (real greatest) =
        .ok ⟨array (q.number x), .proposal⟩ := hpasses.filterStep true false
    rw [filterStep_number hq hx] at hfilter
    rw [lt_abs_eq_of_not_lt hsign]
    split_ifs at hfilter with hbelow habove hopposite
    · exact absurd (congrArg FilteredStep.source (Except.ok.inj hfilter)) (by simp)
    · exact absurd (congrArg FilteredStep.source (Except.ok.inj hfilter)) (by simp)
    · exact ⟨by simpa using hbelow, by simp [habove, hopposite]⟩
  · rintro ⟨hleast, hbelow⟩
    have htests := testsAs_onDevice (t := .real q.type) (z := .ofReal x) trivial
      ⟨hx, by simp [ComplexNumber.ofReal, isZero]⟩ (Precision.narrowed_type hq)
    exact htests.passes hsign hleast hbelow

lemma exists_limit {bound : Value}
    (h : (stepField wideMode).IsConstant (real least) (real greatest) bound) :
    ∃ b, bound = real b ∧ StepLimits.IsLimit least greatest b := by
  rcases h with rfl | rfl | h | h
  · exact ⟨least, rfl, .inl rfl⟩
  · exact ⟨greatest, rfl, .inr (.inl rfl)⟩
  · exact ⟨least.neg, (Except.ok.inj h).symm, .inr (.inr (.inl rfl))⟩
  · exact ⟨greatest.neg, (Except.ok.inj h).symm, .inr (.inr (.inr rfl))⟩

/-- A step that the filter gives is given again, whatever the direction and whether or not small steps
are accepted. Where bounds are rounded twice, that is so if the step was given back, or if it lies between
the bounds as they meet it. -/
theorem filterStep_stable_iff (hstep : h.IsStep wideMode) (hlimits : StepLimits least greatest)
    (hr : h.filterStep wideMode forward acceptSmall (real least) (real greatest) = .ok r) :
    (∀ forward' acceptSmall', r.step.filterStep wideMode forward' acceptSmall' (real least)
        (real greatest) = .ok ⟨r.step, .proposal⟩) ↔
      (h.RoundsTwice wideMode → r.source ≠ .proposal → ∀ x, r.step.realPart wideMode = .ok x →
        x.abs.lt (narrowHalf.plain least) = false ∧ (narrowHalf.plain greatest).lt x.abs = false) := by
  rcases StepField.filterStep_cases hr with ⟨rfl, hpasses⟩ | ⟨hsource, bound, hbound, hconstant⟩
  · exact ⟨fun _ _ hsource => absurd rfl hsource, fun _ => hpasses.filterStep⟩
  obtain ⟨b, rfl, hb⟩ := exists_limit hbound
  by_cases htwice : h.RoundsTwice wideMode
  · -- the constant is rounded at once, and the bounds through single precision
    obtain ⟨rfl, weak, z, rfl⟩ := htwice
    have hholds : narrowHalf.type.Holds (float16.convert b) := holds_convert b
    have hresult : array (narrowHalf.number (float16.convert b)) = r.step := Except.ok.inj hconstant
    have hpart : (array (narrowHalf.number (float16.convert b))).realPart false =
        .ok (float16.convert b) := realPart_number (q := narrowHalf) nofun hholds
    have hiff := passes_number_iff (q := narrowHalf) nofun hholds least hlimits.greatest_not_lt_zero
    rw [← hresult]
    constructor
    · intro hstable _ _ x hx
      obtain rfl := Except.ok.inj (hpart.symm.trans hx)
      exact hiff.mp (StepField.passes_of_filterStep (hstable true true))
    · intro hbetween
      exact (hiff.mpr (hbetween ⟨rfl, weak, z, rfl⟩ hsource _ hpart)).filterStep
  · obtain ⟨t, c, x, htests, hx, hc⟩ :=
      testsAsLimit_constant hstep (hlimits.holds_limit hb) hconstant
    obtain ⟨hleast, hgreatest⟩ := hlimits.between_converted hb t
    have hsign : (t.convert greatest).lt (finite 0) = false :=
      convert_lt_of_holds (holds_zero t false) hlimits.greatest_not_lt_zero
    rw [← hx, ← hc htwice _ hlimits.holds_least] at hleast
    rw [← hx, ← hc htwice _ hlimits.holds_greatest] at hgreatest
    rw [← hc htwice _ hlimits.holds_greatest] at hsign
    exact ⟨fun _ h => absurd h htwice, fun _ => (htests.passes hsign hleast hgreatest).filterStep⟩

lemma limits_one_ten : StepLimits (.finite 1) (.finite 10) :=
  ⟨holds_of_convert_eq (by decide +kernel), holds_of_convert_eq (by decide +kernel), by decide +kernel,
    by decide +kernel⟩

/-- A step of fifty in half precision on the device. -/
def halfStep : Value := array (narrowHalf.number (.finite 50))

lemma holds_fifty : float16.Holds (.finite 50) := holds_of_convert_eq (by decide +kernel)

lemma isStep_halfStep : halfStep.IsStep false :=
  .deviceArray (t := .real .float16) trivial rfl ⟨holds_fifty, rfl⟩ ⟨holds_zero float16 false, rfl⟩

/-- The step is cut to the maximal step, which single and half precision hold. -/
theorem filterStep_stable_halfStep :
    halfStep.IsStep false ∧ StepLimits (.finite (1 / 2)) (.finite 2) ∧
      halfStep.filterStep false true false (real (.finite (1 / 2))) (real (.finite 2)) =
        .ok ⟨array (narrowHalf.number (.finite 2)), .greatest⟩ ∧
      ∀ forward acceptSmall, filterStep false (array (narrowHalf.number (.finite 2))) forward acceptSmall
        (real (.finite (1 / 2))) (real (.finite 2)) =
          .ok ⟨array (narrowHalf.number (.finite 2)), .proposal⟩ := by
  have htwo : float16.Holds (.finite 2) := holds_of_convert_eq (by decide +kernel)
  have hlimits : StepLimits (.finite (1 / 2)) (.finite 2) :=
    ⟨holds_of_convert_eq (by decide +kernel), holds_of_convert_eq (by decide +kernel),
      by decide +kernel, by decide +kernel⟩
  have hfilter : halfStep.filterStep false true false (real (.finite (1 / 2))) (real (.finite 2)) =
      .ok ⟨array (narrowHalf.number (.finite 2)), .greatest⟩ := by
    have hcut := filterStep_number (q := narrowHalf) nofun holds_fifty true (.finite (1 / 2)) (.finite 2)
    rwa [if_neg (by decide +kernel), if_pos (by decide +kernel),
      show narrowHalf.type.convert (.finite 2) = .finite 2 by decide +kernel] at hcut
  refine ⟨isStep_halfStep, hlimits, hfilter,
    (filterStep_stable_iff isStep_halfStep hlimits hfilter).mpr fun _ _ x hx => ?_⟩
  have hpart : (array (narrowHalf.number (.finite 2))).realPart false = .ok (.finite 2) :=
    realPart_number (q := narrowHalf) nofun htwo
  obtain rfl := Except.ok.inj (hpart.symm.trans hx)
  exact ⟨by decide +kernel, by decide +kernel⟩

/-- A bound just below the middle of two numbers of half precision, which single precision rounds to
that middle. -/
def nearTie : Number := .finite (1 + 3 / 2 ^ 11 - 1 / 2 ^ 40)

/-- The step is cut to the bound and rounded down. The same bound is rounded up where it is compared
with the step, which is refused. -/
theorem halfStep_not_stable :
    halfStep.IsStep false ∧ StepLimits nearTie nearTie ∧
      halfStep.filterStep false true false (real nearTie) (real nearTie) =
        .ok ⟨array (narrowHalf.number (.finite (1025 / 1024))), .greatest⟩ ∧
      filterStep false (array (narrowHalf.number (.finite (1025 / 1024)))) true false (real nearTie)
        (real nearTie) = .error (.minimalStep (real (.finite (1025 / 1024))) (real nearTie)) := by
  have hrounded : narrowHalf.type.convert nearTie = .finite (1025 / 1024) := by decide +kernel
  have hlimits : StepLimits nearTie nearTie :=
    ⟨holds_of_convert_eq (by decide +kernel), holds_of_convert_eq (by decide +kernel),
      by decide +kernel, by decide +kernel⟩
  refine ⟨isStep_halfStep, hlimits, ?_, ?_⟩
  · have hcut := filterStep_number (q := narrowHalf) nofun holds_fifty true nearTie nearTie
    rwa [if_neg (by decide +kernel), if_pos (by decide +kernel), hrounded] at hcut
  · have hholds : narrowHalf.type.Holds (.finite (1025 / 1024)) :=
      holds_of_convert_eq (by decide +kernel)
    have hrefused := filterStep_number (q := narrowHalf) nofun hholds true nearTie nearTie
    rwa [if_pos (by decide +kernel),
      show (Extended.finite (1025 / 1024) : Number).abs = .finite (1025 / 1024) by decide +kernel]
      at hrefused

end Value

end AdaptiveStep
