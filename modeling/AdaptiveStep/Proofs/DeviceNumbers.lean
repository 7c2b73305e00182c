import AdaptiveStep.Policy
import AdaptiveStep.Proofs.FilteredSteps
import AdaptiveStep.Proofs.OppositeValues
import AdaptiveStep.Proofs.StepFactors

/-!
# Numbers on the device

A number of the configured type on the device, as the step update gives it, under the operations of
the filter: plain numbers that it meets are converted to its type, and its results stay in it.
-/

namespace AdaptiveStep

open Extended FloatType

namespace Precision

def number (q : Precision) (x : Number) : NumericArray := q.deviceArray [] [x]

variable {q : Precision} {x : Number}

lemma narrowed_type (hq : q.Wide) : (ItemType.real q.type).narrowed q.wideMode = .real q.type := by
  obtain ⟨t, wideMode⟩ := q
  cases t <;> cases wideMode
  case float64.false => exact absurd (hq rfl) Bool.false_ne_true
  all_goals rfl

end Precision

namespace ItemType

/-- The double `b` as an item that meets others of the type. -/
def doubleItem (t : ItemType) (b : Number) : ComplexNumber := cast (.real .float64) t (.ofReal b)

/-- A double that meets items of the type on the device, where it is a weak array. -/
def weakItem (wideMode : Bool) (t : ItemType) (b : Number) : ComplexNumber :=
  let u := real (if wideMode then .float64 else .float32)
  u.cast t (u.doubleItem b)

end ItemType

namespace Value

variable {q : Precision} {x y : Number}

/-- The type of plain numbers on the device. -/
def plainType (wideMode : Bool) : FloatType := if wideMode then .float64 else .float32

/-- An item on the device and a double meet in the type `u`. -/
lemma combine_device {wideMode weak weak' : Bool} {t u : ItemType} {z : ComplexNumber}
    (hnarrow : t.narrowed wideMode = t) (op : Operation) (b : Number)
    (htype : (⟨.device, t, weak, [], [t.cast t z]⟩ : NumericArray).deviceType
      ⟨.device, .real (plainType wideMode), true, [],
        [(ItemType.real (plainType wideMode)).doubleItem b]⟩ = (u, weak')) :
    (array ⟨.device, t, weak, [], [z]⟩).combine wideMode op (real b) =
      .ok (array ⟨.device, u, weak', [],
        [op.item u (t.cast u (t.cast t z)) (u.weakItem wideMode b)]⟩) := by
  have hleft : (array ⟨.device, t, weak, [], [z]⟩).deviceOperand? wideMode =
      some (.ok ⟨.device, t, weak, [], [t.cast t z]⟩) := by
    simp only [deviceOperand?, NumericArray.onDevice, NumericArray.cast, hnarrow]
    rfl
  have hright : (real b).deviceOperand? wideMode = some (.ok ⟨.device, .real (plainType wideMode), true,
      [], [(ItemType.real (plainType wideMode)).doubleItem b]⟩) := rfl
  have hcombine : (array ⟨.device, t, weak, [], [z]⟩).combine wideMode op (real b) =
      (array ⟨.device, t, weak, [], [z]⟩).combineOnDevice wideMode op (real b) := rfl
  rw [hcombine, combineOnDevice_eq hleft hright, NumericArray.meetOnDevice, htype]
  rfl

/-- A number on the device and a plain number meet in the configured type. -/
theorem combine_number (hq : q.Wide) (hx : q.type.Holds x) (op : Operation) (y : Number) :
    (array (q.number x)).combine q.wideMode op (real y) =
      .ok (array (q.number (op.number q.arithmetic x (q.plain y)))) := by
  have hcast : (ItemType.real q.type).cast (.real q.type) (.ofReal x) = .ofReal x := by
    simp only [ItemType.cast, ComplexNumber.ofReal, convert_of_holds hx]
  have htype (z w : ComplexNumber) : (⟨.device, .real q.type, false, [], [z]⟩ : NumericArray).deviceType
      ⟨.device, .real (plainType q.wideMode), true, [], [w]⟩ = (.real q.type, false) := rfl
  refine (combine_device (Precision.narrowed_type hq) op y (htype _ _)).trans ?_
  rw [hcast, hcast]
  rfl

lemma realPart_number (hq : q.Wide) (hx : q.type.Holds x) :
    (array (q.number x)).realPart q.wideMode = .ok x := by
  have htype : (q.number x).type = .real q.type := rfl
  have hpart : realPart.onDevice q.wideMode (.real q.type) (.ofReal x) = x := by
    simp only [realPart.onDevice, Precision.narrowed_type hq, ItemType.cast, ComplexNumber.ofReal]
    rw [convert_of_holds hx, convert_of_holds (holds_float64 hx)]
  change Except.ok (realPart.onDevice q.wideMode (.real q.type) (.ofReal x)) = _
  rw [hpart]

lemma toNumber_number (hx : q.type.Holds x) : (array (q.number x)).toNumber = .ok x := by
  change Except.ok (float64.convert x) = _
  rw [convert_of_holds (holds_float64 hx)]

lemma constantLike_number (x y : Number) :
    (array (q.number x)).constantLike q.wideMode (real y) =
      .ok (array (q.number (q.type.convert y))) := by
  obtain ⟨t, wideMode⟩ := q
  cases t <;> rfl

/-- The filter on a number on the device, if small steps are refused. -/
theorem filterStep_number (hq : q.Wide) (hx : q.type.Holds x) (forward : Bool)
    (least greatest : Number) :
    filterStep q.wideMode (array (q.number x)) forward false (real least) (real greatest) =
      if x.abs.lt (q.plain least) then .error (.minimalStep (real x.abs) (real least))
      else if (q.plain greatest).lt x then
        .ok ⟨array (q.number (q.type.convert greatest)), .greatest⟩
      else if x.lt (q.plain greatest).neg then
        .ok ⟨array (q.number (q.type.convert greatest.neg)), .opposite⟩
      else .ok ⟨array (q.number x), .proposal⟩ := by
  have hsub {x : Number} (hx : q.type.Holds x) (y : Number) :
      (array (q.number x)).combine q.wideMode .sub (real y) =
        .ok (array (q.number (q.type.rounding.sub x (q.plain y)))) := combine_number hq hx .sub y
  have hadd (y : Number) : (array (q.number x)).combine q.wideMode .add (real y) =
      .ok (array (q.number (q.type.rounding.add x (q.plain y)))) := combine_number hq hx .add y
  have hpart {x : Number} (hx : q.type.Holds x) (y : Number) :
      (array (q.number (q.type.rounding.sub x (q.plain y)))).realPart q.wideMode =
        .ok (q.type.rounding.sub x (q.plain y)) :=
    realPart_number hq (holds_sub hx (q.holds_plain y))
  have hpart' (y : Number) :
      (array (q.number (q.type.rounding.add x (q.plain y)))).realPart q.wideMode =
        .ok (q.type.rounding.add x (q.plain y)) :=
    realPart_number hq (holds_add hx (q.holds_plain y))
  have hmagnitude : (array (q.number x)).magnitude = .ok (array (q.number x.abs)) := rfl
  have habs := holds_abs hx
  have hsmall : (stepField q.wideMode).tooSmall (array (q.number x)) (real least) =
      .ok (.minimalStep (real x.abs) (real least)) := by
    simp only [stepField, realPart_number hq hx]
    rfl
  have hbelow : (stepField q.wideMode).isBelow (array (q.number x)) (real least) =
      .ok (x.abs.lt (q.plain least)) := by
    rw [← (sign_sub habs (q.holds_plain least)).1]
    simp only [StepField.isBelow, stepField, hmagnitude, hsub habs, hpart habs, bind, Except.bind,
      pure, Except.pure]
  have hclamp : (stepField q.wideMode).clamp (array (q.number x)) ⟨array (q.number x), .proposal⟩
      (real greatest) =
      if (q.plain greatest).lt x then
        .ok ⟨array (q.number (q.type.convert greatest)), .greatest⟩
      else if x.lt (q.plain greatest).neg then
        .ok ⟨array (q.number (q.type.convert greatest.neg)), .opposite⟩
      else .ok ⟨array (q.number x), .proposal⟩ := by
    rw [← (sign_sub hx (q.holds_plain greatest)).2,
      ← (sign_sub hx (holds_neg (q.holds_plain greatest))).1, ← add_eq_sub_neg]
    have hneg : (real greatest).neg = .ok (real greatest.neg) := rfl
    simp only [StepField.clamp, stepField, hsub hx, hadd, hpart hx, hpart', bind, Except.bind, pure,
      Except.pure, constantLike_number, hneg]
  unfold filterStep StepField.filterStep
  rw [hbelow, hsmall]
  simp only [bind, Except.bind, hclamp, Bool.false_eq_true, if_false]
  split_ifs <;> rfl

/-! ### The step update -/

lemma grid_number (x : Number) : (array (q.number x)).grid q = .ok ⟨[], [q.type.convert x]⟩ := by
  obtain ⟨t, wideMode⟩ := q
  cases t <;> rfl

lemma grid_real (x : Number) : (real x).grid q = .ok ⟨[], [q.type.convert x]⟩ := by
  obtain ⟨t, wideMode⟩ := q
  cases t <;> rfl

lemma proposeStep_error {error h : Number} {order : Value} {e : Failure}
    (horder : order.stepExponent q.wideMode = .error e) :
    proposeStep q ((ScaleFactors.standard double).map real) (array (q.number error)) (real h) order =
      .error e := by
  unfold proposeStep
  rw [grid_number, grid_real, horder]
  rfl

theorem proposeStep_number {error h exponent : Number} {order : Value}
    (horder : order.stepExponent q.wideMode = .ok (real exponent)) :
    proposeStep q ((ScaleFactors.standard double).map real) (array (q.number error)) (real h) order =
      .ok (q.number (AdaptiveStep.proposeStep q.arithmetic q.standardFactors (q.plain exponent)
        (q.type.convert error) (q.type.convert h))) := by
  unfold proposeStep
  rw [grid_number, grid_real, horder]
  rfl

section Order

variable {order : Value} {wideMode : Bool} {r : Number}

lemma combine_one (hreal : order.realNumber? = some r) :
    order.combine wideMode .add (real (finite 1)) =
      order.toNumber.map fun x => real (double.add x (finite 1)) := by
  have hplain {p : PlainNumber} (hp : p.isComplex = false) :
      p.combine .add (.real (finite 1)) =
        p.toNumber.map fun x => real (double.add x (finite 1)) := by
    cases p
    case complex => simp [PlainNumber.isComplex] at hp
    all_goals
      simp only [PlainNumber.combine, PlainNumber.asRational?, PlainNumber.isComplex,
        PlainNumber.toNumber, Operation.number, Except.map]
      rfl
  cases order with
  | real z => exact hplain (p := .real z) rfl
  | integer n => exact hplain (p := .integer n) rfl
  | rational q => exact hplain (p := .rational q) rfl
  | boolean b =>
    refine (hplain (p := .integer (if b then 1 else 0)) rfl).trans ?_
    rw [PlainNumber.toNumber, integerToNumber_boolean]
    rfl
  | _ => simp [realNumber?] at hreal

lemma toNumber_nonneg {x : Number} (hreal : order.realNumber? = some r) (hr : r.isNaN = false)
    (hr0 : r.lt (finite 0) = false) (hx : order.toNumber = .ok x) :
    x.isNaN = false ∧ x.lt (finite 0) = false := by
  have hconvert : (float64.convert r).isNaN = false ∧ (float64.convert r).lt (finite 0) = false :=
    ⟨by rwa [isNaN_convert], convert_lt_of_holds (holds_zero float64 false) hr0⟩
  cases order <;> simp only [realNumber?, Option.some.injEq, reduceCtorEq] at hreal <;> subst hreal
  case real => exact Except.ok.inj hx ▸ ⟨hr, hr0⟩
  case integer n => exact integerToNumber_eq hx ▸ hconvert
  case boolean b => exact Except.ok.inj hx ▸ ⟨hr, hr0⟩
  case rational q => exact rationalToNumber_eq hx ▸ hconvert

/-- A plain real order that is not negative has an exponent from zero to one. -/
theorem stepExponent_real {x : Number} (hreal : order.realNumber? = some r) (hr : r.isNaN = false)
    (hr0 : r.lt (finite 0) = false) (hx : order.toNumber = .ok x) :
    ∃ y, order.stepExponent wideMode = .ok (real (finite y)) ∧ 0 ≤ y ∧ y ≤ 1 := by
  obtain ⟨hnumber, hsign⟩ := toNumber_nonneg hreal hr hr0 hx
  have hsum : (double.add x (finite 1)).isNaN = false ∧
      (double.add x (finite 1)).lt (finite 1) = false := by
    rcases x with _ | (_ | _) | _ | a
    case nan => simp [isNaN] at hnumber
    case infinity.true => simp [lt] at hsign
    case finite =>
      have ha : 0 ≤ a := by simpa [lt] using hsign
      have hmono := round_mono (t := float64) (p := 1) (q := a + 1) (by linarith)
      rw [round_eq_self (holds_one float64)] at hmono
      exact ⟨isNaN_round (a + 1), hmono⟩
    all_goals exact ⟨rfl, by simp [double, Rounding.add, lt]⟩
  obtain ⟨y, hy, hy0, hy1⟩ := reciprocal_fraction (t := float64) hsum.1 hsum.2
  refine ⟨y, ?_, hy0, hy1⟩
  have hnonzero {z : Number} (hz : z.lt (finite 1) = false) : z.isZero = false := by
    cases z
    case finite a =>
      have ha : 1 ≤ a := by simpa [lt] using hz
      simp [isZero, (one_pos.trans_le ha).ne']
    all_goals simp_all [isZero, lt]
  have hzero := hnonzero hsum.2
  have hone : double.ofRat 1 = finite 1 := round_one
  have hquotient : double.div (finite 1) (double.add x (finite 1)) = finite y := hy
  have htoNumber : (real (double.add x (finite 1))).toNumber = .ok (double.add x (finite 1)) := rfl
  unfold stepExponent
  rw [combine_one hreal, hx]
  simp only [bind, Except.bind, Except.map, reciprocal, plainReciprocal, htoNumber, hzero,
    Bool.false_eq_true, if_false, hone, hquotient]
  rfl

/-- A plain real order that is too large for a double has no exponent. -/
lemma stepExponent_error (wideMode : Bool) {e : Failure} (hreal : order.realNumber? = some r)
    (hx : order.toNumber = .error e) :
    order.stepExponent wideMode = .error e ∧ ∀ x y, e ≠ .minimalStep x y := by
  constructor
  · unfold stepExponent
    rw [combine_one hreal, hx]
    rfl
  · intro x y hminimal
    subst hminimal
    cases order <;> simp only [realNumber?, Option.some.injEq, reduceCtorEq] at hreal
    case integer n =>
      simp only [toNumber, elementToNumber, integerToNumber] at hx
      split at hx <;> simp at hx
    case rational q =>
      simp only [toNumber, elementToNumber, rationalToNumber] at hx
      split at hx <;> simp at hx
    all_goals simp [toNumber, elementToNumber] at hx

end Order

end Value

end AdaptiveStep
