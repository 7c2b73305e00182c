import AdaptiveStep.Proofs.DeviceNumbers
import AdaptiveStep.Proofs.RealMagnitudes

/-!
# The tests of the filter

The filter asks three things of a step: whether its magnitude is below the minimal step, and whether it
is beyond the maximal one on either side. A step that passes is given back as it is, and every other
result is a constant in the field of the step. What the tests find of an element without an imaginary
part is decided by its real part and by how the bounds are rounded where they meet it: not at all for
plain numbers, to the item type on the host, and through the default float type on the device.
-/

namespace AdaptiveStep

open Extended FloatType

namespace StepField

variable {ε ν : Type} {F : StepField ε ν} {h : ε} {least greatest : ν} {forward acceptSmall : Bool}
  {r : FilteredStep ε}

/-- No test finds the step beyond a bound. -/
structure Passes (F : StepField ε ν) (h : ε) (least greatest : ν) : Prop where
  below : F.isBelow h least = .ok false
  above : (F.subBound h greatest >>= F.isPositive) = .ok false
  opposite : (F.addBound h greatest >>= F.isNegative) = .ok false

/-- The numbers that the filter makes constants of. -/
def IsConstant (F : StepField ε ν) (least greatest b : ν) : Prop :=
  b = least ∨ b = greatest ∨ F.negBound least = .ok b ∨ F.negBound greatest = .ok b

/-- The filter gives back a step that passes, whatever the direction. -/
theorem Passes.filterStep (hpasses : F.Passes h least greatest) (forward acceptSmall : Bool) :
    F.filterStep h forward acceptSmall least greatest = .ok ⟨h, .proposal⟩ := by
  obtain ⟨x, hx, habove⟩ := Except.bind_eq_ok.mp hpasses.above
  obtain ⟨y, hy, hopposite⟩ := Except.bind_eq_ok.mp hpasses.opposite
  simp only [StepField.filterStep, clamp, hpasses.below, hx, habove, hy, hopposite, bind, Except.bind,
    pure, Except.pure, Bool.false_eq_true, if_false]

/-- The filter cuts a step that is large enough and beyond the maximal step. -/
lemma filterStep_above {greatestStep : ε} (hbelow : F.isBelow h least = .ok false)
    (habove : (F.subBound h greatest >>= F.isPositive) = .ok true)
    (hconstant : F.constantLike h greatest = .ok greatestStep) (forward acceptSmall : Bool) :
    F.filterStep h forward acceptSmall least greatest = .ok ⟨greatestStep, .greatest⟩ := by
  obtain ⟨x, hx, habove⟩ := Except.bind_eq_ok.mp habove
  simp only [StepField.filterStep, clamp, hbelow, hx, habove, hconstant, bind, Except.bind, pure,
    Except.pure, Bool.false_eq_true, if_false, if_true]

/-- The filter raises a small step, if it accepts it, to a minimal step that is not too large. -/
lemma filterStep_below {leastStep : ε} (hbelow : F.isBelow h least = .ok true)
    (hconstant : F.constantLike h least = .ok leastStep)
    (habove : (F.subBound leastStep greatest >>= F.isPositive) = .ok false)
    (hopposite : (F.addBound leastStep greatest >>= F.isNegative) = .ok false) :
    F.filterStep h true true least greatest = .ok ⟨leastStep, .least⟩ := by
  obtain ⟨x, hx, habove⟩ := Except.bind_eq_ok.mp habove
  obtain ⟨y, hy, hopposite⟩ := Except.bind_eq_ok.mp hopposite
  simp only [StepField.filterStep, minimal, clamp, hbelow, hconstant, hx, habove, hy, hopposite, bind,
    Except.bind, pure, Except.pure, Bool.false_eq_true, if_false, if_true]

lemma clamp_cases {filtered : FilteredStep ε} (hr : F.clamp h filtered greatest = .ok r) :
    (r = filtered ∧ (F.subBound filtered.step greatest >>= F.isPositive) = .ok false ∧
        (F.addBound filtered.step greatest >>= F.isNegative) = .ok false) ∨
      (r.source ≠ .proposal ∧ ∃ b, F.IsConstant least greatest b ∧ F.constantLike h b = .ok r.step) := by
  obtain ⟨x, hx, hr⟩ := Except.bind_eq_ok.mp hr
  obtain ⟨above, habove, hr⟩ := Except.bind_eq_ok.mp hr
  cases above with
  | true =>
    obtain ⟨step, hstep, hr⟩ := Except.bind_eq_ok.mp hr
    obtain rfl := Except.ok.inj hr
    exact .inr ⟨nofun, greatest, .inr (.inl rfl), hstep⟩
  | false =>
    obtain ⟨y, hy, hr⟩ := Except.bind_eq_ok.mp hr
    obtain ⟨opposite, hopposite, hr⟩ := Except.bind_eq_ok.mp hr
    cases opposite with
    | true =>
      obtain ⟨b, hb, hr⟩ := Except.bind_eq_ok.mp hr
      obtain ⟨step, hstep, hr⟩ := Except.bind_eq_ok.mp hr
      obtain rfl := Except.ok.inj hr
      exact .inr ⟨nofun, b, .inr (.inr (.inr hb)), hstep⟩
    | false =>
      obtain rfl := Except.ok.inj hr
      exact .inl ⟨rfl, Except.bind_eq_ok.mpr ⟨x, hx, habove⟩, Except.bind_eq_ok.mpr ⟨y, hy, hopposite⟩⟩

lemma minimal_cases (hr : F.minimal h forward least = .ok r) :
    r.source ≠ .proposal ∧ ∃ b, F.IsConstant least greatest b ∧ F.constantLike h b = .ok r.step := by
  cases forward with
  | true =>
    obtain ⟨step, hstep, hr⟩ := Except.bind_eq_ok.mp hr
    obtain rfl := Except.ok.inj hr
    exact ⟨nofun, least, .inl rfl, hstep⟩
  | false =>
    obtain ⟨b, hb, hr⟩ := Except.bind_eq_ok.mp hr
    obtain ⟨step, hstep, hr⟩ := Except.bind_eq_ok.mp hr
    obtain rfl := Except.ok.inj hr
    exact ⟨nofun, b, .inr (.inr (.inl hb)), hstep⟩

/-- The filter gives a step that passes or a constant made of a bound. -/
theorem filterStep_cases (hr : F.filterStep h forward acceptSmall least greatest = .ok r) :
    (r = ⟨h, .proposal⟩ ∧ F.Passes h least greatest) ∨
      (r.source ≠ .proposal ∧ ∃ b, F.IsConstant least greatest b ∧ F.constantLike h b = .ok r.step) := by
  obtain ⟨below, hbelow, hr⟩ := Except.bind_eq_ok.mp hr
  cases below with
  | false =>
    rcases clamp_cases hr with ⟨hproposal, habove, hopposite⟩ | hconstant
    · exact .inl ⟨hproposal, hbelow, habove, hopposite⟩
    · exact .inr hconstant
  | true =>
    cases acceptSmall with
    | false =>
      obtain ⟨e, -, hr⟩ := Except.bind_eq_ok.mp hr
      exact absurd hr Except.throw_ne_ok
    | true =>
      obtain ⟨filtered, hminimal, hr⟩ := Except.bind_eq_ok.mp hr
      rcases clamp_cases hr with ⟨hfiltered, -⟩ | hconstant
      · rw [hfiltered]
        exact .inr (minimal_cases hminimal)
      · exact .inr hconstant

/-- A step that the filter gives back has passed. -/
lemma passes_of_filterStep
    (hr : F.filterStep h forward acceptSmall least greatest = .ok ⟨h, .proposal⟩) :
    F.Passes h least greatest := by
  rcases filterStep_cases hr with ⟨-, hpasses⟩ | ⟨hsource, -⟩
  · exact hpasses
  · exact absurd rfl hsource

end StepField

/-! ### Items without an imaginary part -/

lemma FloatType.holds_of_isZero {t : FloatType} {x : Number} (hx : x.isZero = true) : t.Holds x := by
  cases x
  case finite q =>
    obtain rfl : q = 0 := by simpa [isZero] using hx
    exact holds_zero t false
  all_goals trivial

namespace ItemType

variable {t : ItemType} {z : ComplexNumber}

/-- The types of floats and of complex numbers. -/
def IsInexact : ItemType → Prop
  | integer _ => False
  | _ => True

lemma isInexact_or_integer (t : ItemType) : t.IsInexact ∨ ∃ wide, t = integer wide := by
  cases t with
  | integer wide => exact .inr ⟨wide, rfl⟩
  | _ => exact .inl trivial

/-- An item of the type without an imaginary part. -/
structure HoldsReal (t : ItemType) (z : ComplexNumber) : Prop where
  re : t.part.Holds z.re
  im : z.im.isZero = true

lemma doubleItem_re (ht : t.IsInexact) (b : Number) : (t.doubleItem b).re = t.part.convert b := by
  cases t
  case integer => exact ht.elim
  all_goals rfl

lemma weakItem_re (ht : t.IsInexact) (wideMode : Bool) (b : Number) :
    (t.weakItem wideMode b).re = Precision.plain ⟨t.part, wideMode⟩ b := by
  cases t
  case integer => exact ht.elim
  all_goals rfl

/-- Where complex numbers are not narrowed, their parts are not. -/
lemma narrowed_part {wideMode : Bool} (ht : t.IsInexact) (hnarrow : t.narrowed wideMode = t) :
    (real t.part).narrowed wideMode = real t.part := by
  rcases t with _ | (_ | _ | _ | _) | (_ | _) <;> cases wideMode
  case integer.false => exact ht.elim
  case integer.true => exact ht.elim
  case real.float64.false => cases hnarrow
  case complex.true.false => cases hnarrow
  all_goals rfl

lemma holdsReal_doubleItem (ht : t.IsInexact) (b : Number) : t.HoldsReal (t.doubleItem b) := by
  refine ⟨by rw [doubleItem_re ht]; exact holds_convert b, ?_⟩
  cases t
  case integer => exact ht.elim
  case real => simp [doubleItem, cast, ComplexNumber.ofReal, isZero]
  case complex wide =>
    have him : ((complex wide).doubleItem b).im = .finite 0 := convert_of_holds (holds_zero _ false)
    simp [him, isZero]

lemma holdsReal_abs {t : FloatType} {x : Number} (hx : t.Holds x) :
    (real t).HoldsReal (.ofReal x.abs) :=
  ⟨holds_abs hx, by simp [ComplexNumber.ofReal, isZero]⟩

lemma cast_re (ht : t.IsInexact) (hz : t.HoldsReal z) : (t.cast t z).re = z.re := by
  cases t
  case integer => exact ht.elim
  all_goals exact convert_of_holds hz.re

lemma holdsReal_cast (ht : t.IsInexact) (hz : t.HoldsReal z) : t.HoldsReal (t.cast t z) := by
  refine ⟨by rw [cast_re ht hz]; exact hz.re, ?_⟩
  cases t
  case integer => exact ht.elim
  case real => simp [cast, ComplexNumber.ofReal, isZero]
  case complex wide =>
    have him : ((complex wide).cast (complex wide) z).im = z.im :=
      convert_of_holds (holds_of_isZero hz.im)
    rw [him, hz.im]

/-- What an operation makes of an item and another one that it meets in the type. -/
lemma item_re (ht : t.IsInexact) (hz : t.HoldsReal z) (w : ComplexNumber) :
    (Operation.sub.item t (t.cast t z) w).re = t.part.rounding.sub z.re w.re ∧
      (Operation.add.item t (t.cast t z) w).re = t.part.rounding.add z.re w.re := by
  rw [← ItemType.cast_re ht hz]
  cases t
  case integer => exact ht.elim
  all_goals exact ⟨rfl, rfl⟩

lemma magnitude_item (ht : t.IsInexact) (hz : t.HoldsReal z) :
    t.magnitudeType = real t.part ∧ t.magnitude z = .ofReal z.re.abs := by
  cases t
  case integer => exact ht.elim
  case real => exact ⟨rfl, rfl⟩
  case complex =>
    refine ⟨rfl, ?_⟩
    simp only [magnitude, ComplexNumber.magnitude_of_isZero hz.re hz.im]

end ItemType

namespace Value

variable {wideMode : Bool} {v : Value} {t : FloatType} {c : Number → Number} {x : Number}

/-- The real part of the value is on a side of zero only where the number is. -/
def Shows (wideMode : Bool) (v : Value) (x : Number) : Prop :=
  ∃ y, v.realPart wideMode = .ok y ∧ (x.lt (finite 0) = false → y.lt (finite 0) = false) ∧
    ((finite 0).lt x = false → (finite 0).lt y = false)

lemma shows_self (h : v.realPart wideMode = .ok x) : v.Shows wideMode x := ⟨x, h, id, id⟩

/-- Conversions do not carry a number over zero. -/
lemma Shows.of_convert (h : v.Shows wideMode (t.convert x)) : v.Shows wideMode x := by
  obtain ⟨y, hy, hbelow, habove⟩ := h
  exact ⟨y, hy, fun hx => hbelow (convert_lt_of_holds (holds_zero t false) hx),
    fun hx => habove (lt_convert_of_holds (holds_zero t false) hx)⟩

lemma shows_onDevice {t : ItemType} {z : ComplexNumber} (ht : t.IsInexact)
    (h : v.realPart wideMode = .ok (realPart.onDevice wideMode t z)) : v.Shows wideMode z.re := by
  have hpart : realPart.onDevice wideMode t z =
      float64.convert ((t.narrowed wideMode).part.convert z.re) := by
    rcases t with _ | (_ | _ | _ | _) | _ <;> cases wideMode
    case integer.false => exact ht.elim
    case integer.true => exact ht.elim
    all_goals rfl
  rw [hpart] at h
  exact (shows_self h).of_convert.of_convert

/-- The filter tests the element against a bound `b` as it tests the number `x` of the type `t` against
`c b`. -/
structure TestsAs (wideMode : Bool) (t : FloatType) (c : Number → Number) (v : Value) (x : Number) :
    Prop where
  magnitude : ∃ m, v.magnitude = .ok m ∧ ∀ b, ∃ d, m.combine wideMode .sub (real b) = .ok d ∧
    d.Shows wideMode (t.rounding.sub x.abs (c b))
  sub : ∀ b, ∃ d, v.combine wideMode .sub (real b) = .ok d ∧ d.Shows wideMode (t.rounding.sub x (c b))
  add : ∀ b, ∃ d, v.combine wideMode .add (real b) = .ok d ∧ d.Shows wideMode (t.rounding.add x (c b))

/-- An element passes if its number lies between the bounds as they are rounded. -/
theorem TestsAs.passes (h : v.TestsAs wideMode t c x) {least greatest : Number}
    (hsign : (c greatest).lt (finite 0) = false) (hleast : x.abs.lt (c least) = false)
    (hgreatest : (c greatest).lt x.abs = false) :
    (stepField wideMode).Passes v (real least) (real greatest) := by
  obtain ⟨m, hm, hdifference⟩ := h.magnitude
  obtain ⟨a, ha, y, hy, hbelow, -⟩ := hdifference least
  obtain ⟨b, hb, z, hz, -, habove⟩ := h.sub greatest
  obtain ⟨d, hd, w, hw, hopposite, -⟩ := h.add greatest
  rw [lt_abs_eq_of_not_lt hsign, Bool.or_eq_false_iff] at hgreatest
  rw [add_eq_sub_neg] at hopposite
  constructor
  · simp only [StepField.isBelow, stepField, hm, ha, hy, hbelow (not_sub_lt_zero hleast), bind,
      Except.bind, pure, Except.pure]
  · simp only [stepField, hb, hz, habove (not_zero_lt_sub hgreatest.1), bind, Except.bind, pure,
      Except.pure]
  · simp only [stepField, hd, hw, hopposite (not_sub_lt_zero hgreatest.2), bind, Except.bind, pure,
      Except.pure]

/-! ### Plain numbers -/

lemma testsAs_real (x : Number) : (real x).TestsAs wideMode float64 id x where
  magnitude := ⟨real x.abs, rfl, fun _ => ⟨_, rfl, shows_self rfl⟩⟩
  sub := fun _ => ⟨_, rfl, shows_self rfl⟩
  add := fun _ => ⟨_, rfl, shows_self rfl⟩

lemma testsAs_dual (d : Dual) : (dual d).TestsAs wideMode float64 id d.value where
  magnitude := ⟨dual d.magnitude, rfl, fun _ => ⟨_, rfl, shows_self rfl⟩⟩
  sub := fun _ => ⟨_, rfl, shows_self rfl⟩
  add := fun _ => ⟨_, rfl, shows_self rfl⟩

lemma magnitude_complex {z : ComplexNumber} (hre : float64.Holds z.re) (him : z.im.isZero = true) :
    (complex z).magnitude = .ok (real z.re.abs) := by
  have hfinite : z.re.abs.isInfinite = z.re.isInfinite := isInfinite_abs z.re
  simp only [Value.magnitude, elementMagnitude, ComplexNumber.magnitude_of_isZero hre him]
  split
  · next negative hsize =>
    rw [hsize] at hfinite
    have hsign := isNegative_abs z.re
    rw [hsize] at hsign ⊢
    simp_all [isInfinite, isNegative]
  · rfl

lemma testsAs_complex {z : ComplexNumber} (hre : float64.Holds z.re) (him : z.im.isZero = true) :
    (complex z).TestsAs wideMode float64 id z.re where
  magnitude := ⟨real z.re.abs, magnitude_complex hre him, fun _ => ⟨_, rfl, shows_self rfl⟩⟩
  sub := fun b => ⟨_, rfl, shows_onDevice (t := .complex true)
    (z := Operation.complex double .sub z (.ofReal b)) trivial rfl⟩
  add := fun b => ⟨_, rfl, shows_onDevice (t := .complex true)
    (z := Operation.complex double .add z (.ofReal b)) trivial rfl⟩

/-! ### Items of arrays -/

section Items

variable {t : ItemType} {z : ComplexNumber}

lemma itemOf_real (ht : t.IsInexact) (b : Number) : t.itemOf (real b) = .ok (t.doubleItem b) := by
  rcases t with _ | (_ | _ | _ | _) | _
  case integer => exact ht.elim
  all_goals rfl

lemma itemsOf_of_deviceItems {items : List ℕ × List ComplexNumber} (h : deviceItems t v = .ok items) :
    itemsOf t v.spread = .ok items := by
  unfold deviceItems at h
  split at h
  · cases h
  · split at h
    · next hok => exact hok.trans h
    · cases h
    · cases h

/-- A constant in the field of an array is an array without axes. -/
lemma exists_item_of_constantLike {a : NumericArray} {b : Number}
    (hv : constantLike wideMode (array a) (real b) = .ok v) :
    ∃ z, a.type.itemOf (real b) = .ok z ∧ v = array ⟨a.residence, a.type, false, [], [z]⟩ := by
  have hitems : ∃ shape items, itemsOf a.type ⟨[], [real b], true⟩ = .ok (shape, items) ∧
      v = array ⟨a.residence, a.type, false, shape, items⟩ := by
    simp only [constantLike] at hv
    split_ifs at hv
    all_goals
      obtain ⟨⟨shape, items⟩, hitems, hv⟩ := Except.bind_eq_ok.mp hv
      refine ⟨shape, items, ?_, (Except.ok.inj hv).symm⟩
    · exact itemsOf_of_deviceItems hitems
    · exact hitems
  obtain ⟨shape, items, hspread, rfl⟩ := hitems
  obtain ⟨items', hmap, hpair⟩ := Except.bind_eq_ok.mp hspread
  obtain ⟨rfl, rfl⟩ := Prod.mk.inj (Except.ok.inj hpair)
  rw [List.mapM_cons] at hmap
  obtain ⟨z, hz, hmap⟩ := Except.bind_eq_ok.mp hmap
  obtain rfl := Except.ok.inj hmap
  exact ⟨z, hz, rfl⟩

/-- An item on the host and a double meet in the type `u`. -/
lemma combineOnHost_meet {u : ItemType} (itemOp : Value → Value → Except Failure Value)
    (hv : HostOperand.ofValue v = .ok (.numbers (.single t z))) (op : Operation) (b : Number)
    (hu : u.IsInexact) (htype : (PlainNumber.real b).meet t = u) :
    combineOnHost itemOp op v (real b) = .ok (scalar u (op.item u (t.cast u z) (u.doubleItem b))) := by
  have hitem := itemOf_real hu b
  have hsingle : (NumericArray.single t z).type = t := rfl
  have hmeet : HostOperand.meet op.name v (real b) =
      .ok (.numeric ((NumericArray.single t z).cast u) (.single u (u.doubleItem b))) := by
    unfold HostOperand.meet
    rw [hv]
    simp only [HostOperand.ofValue, plain?, bind, Except.bind, pure, Except.pure, hsingle, htype, hitem]
  simp only [combineOnHost, hmeet, bind, Except.bind]
  rfl

lemma combineOnHost_single (itemOp : Value → Value → Except Failure Value) (ht : t.IsInexact)
    (hv : HostOperand.ofValue v = .ok (.numbers (.single t z))) (op : Operation) (b : Number) :
    combineOnHost itemOp op v (real b) = .ok (scalar t (op.item t (t.cast t z) (t.doubleItem b))) := by
  refine combineOnHost_meet itemOp hv op b ht ?_
  cases t
  case integer => exact ht.elim
  all_goals rfl

lemma combine_scalar (ht : t.IsInexact) (op : Operation) (b : Number) :
    (scalar t z).combine wideMode op (real b) =
      .ok (scalar t (op.item t (t.cast t z) (t.doubleItem b))) := by
  rw [← combineOnHost_single (v := scalar t z) (combineWith (combinePlain op) wideMode op) ht rfl op b]
  cases op <;> rfl

lemma shows_scalar (ht : t.IsInexact) : (scalar t z).Shows wideMode z.re := by
  rcases t with _ | t | wide
  case integer => exact ht.elim
  case real =>
    have hpart : (scalar (.real t) z).realPart wideMode = .ok (float64.convert z.re) := rfl
    exact (shows_self hpart).of_convert
  case complex => exact shows_onDevice (t := .complex wide) trivial rfl

/-- Items on the host meet bounds that are rounded to their type. -/
lemma testsAs_host (ht : t.IsInexact) (hz : t.HoldsReal z)
    (hmagnitude : v.magnitude = .ok (scalar t.magnitudeType (t.magnitude z)))
    (hcombine : ∀ op b, v.combine wideMode op (real b) =
      .ok (scalar t (op.item t (t.cast t z) (t.doubleItem b)))) :
    v.TestsAs wideMode t.part t.part.convert z.re := by
  refine ⟨⟨_, hmagnitude, fun b => ?_⟩, fun b => ⟨_, hcombine .sub b, ?_⟩,
    fun b => ⟨_, hcombine .add b, ?_⟩⟩
  · rw [(ItemType.magnitude_item ht hz).1, (ItemType.magnitude_item ht hz).2]
    have hpart : (ItemType.real t.part).IsInexact := trivial
    have hitem : (Operation.sub.item (.real t.part) (ItemType.cast (.real t.part) (.real t.part)
        (.ofReal z.re.abs)) (ItemType.doubleItem (.real t.part) b)).re =
        t.part.rounding.sub z.re.abs (t.part.convert b) :=
      (ItemType.item_re hpart (ItemType.holdsReal_abs hz.re) _).1
    rw [← hitem]
    exact ⟨_, combine_scalar hpart .sub b, shows_scalar hpart⟩
  · rw [← ItemType.doubleItem_re ht, ← (ItemType.item_re ht hz _).1]
    exact shows_scalar ht
  · rw [← ItemType.doubleItem_re ht, ← (ItemType.item_re ht hz _).2]
    exact shows_scalar ht

lemma testsAs_scalar (ht : t.IsInexact) (hz : t.HoldsReal z) :
    (scalar t z).TestsAs wideMode t.part t.part.convert z.re :=
  testsAs_host ht hz rfl (combine_scalar ht)

lemma testsAs_single (ht : t.IsInexact) (hz : t.HoldsReal z) :
    (array (.single t z)).TestsAs wideMode t.part t.part.convert z.re :=
  testsAs_host ht hz rfl fun op b => by
    rw [← combineOnHost_single (v := array (.single t z))
      (combineWith (combinePlain op) wideMode op) ht rfl op b]
    rfl

/-- An array without axes on the device. -/
def onDevice (t : ItemType) (z : ComplexNumber) : Value := .array ⟨.device, t, false, [], [z]⟩

lemma combine_onDevice (ht : t.IsInexact) (hnarrow : t.narrowed wideMode = t) (op : Operation)
    (b : Number) :
    (onDevice t z).combine wideMode op (real b) =
      .ok (onDevice t (op.item t (t.cast t (t.cast t z)) (t.weakItem wideMode b))) := by
  refine combine_device hnarrow op b ?_
  rcases t with _ | t | _
  case integer => exact ht.elim
  all_goals rfl

/-- Items on the device meet bounds that are rounded to the default float type first. -/
lemma testsAs_onDevice (ht : t.IsInexact) (hz : t.HoldsReal z) (hnarrow : t.narrowed wideMode = t) :
    (onDevice t z).TestsAs wideMode t.part (Precision.plain ⟨t.part, wideMode⟩) z.re := by
  have hshows (w : ComplexNumber) : (onDevice t w).Shows wideMode w.re := shows_onDevice ht rfl
  have hcast := ItemType.holdsReal_cast ht hz
  refine ⟨⟨onDevice t.magnitudeType (t.magnitude z), rfl, fun b => ?_⟩,
    fun b => ⟨_, combine_onDevice ht hnarrow .sub b, ?_⟩,
    fun b => ⟨_, combine_onDevice ht hnarrow .add b, ?_⟩⟩
  · rw [(ItemType.magnitude_item ht hz).1, (ItemType.magnitude_item ht hz).2]
    have hpart : (ItemType.real t.part).IsInexact := trivial
    have hpartNarrow := ItemType.narrowed_part ht hnarrow
    have habs := ItemType.holdsReal_abs hz.re
    have hitem : (Operation.sub.item (.real t.part) (ItemType.cast (.real t.part) (.real t.part)
        (ItemType.cast (.real t.part) (.real t.part) (.ofReal z.re.abs)))
        (ItemType.weakItem wideMode (.real t.part) b)).re =
        t.part.rounding.sub z.re.abs (Precision.plain ⟨t.part, wideMode⟩ b) := by
      rw [(ItemType.item_re hpart (ItemType.holdsReal_cast hpart habs) _).1, ItemType.cast_re hpart habs]
      rfl
    rw [← hitem]
    exact ⟨_, combine_onDevice hpart hpartNarrow .sub b, shows_onDevice hpart rfl⟩
  · rw [← ItemType.weakItem_re ht, ← ItemType.cast_re ht hz, ← (ItemType.item_re ht hcast _).1]
    exact hshows _
  · rw [← ItemType.weakItem_re ht, ← ItemType.cast_re ht hz, ← (ItemType.item_re ht hcast _).2]
    exact hshows _

end Items

end Value

end AdaptiveStep
