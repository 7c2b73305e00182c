import AdaptiveStep.Proofs.StepReadings

/-!
# The magnitude of filtered steps

What the filter gives has a magnitude between the bounds, rounded to the precision of the element. A step
that is given back was read as a number that is not beyond the maximal step and has a magnitude that is not
below the minimal one, and a constant has the magnitude of the bound that it was made of.

The ways out are narrow. The magnitude of a complex step is compared with the minimal step only: it is not
the real part, which is compared with the maximal step, unless the imaginary part is zero. On a narrow
device a complex step may be so near to the maximal step that single precision takes the distance for zero.
Half precision and integers meet bounds there that were rounded to single precision before, and that may
hide on which side of a bound the step is. And an array of integers takes for a bound the integer that it is
cut to.
-/

namespace AdaptiveStep

open Extended FloatType

/-! ### Items and their magnitudes -/

namespace ItemType

variable {wideMode : Bool} {t : ItemType} {z : ComplexNumber}

/-- A finite item of the type. -/
structure HoldsItem (t : ItemType) (z : ComplexNumber) : Prop where
  re : t.Holds z
  finite : z.re.value?.isSome = true
  im : t.part.HoldsFinite z.im

lemma holds_of_inexact (ht : t.IsInexact) : t.Holds z ↔ t.part.Holds z.re := by
  cases t
  case integer => exact ht.elim
  all_goals rfl

lemma holds_wrap (wide : Bool) (n : ℤ) : holds wide (wrap wide n) = true := by
  have hlower := Int.le_bmod (x := n) (m := Nat.pow 2 (digits wide + 1)) (by cases wide <;> decide)
  have hupper := Int.bmod_lt (x := n) (m := Nat.pow 2 (digits wide + 1)) (by cases wide <;> decide)
  rw [holds_iff, wrap]
  cases wide <;> simp only [digits, Bool.false_eq_true, if_false, if_true] at hlower hupper ⊢ <;>
    norm_num at hlower hupper ⊢ <;> omega

lemma cast_re_self (hz : t.Holds z) : (t.cast t z).re = z.re := by
  cases t with
  | integer wide =>
    obtain ⟨n, hn, hholds⟩ := hz
    have hinteger : wrap wide (integerOf z.re) = n := by
      rw [hn]
      exact wrap_of_holds hholds
    rw [cast, hinteger, hn]
    rfl
  | _ => exact convert_of_holds hz

lemma part_magnitudeType (t : ItemType) : t.magnitudeType.part = t.part := by
  cases t <;> rfl

lemma narrowed_magnitudeType (hnarrow : t.narrowed wideMode = t) :
    t.magnitudeType.narrowed wideMode = t.magnitudeType := by
  cases t with
  | complex wide => exact narrowed_part (t := .complex wide) trivial hnarrow
  | _ => exact hnarrow

lemma holds_magnitude (hz : t.Holds z) : t.magnitudeType.Holds (t.magnitude z) := by
  cases t with
  | integer wide => exact ⟨_, rfl, holds_wrap wide _⟩
  | real s => exact holds_abs hz
  | complex wide => exact ComplexNumber.holds_magnitude _ z

lemma convert_double_magnitude (hz : t.Holds z) :
    float64.convert (t.magnitude z).re = t.part.convert (t.magnitude z).re := by
  have hholds := holds_magnitude hz
  cases t with
  | integer wide => rfl
  | real s => exact (convert_of_holds (holds_float64 hholds)).trans (convert_of_holds hholds).symm
  | complex wide => exact (convert_of_holds (holds_float64 hholds)).trans (convert_of_holds hholds).symm

lemma isNaN_magnitude (hz : t.HoldsItem z) : (t.magnitude z).re.isNaN = false := by
  cases t with
  | integer wide => rfl
  | real s =>
    have hfinite := hz.finite
    change z.re.abs.isNaN = false
    rw [isNaN_abs]
    cases hre : z.re <;> simp_all [value?, isNaN]
  | complex wide => exact ComplexNumber.isNaN_magnitude hz.finite hz.im.2

lemma magnitude_integer {n : ℤ} {wide : Bool} (hn : z.re = .finite (n : ℚ)) :
    (integer wide).magnitude z = .ofInt (wrap wide n.natAbs) := by
  rw [magnitude, hn]
  rfl

/-- The magnitude of an item without an imaginary part is the absolute value, except that the magnitude
of the least integer is the least integer. -/
lemma magnitude_cases (hz : t.Holds z) (him : ∀ wide, t = .complex wide → z.im.isZero = true) :
    (finite (-1)).lt (t.magnitude z).re = false ∨ (t.magnitude z).re = z.re.abs := by
  cases t with
  | real s => exact .inr rfl
  | complex wide => exact .inr (ComplexNumber.magnitude_of_isZero hz (him wide rfl))
  | integer wide =>
    obtain ⟨n, hn, hholds⟩ := hz
    rw [magnitude_integer hn, hn]
    by_cases habs : holds wide n.natAbs = true
    · right
      rw [wrap_of_holds habs]
      exact finite_natAbs n
    · left
      have hwrapped : wrap wide n.natAbs ≤ -1 := by
        rw [holds_iff] at hholds habs
        rw [wrap, Int.bmod_def, Nat.pow_eq]
        cases wide <;> simp only [digits, Bool.false_eq_true, if_false, if_true] at hholds habs ⊢ <;>
          simp only [Nat.cast_pow, Nat.cast_ofNat] <;> split_ifs <;> omega
      simp only [ComplexNumber.ofInt, lt, decide_eq_false_iff_not, not_lt]
      exact_mod_cast hwrapped

end ItemType

namespace Value

variable {wideMode : Bool} {h v w : Value} {least greatest b x m : Number}

/-- The real part of the magnitude. -/
def realMagnitude (wideMode : Bool) (v : Value) : Except Failure Number :=
  v.magnitude >>= realPart wideMode

/-- The type of the items, double precision for plain numbers. -/
def itemType : Value → ItemType
  | complex _ => .complex true
  | scalar t _ => t
  | array a => a.type
  | _ => .real .float64

/-- The imaginary part of a complex element. -/
def imaginaryPart : Value → Number
  | complex z => z.im
  | scalar (.complex _) z => z.im
  | array ⟨_, .complex _, _, _, [z]⟩ => z.im
  | _ => .finite 0

/-- The number that a dual number derives or that an element has on the real axis. -/
def realComponent : Value → Number
  | dual d => d.value
  | complex z => z.re
  | scalar _ z => z.re
  | array ⟨_, _, _, _, [z]⟩ => z.re
  | _ => .finite 0

/-- A finite complex number, dual number or array without axes. -/
inductive IsElement (wideMode : Bool) : Value → Prop
  | dual {d : Dual} (hvalue : float64.HoldsFinite d.value)
      (hderivative : float64.HoldsFinite d.derivative) : IsElement wideMode (.dual d)
  | complex {z : ComplexNumber} (hre : float64.HoldsFinite z.re) (him : float64.HoldsFinite z.im) :
      IsElement wideMode (.complex z)
  | scalar {wide : Bool} {z : ComplexNumber} (hz : (ItemType.complex wide).HoldsItem z) :
      IsElement wideMode (.scalar (.complex wide) z)
  | hostArray {t : ItemType} {z : ComplexNumber} (hz : t.HoldsItem z) :
      IsElement wideMode (.array (.single t z))
  | deviceArray {t : ItemType} {weak : Bool} {z : ComplexNumber} (hz : t.HoldsItem z)
      (hnarrow : t.narrowed wideMode = t) : IsElement wideMode (.array ⟨.device, t, weak, [], [z]⟩)

/-- An array on the device that meets bounds rounded to single precision. -/
def RoundsBounds (wideMode : Bool) (h : Value) : Prop :=
  ∃ a, h = .array a ∧ a.residence = .device ∧ MeetsRounded wideMode a.type

/-- The device does not narrow the parts of the element, if it is complex, on the way to the real part. -/
def KeepsParts (wideMode : Bool) (h : Value) : Prop :=
  ∀ wide, h.itemType = .complex wide → h.itemType.narrowed wideMode = h.itemType

/-- The filter reads the element as its real component and its magnitude `w` as `m`, where numbers go
through `f`. Without an imaginary part they have the same absolute value, unless that is too large for an
integer and wraps around. -/
structure Measured (wideMode : Bool) (f : Number → Number) (h w : Value) (m : Number) : Prop where
  element : h.KeepsParts wideMode → h.Reads wideMode f h.itemType.part h.realComponent
  magnitude : w.Reads wideMode f h.itemType.part m
  realPart : w.realPart wideMode = .ok (h.itemType.part.convert m)
  isNaN : m.isNaN = false
  abs : h.imaginaryPart.isZero = true →
    (finite (-1)).lt m = false ∨ m = h.realComponent.abs

section Items

variable {t : ItemType} {z : ComplexNumber} {weak : Bool}

lemma realPart_magnitude (hz : t.Holds z) :
    (scalar t.magnitudeType (t.magnitude z)).realPart wideMode =
      .ok (t.part.convert (t.magnitude z).re) := by
  rw [← ItemType.convert_double_magnitude hz]
  cases t <;> rfl

lemma realPart_magnitude_device (hnarrow : t.narrowed wideMode = t) (hz : t.Holds z) :
    (array ⟨.device, t.magnitudeType, weak, [], [t.magnitude z]⟩).realPart wideMode =
      .ok (t.part.convert (t.magnitude z).re) := by
  refine congrArg Except.ok ?_
  rw [realPart.onDevice, ItemType.narrowed_magnitudeType hnarrow,
    ItemType.cast_re_self (ItemType.holds_magnitude hz), ItemType.convert_double_magnitude hz]

lemma measured_host (hz : t.HoldsItem z) (htype : h.itemType = t) (hcomponent : h.realComponent = z.re)
    (him : ∀ wide, t = .complex wide → h.imaginaryPart = z.im)
    (helement : h.KeepsParts wideMode → h.Reads wideMode id t.part z.re) :
    h.Measured wideMode id (scalar t.magnitudeType (t.magnitude z)) (t.magnitude z).re where
  element := by rwa [htype, hcomponent]
  magnitude := by
    rw [htype, ← ItemType.part_magnitudeType]
    exact reads_scalar (by cases t <;> nofun)
  realPart := by
    rw [htype]
    exact realPart_magnitude hz.re
  isNaN := ItemType.isNaN_magnitude hz
  abs := fun hzero => by
    rw [hcomponent]
    exact ItemType.magnitude_cases hz.re fun wide ht => him wide ht ▸ hzero

/-- Parts of complex numbers are of single or double precision, which are not rounded too coarsely. -/
lemma meetsRounded_magnitudeType (t : ItemType) :
    MeetsRounded wideMode t.magnitudeType ↔ MeetsRounded wideMode t := by
  rcases t with wide | s | (_ | _) <;> simp [MeetsRounded, ItemType.magnitudeType, ItemType.part]

lemma goesThrough_magnitudeType {f : Number → Number} (hf : GoesThrough wideMode t f) :
    GoesThrough wideMode t.magnitudeType f := by
  cases hf with
  | rounded h => exact .rounded ((meetsRounded_magnitudeType t).mpr h)
  | unrounded h => exact .unrounded fun h' => h ((meetsRounded_magnitudeType t).mp h')

lemma measured_device {f : Number → Number} (hz : t.HoldsItem z) (hnarrow : t.narrowed wideMode = t)
    (hf : GoesThrough wideMode t f) :
    Measured wideMode f (array ⟨.device, t, weak, [], [z]⟩)
      (array ⟨.device, t.magnitudeType, weak, [], [t.magnitude z]⟩) (t.magnitude z).re where
  element := fun _ => reads_device hnarrow hf (ItemType.cast_re_self hz.re)
  magnitude := by
    change Reads wideMode f t.part _ _
    rw [← ItemType.part_magnitudeType]
    exact reads_device (ItemType.narrowed_magnitudeType hnarrow) (goesThrough_magnitudeType hf)
      (ItemType.cast_re_self (ItemType.holds_magnitude hz.re))
  realPart := realPart_magnitude_device hnarrow hz.re
  isNaN := ItemType.isNaN_magnitude hz
  abs := fun hzero => ItemType.magnitude_cases hz.re fun wide ht => by
    subst ht
    exact hzero

end Items

lemma isNaN_of_finite {t : FloatType} (hx : t.HoldsFinite x) : x.isNaN = false := by
  have hfinite := hx.2
  cases x <;> simp_all [value?, isNaN]

/-- A complex number with finite parts has no magnitude if it is too large for a double. -/
lemma magnitude_complex_eq {z : ComplexNumber} (hre : float64.HoldsFinite z.re)
    (him : float64.HoldsFinite z.im) (hw : (complex z).magnitude = .ok w) :
    w = real (z.magnitude .float64) := by
  have hfinite {x : Number} (hx : float64.HoldsFinite x) : x.isInfinite = false := by
    have hvalue := hx.2
    cases x <;> simp_all [value?, isInfinite]
  simp only [Value.magnitude, elementMagnitude, hfinite hre, hfinite him] at hw
  split at hw
  · cases hw
  · exact (Except.ok.inj hw).symm

/-- Every element that has a magnitude is read right, except that some meet bounds which were rounded to
single precision, as they were then themselves. -/
theorem IsElement.measured (hstep : h.IsElement wideMode) (hw : h.magnitude = .ok w) :
    ∃ f m, h.Measured wideMode f w m ∧ (f = id ∨ h.RoundsBounds wideMode ∧ f = float32.convert) := by
  cases hstep with
  | @dual d hvalue hderivative =>
    obtain rfl := Except.ok.inj hw
    have hmagnitude : float64.Holds d.value.abs := holds_abs hvalue.1
    exact ⟨id, d.value.abs, ⟨fun _ => reads_dual hvalue.1, reads_dual hmagnitude,
      congrArg Except.ok (convert_of_holds hmagnitude).symm, by rw [isNaN_abs, isNaN_of_finite hvalue],
      fun _ => .inr rfl⟩, .inl rfl⟩
  | @complex z hre him =>
    obtain rfl := magnitude_complex_eq hre him hw
    have hmagnitude := ComplexNumber.holds_magnitude .float64 z
    exact ⟨id, _, ⟨fun hkept => reads_complex hre.1 (hkept true rfl), reads_real hmagnitude,
      congrArg Except.ok (convert_of_holds hmagnitude).symm, ComplexNumber.isNaN_magnitude hre.2 him.2,
      fun hzero => .inr (ComplexNumber.magnitude_of_isZero hre.1 hzero)⟩, .inl rfl⟩
  | @scalar wide z hz =>
    obtain rfl := Except.ok.inj hw
    exact ⟨id, _, measured_host hz rfl rfl (fun _ _ => rfl) fun hkept => reads_scalar hkept, .inl rfl⟩
  | @hostArray t z hz =>
    obtain rfl := Except.ok.inj hw
    refine ⟨id, _, measured_host hz rfl rfl ?_ fun hkept => reads_single hkept, .inl rfl⟩
    rintro wide rfl
    rfl
  | @deviceArray t weak z hz hnarrow =>
    obtain rfl := Except.ok.inj hw
    by_cases hrounded : MeetsRounded wideMode t
    · exact ⟨_, _, measured_device hz hnarrow (.rounded hrounded), .inr ⟨⟨_, rfl, rfl, hrounded⟩, rfl⟩⟩
    · exact ⟨id, _, measured_device hz hnarrow (.unrounded hrounded), .inl rfl⟩

/-- The elements whose parts are narrowed are complex numbers in double precision on the host. -/
lemma IsElement.showsRounded (hstep : h.IsElement wideMode) (hnarrowed : ¬h.KeepsParts wideMode) :
    h.itemType.part = float64 ∧ h.ShowsRounded wideMode h.realComponent := by
  simp only [KeepsParts, not_forall] at hnarrowed
  obtain ⟨wide, htype, hne⟩ := hnarrowed
  rw [htype] at hne
  obtain ⟨rfl, rfl⟩ : wide = true ∧ wideMode = false := by
    cases wide <;> cases wideMode <;> simp [ItemType.narrowed] at hne ⊢
  refine ⟨by rw [htype]; rfl, ?_⟩
  cases hstep with
  | dual hvalue hderivative => cases htype
  | complex hre him => exact showsRounded_complex hre.1
  | scalar hz =>
    cases htype
    exact showsRounded_scalar hz.re
  | hostArray hz =>
    cases htype
    exact showsRounded_single hz.re
  | deviceArray hz hnarrow =>
    cases htype
    cases hnarrow

/-! ### Constants -/

/-- A number that is whole if it is finite, and not the magnitude that the least integer of the width should
have. -/
def IsWhole (wide : Bool) (b : Number) : Prop :=
  ∀ q, b = .finite q → ∃ n : ℤ, q = n ∧ n.natAbs ≠ 2 ^ ItemType.digits wide

lemma IsWhole.neg {wide : Bool} (hb : IsWhole wide b) : IsWhole wide b.neg := by
  intro q hq
  rcases b with _ | _ | _ | a
  case nan => cases hq
  case infinity => cases hq
  case negativeZero =>
    obtain rfl : 0 = q := by simpa [Extended.neg] using hq
    exact ⟨0, by simp, by cases wide <;> decide⟩
  case finite =>
    obtain ⟨n, rfl, hn⟩ := hb a rfl
    simp only [Extended.neg] at hq
    split_ifs at hq
    obtain rfl : -(n : ℚ) = q := by simpa using hq
    exact ⟨-n, by simp, by simpa using hn⟩

lemma integerItem_eq {wide : Bool} {z : ComplexNumber} (hb : IsWhole wide b)
    (hz : ItemType.integerItem wide (real b) = .ok z) :
    ∃ n : ℤ, z = .ofInt n ∧ ItemType.holds wide n = true ∧ n.natAbs ≠ 2 ^ ItemType.digits wide ∧
      b.abs = (finite (n : ℚ)).abs := by
  have hinteger {n : ℤ} (hn : ItemType.itemOfInteger wide n = .ok z) :
      z = .ofInt n ∧ ItemType.holds wide n = true := by
    unfold ItemType.itemOfInteger at hn
    split_ifs at hn with hholds
    exact ⟨(Except.ok.inj hn).symm, hholds⟩
  rcases b with _ | _ | _ | q
  case nan => cases hz
  case infinity => cases hz
  case negativeZero =>
    obtain ⟨rfl, hholds⟩ := hinteger hz
    exact ⟨0, rfl, hholds, by cases wide <;> decide, by simp [Extended.abs]⟩
  case finite =>
    obtain ⟨n, rfl, hn⟩ := hb q rfl
    have htruncated : (n : ℚ).num.tdiv (n : ℚ).den = n := by simp
    obtain ⟨rfl, hholds⟩ := hinteger hz
    rw [htruncated] at hholds ⊢
    exact ⟨n, rfl, hholds, hn, rfl⟩

section Arrays

variable {t : ItemType} {z : ComplexNumber}

/-- The item of a constant has the constant's magnitude. An integer has it only if the constant is
whole. -/
lemma constant_item (hwhole : ∀ wide, t = .integer wide → IsWhole wide b)
    (hz : t.itemOf (real b) = .ok z) :
    t.Holds z ∧ t.part.convert (t.magnitude z).re = (t.part.convert b).abs := by
  rcases t.isInexact_or_integer with ht | ⟨wide, rfl⟩
  · obtain rfl := Except.ok.inj ((itemOf_real ht b).symm.trans hz)
    have hitem := ItemType.holdsReal_doubleItem ht b
    rw [(ItemType.magnitude_item ht hitem).2, ItemType.doubleItem_re ht]
    exact ⟨(ItemType.holds_of_inexact ht).mpr hitem.re, convert_of_holds (holds_abs (holds_convert b))⟩
  · obtain ⟨n, rfl, hholds, hn, hb⟩ := integerItem_eq (hwhole wide rfl) hz
    have habs : ItemType.holds wide n.natAbs = true := by
      rw [ItemType.holds_iff] at hholds ⊢
      cases wide <;>
        simp only [ItemType.digits, Bool.false_eq_true, if_false, if_true] at hholds hn ⊢ <;> omega
    refine ⟨⟨n, rfl, hholds⟩, ?_⟩
    rw [ItemType.magnitude_integer (n := n) rfl, ItemType.wrap_of_holds habs, ← convert_abs, hb,
      ← finite_natAbs]
    rfl

lemma realMagnitude_scalar (hz : t.Holds z) :
    (scalar t z).realMagnitude wideMode = .ok (t.part.convert (t.magnitude z).re) :=
  realPart_magnitude hz

lemma realMagnitude_complex (hre : float64.Holds z.re) (him : z.im.isZero = true) :
    (complex z).realMagnitude wideMode = .ok z.re.abs := by
  rw [realMagnitude, magnitude_complex hre him]
  rfl

end Arrays

/-- Constants have the magnitude of the number that they are made of, rounded to the precision of the
element. In an array of integers that has to be a whole number. -/
theorem realMagnitude_constant (hstep : h.IsElement wideMode) (hb : float64.Holds b)
    (hwhole : ∀ wide, h.itemType = .integer wide → IsWhole wide b)
    (hv : constantLike wideMode h (real b) = .ok v) :
    v.realMagnitude wideMode = .ok (h.itemType.part.convert b).abs := by
  cases hstep with
  | dual hvalue hderivative =>
    obtain rfl := Except.ok.inj hv
    change Except.ok _ = Except.ok (float64.convert b).abs
    rw [convert_of_holds hb]
    exact congrArg Except.ok (add_of_isZero (isZero_mul_zero hvalue) hb).2
  | complex hre him =>
    obtain rfl := Except.ok.inj hv
    have him' : (ComplexNumber.ofReal b).im.isZero = true := by simp [ComplexNumber.ofReal, isZero]
    obtain ⟨hholds, habs, hcim⟩ := complex_constant hre him (w := .ofReal b) hb him'
    change _ = Except.ok (float64.convert b).abs
    rw [convert_of_holds hb]
    exact (realMagnitude_complex hholds hcim).trans (congrArg Except.ok habs)
  | @scalar wide z hz =>
    obtain rfl := Except.ok.inj ((constantLike_scalar wide z b).symm.trans hv)
    obtain ⟨hholds, habs⟩ := holdsReal_constantItem ⟨hz.re, hz.finite⟩ hz.im b
    have hmagnitude := (ItemType.magnitude_item (t := .complex wide) trivial hholds).2
    rw [realMagnitude_scalar (t := .complex wide) hholds.re, hmagnitude]
    exact congrArg Except.ok ((convert_of_holds (holds_abs hholds.re)).trans habs)
  | @hostArray t z hz =>
    obtain ⟨z, hitem, rfl⟩ := exists_item_of_constantLike hv
    obtain ⟨hholds, hmagnitude⟩ := constant_item hwhole hitem
    exact (realPart_magnitude hholds).trans (congrArg Except.ok hmagnitude)
  | @deviceArray t weak z hz hnarrow =>
    obtain ⟨z, hitem, rfl⟩ := exists_item_of_constantLike hv
    obtain ⟨hholds, hmagnitude⟩ := constant_item hwhole hitem
    exact (realPart_magnitude_device hnarrow hholds).trans (congrArg Except.ok hmagnitude)

/-! ### Bounds -/

/-- The real part of the magnitude lies between bounds that are rounded to the type. -/
def Bounded (wideMode : Bool) (t : FloatType) (least greatest : Number) (v : Value) : Prop :=
  ∃ m, v.realMagnitude wideMode = .ok m ∧ double.le (t.convert least) m = true ∧
    double.le m (t.convert greatest) = true

/-- Single precision hides that one number is below another: in the type `t` it is, but not if both go
through single precision first. -/
def HidesOrder (t : FloatType) (x y : Number) : Prop :=
  (t.convert x).lt (t.convert y) = true ∧
    (t.convert (float32.convert x)).lt (t.convert (float32.convert y)) = false

/-- Single precision, through which the element goes to the bounds, hides that it is below the minimal
step. -/
def HidesBelow (wideMode : Bool) (least : Number) (h : Value) : Prop :=
  h.RoundsBounds wideMode ∧ HidesOrder h.itemType.part h.realComponent.abs least

/-- The ways for a step to leave the bounds. A step is given back although only its real part is compared
with the maximal step, or because the narrow device takes its distance from that step for zero, or because
single precision hides on which side of a bound it is. A bound that is no whole number is cut to an
integer. -/
inductive Escapes (wideMode : Bool) (least greatest : Number) (h : Value) : StepSource → Prop
  | offAxis (him : h.imaginaryPart.isZero = false) : Escapes wideMode least greatest h .proposal
  | narrowed (hparts : ¬h.KeepsParts wideMode)
      (hvanishes : Vanishes (double.sub h.realComponent.abs greatest)) :
      Escapes wideMode least greatest h .proposal
  | hiddenBelow (hhidden : h.HidesBelow wideMode least) : Escapes wideMode least greatest h .proposal
  | hiddenAbove (hrounded : h.RoundsBounds wideMode)
      (hhidden : HidesOrder h.itemType.part greatest h.realComponent.abs) :
      Escapes wideMode least greatest h .proposal
  | cut {wide : Bool} {source : StepSource} (hsource : source ≠ .proposal)
      (htype : h.itemType = .integer wide) (hwhole : ¬(IsWhole wide least ∧ IsWhole wide greatest)) :
      Escapes wideMode least greatest h source

variable {forward acceptSmall : Bool} {r : FilteredStep Value}

lemma isWhole_limit {wide : Bool} (hleast : IsWhole wide least) (hgreatest : IsWhole wide greatest)
    (hb : StepLimits.IsLimit least greatest b) : IsWhole wide b := by
  rcases hb with rfl | rfl | rfl | rfl
  · exact hleast
  · exact hgreatest
  · exact hleast.neg
  · exact hgreatest.neg

lemma RoundsBounds.isZero_imaginaryPart (h : v.RoundsBounds wideMode) : v.imaginaryPart.isZero = true := by
  obtain ⟨a, rfl, -, -, hcoarse⟩ := h
  obtain ⟨residence, type, weak, shape, items⟩ := a
  rcases hcoarse with rfl | ⟨wide, rfl⟩ <;> simp [imaginaryPart, isZero]

lemma holds_minus_one (t : FloatType) : t.Holds (finite (-1)) := by
  have hconvert : t.convert (finite (-1)) = finite (-1) := by cases t <;> decide +kernel
  exact hconvert ▸ holds_convert _

/-- What is minus one at most stays below every minimal step, in whatever type. -/
lemma convert_lt_least {t : FloatType} (hm : m.isNaN = false) (hnegative : (finite (-1)).lt m = false)
    (hleast : least.isNaN = false) (hnonneg : least.lt (finite 0) = false) :
    (t.convert m).lt (t.convert least) = true := by
  have hbelow : (t.convert m).lt (finite 0) = true :=
    lt_of_not_lt_of_lt (by rwa [isNaN_convert]) (lt_convert_of_holds (holds_minus_one t) hnegative)
      (by simp [lt])
  exact lt_of_lt_of_not_lt hbelow (by rwa [isNaN_convert]) (convert_lt_of_holds (holds_zero t false) hnonneg)

/-- The magnitude of an element that meets rounded bounds is not below the minimal step if it is not after
the rounding, and if that hides nothing. -/
lemma Measured.not_below_of_rounded (hmeasured : h.Measured wideMode float32.convert w m)
    (hleast : least.isNaN = false) (hnonneg : least.lt (finite 0) = false)
    (hrounded : h.RoundsBounds wideMode) (hhidden : ¬h.HidesBelow wideMode least)
    (hread : (h.itemType.part.convert (float32.convert m)).lt
      (h.itemType.part.convert (float32.convert least)) = false) :
    (h.itemType.part.convert m).lt (h.itemType.part.convert least) = false := by
  rcases hmeasured.abs hrounded.isZero_imaginaryPart with hnegative | rfl
  · have hlt : (h.itemType.part.convert (float32.convert m)).lt
        (h.itemType.part.convert (float32.convert least)) = true :=
      convert_lt_least (by rw [isNaN_convert, hmeasured.isNaN])
        (lt_convert_of_holds (holds_minus_one float32) hnegative) (by rwa [isNaN_convert])
        (convert_lt_of_holds (holds_zero float32 false) hnonneg)
    rw [hread] at hlt
    cases hlt
  · by_contra hbelow
    exact hhidden ⟨hrounded, by simpa using hbelow, hread⟩

/-- A step that is given back has a magnitude of at least the minimal step, unless single precision hides
that it has not. -/
lemma exists_measured_of_passes (hstep : h.IsElement wideMode) (hlimits : StepLimits least greatest)
    (hhidden : ¬h.HidesBelow wideMode least)
    (hpasses : (stepField wideMode).Passes h (real least) (real greatest)) :
    ∃ f w m, h.Measured wideMode f w m ∧ (f = id ∨ h.RoundsBounds wideMode ∧ f = float32.convert) ∧
      h.realMagnitude wideMode = .ok (h.itemType.part.convert m) ∧
      double.le (h.itemType.part.convert least) (h.itemType.part.convert m) = true := by
  obtain ⟨w, hw, -⟩ := Except.bind_eq_ok.mp hpasses.below
  obtain ⟨f, m, hmeasured, hf⟩ := hstep.measured hw
  obtain ⟨-, hleastNumber, hnonneg⟩ := double_le_iff.mp hlimits.nonneg
  have hmagnitude : h.magnitude = .ok w := hw
  have hread := hmeasured.magnitude.not_below hw hlimits.holds_least hpasses
  have hbelow : (h.itemType.part.convert m).lt (h.itemType.part.convert least) = false := by
    rcases hf with rfl | ⟨hrounded, rfl⟩
    · exact hread
    · exact hmeasured.not_below_of_rounded hleastNumber hnonneg hrounded hhidden hread
  refine ⟨f, w, m, hmeasured, hf, ?_, double_le_iff.mpr ⟨?_, ?_, hbelow⟩⟩
  · rw [realMagnitude, hmagnitude]
    exact hmeasured.realPart
  · rwa [isNaN_convert]
  · rw [isNaN_convert, hmeasured.isNaN]

/-- A step without an imaginary part that is given back has a magnitude of at most the maximal step, if
it does not escape. -/
lemma not_above_of_passes {f : Number → Number} (hstep : h.IsElement wideMode)
    (hlimits : StepLimits least greatest)
    (hescape : ¬h.Escapes wideMode least greatest .proposal) (hmeasured : h.Measured wideMode f w m)
    (hf : f = id ∨ h.RoundsBounds wideMode ∧ f = float32.convert)
    (hpasses : (stepField wideMode).Passes h (real least) (real greatest)) :
    (h.itemType.part.convert greatest).lt (h.itemType.part.convert h.realComponent.abs) = false := by
  by_cases hparts : h.KeepsParts wideMode
  · have hread := (hmeasured.element hparts).not_above hlimits.holds_greatest
      hlimits.greatest_not_lt_zero hpasses
    rw [← convert_abs] at hread
    rcases hf with rfl | ⟨hrounded, rfl⟩
    · exact hread
    · by_contra habove
      refine hescape (.hiddenAbove hrounded ⟨by simpa using habove, ?_⟩)
      rwa [convert_abs]
  · obtain ⟨htype, hshows⟩ := hstep.showsRounded hparts
    rw [htype, convert_of_holds hlimits.holds_greatest, convert_of_holds (holds_abs hshows.holds)]
    by_contra habove
    exact hescape (.narrowed hparts
      (hshows.vanishes hlimits.holds_greatest hpasses (by simpa using habove)))

/-- A step that the filter gives has a magnitude between the bounds, rounded to the precision of the
element, if it does not escape them. One that is given back is not below the minimal step, unless single
precision hides that it is. -/
theorem filterStep_bounded (hstep : h.IsElement wideMode) (hlimits : StepLimits least greatest)
    (hr : h.filterStep wideMode forward acceptSmall (real least) (real greatest) = .ok r) :
    (¬h.Escapes wideMode least greatest r.source →
        r.step.Bounded wideMode h.itemType.part least greatest) ∧
      (r.source = .proposal → ¬h.HidesBelow wideMode least → ∃ m, r.step.realMagnitude wideMode = .ok m ∧
        double.le (h.itemType.part.convert least) m = true) := by
  obtain ⟨-, hleastNumber, hnonneg⟩ := double_le_iff.mp hlimits.nonneg
  obtain ⟨-, hgreatestNumber, -⟩ := double_le_iff.mp hlimits.ordered
  rcases StepField.filterStep_cases hr with ⟨rfl, hpasses⟩ | ⟨hsource, bound, hbound, hconstant⟩
  · refine ⟨fun hescape => ?_, fun _ hhidden => ?_⟩
    · obtain ⟨f, w, m, hmeasured, hf, hm, hlower⟩ :=
        exists_measured_of_passes hstep hlimits (fun h => hescape (.hiddenBelow h)) hpasses
      have hzero : h.imaginaryPart.isZero = true := by
        by_contra him
        exact hescape (.offAxis (by simpa using him))
      have habove := not_above_of_passes hstep hlimits hescape hmeasured hf hpasses
      obtain ⟨-, hnumber, hbelow⟩ := double_le_iff.mp hlower
      refine ⟨_, hm, hlower, double_le_iff.mpr ⟨hnumber, by rwa [isNaN_convert], ?_⟩⟩
      rcases hmeasured.abs hzero with hnegative | rfl
      · -- the magnitude of the least integer is negative, and below every minimal step
        rw [convert_lt_least hmeasured.isNaN hnegative hleastNumber hnonneg] at hbelow
        cases hbelow
      · exact habove
    · obtain ⟨-, -, m, -, -, hm, hlower⟩ := exists_measured_of_passes hstep hlimits hhidden hpasses
      exact ⟨_, hm, hlower⟩
  · refine ⟨fun hescape => ?_, fun hproposal => absurd hproposal hsource⟩
    obtain ⟨b, rfl, hb⟩ := exists_limit hbound
    have hwhole (wide : Bool) (htype : h.itemType = .integer wide) : IsWhole wide b := by
      by_contra hcut
      exact hescape (.cut hsource htype fun hbounds => hcut (isWhole_limit hbounds.1 hbounds.2 hb))
    have hmagnitude := realMagnitude_constant hstep (hlimits.holds_limit hb) hwhole hconstant
    obtain ⟨hlower, hupper⟩ := hlimits.between_converted hb h.itemType.part
    have hnumber : (h.itemType.part.convert b).abs.isNaN = false := by
      rw [isNaN_abs, isNaN_convert]
      rcases hb with rfl | rfl | rfl | rfl
      · exact hleastNumber
      · exact hgreatestNumber
      · rwa [isNaN_neg]
      · rwa [isNaN_neg]
    exact ⟨_, hmagnitude, double_le_iff.mpr ⟨by rwa [isNaN_convert], hnumber, hlower⟩,
      double_le_iff.mpr ⟨hnumber, by rwa [isNaN_convert], hupper⟩⟩

lemma holds_small {n : ℤ} (hn : n.natAbs < 2 ^ 53) : float64.HoldsFinite (.finite n) :=
  ⟨holds_integer hn, rfl⟩

/-- A step off the axis with a real part beyond the maximal step. -/
def slantedStep : Value := complex ⟨.finite 30, .finite 4⟩

/-- The step is cut to the maximal step and loses its imaginary part. -/
theorem filterStep_bounded_slantedStep :
    slantedStep.IsElement false ∧ StepLimits (.finite 1) (.finite 10) ∧
      slantedStep.filterStep false true false (real (.finite 1)) (real (.finite 10)) =
        .ok ⟨complex ⟨.finite 10, .finite 0⟩, .greatest⟩ ∧
      ¬slantedStep.Escapes false (.finite 1) (.finite 10) .greatest ∧
      Bounded false .float64 (.finite 1) (.finite 10) (complex ⟨.finite 10, .finite 0⟩) := by
  have hstep : slantedStep.IsElement false :=
    .complex (holds_small (n := 30) (by decide)) (holds_small (n := 4) (by decide))
  have hcut : slantedStep.filterStep false true false (real (.finite 1)) (real (.finite 10)) =
      .ok ⟨complex ⟨.finite 10, .finite 0⟩, .greatest⟩ := by
    have hconstant : Operation.add.complex double (Operation.mul.complex double
        ⟨.finite 30, .finite 4⟩ (.ofReal (.finite 0))) (.ofReal (.finite 10)) =
        ⟨.finite 10, .finite 0⟩ := by decide +kernel
    exact StepField.filterStep_above (ok_of_toOption (by decide +kernel))
      (ok_of_toOption (by decide +kernel)) (congrArg (fun z => Except.ok (complex z)) hconstant) true false
  have hescape : ¬slantedStep.Escapes false (.finite 1) (.finite 10) .greatest := by
    rintro ⟨⟩
    contradiction
  exact ⟨hstep, limits_one_ten, hcut, hescape, (filterStep_bounded hstep limits_one_ten hcut).1 hescape⟩

/-- A complex number passes if it is not smaller than the minimal step and its real part is not beyond the
maximal one, whatever its imaginary part. -/
theorem passes_complex {z : ComplexNumber} (hsize : (z.magnitude .float64).isInfinite = false)
    (hsign : greatest.lt (finite 0) = false) (hleast : (z.magnitude .float64).lt least = false)
    (hgreatest : greatest.lt z.re.abs = false) :
    (stepField wideMode).Passes (complex z) (real least) (real greatest) := by
  have hmagnitude : (complex z).magnitude = .ok (real (z.magnitude .float64)) := by
    simp only [Value.magnitude, elementMagnitude]
    split
    · next hlarge => simp [hlarge, isInfinite] at hsize
    · rfl
  rw [lt_abs_eq_of_not_lt hsign, Bool.or_eq_false_iff] at hgreatest
  have hshows (op : Operation) : (complex (op.complex double z (.ofReal greatest))).Shows wideMode
      (op.complex double z (.ofReal greatest)).re := shows_onDevice (t := .complex true) trivial rfl
  obtain ⟨y, hy, -, habove⟩ := hshows .sub
  obtain ⟨y', hy', hopposite, -⟩ := hshows .add
  have hbelow : (double.sub (z.magnitude .float64) least).lt (finite 0) = false := not_sub_lt_zero hleast
  have hpositive : (finite 0).lt y = false := habove (not_zero_lt_sub hgreatest.1)
  have hnegative : y'.lt (finite 0) = false := by
    refine hopposite ?_
    change (float64.rounding.add z.re greatest).lt (finite 0) = false
    rw [add_eq_sub_neg]
    exact not_sub_lt_zero hgreatest.2
  constructor
  · simp only [StepField.isBelow, stepField, hmagnitude, bind, Except.bind, combine_real, realPart,
      Operation.number, hbelow, pure, Except.pure]
  · change ((complex (Operation.sub.complex double z (.ofReal greatest))).realPart wideMode >>= fun y =>
      .ok ((finite 0).lt y)) = _
    simp only [hy, bind, Except.bind, hpositive]
  · change ((complex (Operation.add.complex double z (.ofReal greatest))).realPart wideMode >>= fun y =>
      .ok (y.lt (finite 0))) = _
    simp only [hy', bind, Except.bind, hnegative]

lemma not_bounded_of_toOption {t : FloatType} (hout : ((v.realMagnitude wideMode).toOption.map fun m =>
    double.le (t.convert least) m && double.le m (t.convert greatest)) = some false) :
    ¬v.Bounded wideMode t least greatest := by
  rintro ⟨m, hm, hlower, hupper⟩
  simp [hm, Except.toOption, hlower, hupper] at hout

/-- A step far from the axis with a real part between the bounds. -/
def upwardStep : Value := complex ⟨.finite 3, .finite 100⟩

/-- The step is given back although its magnitude is ten times the maximal step. -/
theorem upwardStep_not_bounded :
    upwardStep.IsElement false ∧ StepLimits (.finite 1) (.finite 10) ∧
      upwardStep.filterStep false true false (real (.finite 1)) (real (.finite 10)) =
        .ok ⟨upwardStep, .proposal⟩ ∧
      ¬upwardStep.Bounded false .float64 (.finite 1) (.finite 10) := by
  have hpasses : (stepField false).Passes upwardStep (real (.finite 1)) (real (.finite 10)) :=
    passes_complex (by decide +kernel) (by decide +kernel) (by decide +kernel) (by decide +kernel)
  exact ⟨.complex (holds_small (n := 3) (by decide)) (holds_small (n := 100) (by decide)), limits_one_ten,
    hpasses.filterStep true false, not_bounded_of_toOption (by decide +kernel)⟩

lemma passes_of_toOption (hbelow : ((stepField wideMode).isBelow h v).toOption = some false)
    (habove : ((stepField wideMode).subBound h w >>= (stepField wideMode).isPositive).toOption = some false)
    (hopposite : ((stepField wideMode).addBound h w >>= (stepField wideMode).isNegative).toOption =
      some false) : (stepField wideMode).Passes h v w :=
  ⟨ok_of_toOption hbelow, ok_of_toOption habove, ok_of_toOption hopposite⟩

/-- A complex number that is too small for the device to tell it from zero. -/
def tinyStep : Value := complex ⟨.finite (1 / 2 ^ 200), .finite 0⟩

theorem tinyStep_not_bounded :
    tinyStep.filterStep false true false (real (.finite 0)) (real (.finite 0)) =
        .ok ⟨tinyStep, .proposal⟩ ∧
      ¬tinyStep.Bounded false .float64 (.finite 0) (.finite 0) :=
  ⟨(passes_of_toOption (by decide +kernel) (by decide +kernel) (by decide +kernel)).filterStep true false,
    not_bounded_of_toOption (by decide +kernel)⟩

/-- The least integer that single precision does not hold. -/
def oddStep : Value := array ⟨.device, .integer false, false, [], [.ofInt 16777217]⟩

theorem oddStep_not_bounded :
    oddStep.filterStep false true false (real (.finite 1)) (real (.finite 16777216)) =
        .ok ⟨oddStep, .proposal⟩ ∧
      ¬oddStep.Bounded false .float64 (.finite 1) (.finite 16777216) :=
  ⟨(passes_of_toOption (by decide +kernel) (by decide +kernel) (by decide +kernel)).filterStep true false,
    not_bounded_of_toOption (by decide +kernel)⟩

/-- A step of zero in an array of integers. -/
def zeroStep : Value := array (.single (.integer true) (.ofInt 0))

/-- The step is raised to a minimal step of two and a half, which the array cuts to two. -/
theorem zeroStep_not_bounded :
    zeroStep.filterStep false true true (real (.finite (5 / 2))) (real (.finite 10)) =
        .ok ⟨array (.single (.integer true) (.ofInt 2)), .least⟩ ∧
      ¬Bounded false .float64 (.finite (5 / 2)) (.finite 10)
        (array (.single (.integer true) (.ofInt 2))) := by
  have hitem : (ItemType.integer true).itemOf (real (.finite (5 / 2))) = .ok (.ofInt 2) :=
    ok_of_toOption (by decide +kernel)
  have hconstant : constantLike false zeroStep (real (.finite (5 / 2))) =
      .ok (array (.single (.integer true) (.ofInt 2))) := by
    change (([real (.finite (5 / 2))].mapM (ItemType.integer true).itemOf >>= fun items =>
      .ok ([], items)) >>= fun r => .ok (array ⟨.host, .integer true, false, r.1, r.2⟩)) = _
    rw [List.mapM_cons, hitem]
    rfl
  exact ⟨StepField.filterStep_below (ok_of_toOption (by decide +kernel)) hconstant
    (ok_of_toOption (by decide +kernel)) (ok_of_toOption (by decide +kernel)),
    not_bounded_of_toOption (by decide +kernel)⟩

end Value

end AdaptiveStep
