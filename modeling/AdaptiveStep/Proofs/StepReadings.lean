import AdaptiveStep.Proofs.KeptRealParts
import AdaptiveStep.Proofs.RoughGuess
import AdaptiveStep.Proofs.StableSteps

/-!
# What the filter reads of a step

The filter takes an element and its magnitude to be on one side of a bound by the sign of the real part of
a sum or difference. That sign is right for the number that the element is read as, in the type in which
the two meet. A bound is rounded on the way there, and for most elements it does not matter how if it is
rounded to the precision of the element in the end. For some arrays on a narrow device it matters that single
precision comes first, and the sign of a double-precision complex difference is lost there if single
precision takes it for zero.
-/

namespace AdaptiveStep

open Extended FloatType

/-! ### Magnitudes of complex numbers -/

namespace FloatType

variable {t : FloatType}

lemma holds_nearest (q : ℚ) : t.Holds (t.format.nearest q) := by
  by_cases hq : q = 0
  · have hzero : t.format.nearest 0 = .finite 0 := by
      simp [Format.nearest, roundHalfEven, zero]
    rw [hq, hzero]
    exact holds_zero t false
  · have hround : t.rounding.round q = t.format.nearest q := by simp [Rounding.round, hq, rounding]
    rw [← hround]
    exact holds_round q

end FloatType

namespace ComplexNumber

variable {t : FloatType} {z : ComplexNumber}

lemma holds_magnitude (t : FloatType) (z : ComplexNumber) : t.Holds (z.magnitude t) := by
  unfold magnitude Format.sqrt
  dsimp only
  split
  · trivial
  · trivial
  · split
    · split_ifs
      · exact holds_zero t false
      · exact holds_nearest _
      · exact holds_nearest _
    · trivial

lemma isNaN_magnitude (hre : z.re.value?.isSome = true) (him : z.im.value?.isSome = true) :
    (z.magnitude t).isNaN = false := by
  obtain ⟨x, y⟩ := z
  obtain ⟨a, ha⟩ := Option.isSome_iff_exists.mp hre
  obtain ⟨b, hb⟩ := Option.isSome_iff_exists.mp him
  have hsqrt (q : ℚ) : (t.format.sqrt q).isNaN = false := Format.isNaN_sqrt _ q
  unfold magnitude
  dsimp only at ha hb ⊢
  rcases x with _ | _ | _ | x <;> rcases y with _ | _ | _ | y <;> simp [value?] at ha hb <;>
    simp only [value?] <;> split_ifs <;> simp [hsqrt]

end ComplexNumber

namespace Value

variable {wideMode : Bool} {p s t : FloatType} {v w : Value} {x m : Number}

/-! ### Readings -/

/-- The element meets doubles in the type `t`, to which they come through the type `s`, and there it is
the number `x`. -/
structure ReadsAs (wideMode : Bool) (s t : FloatType) (v : Value) (x : Number) : Prop where
  holds : t.Holds x
  combine : ∀ op b, op ≠ .mul → float64.Holds b → ∃ d, v.combine wideMode op (real b) = .ok d ∧
    d.realPart wideMode = .ok (op.number t.arithmetic x (t.convert (s.convert b)))

/-- The element is compared as the number `x` in the type `p`, where it and the doubles that it meets have
gone through `f`. What else doubles go through makes no difference once they are rounded to that type. -/
def Reads (wideMode : Bool) (f : Number → Number) (p : FloatType) (v : Value) (x : Number) : Prop :=
  ∃ s t y, v.ReadsAs wideMode s t y ∧ p.convert y = p.convert (f x) ∧
    ∀ b, float64.Holds b → p.convert (t.convert (s.convert b)) = p.convert (f b)

namespace ReadsAs

lemma sub (h : v.ReadsAs wideMode s t x) {b : Number} (hb : float64.Holds b) :
    ∃ d y, v.combine wideMode .sub (real b) = .ok d ∧ d.realPart wideMode = .ok y ∧
      y.lt (finite 0) = x.lt (t.convert (s.convert b)) ∧
      (finite 0).lt y = (t.convert (s.convert b)).lt x := by
  obtain ⟨d, hd, hpart⟩ := h.combine .sub b nofun hb
  exact ⟨d, _, hd, hpart, sign_sub h.holds (holds_convert _)⟩

lemma add (h : v.ReadsAs wideMode s t x) {b : Number} (hb : float64.Holds b) :
    ∃ d y, v.combine wideMode .add (real b) = .ok d ∧ d.realPart wideMode = .ok y ∧
      y.lt (finite 0) = x.lt (t.convert (s.convert b)).neg := by
  obtain ⟨d, hd, hpart⟩ := h.combine .add b nofun hb
  refine ⟨d, _, hd, hpart, ?_⟩
  rw [← (sign_sub h.holds (holds_neg (holds_convert _))).1, ← add_eq_sub_neg]
  rfl

lemma not_above (h : v.ReadsAs wideMode s t x) {least : Value} {greatest : Number}
    (hgreatest : float64.Holds greatest) (hsign : greatest.lt (finite 0) = false)
    (hpasses : (stepField wideMode).Passes v least (real greatest)) :
    (t.convert (s.convert greatest)).lt x.abs = false := by
  obtain ⟨d, y, hd, hy, -, habove⟩ := h.sub hgreatest
  obtain ⟨d', y', hd', hy', hopposite⟩ := h.add hgreatest
  have hpassed := hpasses.above
  simp only [stepField, hd, hy, bind, Except.bind, pure, Except.pure, Except.ok.injEq] at hpassed
  have hpassed' := hpasses.opposite
  simp only [stepField, hd', hy', bind, Except.bind, pure, Except.pure, Except.ok.injEq] at hpassed'
  have hmeets : (t.convert (s.convert greatest)).lt (finite 0) = false :=
    convert_lt_of_holds (holds_zero t false) (convert_lt_of_holds (holds_zero s false) hsign)
  rw [lt_abs_eq_of_not_lt hmeets, ← habove, ← hopposite, hpassed, hpassed']
  rfl

lemma not_below (h : w.ReadsAs wideMode s t m) (hmagnitude : v.magnitude = .ok w) {least : Number}
    {greatest : Value} (hleast : float64.Holds least)
    (hpasses : (stepField wideMode).Passes v (real least) greatest) :
    m.lt (t.convert (s.convert least)) = false := by
  obtain ⟨d, y, hd, hy, hbelow, -⟩ := h.sub hleast
  have hpassed := hpasses.below
  simp only [StepField.isBelow, stepField, hmagnitude, hd, hy, bind, Except.bind, pure, Except.pure,
    Except.ok.injEq] at hpassed
  rw [← hbelow, hpassed]

end ReadsAs

namespace Reads

variable {f : Number → Number}

/-- An element that passes is not beyond the maximal step on either side. -/
theorem not_above (h : v.Reads wideMode f p x) {least : Value} {greatest : Number}
    (hgreatest : float64.Holds greatest) (hsign : greatest.lt (finite 0) = false)
    (hpasses : (stepField wideMode).Passes v least (real greatest)) :
    (p.convert (f greatest)).lt (p.convert (f x)).abs = false := by
  obtain ⟨s, t, y, hreads, hy, hround⟩ := h
  rw [← hround _ hgreatest, ← hy, ← convert_abs]
  exact convert_not_lt (hreads.not_above hgreatest hsign hpasses)

/-- An element whose magnitude is read as `m` passes only if `m` is not below the minimal step. -/
theorem not_below (h : w.Reads wideMode f p m) (hmagnitude : v.magnitude = .ok w) {least : Number}
    {greatest : Value} (hleast : float64.Holds least)
    (hpasses : (stepField wideMode).Passes v (real least) greatest) :
    (p.convert (f m)).lt (p.convert (f least)) = false := by
  obtain ⟨s, t, y, hreads, hy, hround⟩ := h
  rw [← hround _ hleast, ← hy]
  exact convert_not_lt (hreads.not_below hmagnitude hleast hpasses)

end Reads

/-! ### Plain numbers -/

lemma reads_of_double (hx : float64.Holds x) (hcombine : ∀ op b, op ≠ .mul → float64.Holds b → ∃ d,
    v.combine wideMode op (real b) = .ok d ∧ d.realPart wideMode = .ok (op.number double x b)) :
    v.Reads wideMode id float64 x := by
  refine ⟨float64, float64, x, ⟨hx, fun op b hop hb => ?_⟩, rfl, fun b hb => ?_⟩
  · rw [convert_of_holds hb, convert_of_holds hb]
    exact hcombine op b hop hb
  · rw [convert_of_holds hb, convert_of_holds hb, id]

lemma reads_real (hx : float64.Holds x) : (real x).Reads wideMode id float64 x :=
  reads_of_double hx fun op b _ _ => ⟨real (op.number double x b), rfl, rfl⟩

lemma reads_dual {d : Dual} (hd : float64.Holds d.value) :
    (dual d).Reads wideMode id float64 d.value :=
  reads_of_double hd fun op b _ _ => ⟨dual (op.dual d ⟨b, .finite 0⟩), rfl, by cases op <;> rfl⟩

/-! ### Items -/

section Items

variable {weak : Bool} {t u : ItemType} {z : ComplexNumber} {op : Operation}

lemma item_re_of_ne_mul (hop : op ≠ .mul) (hu : u.IsInexact) (z w : ComplexNumber) :
    (op.item u z w).re = op.number u.part.arithmetic z.re w.re := by
  cases u
  case integer => exact hu.elim
  all_goals cases op
  case real.mul => exact absurd rfl hop
  case complex.mul => exact absurd rfl hop
  all_goals rfl

lemma holds_number {t : FloatType} {y : Number} (hop : op ≠ .mul) (hx : t.Holds x) (hy : t.Holds y) :
    t.Holds (op.number t.arithmetic x y) := by
  cases op
  case add => exact holds_add hx hy
  case sub => exact holds_sub hx hy
  case mul => exact absurd rfl hop

lemma cast_re_of_inexact (hu : u.IsInexact) : (t.cast u z).re = u.part.convert z.re := by
  cases u
  case integer => exact hu.elim
  all_goals cases t <;> rfl

/-- A device that does not narrow the type keeps the real part of an item. -/
lemma realPart_device (hu : u.IsInexact) (hnarrow : u.narrowed wideMode = u) (hz : u.part.Holds z.re) :
    realPart.onDevice wideMode u z = z.re := by
  rw [realPart.onDevice, hnarrow, cast_re_of_inexact hu, convert_of_holds hz,
    convert_of_holds (holds_float64 hz)]

lemma realPart_scalar (hu : u.IsInexact) (hkept : ∀ wide, u = .complex wide → u.narrowed wideMode = u)
    (hz : u.part.Holds z.re) : (scalar u z).realPart wideMode = .ok z.re := by
  cases u with
  | integer => exact hu.elim
  | real s => exact congrArg Except.ok (convert_of_holds (holds_float64 hz))
  | complex wide => exact congrArg Except.ok (realPart_device trivial (hkept wide rfl) hz)

/-- An item on the host meets doubles in its type, and in double precision if it is an integer. -/
lemma exists_hostType (t : ItemType) : ∃ u : ItemType, u.IsInexact ∧ u.part = t.part ∧
    (∀ b, (PlainNumber.real b).meet t = u) ∧ ∀ wide, u = .complex wide → t = .complex wide := by
  cases t with
  | integer => exact ⟨.real .float64, trivial, rfl, fun _ => rfl, nofun⟩
  | real s => exact ⟨.real s, trivial, rfl, fun _ => rfl, nofun⟩
  | complex wide => exact ⟨.complex wide, trivial, rfl, fun _ => rfl, fun _ => id⟩

lemma reads_host (itemOp : Operation → Value → Value → Except Failure Value)
    (hv : HostOperand.ofValue v = .ok (.numbers (.single t z)))
    (hcombine : ∀ op b, v.combine wideMode op (real b) = combineOnHost (itemOp op) op v (real b))
    (hkept : ∀ wide, t = .complex wide → t.narrowed wideMode = t) :
    v.Reads wideMode id t.part z.re := by
  obtain ⟨u, hu, hpart, hmeet, htype⟩ := exists_hostType t
  have hkept (wide : Bool) (h : u = .complex wide) : u.narrowed wideMode = u := by
    obtain rfl := htype wide h
    exact h ▸ hkept wide rfl
  rw [← hpart]
  refine ⟨float64, u.part, u.part.convert z.re, ⟨holds_convert _, fun op b hop hb => ?_⟩, ?_, fun b hb => ?_⟩
  · rw [convert_of_holds hb]
    have hre : (op.item u (t.cast u z) (u.doubleItem b)).re =
        op.number u.part.arithmetic (u.part.convert z.re) (u.part.convert b) := by
      rw [item_re_of_ne_mul hop hu, cast_re_of_inexact hu, ItemType.doubleItem_re hu]
    refine ⟨_, (hcombine op b).trans (combineOnHost_meet _ hv op b hu (hmeet b)), ?_⟩
    rw [← hre]
    refine realPart_scalar hu hkept ?_
    rw [hre]
    exact holds_number hop (holds_convert _) (holds_convert _)
  · rw [convert_of_holds (holds_convert _), id]
  · rw [convert_of_holds hb, convert_of_holds (holds_convert (t := u.part) b), id]

lemma reads_scalar (hkept : ∀ wide, t = .complex wide → t.narrowed wideMode = t) :
    (scalar t z).Reads wideMode id t.part z.re :=
  reads_host (fun op => combineWith (combinePlain op) wideMode op) rfl
    (fun op _ => by cases op <;> rfl) hkept

lemma reads_single (hkept : ∀ wide, t = .complex wide → t.narrowed wideMode = t) :
    (array (.single t z)).Reads wideMode id t.part z.re :=
  reads_host (fun op => combineWith (combinePlain op) wideMode op) rfl (fun _ _ => rfl) hkept

/-- The type of plain numbers holds those of every type that the device does not narrow. -/
lemma holds_plainType (ht : t.IsInexact) (hnarrow : t.narrowed wideMode = t) (hx : t.part.Holds x) :
    (plainType wideMode).Holds x := by
  cases wideMode with
  | true => exact holds_float64 hx
  | false =>
    rcases t with _ | (_ | _ | _ | _) | (_ | _)
    case integer => exact ht.elim
    case real.float64 => cases hnarrow
    case complex.true => cases hnarrow
    case real.float16 =>
      cases x
      case finite => exact holdsWithin_of_le (by decide) (by decide) (by decide) hx
      all_goals trivial
    case real.bfloat16 => exact holds_float32_of_bfloat16 hx
    all_goals exact hx

/-- An array on the device meets a double in its own type or in that of plain numbers. -/
lemma exists_deviceType (wideMode weak : Bool) (hnarrow : t.narrowed wideMode = t) :
    ∃ u weak', u.IsInexact ∧ u.narrowed wideMode = u ∧
      ((t.IsInexact ∧ u = t) ∨ u.part = plainType wideMode) ∧
      ∀ z w, (⟨.device, t, weak, [], [z]⟩ : NumericArray).deviceType
        ⟨.device, .real (plainType wideMode), true, [], [w]⟩ = (u, weak') := by
  cases weak with
  | false =>
    cases t with
    | integer =>
      refine ⟨.real (plainType wideMode), true, trivial, ?_, .inr rfl, fun _ _ => rfl⟩
      cases wideMode <;> rfl
    | real s => exact ⟨.real s, false, trivial, hnarrow, .inl ⟨trivial, rfl⟩, fun _ _ => rfl⟩
    | complex wide => exact ⟨.complex wide, false, trivial, hnarrow, .inl ⟨trivial, rfl⟩, fun _ _ => rfl⟩
  | true =>
    refine ⟨t.joinDevice (.real (plainType wideMode)), true, ?_, ?_, .inr ?_, fun _ _ => rfl⟩
    · cases t <;> trivial
    all_goals
      rcases t with _ | (_ | _ | _ | _) | (_ | _) <;> cases wideMode <;> first | rfl | cases hnarrow

/-- Bounds are rounded to single precision where they meet an array of the type on the device, and that
is too coarse or makes two roundings of one. -/
def MeetsRounded (wideMode : Bool) (t : ItemType) : Prop :=
  wideMode = false ∧ (t = .real .float16 ∨ ∃ wide, t = .integer wide)

lemma convert_plainType (hnarrow : t.narrowed wideMode = t) (hrounded : ¬MeetsRounded wideMode t)
    {b : Number} (hb : float64.Holds b) :
    t.part.convert ((plainType wideMode).convert b) = t.part.convert b := by
  rcases t.isInexact_or_integer with ht | ⟨wide, rfl⟩
  · exact plain_eq_convert ht hnarrow (fun h => hrounded ⟨h.1, .inl h.2⟩) hb
  · cases wideMode with
    | true => exact congrArg float64.convert (convert_of_holds hb)
    | false => exact absurd ⟨rfl, .inr ⟨wide, rfl⟩⟩ hrounded

/-- An item on the device meets doubles in its type or in that of plain numbers. -/
lemma exists_readsAs_device (weak : Bool) (hnarrow : t.narrowed wideMode = t) (hz : (t.cast t z).re = z.re) :
    ∃ u : FloatType, (t.IsInexact ∧ u = t.part ∨ u = plainType wideMode) ∧
      (array ⟨.device, t, weak, [], [z]⟩).ReadsAs wideMode (plainType wideMode) u (u.convert z.re) := by
  obtain ⟨u, weak', hu, hunarrow, hpart, htype⟩ := exists_deviceType wideMode weak hnarrow
  refine ⟨u.part, hpart.imp_left fun h => ⟨h.1, congrArg _ h.2⟩, holds_convert _, fun op b hop hb => ?_⟩
  have hre : (op.item u (t.cast u (t.cast t z)) (u.weakItem wideMode b)).re =
      op.number u.part.arithmetic (u.part.convert z.re)
        (u.part.convert ((plainType wideMode).convert b)) := by
    rw [item_re_of_ne_mul hop hu, cast_re_of_inexact hu, hz, ItemType.weakItem_re hu]
    rfl
  refine ⟨_, combine_device hnarrow op b (htype _ _), ?_⟩
  rw [← hre]
  refine congrArg Except.ok (realPart_device hu hunarrow ?_)
  rw [hre]
  exact holds_number hop (holds_convert _) (holds_convert _)

lemma convert_item_plainType (hnarrow : t.narrowed wideMode = t) (hrounded : ¬MeetsRounded wideMode t)
    (hz : (t.cast t z).re = z.re) :
    t.part.convert ((plainType wideMode).convert z.re) = t.part.convert z.re := by
  rcases t.isInexact_or_integer with ht | ⟨wide, rfl⟩
  · rw [cast_re_of_inexact ht] at hz
    have hholds : t.part.Holds z.re := hz ▸ holds_convert z.re
    rw [convert_of_holds (holds_plainType ht hnarrow hholds)]
  · cases wideMode with
    | true => exact convert_of_holds (holds_convert _)
    | false => exact absurd ⟨rfl, .inr ⟨wide, rfl⟩⟩ hrounded

/-- The item goes through single precision too where the bounds are rounded to it, if it does not go there
right away. -/
lemma reads_rounded (hnarrow : t.narrowed wideMode = t) (hrounded : MeetsRounded wideMode t)
    (hz : (t.cast t z).re = z.re) :
    (array ⟨.device, t, weak, [], [z]⟩).Reads wideMode float32.convert t.part z.re := by
  obtain ⟨u, hu, hreads⟩ := exists_readsAs_device weak hnarrow hz
  obtain ⟨rfl, -⟩ := hrounded
  refine ⟨_, u, _, hreads, ?_, fun b _ => ?_⟩
  · rcases hu with ⟨ht, rfl⟩ | rfl
    · rw [cast_re_of_inexact ht] at hz
      have hholds : t.part.Holds z.re := hz ▸ holds_convert z.re
      have hsingle : float32.convert z.re = z.re := convert_of_holds (holds_plainType ht hnarrow hholds)
      rw [hsingle, convert_of_holds (holds_convert _)]
    · rfl
  · rcases hu with ⟨-, rfl⟩ | rfl
    · exact convert_of_holds (holds_convert _)
    · exact congrArg _ (convert_of_holds (holds_convert (t := plainType false) b))

lemma reads_unrounded (hnarrow : t.narrowed wideMode = t) (hrounded : ¬MeetsRounded wideMode t)
    (hz : (t.cast t z).re = z.re) :
    (array ⟨.device, t, weak, [], [z]⟩).Reads wideMode id t.part z.re := by
  obtain ⟨u, hu, hreads⟩ := exists_readsAs_device weak hnarrow hz
  refine ⟨_, u, _, hreads, ?_, fun b hb => ?_⟩
  · rcases hu with ⟨-, rfl⟩ | rfl
    · exact convert_of_holds (holds_convert _)
    · exact convert_item_plainType hnarrow hrounded hz
  · rcases hu with ⟨-, rfl⟩ | rfl
    · rw [convert_of_holds (holds_convert (t := t.part) _), convert_plainType hnarrow hrounded hb, id]
    · rw [convert_of_holds (holds_convert (t := plainType wideMode) b),
        convert_plainType hnarrow hrounded hb, id]

/-- What numbers go through on the device before they are compared: single precision if that leaves a
trace. -/
inductive GoesThrough (wideMode : Bool) (t : ItemType) : (Number → Number) → Prop
  | rounded (h : MeetsRounded wideMode t) : GoesThrough wideMode t float32.convert
  | unrounded (h : ¬MeetsRounded wideMode t) : GoesThrough wideMode t id

lemma reads_device {f : Number → Number} (hnarrow : t.narrowed wideMode = t)
    (hf : GoesThrough wideMode t f) (hz : (t.cast t z).re = z.re) :
    (array ⟨.device, t, weak, [], [z]⟩).Reads wideMode f t.part z.re := by
  cases hf with
  | rounded h => exact reads_rounded hnarrow h hz
  | unrounded h => exact reads_unrounded hnarrow h hz

/-- A complex number is read as its real part if the device does not narrow doubles. -/
lemma reads_complex (hz : float64.Holds z.re)
    (hkept : (ItemType.complex true).narrowed wideMode = .complex true) :
    (complex z).Reads wideMode id float64 z.re := by
  refine reads_of_double hz fun op b hop hb => ⟨complex (op.complex double z (.ofReal b)), rfl, ?_⟩
  have hre : (op.complex double z (.ofReal b)).re = op.number double z.re b :=
    item_re_of_ne_mul (u := .complex true) hop trivial z (.ofReal b)
  have hholds : float64.Holds (op.number double z.re b) := holds_number hop hz hb
  rw [← hre] at hholds ⊢
  exact congrArg Except.ok (realPart_device (u := .complex true) trivial hkept hholds)

/-! ### Narrowed complex numbers -/

/-- A positive difference that single precision takes for zero. -/
def Vanishes (d : Number) : Prop :=
  (finite 0).lt d = true ∧ (finite 0).lt (float32.convert d) = false

/-- The element meets doubles as the number `x`, and the real part of the result is rounded to single
precision. -/
structure ShowsRounded (wideMode : Bool) (v : Value) (x : Number) : Prop where
  holds : float64.Holds x
  combine : ∀ op b, op ≠ .mul → float64.Holds b → ∃ d, v.combine wideMode op (real b) = .ok d ∧
    d.realPart wideMode = .ok (float32.convert (op.number double x b))

/-- An element beyond the maximal step passes only if the difference vanishes. -/
theorem ShowsRounded.vanishes (h : v.ShowsRounded wideMode x) {least : Value} {greatest : Number}
    (hgreatest : float64.Holds greatest)
    (hpasses : (stepField wideMode).Passes v least (real greatest))
    (habove : greatest.lt x.abs = true) : Vanishes (double.sub x.abs greatest) := by
  obtain ⟨d, hd, hy⟩ := h.combine .sub greatest nofun hgreatest
  obtain ⟨d', hd', hy'⟩ := h.combine .add greatest nofun hgreatest
  have hpassed := hpasses.above
  simp only [stepField, hd, hy, bind, Except.bind, pure, Except.pure, Except.ok.injEq] at hpassed
  have hpassed' := hpasses.opposite
  simp only [stepField, hd', hy', bind, Except.bind, pure, Except.pure, Except.ok.injEq] at hpassed'
  refine ⟨(sign_sub (holds_abs h.holds) hgreatest).2.trans habove, ?_⟩
  cases hx : x.isNegative
  · rw [abs_eq_self hx]
    exact hpassed
  · rw [abs_eq_neg_of_isNegative hx]
    rcases Rounding.add_neg_neg float64.rounding_isOdd (rounding_convert_of_holds h.holds)
      (rounding_convert_of_holds hgreatest) with hneg | ⟨-, hzero⟩
    · change (finite 0).lt (float32.convert (float64.rounding.add x.neg greatest.neg)) = false
      rw [hneg, convert_neg, zero_lt_neg]
      exact hpassed'
    · refine lt_convert_of_holds (holds_zero float32 false) ?_
      change (finite 0).lt (float64.rounding.add x.neg greatest.neg) = false
      cases hsum : float64.rounding.add x.neg greatest.neg <;> simp_all [isZero, lt]

lemma realPart_narrow (z : ComplexNumber) :
    realPart.onDevice false (.complex true) z = float32.convert z.re := by
  have hcast : ((ItemType.complex true).cast (.complex false) z).re = float32.convert z.re :=
    cast_re_of_inexact (u := .complex false) trivial
  change float64.convert ((ItemType.complex true).cast (.complex false) z).re = _
  rw [hcast, convert_of_holds (holds_float64 (holds_convert _))]

lemma showsRounded_complex (hz : float64.Holds z.re) : (complex z).ShowsRounded false z.re where
  holds := hz
  combine := by
    intro op b hop hb
    refine ⟨complex (op.complex double z (.ofReal b)), rfl, ?_⟩
    have hre : (op.complex double z (.ofReal b)).re = op.number double z.re b :=
      item_re_of_ne_mul (u := .complex true) hop trivial z (.ofReal b)
    rw [← hre]
    exact congrArg Except.ok (realPart_narrow _)

lemma showsRounded_host (itemOp : Operation → Value → Value → Except Failure Value)
    (hv : HostOperand.ofValue v = .ok (.numbers (.single (.complex true) z)))
    (hcombine : ∀ op b, v.combine false op (real b) = combineOnHost (itemOp op) op v (real b))
    (hz : float64.Holds z.re) : v.ShowsRounded false z.re where
  holds := hz
  combine := by
    intro op b hop hb
    refine ⟨_, (hcombine op b).trans (combineOnHost_meet _ hv op b (u := .complex true) trivial rfl), ?_⟩
    have hre : (op.item (.complex true) ((ItemType.complex true).cast (.complex true) z)
        ((ItemType.complex true).doubleItem b)).re = op.number double z.re b := by
      rw [item_re_of_ne_mul (u := .complex true) hop trivial,
        cast_re_of_inexact (u := .complex true) trivial, ItemType.doubleItem_re (t := .complex true) trivial]
      exact congrArg₂ _ (convert_of_holds hz) (convert_of_holds hb)
    rw [← hre]
    exact congrArg Except.ok (realPart_narrow _)

lemma showsRounded_scalar (hz : float64.Holds z.re) :
    (scalar (.complex true) z).ShowsRounded false z.re :=
  showsRounded_host (fun op => combineWith (combinePlain op) false op) rfl
    (fun op _ => by cases op <;> rfl) hz

lemma showsRounded_single (hz : float64.Holds z.re) :
    (array (.single (.complex true) z)).ShowsRounded false z.re :=
  showsRounded_host (fun op => combineWith (combinePlain op) false op) rfl (fun _ _ => rfl) hz

end Items

end Value

end AdaptiveStep
