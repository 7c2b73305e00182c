import AdaptiveStep.Proofs.FloatRounding
import AdaptiveStep.Proofs.HostArithmetic

/-!
# Real parts that the device keeps

A complex number and an array without axes pass through the device on the way to their real part,
and a narrow device rounds them. The real part is the same in both modes exactly if it is a number of
the narrower type. Every other element has the same real part in both modes, and so has an array of
numbers as a whole.
-/

namespace AdaptiveStep

open Extended FloatType

namespace ItemType

/-- The item is one of the narrower type too. -/
def Survives : ItemType → ComplexNumber → Prop
  | integer true, z => holds false (integerOf z.re) = true
  | real .float64, z => float32.Holds z.re
  | complex true, z => float32.Holds z.re
  | _, _ => True

/-- The real part is one that an item of the type can have. -/
def Holds : ItemType → ComplexNumber → Prop
  | integer wide, z => ∃ n : ℤ, z.re = .finite n ∧ holds wide n = true
  | t, z => t.part.Holds z.re

variable {t : ItemType} {z : ComplexNumber} {wideMode : Bool}

lemma holds_iff {wide : Bool} {n : ℤ} :
    holds wide n = true ↔ -2 ^ digits wide ≤ n ∧ n < 2 ^ digits wide := by
  simp [holds, leastInteger, Nat.pow_eq]

lemma wrap_of_holds {wide : Bool} {n : ℤ} (h : holds wide n = true) : wrap wide n = n := by
  rw [holds_iff] at h
  rw [wrap, Nat.pow_eq, Int.bmod_def]
  push_cast
  cases wide <;> simp only [digits, Bool.false_eq_true, if_false, if_true] at h ⊢ <;>
    split_ifs <;> omega

lemma holds_wide {n : ℤ} (h : holds false n = true) : holds true n = true := by
  rw [holds_iff] at h ⊢
  simp only [digits, Bool.false_eq_true, if_false, if_true] at h ⊢
  omega

/-- A narrow device keeps the real part of an item of the narrower type. -/
lemma re_cast_narrowed (h : t.Survives z) :
    (t.cast (t.narrowed wideMode) z).re = (t.cast t z).re := by
  cases wideMode with
  | true => rfl
  | false =>
    match t, h with
    | integer true, h =>
      have hsame : wrap false (integerOf z.re) = wrap true (integerOf z.re) := by
        rw [wrap_of_holds h, wrap_of_holds (holds_wide h)]
      exact congrArg (fun n : ℤ => (finite n : Number)) hsame
    | integer false, _ => rfl
    | real .float64, h => exact (convert_of_holds h).trans (convert_of_holds (holds_float64 h)).symm
    | real .float32, _ => rfl
    | real .float16, _ => rfl
    | real .bfloat16, _ => rfl
    | complex true, h => exact (convert_of_holds h).trans (convert_of_holds (holds_float64 h)).symm
    | complex false, _ => rfl

end ItemType

namespace Value

variable {t : ItemType} {z : ComplexNumber} {v w : Value} {wideMode wideMode' : Bool}

lemma onDevice_eq (h : t.Survives z) :
    realPart.onDevice wideMode t z = realPart.onDevice wideMode' t z := by
  rw [realPart.onDevice, realPart.onDevice, t.re_cast_narrowed h, t.re_cast_narrowed h]

lemma holds_integer {n : ℤ} (h : n.natAbs < 2 ^ 53) : float64.Holds (finite n) := by
  refine ⟨⟨n.natAbs, 0, ?_, h, by decide⟩, ?_⟩
  · rw [zpow_zero, mul_one, Nat.cast_natAbs, Int.cast_abs]
  · have hlt : |(n : ℚ)| < (2 : ℚ) ^ (53 : ℤ) := by
      rw [← Int.cast_abs, ← Nat.cast_natAbs]
      exact_mod_cast h
    exact hlt.trans (two_zpow_lt_iff.mpr (by decide))

/-- Two numbers with two numbers of the type between them do not become the same one. -/
lemma convert_ne_of_between {t : FloatType} {x y : Number} {a b : ℚ} (ha : t.Holds (finite a))
    (hb : t.Holds (finite b)) (hab : a < b) (hx : (finite a).lt x = false) (hy : y.lt (finite b) = false)
    (hnumber : y.isNaN = false) : t.convert x ≠ t.convert y := by
  intro h
  have habove := lt_convert_of_holds ha hx
  rw [h] at habove
  have hle := not_lt_trans (by simpa using hnumber) habove (convert_lt_of_holds hb hy)
  simp [lt, hab] at hle

/-- Every type but half precision holds the powers of two around the narrow integers. -/
lemma holds_two_pow {t : FloatType} (ht : t ≠ .float16) {k : ℕ} (hk : k ≤ 32) :
    t.Holds (finite ((2 ^ k : ℤ) : ℚ)) ∧ t.Holds (finite ((-2 ^ k : ℤ) : ℚ)) := by
  have hpositive : (0 : ℚ) < ((2 ^ k : ℤ) : ℚ) := by positivity
  have hexponents : t.format.leastExponent ≤ 0 ∧ 32 < t.format.maxExponent + 1 := by
    cases t <;> simp_all [FloatType.format, Format.leastExponent]
  have hholds : t.Holds (finite ((2 ^ k : ℤ) : ℚ)) := by
    refine ⟨⟨1, k, ?_, Nat.one_lt_two_pow (by have := t.one_le_precision; omega), by omega⟩, ?_⟩
    · simp [abs_of_pos]
    · rw [abs_of_pos hpositive, Int.cast_pow, Int.cast_ofNat, ← zpow_natCast]
      exact two_zpow_lt_iff.mpr (by omega)
  refine ⟨hholds, ?_⟩
  rw [Int.cast_neg, ← neg_finite hpositive.ne']
  exact holds_neg hholds

/-- A wide integer is not near the narrow one that it wraps around to: one just out of range changes
its sign, and one further out is beyond the narrow ones. Half precision has neither in its range. -/
lemma holds_of_convert_wrap {t : FloatType} (ht : t ≠ .float16) {n : ℤ}
    (h : t.convert (finite (ItemType.wrap false n)) = t.convert (float64.convert (finite n))) :
    ItemType.holds false n = true := by
  have hleast : -2 ^ 31 ≤ ItemType.wrap false n := Int.le_bmod (by decide)
  have hgreatest : ItemType.wrap false n < 2 ^ 31 := Int.bmod_lt (by decide)
  have hbmod : ItemType.wrap false n % 2 ^ 32 = n % 2 ^ 32 := Int.bmod_emod
  obtain ⟨hlow, hlow'⟩ := holds_two_pow ht (k := 31) (by decide)
  obtain ⟨hhigh, hhigh'⟩ := holds_two_pow ht (k := 32) (by decide)
  have hzero : t.Holds (finite ((0 : ℤ) : ℚ)) := by simpa [zero] using holds_zero t false
  -- no two held integers stand between the wide integer and the narrow one
  have happart {a b : ℤ} (ha : t.Holds (finite a)) (hb : t.Holds (finite b)) (hab : a < b) :
      ¬(b ≤ n ∧ ItemType.wrap false n ≤ a) ∧ ¬(n ≤ a ∧ b ≤ ItemType.wrap false n) := by
    have hlt {m k : ℤ} : (finite m : Number).lt (finite k) = false ↔ k ≤ m := by simp [lt]
    have hab' : (a : ℚ) < b := by exact_mod_cast hab
    constructor
    · rintro ⟨hn, hwrap⟩
      exact convert_ne_of_between ha hb hab' (hlt.mpr hwrap)
        (convert_lt_of_holds (holds_float64 hb) (hlt.mpr hn)) (isNaN_convert _) h
    · rintro ⟨hn, hwrap⟩
      exact convert_ne_of_between ha hb hab' (lt_convert_of_holds (holds_float64 ha) (hlt.mpr hn))
        (hlt.mpr hwrap) rfl h.symm
  obtain ⟨-, h1⟩ := happart hhigh' hlow' (by decide)
  obtain ⟨-, h2⟩ := happart hlow' hzero (by decide)
  obtain ⟨h3, -⟩ := happart hzero hlow (by decide)
  obtain ⟨h4, -⟩ := happart hlow hhigh (by decide)
  rw [ItemType.holds_iff]
  simp only [ItemType.digits, Bool.false_eq_true, if_false]
  omega

/-- On the device an item has the same real part in both modes only if it survives. -/
theorem onDevice_eq_iff (hz : t.Holds z) :
    realPart.onDevice false t z = realPart.onDevice true t z ↔ t.Survives z := by
  refine ⟨fun h => ?_, onDevice_eq⟩
  have hfloat {x : Number} (hx : float64.Holds x)
      (h : float64.convert (float32.convert x) = float64.convert (float64.convert x)) :
      float32.Holds x := by
    rw [convert_of_holds (holds_float64 (holds_convert x)), convert_of_holds (holds_convert x),
      convert_of_holds hx] at h
    exact h ▸ holds_convert x
  match t, hz, h with
  | .integer true, ⟨n, hn, hholds⟩, h =>
    have hinteger : ItemType.integerOf z.re = n := by simp [ItemType.integerOf, hn]
    change float64.convert (finite (ItemType.wrap false (ItemType.integerOf z.re))) =
      float64.convert (finite (ItemType.wrap true (ItemType.integerOf z.re))) at h
    rw [hinteger, ItemType.wrap_of_holds hholds] at h
    change ItemType.holds false (ItemType.integerOf z.re) = true
    refine hinteger.symm ▸ holds_of_convert_wrap (t := .float64) (by decide) ?_
    rw [h, convert_of_holds (holds_convert _)]
  | .integer false, _, _ => trivial
  | .real .float64, hz, h => exact hfloat hz h
  | .real .float32, _, _ => trivial
  | .real .float16, _, _ => trivial
  | .real .bfloat16, _, _ => trivial
  | .complex true, hz, h => exact hfloat hz h
  | .complex false, _, _ => trivial

/-- The real part does not have to be rounded on a narrow device. -/
def KeepsRealPart : Value → Prop
  | complex z => ItemType.Survives (.complex true) z
  | scalar (.complex wide) z => ItemType.Survives (.complex wide) z
  | array a => ∀ z, a.shape = [] → a.items = [z] → a.type.Survives z
  | _ => True

theorem realPart_eq (hv : v.KeepsRealPart) : v.realPart wideMode = v.realPart wideMode' := by
  cases v with
  | complex z => exact congrArg Except.ok (onDevice_eq hv)
  | scalar t z =>
    cases t with
    | complex wide => exact congrArg Except.ok (onDevice_eq hv)
    | integer wide => rfl
    | real t => rfl
  | array a =>
    simp only [realPart]
    split
    · rename_i z hshape hitems
      exact congrArg Except.ok (onDevice_eq (hv z hshape hitems))
    · rfl
  | _ => rfl

/-- The numbers that an element is made of are of the types that they are stored in. -/
def HoldsItems : Value → Prop
  | complex z => ItemType.Holds (.complex true) z
  | scalar t z => t.Holds z
  | array a => ∀ z ∈ a.items, a.type.Holds z
  | _ => True

/-- The condition is exact: any other real part depends on the wide mode. -/
theorem realPart_eq_iff (hv : v.HoldsItems) :
    v.realPart false = v.realPart true ↔ v.KeepsRealPart := by
  refine ⟨fun h => ?_, realPart_eq⟩
  cases v with
  | complex z => exact (onDevice_eq_iff (t := .complex true) hv).mp (Except.ok.inj h)
  | scalar t z =>
    cases t with
    | complex wide => exact (onDevice_eq_iff (t := .complex wide) hv).mp (Except.ok.inj h)
    | integer wide => trivial
    | real t => trivial
  | array a =>
    intro z hshape hitems
    simp only [realPart, hshape, hitems, Except.ok.injEq] at h
    exact (onDevice_eq_iff (hv z (by simp [hitems]))).mp h
  | _ => trivial

/-! ### Vectors -/

/-- The real parts are the same in both modes: those of an array of numbers always are. -/
def KeepsRealParts (v : Value) : Prop :=
  v.isNumericArray = true ∨ ∀ vs, v.elements = .ok vs → ∀ w ∈ vs, w.KeepsRealPart

lemma mapM_congr {α β : Type} {f g : α → Except Failure β} {xs : List α}
    (h : ∀ x ∈ xs, f x = g x) : xs.mapM f = xs.mapM g := by
  induction xs with
  | nil => rfl
  | cons x xs ih =>
    rw [List.mapM_cons, List.mapM_cons, h x (by simp), ih fun y hy => h y (by simp [hy])]

lemma doubleVector_eq_mapM (hv : v.isNumericArray = false) :
    v.doubleVector wideMode = v.elements >>= fun vs => vs.mapM (realPart wideMode) := by
  cases v with
  | array a => simp [isNumericArray] at hv
  | _ => rfl

theorem doubleVector_eq (hv : v.KeepsRealParts) (wideMode wideMode' : Bool) :
    v.doubleVector wideMode = v.doubleVector wideMode' := by
  cases harray : v.isNumericArray with
  | true =>
    cases v with
    | array a => rfl
    | _ => simp [isNumericArray] at harray
  | false =>
    have hkept := hv.resolve_left (by simp [harray])
    rw [doubleVector_eq_mapM harray, doubleVector_eq_mapM harray]
    cases hvs : v.elements with
    | error e => rfl
    | ok vs => exact mapM_congr fun w hw => realPart_eq (hkept vs hvs w hw)

/-- Nothing that the vector is made of is on the device. -/
def OnHost : Value → Prop
  | array a => a.residence = .host
  | objects _ items => ∀ w ∈ items, w.side ≠ .device
  | list items => ∀ w ∈ items, w.side ≠ .device
  | tuple items => ∀ w ∈ items, w.side ≠ .device
  | _ => True

lemma isHostElement_rows {a : NumericArray} (ha : a.residence = .host) {vs : List Value}
    (h : (array a).elements = .ok vs) : ∀ w ∈ vs, w.IsHostElement := by
  obtain ⟨residence, type, weak, shape, items⟩ := a
  cases shape with
  | nil => simp [elements, NumericArray.rows?] at h
  | cons n shape =>
    obtain rfl := Except.ok.inj h
    intro w hw
    obtain ⟨row, hrow, rfl⟩ := List.mem_map.mp hw
    obtain ⟨piece, -, rfl⟩ := List.mem_map.mp hrow
    exact isHostElement_toValue ha

lemma OnHost.side_elements (hv : v.OnHost) {vs : List Value} (h : v.elements = .ok vs) :
    ∀ w ∈ vs, w.side ≠ .device := by
  cases v with
  | list items => exact Except.ok.inj h ▸ hv
  | tuple items => exact Except.ok.inj h ▸ hv
  | text s =>
    obtain rfl := Except.ok.inj h
    intro w hw
    obtain ⟨c, -, rfl⟩ := List.mem_map.mp hw
    simp [side]
  | array a => exact fun w hw => (isHostElement_rows hv h w hw).side_ne
  | objects shape items =>
    simp only [elements] at h
    split at h
    · simp at h
    · exact Except.ok.inj h ▸ hv
    · obtain rfl := Except.ok.inj h
      intro w hw
      obtain ⟨piece, -, rfl⟩ := List.mem_map.mp hw
      simp [side]
  | _ => simp [elements] at h

lemma isHostElement_of_realPart (hv : v.side ≠ .device) {x : Number}
    (h : v.realPart wideMode = .ok x) : v.IsHostElement := by
  cases v with
  | array a =>
    cases ha : a.residence with
    | host => exact ha
    | device => simp [side, ha] at hv
  | objects shape items => simp [realPart] at h
  | text s => simp [realPart] at h
  | list items => simp [realPart] at h
  | tuple items => simp [realPart] at h
  | absent => simp [realPart] at h
  | _ => trivial

lemma exists_of_mapM_ok {α β : Type} {g : α → Except Failure β} {xs : List α} {ys : List β}
    (h : xs.mapM g = .ok ys) {x : α} (hx : x ∈ xs) : ∃ y, g x = .ok y := by
  induction xs generalizing ys with
  | nil => simp at hx
  | cons z xs ih =>
    rw [List.mapM_cons] at h
    obtain ⟨y, hy, h⟩ := Except.bind_eq_ok.mp h
    obtain ⟨zs, hzs, -⟩ := Except.bind_eq_ok.mp h
    rcases List.mem_cons.mp hx with rfl | hx
    · exact ⟨y, hy⟩
    · exact ih hzs hx

/-- What has real parts and is not on the device is made of numbers and host arrays. -/
theorem OnHost.isHostElement_elements (hv : v.OnHost) {xs : List Number} {vs : List Value}
    (hxs : v.doubleVector wideMode = .ok xs) (hvs : v.elements = .ok vs) :
    ∀ w ∈ vs, w.IsHostElement := by
  cases harray : v.isNumericArray with
  | true =>
    cases v with
    | array a => exact isHostElement_rows hv hvs
    | _ => simp [isNumericArray] at harray
  | false =>
    rw [doubleVector_eq_mapM harray, hvs] at hxs
    intro w hw
    obtain ⟨x, hx⟩ := exists_of_mapM_ok hxs hw
    exact isHostElement_of_realPart (hv.side_elements hvs w hw) hx

end Value

end AdaptiveStep
