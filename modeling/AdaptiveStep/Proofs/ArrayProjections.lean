import AdaptiveStep.Proofs.ArrayElements
import AdaptiveStep.Proofs.ListVectors
import AdaptiveStep.Proofs.StepFactors

/-!
# Arrays and lists of their scalars

An array of numbers is projected as a whole, a list of its scalars one by one. In double precision both
give the same real parts, unless the device rounds a complex scalar. In the configured type the array
passes through the device and the scalars do not: a wide integer may wrap around or be rounded once
instead of twice, and a double may be rounded twice instead of once. Nothing else makes a difference.
-/

namespace AdaptiveStep

open Extended FloatType

variable {q : Precision} {t : ItemType} {z : ComplexNumber} {zs : List ComplexNumber} {wideMode : Bool}

namespace Value

/-- An array on the host with one axis. -/
def hostVector (t : ItemType) (zs : List ComplexNumber) : Value :=
  ArrayKind.vector ⟨.host, t, false⟩ zs

lemma elements_hostVector (t : ItemType) (zs : List ComplexNumber) :
    (hostVector t zs).elements = .ok (zs.map (scalar t)) :=
  ArrayKind.elements_vector _ zs

end Value

namespace ItemType

/-- The double that a scalar is projected to. Only a complex one passes through the device. -/
def projected (wideMode : Bool) (t : ItemType) (z : ComplexNumber) : Number :=
  match t with
  | complex _ => Value.realPart.onDevice wideMode t z
  | _ => float64.convert z.re

lemma realPart_eq_projected (wideMode : Bool) (t : ItemType) (z : ComplexNumber) :
    (Value.scalar t z).realPart wideMode = .ok (t.projected wideMode z) := by
  cases t <;> rfl

/-- The projection does not pass through the device, or the device keeps the number. -/
def KeepsDouble (wideMode : Bool) (t : ItemType) (z : ComplexNumber) : Prop :=
  t = complex true → wideMode = false → float32.Holds z.re

/-- The item is rounded alike as an item of its array and as a scalar. Wide integers and doubles may
not be. -/
def ProjectsAlike (q : Precision) (t : ItemType) (z : ComplexNumber) : Prop :=
  match t with
  | integer true =>
    if q.wideMode then q.type.convert z.re = q.type.convert (float64.convert z.re)
    else holds false (integerOf z.re) = true ∨ (q.type = .float16 ∧
      float16.convert (finite (wrap false (integerOf z.re))) = float16.convert (float64.convert z.re))
  | real .float64 =>
    q.wideMode = false → q.type = .float16 →
      float16.convert (float32.convert z.re) = float16.convert z.re
  | _ => True

/-- In the settings at the start only wide integers out of the narrow range are rounded otherwise. -/
theorem projectsAlike_initial_iff :
    t.ProjectsAlike Precision.initial z ↔
      (t = integer true → holds false (integerOf z.re) = true) := by
  match t with
  | .integer true => simp [ProjectsAlike, Precision.initial]
  | .real .float64 => simp [ProjectsAlike, Precision.initial]
  | .integer false | .real .float16 | .real .bfloat16 | .real .float32 | .complex _ =>
    simp [ProjectsAlike]

/-- In double precision nothing is. -/
theorem projectsAlike_double : t.ProjectsAlike ⟨.float64, true⟩ z := by
  match t with
  | .integer true => simp [ProjectsAlike, convert_of_holds (holds_convert z.re)]
  | .real .float64 => simp [ProjectsAlike]
  | .integer false | .real .float16 | .real .bfloat16 | .real .float32 | .complex _ => trivial

/-! ### Single items -/

/-- A device in the wide mode keeps the real part of a complex item. -/
lemma onDevice_wideMode {wide : Bool} (hz : (complex wide).Holds z) :
    Value.realPart.onDevice true (complex wide) z = float64.convert z.re := by
  have hpart : (complex wide).part.Holds z.re := hz
  exact congrArg float64.convert (convert_of_holds hpart)

lemma convert_eq_projected_iff (hz : t.Holds z) :
    float64.convert z.re = t.projected wideMode z ↔ t.KeepsDouble wideMode z := by
  cases t with
  | integer wide => simp [projected, KeepsDouble]
  | real t => simp [projected, KeepsDouble]
  | complex wide =>
    rw [projected, ← onDevice_wideMode hz]
    cases wideMode with
    | true => simp [KeepsDouble]
    | false =>
      rw [eq_comm, Value.onDevice_eq_iff hz]
      cases wide <;> simp [KeepsDouble, Survives]

/-- Only half precision tells a double from the single precision number that it is rounded to first. -/
lemma convert_float32_iff {x : Number} (hq : q.type ≠ .float64) :
    q.type.convert (float32.convert x) = q.type.convert x ↔
      (q.type = .float16 → float16.convert (float32.convert x) = float16.convert x) := by
  cases htype : q.type with
  | float16 => simp
  | bfloat16 =>
    have hsingle : float32.rounding.convert (float32.convert x) = float32.convert x :=
      rounding_convert_of_holds (holds_convert x)
    simp only [convert, reduceCtorEq, false_imp_iff, iff_true]
    exact congrArg _ hsingle
  | float32 =>
    simp only [reduceCtorEq, false_imp_iff, iff_true]
    exact convert_of_holds (holds_convert x)
  | float64 => exact absurd htype hq

/-- The narrow integers are doubles. -/
lemma convert_narrow {n : ℤ} (hn : holds false n = true) :
    float64.convert (finite (n : ℚ)) = finite (n : ℚ) := by
  rw [holds_iff] at hn
  simp only [digits, Bool.false_eq_true, if_false] at hn
  exact convert_of_holds (Value.holds_integer (by omega))

lemma convert_cast_integer_iff {wide : Bool} (hz : (integer wide).Holds z) :
    q.type.convert ((integer wide).cast ((integer wide).narrowed q.wideMode) z).re =
      q.type.convert (float64.convert z.re) ↔ (integer wide).ProjectsAlike q z := by
  obtain ⟨n, hn, hholds⟩ := hz
  have hinteger : integerOf (finite (n : ℚ)) = n := Rat.num_intCast n
  have hcast (wide' : Bool) :
      ((integer wide).cast (integer wide') z).re = finite (wrap wide' n : ℚ) := by
    simp only [cast, ComplexNumber.ofInt, hn, hinteger]
  cases wide with
  | false =>
    have hnarrowed : (integer false).narrowed q.wideMode = integer false := by
      cases q.wideMode <;> rfl
    rw [hnarrowed, hcast, wrap_of_holds hholds, hn, convert_narrow hholds]
    simp [ProjectsAlike]
  | true =>
    cases hmode : q.wideMode with
    | true =>
      simp only [narrowed, if_true, hcast, wrap_of_holds hholds, ProjectsAlike, hmode, hn]
    | false =>
      simp only [narrowed, Bool.false_eq_true, if_false, hcast, ProjectsAlike, hmode, hn,
        hinteger]
      refine ⟨fun h => ?_, ?_⟩
      · by_cases htype : q.type = .float16
        · exact .inr ⟨htype, htype ▸ h⟩
        · exact .inl (Value.holds_of_convert_wrap htype h)
      · rintro (hnarrow | ⟨htype, h⟩)
        · rw [wrap_of_holds hnarrow, convert_narrow hnarrow]
        · rw [htype, h]

lemma convert_cast_eq_iff (hq : q.Wide) (hz : t.Holds z) :
    q.type.convert (t.cast (t.narrowed q.wideMode) z).re =
      q.type.convert (t.projected q.wideMode z) ↔ t.ProjectsAlike q z := by
  match t, hz with
  | .integer wide, hz => exact convert_cast_integer_iff hz
  | .real u, hz =>
    have hu : u.Holds z.re := hz
    have hprojected : (real u).projected q.wideMode z = z.re := convert_of_holds (holds_float64 hu)
    rw [hprojected]
    by_cases hdouble : u = .float64
    · subst hdouble
      cases hmode : q.wideMode with
      | true => simp [narrowed, cast, ComplexNumber.ofReal, ProjectsAlike, hmode, convert_of_holds hu]
      | false =>
        have htype : q.type ≠ .float64 := fun h => by simp [hq h] at hmode
        simpa [narrowed, cast, ComplexNumber.ofReal, ProjectsAlike, hmode] using
          convert_float32_iff htype
    · have hnarrowed : (real u).narrowed q.wideMode = real u := by
        cases u <;> cases q.wideMode <;> simp_all [narrowed]
      have halike : (real u).ProjectsAlike q z := by
        cases u <;> simp_all [ProjectsAlike]
      rw [hnarrowed, cast, ComplexNumber.ofReal, convert_of_holds hu]
      exact iff_of_true rfl halike
  | .complex wide, hz =>
    have hcast (wide' : Bool) : float64.Holds ((complex wide).cast (complex wide') z).re :=
      holds_float64 (holds_convert (t := (complex wide').part) z.re)
    have hdouble : float64.Holds ((complex wide).cast ((complex wide).narrowed q.wideMode) z).re := by
      cases q.wideMode <;> exact hcast _
    rw [projected, Value.realPart.onDevice, convert_of_holds hdouble]
    simp [ProjectsAlike]

end ItemType

namespace Value

open ItemType

/-! ### Vectors -/

lemma doubleVector_hostVector :
    (hostVector t zs).doubleVector wideMode = .ok (zs.map fun z => float64.convert z.re) := rfl

lemma doubleVector_scalars :
    (list (zs.map (scalar t))).doubleVector wideMode = .ok (zs.map (t.projected wideMode)) :=
  doubleVector_listOf fun z _ => realPart_eq_projected wideMode t z

lemma realVector_hostVector : (hostVector t zs).realVector q =
    .ok (zs.map fun z => q.type.convert (t.cast (t.narrowed q.wideMode) z).re) := by
  simp only [hostVector, ArrayKind.vector, realVector, NumericArray.onDevice, NumericArray.cast,
    ArrayKind.array, List.map_map]
  rfl

lemma realVector_scalars : (list (zs.map (scalar t))).realVector q =
    .ok (zs.map fun z => q.type.convert (t.projected q.wideMode z)) := by
  have hparts : (zs.map (scalar t)).mapM (realPart q.wideMode) =
      .ok (zs.map (t.projected q.wideMode)) := doubleVector_scalars
  simp only [realVector, elements, hparts, bind, Except.bind, pure, Except.pure, List.map_map]
  rfl

lemma items_deviceVector_inj {t : FloatType} {xs ys : List Number} :
    NumericArray.deviceVector t xs = NumericArray.deviceVector t ys ↔ xs = ys := by
  refine ⟨fun h => ?_, fun h => by rw [h]⟩
  have hitems : xs.map ComplexNumber.ofReal = ys.map ComplexNumber.ofReal :=
    congrArg NumericArray.items h
  exact List.map_injective_iff.mpr (fun x y h => congrArg ComplexNumber.re h) hitems

/-- Vectors of doubles on the host are equal if their numbers are. -/
lemma doubleArray_eq_iff {v w : Value} {xs ys : List Number} (hv : v.doubleVector wideMode = .ok xs)
    (hw : w.doubleVector wideMode = .ok ys) :
    v.doubleArray wideMode = w.doubleArray wideMode ↔ xs = ys := by
  rw [← items_deviceVector_inj (t := .float64)]
  simp [doubleArray, hv, hw, bind, Except.bind, pure, Except.pure, NumericArray.deviceVector]

lemma realArray_eq_iff {v w : Value} {xs ys : List Number} (hv : v.realVector q = .ok xs)
    (hw : w.realVector q = .ok ys) : v.realArray q = w.realArray q ↔ xs = ys := by
  rw [realArray, realArray, hv, hw, ← items_deviceVector_inj (t := q.type)]
  exact ⟨Except.ok.inj, congrArg Except.ok⟩

/-- An array and the list of its scalars have the same real parts exactly if the device rounds no complex
scalar, and the same ones in the configured type exactly if no item is rounded otherwise on the
device. -/
theorem hostVector_projects_alike_iff (hq : q.Wide) (hzs : ∀ z ∈ zs, t.Holds z) :
    (hostVector t zs).elements = .ok (zs.map (scalar t)) ∧
    ((hostVector t zs).doubleArray q.wideMode = (list (zs.map (scalar t))).doubleArray q.wideMode ↔
      ∀ z ∈ zs, t.KeepsDouble q.wideMode z) ∧
    ((hostVector t zs).realArray q = (list (zs.map (scalar t))).realArray q ↔
      ∀ z ∈ zs, t.ProjectsAlike q z) := by
  refine ⟨elements_hostVector t zs, ?_, ?_⟩
  · rw [doubleArray_eq_iff doubleVector_hostVector doubleVector_scalars, List.map_inj_left]
    exact forall₂_congr fun z hz => convert_eq_projected_iff (hzs z hz)
  · rw [realArray_eq_iff realVector_hostVector realVector_scalars, List.map_inj_left]
    exact forall₂_congr fun z hz => convert_cast_eq_iff hq (hzs z hz)

/-- Two complex numbers that single precision holds. -/
def halves : List ComplexNumber := [⟨.finite (3 / 2), .finite 1⟩, ⟨.finite (-1 / 2), .negativeZero⟩]

theorem hostVector_projects_alike_halves :
    Precision.initial.Wide ∧ (∀ z ∈ halves, (ItemType.complex true).Holds z) ∧
    (hostVector (.complex true) halves).doubleArray false =
      (list (halves.map (scalar (.complex true)))).doubleArray false ∧
    (hostVector (.complex true) halves).realArray Precision.initial =
      (list (halves.map (scalar (.complex true)))).realArray Precision.initial := by
  have hsingle : ∀ z ∈ halves, float32.Holds z.re := by
    simp only [halves, List.forall_mem_cons, List.not_mem_nil, false_imp_iff, implies_true, and_true]
    exact ⟨holds_of_convert_eq (by decide +kernel), holds_of_convert_eq (by decide +kernel)⟩
  have hzs : ∀ z ∈ halves, (ItemType.complex true).Holds z :=
    fun z hz => holds_float64 (hsingle z hz)
  obtain ⟨-, hdouble, hreal⟩ := hostVector_projects_alike_iff Precision.wide_initial hzs
  exact ⟨Precision.wide_initial, hzs, hdouble.mpr fun z hz _ _ => hsingle z hz,
    hreal.mpr fun _ _ => trivial⟩

/-- A complex scalar beyond the range of single precision, which the device makes infinite. -/
def largeScalar : ComplexNumber := ⟨Number.ofRat (10 ^ 200), .finite 0⟩

theorem largeScalar_projects_apart :
    (ItemType.complex true).Holds largeScalar ∧
      (hostVector (.complex true) [largeScalar]).doubleArray false ≠
        (list ([largeScalar].map (scalar (.complex true)))).doubleArray false := by
  have hholds : float64.Holds (Number.ofRat (10 ^ 200)) := holds_ofRat _
  refine ⟨hholds, ?_⟩
  rw [Ne, doubleArray_eq_iff doubleVector_hostVector doubleVector_scalars]
  decide +kernel

end Value

end AdaptiveStep
