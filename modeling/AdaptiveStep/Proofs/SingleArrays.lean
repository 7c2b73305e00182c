import AdaptiveStep.Proofs.OppositeValues

/-!
# Arrays of single precision

A narrow device rounds doubles to single precision. Arrays whose type is single precision, or one that
doubles reach by way of it, do not notice: such arrays are the same in both modes, and so is what they
give with each other, with a double, and joined to one vector.
-/

namespace AdaptiveStep

open Extended FloatType

namespace ItemType

/-- Single precision, or a type that doubles reach by way of it. -/
def IsSingle : ItemType → Prop
  | real .float32 => True
  | real .bfloat16 => True
  | complex false => True
  | _ => False

variable {t u : ItemType} {wideMode wideMode' : Bool}

lemma IsSingle.narrowed_eq (ht : t.IsSingle) : t.narrowed wideMode = t := by
  cases wideMode with
  | true => rfl
  | false =>
    match t, ht with
    | real .float32, _ => rfl
    | real .bfloat16, _ => rfl
    | complex false, _ => rfl

lemma IsSingle.joinDevice (ht : t.IsSingle) (hu : u.IsSingle) : (t.joinDevice u).IsSingle := by
  match t, ht, u, hu with
  | real .float32, _, real .float32, _ => trivial
  | real .float32, _, real .bfloat16, _ => trivial
  | real .float32, _, complex false, _ => trivial
  | real .bfloat16, _, real .float32, _ => trivial
  | real .bfloat16, _, real .bfloat16, _ => trivial
  | real .bfloat16, _, complex false, _ => trivial
  | complex false, _, real .float32, _ => trivial
  | complex false, _, real .bfloat16, _ => trivial
  | complex false, _, complex false, _ => trivial

lemma IsSingle.joinDevice_integer (ht : t.IsSingle) (wide : Bool) :
    ((integer wide).joinDevice t).IsSingle := by
  cases t with
  | integer wide => exact ht.elim
  | real t => exact ht
  | complex wide => exact ht

/-- The type of a plain number yields to it. -/
lemma IsSingle.yield_eq (ht : t.IsSingle) (u : FloatType) : (real u).yield t = (t, false) := by
  cases t with
  | integer wide => exact ht.elim
  | real t => rfl
  | complex wide => rfl

/-- A double that a narrow device has rounded to single precision becomes the same item. -/
lemma IsSingle.cast_double (ht : t.IsSingle) {x : Number} (hx : float64.Holds x) :
    (real .float32).cast t (.ofReal (float32.convert x)) =
      (real .float64).cast t (.ofReal (float64.convert x)) := by
  have hsingle : float32.convert (float32.convert x) = float32.convert x :=
    convert_of_holds (holds_convert x)
  have hrounding : float32.rounding.convert (float32.convert x) = float32.rounding.convert x :=
    hsingle
  match t, ht with
  | real .float32, _ => simp [cast, ComplexNumber.ofReal, hsingle, convert_of_holds hx]
  | real .bfloat16, _ =>
    simp only [cast, ComplexNumber.ofReal, convert_of_holds hx]
    simp only [convert] at hrounding ⊢
    rw [hrounding]
  | complex false, _ =>
    simp [cast, ComplexNumber.ofReal, part, hsingle, convert_of_holds hx]

end ItemType

namespace NumericArray

variable {a b : NumericArray} {wideMode wideMode' : Bool}

lemma onDevice_single (ha : a.type.IsSingle) (wideMode : Bool) :
    a.onDevice wideMode = { a.cast a.type with residence := .device } := by
  rw [onDevice, ha.narrowed_eq]

/-- Joined arrays of single precision are the same in both modes. -/
lemma joined_single {as : List NumericArray} (hne : as ≠ []) (has : ∀ a ∈ as, a.type.IsSingle)
    (wideMode wideMode' : Bool) :
    joined wideMode as = joined wideMode' as ∧ (joined wideMode as).type.IsSingle := by
  have hdevice : as.map (onDevice wideMode) = as.map (onDevice wideMode') :=
    List.map_congr_left fun a ha => by
      rw [onDevice_single (has a ha), onDevice_single (has a ha)]
  refine ⟨by simp only [joined, hdevice], ?_⟩
  have htype {a : NumericArray} (ha : a ∈ as) : (a.onDevice wideMode).type.IsSingle := by
    have h : (a.onDevice wideMode).type = a.type := (has a ha).narrowed_eq
    exact h ▸ has a ha
  have hfold (bs : List NumericArray) (hbs : ∀ b ∈ bs, b.type.IsSingle) (t : ItemType)
      (ht : t.IsSingle) : (bs.foldl (fun t a => t.joinDevice a.type) t).IsSingle := by
    induction bs generalizing t with
    | nil => exact ht
    | cons b bs ih =>
      exact ih (fun c hc => hbs c (by simp [hc])) _ (ht.joinDevice (hbs b (by simp)))
  obtain ⟨a, rest, rfl⟩ := List.exists_cons_of_ne_nil hne
  refine hfold (rest.map (onDevice wideMode)) ?_ _ ((htype (by simp)).joinDevice_integer false)
  intro b hb
  obtain ⟨c, hc, rfl⟩ := List.mem_map.mp hb
  exact htype (by simp [hc])

end NumericArray

namespace Value

variable {v w y slope : Value} {wideMode wideMode' : Bool}

/-- An array on the device in single precision, or in a type that doubles reach by way of it. -/
def IsSingle : Value → Prop
  | array a => a.residence = .device ∧ a.weak = false ∧ a.type.IsSingle
  | _ => False

/-- On the device the wide mode does not matter for arrays of single precision. -/
lemma combine_single (op : Operation) (hv : v.IsSingle) (hw : w.IsSingle) :
    v.combine wideMode op w = v.combine wideMode' op w := by
  cases v with
  | array a =>
    cases w with
    | array b =>
      obtain ⟨hplace, -, ha⟩ := hv
      obtain ⟨-, -, hb⟩ := hw
      have hdevice (wideMode : Bool) : (array a).combine wideMode op (array b) =
          (array a).combineOnDevice wideMode op (array b) := by
        simp [combine, combineWith, side, hplace]
      rw [hdevice, hdevice, combineOnDevice_eq rfl rfl, combineOnDevice_eq rfl rfl,
        NumericArray.onDevice_single ha, NumericArray.onDevice_single ha,
        NumericArray.onDevice_single hb, NumericArray.onDevice_single hb]
    | _ => exact hw.elim
  | _ => exact hv.elim

/-- Nor does it for such an array and a double. -/
lemma combine_single_double (op : Operation) (hv : v.IsSingle) {x : Number}
    (hx : float64.Holds x) (wideMode wideMode' : Bool) :
    v.combine wideMode op (real x) = v.combine wideMode' op (real x) ∧
      ∀ w, v.combine wideMode op (real x) = .ok w → w.IsSingle := by
  cases v with
  | array a =>
    obtain ⟨residence, type, weak, shape, items⟩ := a
    obtain ⟨rfl, rfl, ha⟩ : residence = .device ∧ weak = false ∧ type.IsSingle := hv
    let a : NumericArray := ⟨.device, type, false, shape, items⟩
    let factor (t : FloatType) : NumericArray :=
      ⟨.device, .real t, true, [], [ItemType.cast (.real .float64) (.real t) (.ofReal x)]⟩
    let double : NumericArray :=
      ⟨.device, type, false, [], [ItemType.cast (.real .float64) type (.ofReal (float64.convert x))]⟩
    have hmeet (t : FloatType) (ht : t = .float32 ∨ t = .float64) :
        (a.cast type).meetOnDevice (factor t) = ((a.cast type).cast type, double) := by
      have htype : (a.cast type).deviceType (factor t) = (type, false) := ha.yield_eq t
      have hitem : ItemType.cast (.real t) type
          (ItemType.cast (.real .float64) (.real t) (.ofReal x)) =
          ItemType.cast (.real .float64) type (.ofReal (float64.convert x)) := by
        rcases ht with rfl | rfl
        · exact ha.cast_double hx
        · rfl
      unfold NumericArray.meetOnDevice
      rw [htype]
      simp only [NumericArray.cast, factor, List.map_cons, List.map_nil, hitem, double, a]
    have hcombine (wideMode : Bool) : (array a).combine wideMode op (real x) =
        (((a.cast type).cast type).zipItems (op.item type) double).map array := by
      let t : FloatType := if wideMode then .float64 else .float32
      have ht : t = .float32 ∨ t = .float64 := by cases wideMode <;> simp [t]
      have hfactor : (real x).deviceOperand? wideMode = some (.ok (factor t)) := rfl
      have hdevice : (array a).combine wideMode op (real x) =
          (array a).combineOnDevice wideMode op (real x) := rfl
      have harray : (array a).deviceOperand? wideMode = some (.ok (a.cast type)) :=
        congrArg (fun a => some (Except.ok a)) (NumericArray.onDevice_single ha wideMode)
      rw [hdevice, combineOnDevice_eq harray hfactor, hmeet t ht]
      rfl
    refine ⟨by rw [hcombine, hcombine], fun w hw => ?_⟩
    rw [hcombine] at hw
    unfold NumericArray.zipItems at hw
    split at hw
    · obtain rfl := Except.ok.inj hw
      exact ⟨rfl, rfl, ha⟩
    · simp [Except.map] at hw
  | _ => exact hv.elim

end Value

end AdaptiveStep
