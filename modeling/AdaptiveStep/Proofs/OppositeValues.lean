import AdaptiveStep.Proofs.Actions
import AdaptiveStep.Proofs.Conversions
import AdaptiveStep.Proofs.OddRounding
import AdaptiveStep.StartProblem

/-!
# Opposite values

Negation is exact on floats of every kind: on doubles, on items of float arrays, and on such arrays
as a whole. The product of two opposite factors is the product of the factors, and the real parts of
an opposite are the opposite real parts.
-/

namespace AdaptiveStep

open Extended FloatType

section

variable {α β γ δ ε : Type}

lemma NumericArray.pieces_map (f : α → β) (shape : List ℕ) (xs : List α) (count : ℕ) :
    pieces shape (xs.map f) count = (pieces shape xs count).map (List.map f) := by
  induction count generalizing xs with
  | zero => rfl
  | succ n ih => simp only [pieces, ← List.map_drop, ← List.map_take, ih, List.map_cons]

lemma stretch_map (f : α → β) (s t : List ℕ) (xs : List α) :
    stretch s t (xs.map f) = (stretch s t xs).map f := by
  induction s generalizing t xs with
  | nil => rfl
  | cons d ds ih =>
    cases t with
    | nil => rfl
    | cons e es =>
      have hparts : ((NumericArray.pieces ds (xs.map f) d).map (stretch ds es)).flatten =
          (((NumericArray.pieces ds xs d).map (stretch ds es)).flatten).map f := by
        rw [NumericArray.pieces_map, List.map_flatten, List.map_map, List.map_map]
        congr 2
        funext ys
        exact ih es ys
      simp only [stretch, hparts]
      split_ifs
      · rfl
      · simp [List.map_flatten, List.map_replicate]

/-- Items can be changed before two arrays meet or while they do. -/
lemma broadcastWith_map (h : γ → δ → ε) (f : α → γ) (g : β → δ) (s t : List ℕ) (xs : List α)
    (ys : List β) :
    broadcastWith h s (xs.map f) t (ys.map g) =
      broadcastWith (fun x y => h (f x) (g y)) s xs t ys := by
  simp only [broadcastWith, stretch_map, List.zipWith_map]

end

namespace NumericArray

def opposite (a : NumericArray) : NumericArray :=
  { a with items := a.items.map a.type.negItem }

variable {a b : NumericArray} {s t : FloatType} {wideMode : Bool}

lemma cast_opposite (ha : a.type = .real s) (t : FloatType) :
    a.opposite.cast (.real t) = (a.cast (.real t)).opposite := by
  have hitem (z : ComplexNumber) :
      ItemType.cast (.real s) (.real t) (ItemType.negItem (.real s) z) =
        ItemType.negItem (.real t) (ItemType.cast (.real s) (.real t) z) := by
    simp only [ItemType.cast, ItemType.negItem, ComplexNumber.ofReal, convert_neg]
  simp only [cast, opposite, ha, List.map_map]
  congr 1
  exact List.map_congr_left fun z _ => hitem z

lemma narrowed_real (wideMode : Bool) (t : FloatType) :
    ∃ u, (ItemType.real t).narrowed wideMode = .real u := by
  cases wideMode <;> cases t <;> exact ⟨_, rfl⟩

lemma onDevice_opposite (ha : a.type = .real s) :
    a.opposite.onDevice wideMode = (a.onDevice wideMode).opposite := by
  obtain ⟨u, hu⟩ := narrowed_real wideMode s
  have hcast := cast_opposite ha u
  have htype : a.opposite.type = .real s := ha
  simp only [onDevice, ha, htype, hu, hcast]
  rfl

lemma deviceType_real (ha : a.type = .real s) (hb : b.type = .real t) :
    ∃ u weak, a.deviceType b = (.real u, weak) := by
  unfold deviceType
  rw [ha, hb]
  cases a.weak <;> cases b.weak <;> exact ⟨_, _, rfl⟩

lemma meetOnDevice_opposite (ha : a.type = .real s) (hb : b.type = .real t) :
    ∃ u, (a.meetOnDevice b).1.type = .real u ∧ (a.meetOnDevice b).2.type = .real u ∧
      a.opposite.meetOnDevice b.opposite =
        ((a.meetOnDevice b).1.opposite, (a.meetOnDevice b).2.opposite) := by
  obtain ⟨u, weak, hu⟩ := deviceType_real ha hb
  have hopposite : a.opposite.deviceType b.opposite = (.real u, weak) := hu
  refine ⟨u, ?_, ?_, ?_⟩
  · simp [meetOnDevice, hu, cast]
  · simp [meetOnDevice, hu, cast]
  · simp only [meetOnDevice, hu, hopposite, cast_opposite ha, cast_opposite hb]
    rfl

lemma zipItems_mul_opposite (ha : a.type = .real t) (hb : b.type = .real t) :
    a.opposite.zipItems (Operation.mul.item (.real t)) b.opposite =
      a.zipItems (Operation.mul.item (.real t)) b := by
  have hitem (z w : ComplexNumber) :
      Operation.mul.item (.real t) (ItemType.negItem (.real t) z) (ItemType.negItem (.real t) w) =
        Operation.mul.item (.real t) z w := by
    simp only [Operation.item, Operation.number, ItemType.negItem, ComplexNumber.ofReal,
      arithmetic_mul, Rounding.mul_neg_neg t.rounding_isOdd]
  simp only [zipItems, opposite, ha, hb, broadcastWith_map, hitem]

end NumericArray

namespace Value

/-- The opposite of an element that has one. -/
def negated (v : Value) : Value :=
  match v.neg with
  | .ok w => w
  | .error _ => v

/-- An element whose negation is exact: a double, or items of a float type. -/
def IsFloat : Value → Prop
  | real x => float64.Holds x
  | scalar t _ => ∃ u, t = .real u
  | array a => (∃ u, a.type = .real u) ∧ a.toValue = array a
  | _ => False

variable {v : Value} {wideMode : Bool}

@[simp] lemma negated_real (x : Number) : (real x).negated = real x.neg := rfl

@[simp] lemma negated_scalar (t : ItemType) (z : ComplexNumber) :
    (scalar t z).negated = scalar t (t.negItem z) := rfl

lemma negated_array (a : NumericArray) : (array a).negated = a.opposite.toValue := rfl

/-- An array and its opposite are both values of their own, or the scalars that they hold. -/
lemma toValue_cases (a : NumericArray) :
    (a.toValue = array a ∧ a.opposite.toValue = array a.opposite) ∨
      ∃ z, a.toValue = scalar a.type z ∧ a.opposite.toValue = scalar a.type (a.type.negItem z) := by
  obtain ⟨residence, type, weak, shape, items⟩ := a
  rcases residence with _ | _ <;> rcases shape with _ | ⟨n, shape⟩ <;>
    rcases items with _ | ⟨z, _ | ⟨w, items⟩⟩ <;>
    simp [NumericArray.toValue, NumericArray.opposite]

lemma toValue_opposite {a : NumericArray} (h : a.toValue = array a) :
    a.opposite.toValue = array a.opposite := by
  obtain ⟨-, hopposite⟩ | ⟨z, hscalar, -⟩ := toValue_cases a
  · exact hopposite
  · simp [hscalar] at h

lemma negated_toValue (a : NumericArray) : a.toValue.negated = a.opposite.toValue := by
  obtain ⟨h, -⟩ | ⟨z, h, hopposite⟩ := toValue_cases a
  · rw [h, negated_array]
  · rw [h, hopposite, negated_scalar]

/-- Every float type takes a double for an item. -/
lemma itemOf_float (t : FloatType) (x : Number) :
    (ItemType.real t).itemOf (real x) = .ok (.ofReal (t.convert x)) := by
  cases t <;> rfl

/-- A host array times a double, from both factors' opposites. -/
lemma combineOnHost_mul_opposite {itemOp : Value → Value → Except Failure Value} {v w : Value}
    {a : NumericArray} {s : FloatType} (ha : a.type = .real s)
    (hv : HostOperand.ofValue v = .ok (.numbers a))
    (hw : HostOperand.ofValue w = .ok (.numbers a.opposite)) (h : Number) :
    w.combineOnHost itemOp .mul (real h.neg) = v.combineOnHost itemOp .mul (real h) := by
  have hfactor (h : Number) : HostOperand.ofValue (real h) = .ok (.plain (.real h)) := rfl
  have hmeet {u : Value} {b : NumericArray} (hb : b.type = .real s)
      (hu : HostOperand.ofValue u = .ok (.numbers b)) (h : Number) :
      HostOperand.meet Operation.mul.name u (real h) =
        .ok (.numeric (b.cast (.real s)) (.single (.real s) (.ofReal (s.convert h)))) := by
    unfold HostOperand.meet
    rw [hu, hfactor]
    simp [bind, Except.bind, PlainNumber.meet, hb, itemOf_float, pure, Except.pure]
  have hsingle : NumericArray.single (.real s) (.ofReal (s.convert h.neg)) =
      (NumericArray.single (.real s) (.ofReal (s.convert h))).opposite := by
    simp [NumericArray.single, NumericArray.opposite, ItemType.negItem, ComplexNumber.ofReal,
      convert_neg]
  unfold combineOnHost
  rw [hmeet ha hv, hmeet (b := a.opposite) ha hw, hsingle, NumericArray.cast_opposite ha]
  have hproduct := NumericArray.zipItems_mul_opposite (a := a.cast (.real s))
    (b := .single (.real s) (.ofReal (s.convert h))) (t := s) rfl rfl
  simp only [bind, Except.bind]
  rw [show (a.cast (.real s)).opposite.type = .real s from rfl,
    show (a.cast (.real s)).type = .real s from rfl, hproduct]

/-- Two values that have a place on the device meet there. -/
lemma combineOnDevice_eq {op : Operation} {v w : Value} {a b : NumericArray}
    (hv : v.deviceOperand? wideMode = some (.ok a)) (hw : w.deviceOperand? wideMode = some (.ok b)) :
    v.combineOnDevice wideMode op w =
      ((a.meetOnDevice b).1.zipItems (op.item (a.meetOnDevice b).1.type)
        (a.meetOnDevice b).2).map array := by
  simp only [combineOnDevice, hv, hw, bind, Except.bind]
  cases (a.meetOnDevice b).1.zipItems (op.item (a.meetOnDevice b).1.type) (a.meetOnDevice b).2 <;> rfl

/-- An array times a double on the device, from both factors' opposites. -/
lemma combineOnDevice_mul_opposite {a : NumericArray} {s : FloatType} (ha : a.type = .real s)
    (h : Number) :
    (array a.opposite).combineOnDevice wideMode .mul (real h.neg) =
      (array a).combineOnDevice wideMode .mul (real h) := by
  obtain ⟨u, hu⟩ := NumericArray.narrowed_real wideMode s
  let t : FloatType := if wideMode then .float64 else .float32
  let factor (h : Number) : NumericArray :=
    ⟨.device, .real t, true, [], [ItemType.cast (.real .float64) (.real t) (.ofReal h)]⟩
  have hfactor (h : Number) : (real h).deviceOperand? wideMode = some (.ok (factor h)) := rfl
  have hopposite : factor h.neg = (factor h).opposite := by
    simp [factor, NumericArray.opposite, ItemType.cast, ItemType.negItem, ComplexNumber.ofReal,
      convert_neg]
  have hnarrowed : (a.onDevice wideMode).type = .real u := by
    simp [NumericArray.onDevice, NumericArray.cast, ha, hu]
  obtain ⟨r, hleft, hright, hmeet⟩ :=
    NumericArray.meetOnDevice_opposite (b := factor h) hnarrowed rfl
  have hproduct := NumericArray.zipItems_mul_opposite hleft hright
  have harray (b : NumericArray) :
      (array b).deviceOperand? wideMode = some (.ok (b.onDevice wideMode)) := rfl
  rw [combineOnDevice_eq (harray a.opposite) (hfactor h.neg),
    combineOnDevice_eq (harray a) (hfactor h), hopposite, NumericArray.onDevice_opposite ha, hmeet]
  dsimp only
  rw [show ((a.onDevice wideMode).meetOnDevice (factor h)).1.opposite.type = .real r from hleft,
    hleft, hproduct]

/-- The product of opposite factors. -/
theorem combine_mul_negated (hv : v.IsFloat) (h : Number) :
    v.negated.combine wideMode .mul (real h.neg) = v.combine wideMode .mul (real h) := by
  cases v with
  | real x =>
    change Except.ok (real (double.mul x.neg h.neg)) = .ok (real (double.mul x h))
    rw [double, arithmetic_mul, Rounding.mul_neg_neg float64.rounding_isOdd]
  | scalar t z =>
    obtain ⟨u, rfl⟩ := hv
    exact combineOnHost_mul_opposite (a := .single (.real u) z) rfl rfl rfl h
  | array a =>
    obtain ⟨⟨u, ha⟩, harray⟩ := hv
    rw [negated_array, toValue_opposite harray]
    cases hplace : a.residence
    · have hside (b : NumericArray) (hb : b.residence = .host) (h : Number) :
          (array b).combine wideMode .mul (real h) =
            (array b).combineOnHost (combineWith (combinePlain .mul) wideMode .mul) .mul
              (real h) := by
        simp [combine, combineWith, side, hb]
      rw [hside a hplace, hside a.opposite hplace]
      exact combineOnHost_mul_opposite ha rfl rfl h
    · have hside (b : NumericArray) (hb : b.residence = .device) (h : Number) :
          (array b).combine wideMode .mul (real h) =
            (array b).combineOnDevice wideMode .mul (real h) := by
        simp [combine, combineWith, side, hb]
      rw [hside a hplace, hside a.opposite hplace]
      exact combineOnDevice_mul_opposite ha h
  | _ => exact hv.elim

/-! ### Vectors -/

lemma mapM_map {m : Type → Type} [Monad m] [LawfulMonad m] {α β γ δ : Type} {f : α → β}
    {g : β → m γ} {g' : α → m δ} {k : δ → γ} {xs : List α} (h : ∀ x ∈ xs, g (f x) = k <$> g' x) :
    (xs.map f).mapM g = List.map k <$> xs.mapM g' := by
  induction xs with
  | nil => simp
  | cons x xs ih =>
    have hx := h x (by simp)
    have hxs := ih fun y hy => h y (by simp [hy])
    simp only [List.map_cons, List.mapM_cons, hx, hxs, bind_map_left, map_bind, map_pure]

lemma mem_of_mapM_ok {α β : Type} {g : α → Except Failure β} {xs : List α} {ys : List β}
    (h : xs.mapM g = .ok ys) {y : β} (hy : y ∈ ys) : ∃ x ∈ xs, g x = .ok y := by
  induction xs generalizing ys with
  | nil =>
    obtain rfl := Except.ok.inj h
    simp at hy
  | cons x xs ih =>
    rw [List.mapM_cons] at h
    obtain ⟨z, hz, h⟩ := AdaptiveStep.Except.bind_eq_ok.mp h
    obtain ⟨zs, hzs, h⟩ := AdaptiveStep.Except.bind_eq_ok.mp h
    obtain rfl := Except.ok.inj h
    rcases List.mem_cons.mp hy with rfl | hy
    · exact ⟨x, by simp, hz⟩
    · obtain ⟨w, hw, hwy⟩ := ih hzs hy
      exact ⟨w, by simp [hw], hwy⟩

lemma length_of_mapM_ok {α β : Type} {f : α → Except Failure β} {xs : List α} {ys : List β}
    (h : xs.mapM f = .ok ys) : ys.length = xs.length := by
  induction xs generalizing ys with
  | nil =>
    obtain rfl := Except.ok.inj h
    rfl
  | cons x xs ih =>
    rw [List.mapM_cons] at h
    obtain ⟨y, -, h⟩ := AdaptiveStep.Except.bind_eq_ok.mp h
    obtain ⟨zs, hzs, h⟩ := AdaptiveStep.Except.bind_eq_ok.mp h
    rw [← Except.ok.inj h, List.length_cons, List.length_cons, ih hzs]

lemma arrays_of_mapM {blocks : List Value} {as : List NumericArray}
    (h : blocks.mapM numericArray? = some as) : blocks = as.map array := by
  induction blocks generalizing as with
  | nil =>
    obtain rfl : [] = as := by simpa using h
    rfl
  | cons b blocks ih =>
    cases b with
    | array a =>
      simp only [List.mapM_cons, numericArray?] at h
      obtain ⟨rest, hrest, rfl⟩ : ∃ rest, blocks.mapM numericArray? = some rest ∧ a :: rest = as := by
        simpa [Option.bind_eq_some_iff] using h
      rw [ih hrest, List.map_cons]
    | _ => simp [List.mapM_cons, numericArray?] at h

/-- A vector of floats: a list of them, or an array with axes. -/
def IsFloatVector : Value → Prop
  | list items => ∀ v ∈ items, v.IsFloat
  | tuple items => ∀ v ∈ items, v.IsFloat
  | array a => (∃ u, a.type = .real u) ∧ a.shape ≠ []
  | _ => False

def mirrored : Value → Value
  | list items => list (items.map negated)
  | tuple items => tuple (items.map negated)
  | v => v.negated

lemma toValue_of_axes {a : NumericArray} (h : a.shape ≠ []) : a.toValue = array a := by
  obtain ⟨residence, type, weak, shape, items⟩ := a
  rcases residence with _ | _ <;> rcases shape with _ | ⟨n, shape⟩ <;>
    simp_all [NumericArray.toValue]

lemma isFloat_toValue {a : NumericArray} {u : FloatType} (ha : a.type = .real u) :
    a.toValue.IsFloat := by
  obtain ⟨h, -⟩ | ⟨z, h, -⟩ := toValue_cases a
  · rw [h]
    exact ⟨⟨u, ha⟩, h⟩
  · rw [h]
    exact ⟨u, ha⟩

lemma mirrored_array {a : NumericArray} (h : a.shape ≠ []) :
    (array a).mirrored = array a.opposite := by
  change (array a).negated = _
  rw [negated_array, toValue_opposite (toValue_of_axes h)]

/-- The elements of the opposite vector are the opposite elements. -/
lemma elements_mirrored (hv : v.IsFloatVector) :
    v.mirrored.elements = v.elements.map (List.map negated) := by
  cases v with
  | list items => rfl
  | tuple items => rfl
  | array a =>
    obtain ⟨-, haxes⟩ := hv
    rw [mirrored_array haxes]
    obtain ⟨residence, type, weak, shape, items⟩ := a
    cases shape with
    | nil => exact absurd rfl haxes
    | cons n shape =>
      simp only [elements, NumericArray.rows?, NumericArray.opposite, NumericArray.pieces_map,
        List.map_map, Except.map]
      congr 1
      refine List.map_congr_left fun xs _ => ?_
      exact (negated_toValue ⟨residence, type, weak, shape, xs⟩).symm
  | _ => exact hv.elim

lemma isFloat_of_elements (hv : v.IsFloatVector) {vs : List Value} (h : v.elements = .ok vs) :
    ∀ w ∈ vs, w.IsFloat := by
  cases v with
  | list items => exact Except.ok.inj h ▸ hv
  | tuple items => exact Except.ok.inj h ▸ hv
  | array a =>
    obtain ⟨⟨u, ha⟩, haxes⟩ := hv
    obtain ⟨residence, type, weak, shape, items⟩ := a
    cases shape with
    | nil => exact absurd rfl haxes
    | cons n shape =>
      obtain rfl := Except.ok.inj h
      simp only [List.map_map, List.mem_map]
      rintro w ⟨xs, -, rfl⟩
      exact isFloat_toValue ha
  | _ => exact hv.elim

lemma realPart_negated (hv : v.IsFloat) :
    v.negated.realPart wideMode = (v.realPart wideMode).map Extended.neg := by
  cases v with
  | real x => rfl
  | scalar t z =>
    obtain ⟨u, rfl⟩ := hv
    simp [realPart, ItemType.negItem, ComplexNumber.ofReal, convert_neg, Except.map]
  | array a =>
    obtain ⟨⟨u, ha⟩, harray⟩ := hv
    rw [negated_array, toValue_opposite harray]
    obtain ⟨residence, type, weak, shape, items⟩ := a
    obtain rfl : type = .real u := ha
    obtain ⟨t, ht⟩ := NumericArray.narrowed_real wideMode u
    rcases shape with _ | ⟨n, shape⟩ <;> rcases items with _ | ⟨z, _ | ⟨w, items⟩⟩ <;>
      simp [realPart, realPart.onDevice, NumericArray.opposite, ht, ItemType.cast,
        ItemType.negItem, ComplexNumber.ofReal, convert_neg, Except.map]
  | _ => exact hv.elim

/-- The real parts of the opposite vector are the opposite real parts. -/
theorem doubleVector_mirrored (hv : v.IsFloatVector) :
    v.mirrored.doubleVector wideMode = (v.doubleVector wideMode).map (List.map Extended.neg) := by
  have hitems {items : List Value} (h : ∀ v ∈ items, v.IsFloat) :
      (items.map negated).mapM (realPart wideMode) =
        (items.mapM (realPart wideMode)).map (List.map Extended.neg) :=
    mapM_map fun v hv => realPart_negated (h v hv)
  cases v with
  | list items => exact hitems hv
  | tuple items => exact hitems hv
  | array a =>
    obtain ⟨⟨u, ha⟩, haxes⟩ := hv
    rw [mirrored_array haxes]
    simp [doubleVector, NumericArray.opposite, ha, ItemType.negItem, ComplexNumber.ofReal,
      convert_neg, Except.map]
  | _ => exact hv.elim

lemma holds_realPart (hv : v.IsFloat) {x : Number} (h : v.realPart wideMode = .ok x) :
    float64.Holds x := by
  cases v with
  | real y => exact Except.ok.inj h ▸ hv
  | scalar t z =>
    obtain ⟨u, rfl⟩ := hv
    exact Except.ok.inj h ▸ holds_convert _
  | array a =>
    simp only [realPart] at h
    split at h
    · exact Except.ok.inj h ▸ holds_convert _
    · simp at h
  | _ => exact hv.elim

lemma holds_doubleVector (hv : v.IsFloatVector) {xs : List Number}
    (h : v.doubleVector wideMode = .ok xs) : ∀ x ∈ xs, float64.Holds x := by
  have hitems {items : List Value} (hitems : ∀ v ∈ items, v.IsFloat)
      (h : items.mapM (realPart wideMode) = .ok xs) : ∀ x ∈ xs, float64.Holds x := by
    intro x hx
    obtain ⟨w, hw, hwx⟩ := mem_of_mapM_ok h hx
    exact holds_realPart (hitems w hw) hwx
  cases v with
  | list items => exact hitems hv h
  | tuple items => exact hitems hv h
  | array a =>
    obtain rfl := Except.ok.inj h
    simp only [List.mem_map]
    rintro x ⟨z, -, rfl⟩
    exact holds_convert _
  | _ => exact hv.elim

end Value

/-! ### Blocks and Euler steps -/

namespace NumericArray

lemma foldl_joinDevice_real {as : List NumericArray} (has : ∀ a ∈ as, ∃ u, a.type = .real u)
    {t : ItemType} (ht : ∃ u, t = .real u) :
    ∃ u, as.foldl (fun t a => t.joinDevice a.type) t = .real u := by
  induction as generalizing t with
  | nil => exact ht
  | cons a as ih =>
    obtain ⟨u, rfl⟩ := ht
    obtain ⟨s, hs⟩ := has a (by simp)
    have hjoin : ∃ u', (ItemType.real u).joinDevice a.type = .real u' := by
      rw [hs]
      exact ⟨_, rfl⟩
    exact ih (fun b hb => has b (by simp [hb])) hjoin

/-- Opposite arrays one after the other are the opposite of the joined array. -/
lemma joined_opposite (wideMode : Bool) {as : List NumericArray} (hne : as ≠ [])
    (has : ∀ a ∈ as, ∃ u, a.type = .real u) :
    joined wideMode (as.map opposite) = (joined wideMode as).opposite ∧
      ∃ u, (joined wideMode as).type = .real u := by
  have hdevice {a : NumericArray} (ha : a ∈ as) : ∃ u, (a.onDevice wideMode).type = .real u := by
    obtain ⟨u, hu⟩ := has a ha
    obtain ⟨t, ht⟩ := narrowed_real wideMode u
    exact ⟨t, by simp [onDevice, cast, hu, ht]⟩
  have hmap : (as.map opposite).map (onDevice wideMode) =
      (as.map (onDevice wideMode)).map opposite := by
    simp only [List.map_map]
    refine List.map_congr_left fun a ha => ?_
    obtain ⟨u, hu⟩ := has a ha
    exact onDevice_opposite hu
  let common (bs : List NumericArray) : ItemType :=
    bs.foldl (fun t a => t.joinDevice a.type) (.integer false)
  have htype : ∃ u, common (as.map (onDevice wideMode)) = .real u := by
    obtain ⟨a, rest, rfl⟩ := List.exists_cons_of_ne_nil hne
    obtain ⟨u, hu⟩ := hdevice (a := a) (by simp)
    simp only [common, List.map_cons, List.foldl_cons, hu]
    refine foldl_joinDevice_real (fun b hb => ?_) ⟨u, rfl⟩
    obtain ⟨c, hc, rfl⟩ := List.mem_map.mp hb
    exact hdevice (by simp [hc])
  obtain ⟨u, hu⟩ := htype
  have hfold : common ((as.map (onDevice wideMode)).map opposite) = .real u := by
    rw [← hu]
    simp only [common, List.foldl_map]
    rfl
  have hitems : (((as.map (onDevice wideMode)).map opposite).map fun a =>
      (a.cast (.real u)).items).flatten =
      ((as.map (onDevice wideMode)).map fun a => (a.cast (.real u)).items).flatten.map
        (ItemType.negItem (.real u)) := by
    rw [List.map_flatten]
    simp only [List.map_map]
    congr 1
    refine List.map_congr_left fun a ha => ?_
    obtain ⟨t, ht⟩ := hdevice ha
    exact congrArg NumericArray.items (cast_opposite ht u)
  refine ⟨?_, u, hu⟩
  simp only [common] at hu hfold
  simp only [joined, hmap, hu, hfold, hitems, opposite, List.length_map]

end NumericArray

namespace State

open Value

variable {wideMode : Bool}

lemma joinBlocks_cons_cons {b c : Value} {bs : List Value} :
    joinBlocks wideMode (b :: c :: bs) =
      match (b :: c :: bs).mapM Value.numericArray? with
      | some as => .ok (.array (.joined wideMode as))
      | none => do return .list (← (b :: c :: bs).mapM Value.elements).flatten := rfl

/-- Blocks of opposite floats make the opposite of one vector of floats. -/
theorem joinBlocks_mirrored (wideMode : Bool) {blocks : List Value} (hne : blocks ≠ [])
    (hblocks : ∀ b ∈ blocks, b.IsFloatVector) :
    joinBlocks wideMode (blocks.map mirrored) = (joinBlocks wideMode blocks).map mirrored ∧
      ∀ v, joinBlocks wideMode blocks = .ok v → v.IsFloatVector := by
  obtain ⟨b, bs, rfl⟩ := List.exists_cons_of_ne_nil hne
  cases bs with
  | nil => exact ⟨rfl, fun v hv => Except.ok.inj hv ▸ hblocks b (by simp)⟩
  | cons c bs =>
    have harrays : ((b :: c :: bs).map mirrored).mapM numericArray? =
        List.map NumericArray.opposite <$> (b :: c :: bs).mapM numericArray? := by
      refine mapM_map fun v hv => ?_
      have hv := hblocks v hv
      cases v with
      | array a => rw [mirrored_array hv.2]; rfl
      | list items => rfl
      | tuple items => rfl
      | _ => exact hv.elim
    have helements : ((b :: c :: bs).map mirrored).mapM Value.elements =
        List.map (List.map negated) <$> (b :: c :: bs).mapM Value.elements :=
      mapM_map fun v hv => elements_mirrored (hblocks v hv)
    rw [List.map_cons, List.map_cons, joinBlocks_cons_cons, joinBlocks_cons_cons,
      ← List.map_cons, ← List.map_cons, harrays, helements]
    cases has : (b :: c :: bs).mapM numericArray? with
    | some as =>
      have hreal : ∀ a ∈ as, ∃ u, a.type = .real u := by
        intro a ha
        rw [arrays_of_mapM has] at hblocks
        exact (hblocks (array a) (List.mem_map_of_mem ha)).1
      have hsome : as ≠ [] := by
        rintro rfl
        simpa using arrays_of_mapM has
      obtain ⟨hopposite, htype⟩ := NumericArray.joined_opposite wideMode hsome hreal
      have haxes : (NumericArray.joined wideMode as).shape ≠ [] := by simp [NumericArray.joined]
      refine ⟨?_, fun v hv => Except.ok.inj hv ▸ ⟨htype, haxes⟩⟩
      simp only [Option.map_eq_map, Option.map_some, hopposite, Except.map, mirrored_array haxes]
    | none =>
      cases hvs : (b :: c :: bs).mapM Value.elements with
      | error e => exact ⟨rfl, fun v hv => by simp [bind, Except.bind] at hv⟩
      | ok vs =>
        refine ⟨?_, fun v hv => ?_⟩
        · simp [bind, Except.bind, Functor.map, Except.map, pure, Except.pure, mirrored,
            List.map_flatten]
        · obtain rfl := Except.ok.inj hv
          intro w hw
          obtain ⟨ws, hws, hw⟩ := List.mem_flatten.mp hw
          obtain ⟨block, hblock, hws⟩ := mem_of_mapM_ok hvs hws
          exact isFloat_of_elements (hblocks block hblock) hws w hw

end State

variable {wideMode : Bool}

open Value in
/-- Euler steps along opposite slopes, in opposite directions, end at the same state. -/
theorem eulerStep_mirrored {y slope : Value} (hslope : slope.IsFloatVector) (h : Number) :
    eulerStep wideMode y slope.mirrored (.real h.neg) = eulerStep wideMode y slope (.real h) := by
  have harray : slope.mirrored.isNumericArray = slope.isNumericArray := by
    cases slope with
    | array a => rw [mirrored_array hslope.2]; rfl
    | list items => rfl
    | tuple items => rfl
    | _ => exact hslope.elim
  unfold eulerStep
  simp only [harray]
  split_ifs with hwhole
  · have hfloat : slope.IsFloat := by
      cases slope with
      | array a => exact ⟨hslope.1, toValue_of_axes hslope.2⟩
      | _ => simp [isNumericArray] at hwhole
    have hmirrored : slope.mirrored = slope.negated := by
      cases slope with
      | array a => rfl
      | _ => simp [isNumericArray] at hwhole
    rw [hmirrored, combine_mul_negated hfloat]
  · rw [elements_mirrored hslope]
    cases hys : y.elements with
    | error e => rfl
    | ok ys =>
      cases hslopes : slope.elements with
      | error e => rfl
      | ok slopes =>
        have hzip : ys.zip (slopes.map negated) = (ys.zip slopes).map fun p => (p.1, p.2.negated) := by
          rw [List.zip_map_right]
          rfl
        let advance (h : Number) (p : Value × Value) : Except Failure Value := do
          p.1.combine wideMode .add (← p.2.combine wideMode .mul (.real h))
        have hsteps : ((ys.zip slopes).map fun p => (p.1, p.2.negated)).mapM (advance h.neg) =
            List.map id <$> (ys.zip slopes).mapM (advance h) := by
          refine mapM_map fun p hp => ?_
          have hfloat := isFloat_of_elements hslope hslopes p.2 (List.of_mem_zip hp).2
          simp only [advance, combine_mul_negated hfloat, id_map]
        rw [List.map_id_fun, id_map] at hsteps
        simp only [Except.map, bind, Except.bind, hzip]
        simp only [advance, bind, Except.bind] at hsteps
        rw [hsteps]

end AdaptiveStep
