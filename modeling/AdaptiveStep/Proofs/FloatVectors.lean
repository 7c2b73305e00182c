import AdaptiveStep.Proofs.OppositeValues

/-!
# Vectors of floats

Floats have a shape: a number has no axes, and the items of an array of a float type are numbers too.
Floats of one shape always have sums and products, and so do floats with a number. A vector of floats
therefore has an Euler step along a slope of its length, and as many real parts as it is long.
-/

namespace AdaptiveStep

open FloatType

namespace NumericArray

variable {a b : NumericArray} {shape shape' : List ℕ} {s t : FloatType} {wideMode : Bool}

/-- An array of a float type in a shape, with a single item if it has no axes. -/
structure Floats (a : NumericArray) (shape : List ℕ) : Prop where
  type_eq : ∃ t, a.type = .real t
  shape_eq : a.shape = shape
  single : shape = [] → ∃ z, a.items = [z]

lemma Floats.cast (ha : a.Floats shape) (t : FloatType) : (a.cast (.real t)).Floats shape := by
  refine ⟨⟨t, rfl⟩, ha.shape_eq, fun h => ?_⟩
  obtain ⟨z, hz⟩ := ha.single h
  exact ⟨a.type.cast (.real t) z, by simp [NumericArray.cast, hz]⟩

lemma floats_single (t : FloatType) (z : ComplexNumber) : (single (.real t) z).Floats [] :=
  ⟨⟨t, rfl⟩, rfl, fun _ => ⟨z, rfl⟩⟩

lemma Floats.onDevice (ha : a.Floats shape) : (a.onDevice wideMode).Floats shape := by
  obtain ⟨s, hs⟩ := ha.type_eq
  obtain ⟨t, ht⟩ := narrowed_real wideMode s
  obtain ⟨htype, hshape, hsingle⟩ := ha.cast t
  have hcast : a.onDevice wideMode = { a.cast (.real t) with residence := .device } := by
    simp [NumericArray.onDevice, hs, ht]
  rw [hcast]
  exact ⟨htype, hshape, hsingle⟩

lemma Floats.meetOnDevice (ha : a.Floats shape) (hb : b.Floats shape') :
    (a.meetOnDevice b).1.Floats shape ∧ (a.meetOnDevice b).2.Floats shape' := by
  obtain ⟨s, hs⟩ := ha.type_eq
  obtain ⟨t, ht⟩ := hb.type_eq
  obtain ⟨u, weak, hu⟩ := deviceType_real hs ht
  obtain ⟨htype, hshape, hsingle⟩ := ha.cast u
  obtain ⟨htype', hshape', hsingle'⟩ := hb.cast u
  simp only [NumericArray.meetOnDevice, hu]
  exact ⟨⟨htype, hshape, hsingle⟩, ⟨htype', hshape', hsingle'⟩⟩

/-- A vector meets a number and a vector of its length, and a number meets a number. -/
lemma Floats.zipItems (ha : a.Floats shape) (hb : b.Floats shape') (hvector : shape.length ≤ 1)
    (hmeet : shape' = shape ∨ shape' = []) (f : ComplexNumber → ComplexNumber → ComplexNumber) :
    ∃ c, a.zipItems f b = .ok c ∧ c.Floats shape := by
  have hresult {items : List ComplexNumber} (hsingle : shape = [] → ∃ z, items = [z]) :
      ({ a with shape, items } : NumericArray).Floats shape := ⟨ha.type_eq, rfl, hsingle⟩
  unfold NumericArray.zipItems
  rw [ha.shape_eq, hb.shape_eq]
  rcases shape with _ | ⟨n, _ | ⟨m, shape⟩⟩
  · obtain rfl : shape' = [] := by simpa using hmeet
    obtain ⟨z, hz⟩ := ha.single rfl
    obtain ⟨w, hw⟩ := hb.single rfl
    exact ⟨_, by simp [broadcastWith, padShape, joinAxes, stretch, hz, hw]; rfl,
      hresult fun _ => ⟨_, rfl⟩⟩
  · rcases hmeet with rfl | rfl
    · exact ⟨_, by simp [broadcastWith, padShape, joinAxes]; rfl, hresult fun h => by simp at h⟩
    · exact ⟨_, by simp [broadcastWith, padShape, joinAxes]; rfl, hresult fun h => by simp at h⟩
  · simp at hvector

end NumericArray

namespace Value

variable {v w : Value} {shape shape' : List ℕ} {wideMode : Bool}

/-- Floats in a shape. A number has no axes. -/
def IsFloats (shape : List ℕ) : Value → Prop
  | real _ => shape = []
  | scalar t _ => shape = [] ∧ ∃ u, t = .real u
  | array a => a.Floats shape
  | _ => False

lemma isFloats_toValue {a : NumericArray} (ha : a.Floats shape) : a.toValue.IsFloats shape := by
  obtain ⟨⟨t, ht⟩, rfl, hsingle⟩ := ha
  obtain ⟨residence, type, weak, shape, items⟩ := a
  obtain rfl : type = .real t := ht
  rcases residence with _ | _
  · rcases shape with _ | ⟨n, shape⟩
    · obtain ⟨z, rfl⟩ : ∃ z, items = [z] := hsingle rfl
      exact ⟨rfl, t, rfl⟩
    · exact ⟨⟨t, rfl⟩, rfl, nofun⟩
  · exact ⟨⟨t, rfl⟩, rfl, hsingle⟩

lemma deviceOperand_floats (wideMode : Bool) (hv : v.IsFloats shape) :
    ∃ a, v.deviceOperand? wideMode = some (.ok a) ∧ a.Floats shape := by
  cases v with
  | real x =>
    obtain rfl : shape = [] := hv
    exact ⟨_, rfl, ⟨_, rfl⟩, rfl, fun _ => ⟨_, rfl⟩⟩
  | scalar t z =>
    obtain ⟨rfl, u, rfl⟩ := hv
    exact ⟨_, rfl, (NumericArray.floats_single u z).onDevice⟩
  | array a => exact ⟨_, rfl, NumericArray.Floats.onDevice hv⟩
  | _ => exact hv.elim

lemma combineOnDevice_floats (op : Operation) (hv : v.IsFloats shape) (hw : w.IsFloats shape')
    (hvector : shape.length ≤ 1) (hmeet : shape' = shape ∨ shape' = []) :
    ∃ u, v.combineOnDevice wideMode op w = .ok u ∧ u.IsFloats shape := by
  obtain ⟨a, ha, hafloats⟩ := deviceOperand_floats wideMode hv
  obtain ⟨b, hb, hbfloats⟩ := deviceOperand_floats wideMode hw
  obtain ⟨hleft, hright⟩ := hafloats.meetOnDevice hbfloats
  obtain ⟨c, hc, hcfloats⟩ :=
    hleft.zipItems hright hvector hmeet (op.item (a.meetOnDevice b).1.type)
  exact ⟨.array c, by rw [combineOnDevice_eq ha hb, hc]; rfl, hcfloats⟩

/-- Floats on the host meet as arrays of one type, unless both are plain numbers. -/
lemma meet_floats (operation : String) (hv : v.IsFloats shape) (hw : w.IsFloats shape')
    (harray : ¬(v.side = .plain ∧ w.side = .plain)) :
    ∃ a b, HostOperand.meet operation v w = .ok (.numeric a b) ∧ a.Floats shape ∧ b.Floats shape' := by
  have hoperand {v : Value} {shape : List ℕ} (hv : v.IsFloats shape) :
      (∃ a, HostOperand.ofValue v = .ok (.numbers a) ∧ a.Floats shape) ∨
        ∃ x, v = real x ∧ shape = [] ∧ HostOperand.ofValue v = .ok (.plain (.real x)) := by
    cases v with
    | real x => exact .inr ⟨x, rfl, hv, rfl⟩
    | scalar t z =>
      obtain ⟨rfl, u, rfl⟩ := hv
      exact .inl ⟨_, rfl, NumericArray.floats_single u z⟩
    | array a => exact .inl ⟨a, rfl, hv⟩
    | _ => exact hv.elim
  unfold HostOperand.meet
  rcases hoperand hv with ⟨a, hva, ha⟩ | ⟨x, rfl, rfl, hvx⟩
  · obtain ⟨s, hs⟩ := ha.type_eq
    rcases hoperand hw with ⟨b, hwb, hb⟩ | ⟨y, rfl, rfl, hwy⟩
    · obtain ⟨t, ht⟩ := hb.type_eq
      obtain ⟨u, hu⟩ : ∃ u, (if a.weak then b.type else if b.weak then a.type
          else a.type.joinHost b.type) = .real u := by
        rw [hs, ht]
        split_ifs <;> exact ⟨_, rfl⟩
      refine ⟨_, _, by simp only [hva, hwb, bind, Except.bind, hu]; rfl, ha.cast u, hb.cast u⟩
    · refine ⟨a.cast (.real s), .single (.real s) (.ofReal (s.convert y)), ?_, ha.cast s,
        NumericArray.floats_single _ _⟩
      simp [hva, hwy, bind, Except.bind, PlainNumber.meet, hs, itemOf_float, pure, Except.pure]
  · rcases hoperand hw with ⟨b, hwb, hb⟩ | ⟨y, rfl, rfl, -⟩
    · obtain ⟨t, ht⟩ := hb.type_eq
      refine ⟨.single (.real t) (.ofReal (t.convert x)), b.cast (.real t), ?_,
        NumericArray.floats_single _ _, hb.cast t⟩
      simp [hvx, hwb, bind, Except.bind, PlainNumber.meet, ht, itemOf_float, pure, Except.pure]
    · exact absurd ⟨rfl, rfl⟩ harray

lemma combineOnHost_floats (itemOp : Value → Value → Except Failure Value) (op : Operation)
    (hv : v.IsFloats shape) (hw : w.IsFloats shape')
    (harray : ¬(v.side = .plain ∧ w.side = .plain)) (hvector : shape.length ≤ 1)
    (hmeet : shape' = shape ∨ shape' = []) :
    ∃ u, combineOnHost itemOp op v w = .ok u ∧ u.IsFloats shape := by
  obtain ⟨a, b, hab, ha, hb⟩ := meet_floats op.name hv hw harray
  obtain ⟨c, hc, hcfloats⟩ := ha.zipItems hb hvector hmeet (op.item a.type)
  exact ⟨c.toValue, by simp [combineOnHost, hab, hc, bind, Except.bind, pure, Except.pure],
    isFloats_toValue hcfloats⟩

@[simp] lemma side_real (x : Number) : (real x).side = .plain := rfl

@[simp] lemma side_scalar (t : ItemType) (z : ComplexNumber) : (scalar t z).side = .scalar := rfl

lemma side_array (a : NumericArray) : (array a).side = .device ∨ (array a).side = .array := by
  by_cases h : a.residence = .device <;> simp [side, h]

lemma real_of_plain (hv : v.IsFloats shape) (h : v.side = .plain) : ∃ x, v = real x ∧ shape = [] := by
  cases v with
  | real x => exact ⟨x, rfl, hv⟩
  | scalar t z => simp at h
  | array a => rcases side_array a with ha | ha <;> simp [ha] at h
  | _ => exact hv.elim

/-- Where floats meet: on the device if one of them is there, else on the host unless both are plain
numbers. -/
lemma combineWith_floats (itemOp : Value → Value → Except Failure Value) (op : Operation)
    (hv : v.IsFloats shape) (hw : w.IsFloats shape') :
    combineWith itemOp wideMode op v w =
      if v.side = .device ∨ w.side = .device then combineOnDevice wideMode op v w
      else if v.side = .plain ∧ w.side = .plain then combinePlain op v w
      else combineOnHost itemOp op v w := by
  cases v <;> cases w <;> try first | exact hv.elim | exact hw.elim
  case real.real => rfl
  case real.scalar => cases op <;> rfl
  case scalar.real => cases op <;> rfl
  case scalar.scalar => cases op <;> rfl
  case real.array x b => rcases side_array b with hb | hb <;> simp [combineWith, hb]
  case scalar.array t z b => rcases side_array b with hb | hb <;> simp [combineWith, hb]
  case array.real a y => rcases side_array a with ha | ha <;> simp [combineWith, ha]
  case array.scalar a t z => rcases side_array a with ha | ha <;> simp [combineWith, ha]
  case array.array a b =>
    rcases side_array a with ha | ha <;> rcases side_array b with hb | hb <;>
      simp [combineWith, ha, hb]

/-- Floats of one shape have sums, differences and products, and so do floats and a number. -/
theorem combine_floats (wideMode : Bool) (op : Operation) (hv : v.IsFloats shape)
    (hw : w.IsFloats shape') (hvector : shape.length ≤ 1) (hmeet : shape' = shape ∨ shape' = []) :
    ∃ u, v.combine wideMode op w = .ok u ∧ u.IsFloats shape := by
  rw [combine, combineWith_floats _ op hv hw]
  split_ifs with hdevice hplain
  · exact combineOnDevice_floats op hv hw hvector hmeet
  · obtain ⟨x, rfl, hshape⟩ := real_of_plain hv hplain.1
    obtain ⟨y, rfl, -⟩ := real_of_plain hw hplain.2
    exact ⟨_, rfl, hshape⟩
  · exact combineOnHost_floats _ op hv hw hplain hvector hmeet

/-! ### Vectors -/

/-- A vector of so many floats: a list of them, or an array with one axis. -/
def IsVector (n : ℕ) : Value → Prop
  | list items => items.length = n ∧ ∀ v ∈ items, v.IsFloats []
  | tuple items => items.length = n ∧ ∀ v ∈ items, v.IsFloats []
  | array a => a.Floats [n] ∧ a.items.length = n
  | _ => False

lemma mapM_ok {α β : Type} {f : α → Except Failure β} {xs : List α}
    (h : ∀ x ∈ xs, ∃ y, f x = .ok y) : ∃ ys, xs.mapM f = .ok ys ∧ ys.length = xs.length := by
  induction xs with
  | nil => exact ⟨[], rfl, rfl⟩
  | cons x xs ih =>
    obtain ⟨y, hy⟩ := h x (by simp)
    obtain ⟨ys, hys, hlength⟩ := ih fun x hx => h x (by simp [hx])
    exact ⟨y :: ys, by simp [List.mapM_cons, hy, hys, bind, Except.bind, pure, Except.pure],
      by simp [hlength]⟩

lemma mapM_error {α β : Type} {f : α → Except Failure β} {xs : List α} {e : Failure}
    (h : xs.mapM f = .error e) : ∃ x ∈ xs, f x = .error e := by
  induction xs with
  | nil => simp [pure, Except.pure] at h
  | cons x xs ih =>
    rw [List.mapM_cons] at h
    cases hx : f x with
    | error e' =>
      obtain rfl : e' = e := by simpa [hx, bind, Except.bind] using h
      exact ⟨x, by simp, hx⟩
    | ok y =>
      cases hxs : xs.mapM f with
      | error e' =>
        obtain rfl : e' = e := by simpa [hx, hxs, bind, Except.bind] using h
        obtain ⟨w, hw, hfails⟩ := ih hxs
        exact ⟨w, by simp [hw], hfails⟩
      | ok ys => simp [hx, hxs, bind, Except.bind, pure, Except.pure] at h

lemma pieces_single {α : Type} (xs : List α) :
    NumericArray.pieces [] xs xs.length = xs.map fun x => [x] := by
  induction xs with
  | nil => rfl
  | cons x xs ih => simp [NumericArray.pieces, NumericArray.itemCount, ih]

variable {n : ℕ} {y slope : Value}

lemma elements_vector (hv : v.IsVector n) :
    ∃ vs, v.elements = .ok vs ∧ vs.length = n ∧ ∀ w ∈ vs, w.IsFloats [] := by
  cases v with
  | list items => exact ⟨items, rfl, hv.1, hv.2⟩
  | tuple items => exact ⟨items, rfl, hv.1, hv.2⟩
  | array a =>
    obtain ⟨⟨⟨t, ht⟩, hshape, -⟩, hlength⟩ := hv
    obtain ⟨residence, type, weak, shape, items⟩ := a
    obtain rfl : type = .real t := ht
    obtain rfl : shape = [n] := hshape
    obtain rfl : items.length = n := hlength
    refine ⟨_, rfl, by simp [pieces_single], fun w hw => ?_⟩
    rw [pieces_single, List.map_map, List.map_map] at hw
    obtain ⟨z, -, rfl⟩ := List.mem_map.mp hw
    exact isFloats_toValue ⟨⟨t, rfl⟩, rfl, fun _ => ⟨z, rfl⟩⟩
  | _ => exact hv.elim

/-- A vector of floats has an Euler step along a slope of its length. -/
theorem eulerStep_vector (wideMode : Bool) (hy : y.IsVector n) (hslope : slope.IsVector n)
    (h : Number) : ∃ u, eulerStep wideMode y slope (.real h) = .ok u := by
  let advance (y slope : Value) : Except Failure Value := do
    y.combine wideMode .add (← slope.combine wideMode .mul (.real h))
  have hadvance (shape : List ℕ) {y slope : Value} (hy : y.IsFloats shape)
      (hslope : slope.IsFloats shape) (hvector : shape.length ≤ 1) :
      ∃ u, advance y slope = .ok u := by
    have hstep : (Value.real h).IsFloats [] := rfl
    obtain ⟨product, hproduct, hfloats⟩ :=
      combine_floats wideMode .mul hslope hstep hvector (.inr rfl)
    obtain ⟨u, hu, -⟩ := combine_floats wideMode .add hy hfloats hvector (.inl rfl)
    exact ⟨u, by simp [advance, hproduct, hu, bind, Except.bind]⟩
  unfold eulerStep
  dsimp only
  split_ifs with harrays
  · -- two arrays are advanced as a whole, everything else number by number
    obtain ⟨⟨a, rfl⟩, ⟨b, rfl⟩⟩ : (∃ a, y = .array a) ∧ ∃ b, slope = .array b := by
      cases y <;> cases slope <;> simp_all [isNumericArray]
    exact hadvance [n] hy.1 hslope.1 le_rfl
  · obtain ⟨ys, hys, -, hynumbers⟩ := elements_vector hy
    obtain ⟨slopes, hslopes, -, hslopenumbers⟩ := elements_vector hslope
    have hpairs : ∀ p ∈ ys.zip slopes, ∃ u, advance p.1 p.2 = .ok u := fun p hp =>
      hadvance [] (hynumbers p.1 (List.of_mem_zip hp).1) (hslopenumbers p.2 (List.of_mem_zip hp).2)
        (by simp)
    obtain ⟨us, hus, -⟩ := mapM_ok hpairs
    exact ⟨.list us, by simp only [advance, hys, hslopes, bind, Except.bind] at hus ⊢; rw [hus]; rfl⟩

lemma realPart_floats (wideMode : Bool) (hv : v.IsFloats []) : ∃ x, v.realPart wideMode = .ok x := by
  cases v with
  | real x => exact ⟨x, rfl⟩
  | scalar t z =>
    obtain ⟨-, u, rfl⟩ := hv
    exact ⟨_, rfl⟩
  | array a =>
    obtain ⟨z, hz⟩ := hv.single rfl
    exact ⟨realPart.onDevice wideMode a.type z, by simp only [realPart, hv.shape_eq, hz]⟩
  | _ => exact hv.elim

/-- A vector of floats has as many real parts as it is long. -/
theorem doubleVector_vector (wideMode : Bool) (hv : v.IsVector n) :
    ∃ xs, v.doubleVector wideMode = .ok xs ∧ xs.length = n := by
  have hlist {items : List Value} (hlength : items.length = n) (h : ∀ v ∈ items, v.IsFloats []) :
      ∃ xs, items.mapM (realPart wideMode) = .ok xs ∧ xs.length = n :=
    hlength ▸ mapM_ok fun v hv => realPart_floats wideMode (h v hv)
  cases v with
  | list items => exact hlist hv.1 hv.2
  | tuple items => exact hlist hv.1 hv.2
  | array a => exact ⟨_, rfl, by simpa using hv.2⟩
  | _ => exact hv.elim

end Value

/-- Arrays of floats, one after the other, are a vector of floats. -/
lemma NumericArray.joined_vector (wideMode : Bool) {as : List NumericArray} {sizes : List ℕ}
    (has : List.Forall₂ (fun a n => (Value.array a).IsVector n) as sizes) (hne : as ≠ []) :
    (Value.array (joined wideMode as)).IsVector sizes.sum := by
  have hreal : ∀ a ∈ as, ∃ t, a.type = .real t := by
    clear hne
    induction has with
    | nil => simp
    | cons h _ ih =>
      intro b hb
      rcases List.mem_cons.mp hb with rfl | hb
      · exact h.1.type_eq
      · exact ih b hb
  have hlengths (t : ItemType) :
      (((as.map (onDevice wideMode)).map fun a => (a.cast t).items).flatten).length = sizes.sum := by
    clear hne hreal
    induction has with
    | nil => rfl
    | cons h _ ih => simp_all [onDevice, cast, Value.IsVector]
  refine ⟨⟨(joined_opposite wideMode hne hreal).2, ?_, by simp⟩, hlengths _⟩
  simp only [joined]
  rw [hlengths]

namespace State

open Value

/-- What blocks of one kind `V` have to satisfy for the vector that they are joined to to be of this kind
too: they have elements that satisfy `E`, all lists of such elements are of the kind, and among arrays
it is that of the vectors of floats. -/
structure JoinClosed (V : ℕ → Value → Prop) (E : Value → Prop) : Prop where
  elements : ∀ {n v}, V n v → ∃ vs, v.elements = .ok vs ∧ vs.length = n ∧ ∀ w ∈ vs, E w
  list : ∀ {vs}, (∀ w ∈ vs, E w) → V vs.length (.list vs)
  array : ∀ {n a}, V n (.array a) ↔ (Value.array a).IsVector n

variable {V : ℕ → Value → Prop} {E : Value → Prop} {blocks : List Value} {sizes : List ℕ}

lemma JoinClosed.mapM_elements (hV : JoinClosed V E) (h : List.Forall₂ (fun b n => V n b) blocks sizes) :
    ∃ vss : List (List Value), blocks.mapM Value.elements = .ok vss ∧
      vss.flatten.length = sizes.sum ∧ ∀ v ∈ vss.flatten, E v := by
  induction h with
  | nil => exact ⟨[], rfl, rfl, by simp⟩
  | cons hb _ ih =>
    obtain ⟨vs, hvs, hlength, helements⟩ := hV.elements hb
    obtain ⟨vss, hvss, hsum, hrest⟩ := ih
    refine ⟨vs :: vss, by simp [List.mapM_cons, hvs, hvss, bind, Except.bind, pure, Except.pure],
      by simp [hlength, ← hsum], fun v hv => ?_⟩
    rw [List.flatten_cons, List.mem_append] at hv
    exact hv.elim (helements v) (hrest v)

/-- Blocks make one vector of their kind. -/
theorem JoinClosed.joinBlocks (hV : JoinClosed V E) (wideMode : Bool)
    (h : List.Forall₂ (fun b n => V n b) blocks sizes) (hne : blocks ≠ []) :
    ∃ v, State.joinBlocks wideMode blocks = .ok v ∧ V sizes.sum v := by
  obtain ⟨vss, hvss, hlength, helements⟩ := hV.mapM_elements h
  unfold State.joinBlocks
  split
  · rename_i block
    rcases h with _ | ⟨hb, hnil⟩
    cases hnil
    exact ⟨block, rfl, by simpa using hb⟩
  · cases harrays : blocks.mapM numericArray? with
    | some as =>
      obtain rfl := arrays_of_mapM harrays
      rw [List.forall₂_map_left_iff] at h
      have hvectors : List.Forall₂ (fun a n => (Value.array a).IsVector n) as sizes :=
        h.imp fun _ _ => hV.array.mp
      exact ⟨_, rfl, hV.array.mpr (NumericArray.joined_vector wideMode hvectors (by simpa using hne))⟩
    | none =>
      exact ⟨.list vss.flatten, by simp [hvss, bind, Except.bind, pure, Except.pure],
        hlength ▸ hV.list helements⟩

lemma joinClosed_vectors : JoinClosed (fun n v => v.IsVector n) (fun v => v.IsFloats []) :=
  ⟨elements_vector, fun h => ⟨rfl, h⟩, Iff.rfl⟩

/-- Blocks of floats make one vector. -/
theorem joinBlocks_vector (wideMode : Bool) (h : List.Forall₂ (fun b n => b.IsVector n) blocks sizes)
    (hne : blocks ≠ []) : ∃ v, State.joinBlocks wideMode blocks = .ok v ∧ v.IsVector sizes.sum :=
  joinClosed_vectors.joinBlocks wideMode h hne

end State

end AdaptiveStep
