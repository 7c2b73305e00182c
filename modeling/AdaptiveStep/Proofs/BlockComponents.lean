import AdaptiveStep.Proofs.BlockEntries
import AdaptiveStep.Value.Items
import AdaptiveStep.Value.RealVector

/-!
# Dimensions and components

The components of a value are the scalars that it is made of, however deep they lie. The complete state
has the components of all blocks in order, and the real parts of a block are as many as its components.
The dimensions count the elements of the blocks instead, which for an array with two axes are its rows.
-/

namespace AdaptiveStep

open Value

lemma NumericArray.flatten_pieces {α : Type} (shape : List ℕ) {xs : List α} {count : ℕ}
    (h : xs.length = count * itemCount shape) : (pieces shape xs count).flatten = xs := by
  induction count generalizing xs with
  | zero =>
    obtain rfl : xs = [] := by simpa using h
    rfl
  | succ count ih =>
    rw [pieces, List.flatten_cons, ih, List.take_append_drop]
    rw [List.length_drop, h, Nat.succ_mul]
    omega

namespace Value

variable {v : Value} {wideMode : Bool}

/-! ### Components -/

/-- The scalars that a value is made of, in order. -/
def components (v : Value) : List Value := v.spread.leaves

lemma leaves_stack (parts : List Spread) :
    (Spread.stack parts).leaves = (parts.map (·.leaves)).flatten := by
  cases parts <;> rfl

lemma spreadAll_eq_map (items : List Value) : spreadAll items = items.map spread := by
  induction items with
  | nil => rfl
  | cons v items ih => rw [spreadAll, ih, List.map_cons]

@[simp] lemma components_list (items : List Value) :
    (list items).components = items.flatMap components := by
  rw [components, spread, leaves_stack, spreadAll_eq_map, List.map_map]
  rfl

@[simp] lemma components_tuple (items : List Value) :
    (tuple items).components = items.flatMap components := by
  rw [components, spread, leaves_stack, spreadAll_eq_map, List.map_map]
  rfl

lemma components_array (a : NumericArray) :
    (array a).components = a.items.map (ArrayKind.of a).element := rfl

/-- A number out of a host array is the component of the array without axes that holds it. -/
lemma components_toValue (a : NumericArray) :
    a.toValue.components = a.items.map (ArrayKind.of a).element := by
  obtain ⟨residence, type, weak, shape, items⟩ := a
  cases residence <;> rcases shape with _ | ⟨n, shape⟩ <;> rcases items with _ | ⟨z, _ | ⟨w, items⟩⟩ <;>
    rfl

/-- A number or a dual number, or an array without axes that holds a number. -/
def IsScalar : Value → Prop
  | real _ | integer _ | boolean _ | rational _ | complex _ | dual _ | scalar _ _ => True
  | array a => a.shape = [] ∧ a.items.length = 1
  | _ => False

lemma IsScalar.components_length (hv : v.IsScalar) : v.components.length = 1 := by
  cases v with
  | array a => rw [components_array, List.length_map, hv.2]
  | real _ | integer _ | boolean _ | rational _ | complex _ | dual _ | scalar _ _ => rfl
  | _ => exact hv.elim

/-- A list of scalars, or an array of numbers with one axis or two. -/
def IsScalarBlock : Value → Prop
  | list items => ∀ v ∈ items, v.IsScalar
  | tuple items => ∀ v ∈ items, v.IsScalar
  | array a =>
    a.shape = [a.items.length] ∨ ∃ rows columns, a.shape = [rows, columns] ∧
      a.items.length = rows * columns
  | _ => False

lemma IsScalarBlock.exists_axes {a : NumericArray} (ha : (array a).IsScalarBlock) :
    ∃ n shape, a.shape = n :: shape ∧ a.items.length = n * NumericArray.itemCount shape := by
  rcases ha with hshape | ⟨rows, columns, hshape, hlength⟩
  · exact ⟨_, [], hshape, by simp [NumericArray.itemCount]⟩
  · exact ⟨rows, [columns], hshape, by simpa [NumericArray.itemCount] using hlength⟩

/-- The elements of a block have its components. -/
lemma IsScalarBlock.elements (hv : v.IsScalarBlock) :
    v.elements = .ok v.row ∧ v.row.flatMap components = v.components := by
  cases v with
  | list items => exact ⟨rfl, (components_list items).symm⟩
  | tuple items => exact ⟨rfl, (components_tuple items).symm⟩
  | array a =>
    obtain ⟨n, shape, hshape, hlength⟩ := hv.exists_axes
    obtain ⟨residence, type, weak, _, items⟩ := a
    obtain rfl := hshape
    refine ⟨rfl, ?_⟩
    simp only [row, Value.elements, NumericArray.rows?, List.flatMap_map, components_toValue]
    change ((NumericArray.pieces shape items n).flatMap fun piece =>
      piece.map (ArrayKind.element ⟨residence, type, weak⟩)) =
        items.map (ArrayKind.element ⟨residence, type, weak⟩)
    rw [List.flatMap_def, ← List.map_flatten, NumericArray.flatten_pieces shape hlength]
  | _ => exact hv.elim

lemma length_flatMap_components {items : List Value} (h : ∀ v ∈ items, v.IsScalar) :
    (items.flatMap components).length = items.length := by
  induction items with
  | nil => rfl
  | cons v items ih =>
    obtain ⟨hv, hitems⟩ := List.forall_mem_cons.mp h
    rw [List.flatMap_cons, List.length_append, hv.components_length, ih hitems, List.length_cons,
      Nat.add_comm]

/-! ### Real parts -/

lemma realPart_item (k : ArrayKind) (z : ComplexNumber) (wideMode : Bool) :
    ∃ x, (k.element z).realPart wideMode = .ok x := by
  obtain ⟨residence, type, weak⟩ := k
  cases residence <;> cases type <;> exact ⟨_, rfl⟩

/-- A scalar has a real part exactly if its component has. An integer or a fraction may be too large
for one. -/
lemma IsScalar.realPart_isOk (hv : v.IsScalar) (wideMode : Bool) :
    (∃ x, v.realPart wideMode = .ok x) ↔ ∀ w ∈ v.components, ∃ x, w.realPart wideMode = .ok x := by
  cases v with
  | array a =>
    obtain ⟨residence, type, weak, shape, items⟩ := a
    obtain ⟨hshape, hlength⟩ := hv
    obtain rfl : shape = [] := hshape
    obtain ⟨z, rfl⟩ := List.length_eq_one_iff.mp hlength
    refine iff_of_true ⟨_, rfl⟩ fun w hw => ?_
    obtain rfl := List.mem_singleton.mp hw
    exact realPart_item ⟨residence, type, weak⟩ z wideMode
  | real _ | integer _ | boolean _ | rational _ | complex _ | dual _ | scalar _ _ =>
    simp [components, spread]
  | _ => exact hv.elim

/-- Scalars have as many real parts as components, if all of them have one. -/
lemma realParts_scalars {items : List Value} (h : ∀ v ∈ items, v.IsScalar) (q : Precision) :
    ((∃ xs, (list items).realVector q = .ok xs) ↔
      ∀ w ∈ items.flatMap components, ∃ x, w.realPart q.wideMode = .ok x) ∧
    ∀ xs, (list items).realVector q = .ok xs → xs.length = (items.flatMap components).length := by
  have hvector : (list items).realVector q =
      (items.mapM (realPart q.wideMode)).map (List.map q.type.convert) := by
    change (do let xs ← items.mapM (realPart q.wideMode); pure (xs.map q.type.convert)) = _
    cases items.mapM (realPart q.wideMode) <;> rfl
  have hparts : (∀ v ∈ items, ∃ x, v.realPart q.wideMode = .ok x) ↔
      ∀ w ∈ items.flatMap components, ∃ x, w.realPart q.wideMode = .ok x := by
    rw [List.forall_mem_flatMap]
    exact forall₂_congr fun v hv => (h v hv).realPart_isOk q.wideMode
  rw [hvector, length_flatMap_components h, ← hparts]
  cases hmap : items.mapM (realPart q.wideMode) with
  | error e =>
    refine ⟨iff_of_false (by simp [Except.map]) fun hall => ?_, by simp [Except.map]⟩
    obtain ⟨xs, hxs, -⟩ := mapM_ok hall
    simp [hmap] at hxs
  | ok xs =>
    refine ⟨iff_of_true ⟨_, rfl⟩ fun v hv => ?_, fun ys hys => ?_⟩
    · obtain ⟨j, hj⟩ := List.mem_iff_getElem?.mp hv
      obtain ⟨x, -, hx⟩ := exists_of_forall₂ (mapM_eq_ok_iff.mp hmap).flip hj
      exact ⟨x, hx⟩
    · rw [← Except.ok.inj hys, List.length_map, length_of_mapM_ok hmap]

/-- A block has as many real parts as components, and it has them if each component has one. -/
theorem IsScalarBlock.realArray (hv : v.IsScalarBlock) (q : Precision) :
    ((∃ a, v.realArray q = .ok a) ↔
      ∀ w ∈ v.components, ∃ x, w.realPart q.wideMode = .ok x) ∧
    ∀ a, v.realArray q = .ok a → a.items.length = v.components.length := by
  have hvector : ((∃ xs, v.realVector q = .ok xs) ↔
      ∀ w ∈ v.components, ∃ x, w.realPart q.wideMode = .ok x) ∧
      ∀ xs, v.realVector q = .ok xs → xs.length = v.components.length := by
    cases v with
    | list items => exact components_list items ▸ realParts_scalars hv q
    | tuple items => exact components_tuple items ▸ realParts_scalars hv q
    | array a =>
      refine ⟨iff_of_true ⟨_, rfl⟩ fun w hw => ?_, fun xs hxs => ?_⟩
      · obtain ⟨z, -, rfl⟩ := List.mem_map.mp hw
        exact realPart_item (.of a) z q.wideMode
      · obtain rfl := Except.ok.inj hxs
        simp [NumericArray.onDevice, NumericArray.cast, components_array]
    | _ => exact hv.elim
  rw [← hvector.1]
  unfold Value.realArray
  cases hxs : v.realVector q with
  | error e => simp [Except.map]
  | ok xs =>
    refine ⟨iff_of_true ⟨_, rfl⟩ ⟨xs, rfl⟩, fun a ha => ?_⟩
    obtain rfl := Except.ok.inj ha
    rw [← hvector.2 xs hxs]
    exact List.length_map _

/-! ### Dimensions -/

/-- The number of elements of a block. -/
def elementCount (v : Value) : ℕ :=
  match v.size with
  | .ok n => n
  | .error _ => 0

/-- Every element is a scalar: an array with two axes has a single column, or no rows. -/
def IsFlat : Value → Prop
  | array a => ∀ rows columns, a.shape = [rows, columns] → columns = 1 ∨ rows = 0
  | _ => True

/-- No element is an empty row. -/
def HasColumns : Value → Prop
  | array a => ∀ rows columns, a.shape = [rows, columns] → columns ≠ 0 ∨ rows = 0
  | _ => True

lemma IsScalarBlock.size (hv : v.IsScalarBlock) : v.size = .ok v.elementCount := by
  cases v with
  | array a =>
    obtain ⟨n, shape, hshape, -⟩ := hv.exists_axes
    simp only [elementCount, Value.size, hshape]
  | list items => rfl
  | tuple items => rfl
  | _ => exact hv.elim

/-- The elements are as many as the components exactly if they are scalars, and no more as long as
none is an empty row. -/
theorem IsScalarBlock.elementCount_spec (hv : v.IsScalarBlock) :
    (v.elementCount = v.components.length ↔ v.IsFlat) ∧
      (v.HasColumns → v.elementCount ≤ v.components.length) := by
  cases v with
  | list items =>
    have hlength : (list items).elementCount = (list items).components.length := by
      rw [components_list, length_flatMap_components hv]
      rfl
    exact ⟨iff_of_true hlength trivial, fun _ => hlength.le⟩
  | tuple items =>
    have hlength : (tuple items).elementCount = (tuple items).components.length := by
      rw [components_tuple, length_flatMap_components hv]
      rfl
    exact ⟨iff_of_true hlength trivial, fun _ => hlength.le⟩
  | array a =>
    rw [components_array, List.length_map]
    rcases hv with hshape | ⟨rows, columns, hshape, hlength⟩
    · have hcount : (array a).elementCount = a.items.length := by
        simp [elementCount, Value.size, hshape]
      refine ⟨iff_of_true hcount ?_, fun _ => hcount.le⟩
      simp [IsFlat, hshape]
    · have hcount : (array a).elementCount = rows := by
        simp [elementCount, Value.size, hshape]
      rw [hcount, hlength]
      simp only [IsFlat, HasColumns, hshape, List.cons.injEq, and_true]
      refine ⟨⟨?_, fun h => ?_⟩, fun h => ?_⟩
      · rintro h _ _ ⟨rfl, rfl⟩
        rcases Nat.eq_zero_or_pos rows with hrows | hrows
        · exact .inr hrows
        · exact .inl (Nat.eq_of_mul_eq_mul_left hrows (by omega))
      · rcases h rows columns ⟨rfl, rfl⟩ with rfl | rfl <;> simp
      · rcases h rows columns ⟨rfl, rfl⟩ with hcolumns | rfl
        · exact Nat.le_mul_of_pos_right rows (Nat.pos_of_ne_zero hcolumns)
        · simp
  | _ => exact hv.elim

end Value

/-! ### The complete state -/

namespace NumericArray

/-- The components of an array in the array that several are joined to: its items, each cast to the
type of that array. -/
def joinedComponents (wideMode : Bool) (as : List NumericArray) (a : NumericArray) : List Value :=
  a.items.map fun z => (joinedKind wideMode as).element
    ((ArrayKind.of a).convert wideMode (joinedKind wideMode as) z)

lemma joinedRow_eq (wideMode : Bool) (as : List NumericArray) :
    joinedRow wideMode as = joinedComponents wideMode as := by
  funext a
  simp only [joinedRow, NumericArray.cast, NumericArray.onDevice, List.map_map]
  rfl

end NumericArray

namespace State

variable {wideMode : Bool} {blocks : List Value}

/-- The components of each block as they stand in the complete state. -/
def componentRows (wideMode : Bool) (blocks : List Value) : List (List Value) :=
  match blocks with
  | [b] => [b.components]
  | blocks =>
    match blocks.mapM numericArray? with
    | some as => as.map (NumericArray.joinedComponents wideMode as)
    | none => blocks.map components

/-- Blocks are joined to a vector of all their components in order. -/
theorem exists_joined_components (wideMode : Bool) (hne : blocks ≠ [])
    (hblocks : ∀ b ∈ blocks, b.IsScalarBlock) :
    ∃ v, joinBlocks wideMode blocks = .ok v ∧ v.components = (componentRows wideMode blocks).flatten ∧
      (componentRows wideMode blocks).map List.length = blocks.map (·.components.length) := by
  match blocks, hne with
  | [b], _ => exact ⟨b, rfl, by simp [componentRows], rfl⟩
  | b :: c :: bs, _ =>
    cases harrays : (b :: c :: bs).mapM numericArray? with
    | some as =>
      have hrows : componentRows wideMode (b :: c :: bs) =
          as.map (NumericArray.joinedComponents wideMode as) := by
        simp only [componentRows, harrays]
      obtain ⟨zs, hzs, hflatten⟩ := NumericArray.joined_eq_vector wideMode as
      refine ⟨_, by rw [joinBlocks_cons_cons, harrays], ?_, ?_⟩
      · rw [hrows, hzs, ← NumericArray.joinedRow_eq, ← hflatten]
        rfl
      · rw [hrows, arrays_of_mapM harrays, List.map_map, List.map_map]
        refine List.map_congr_left fun a _ => ?_
        simp [NumericArray.joinedComponents, components_array]
    | none =>
      have hrows : componentRows wideMode (b :: c :: bs) = (b :: c :: bs).map components := by
        simp only [componentRows, harrays]
      obtain ⟨d, hd, hlist⟩ := exists_of_mapM_none harrays
      have hjoin := joinBlocks_elements wideMode id row id
        (fun b' hb' => by simpa using (hblocks b' hb').elements.1) hd hlist
      rw [List.map_id] at hjoin
      refine ⟨_, hjoin, ?_, by rw [hrows, List.map_map]; rfl⟩
      rw [listOf, List.map_id, components_list, List.flatMap_assoc, hrows, ← List.flatMap_def]
      exact List.flatMap_congr fun b' hb' => (hblocks b' hb').elements.2

/-- The dimension of the complete state is the sum of the element counts. -/
lemma completeDimension_eq_sum {s : State} (hs : ∀ b ∈ s.primary :: s.secondary, b.IsScalarBlock) :
    s.completeDimension = .ok ((s.primary :: s.secondary).map elementCount).sum := by
  have hsizes : (s.primary :: s.secondary).mapM Value.size =
      .ok ((s.primary :: s.secondary).map elementCount) :=
    mapM_eq_map fun b hb => (hs b hb).size
  rw [completeDimension, hsizes, List.sum_eq_foldl]
  rfl

/-- Without empty rows the blocks have as many elements as components only if all are flat. -/
lemma sum_elementCount (hblocks : ∀ b ∈ blocks, b.IsScalarBlock) :
    ((∀ b ∈ blocks, b.IsFlat) →
      (blocks.map elementCount).sum = (blocks.map (·.components.length)).sum) ∧
    ((∀ b ∈ blocks, b.HasColumns) →
      (blocks.map elementCount).sum = (blocks.map (·.components.length)).sum →
      ∀ b ∈ blocks, b.IsFlat) := by
  constructor
  · intro hflat
    rw [List.map_congr_left fun b hb => (hblocks b hb).elementCount_spec.1.mpr (hflat b hb)]
  · intro hcolumns hsum b hb
    by_contra hflat
    have hle (b : Value) (hb : b ∈ blocks) := (hblocks b hb).elementCount_spec.2 (hcolumns b hb)
    have hne := (hblocks b hb).elementCount_spec.1.not.mpr hflat
    have hlt := List.sum_lt_sum elementCount (·.components.length) hle
      ⟨b, hb, lt_of_le_of_ne (hle b hb) hne⟩
    exact hlt.ne hsum

/-- Blocks make a complete state with all their components in order. The primary block has as many
real parts as components, and its dimension is their number exactly if it is flat. The complete
dimension is the number of all components if all blocks are flat, and without empty rows only then. -/
theorem dimensions_count_components {s : State}
    (hs : ∀ b ∈ s.primary :: s.secondary, b.IsScalarBlock) (q : Precision) :
    ∃ v n m, s.completeState q.wideMode = .ok v ∧ s.primaryDimension = .ok n ∧
      s.completeDimension = .ok m ∧
      v.components = (componentRows q.wideMode (s.primary :: s.secondary)).flatten ∧
      (componentRows q.wideMode (s.primary :: s.secondary)).map List.length =
        (s.primary :: s.secondary).map (·.components.length) ∧
      ((∃ a, s.primary.realArray q = .ok a) ↔
        ∀ w ∈ s.primary.components, ∃ x, w.realPart q.wideMode = .ok x) ∧
      (∀ a, s.primary.realArray q = .ok a → a.items.length = s.primary.components.length) ∧
      (n = s.primary.components.length ↔ s.primary.IsFlat) ∧
      ((∀ b ∈ s.primary :: s.secondary, b.IsFlat) → m = v.components.length) ∧
      ((∀ b ∈ s.primary :: s.secondary, b.HasColumns) → m = v.components.length →
        ∀ b ∈ s.primary :: s.secondary, b.IsFlat) := by
  have hprimary : s.primary.IsScalarBlock := hs _ (List.mem_cons_self ..)
  obtain ⟨v, hv, hcomponents, hlengths⟩ :=
    exists_joined_components q.wideMode (List.cons_ne_nil s.primary s.secondary) hs
  have hcount : v.components.length = ((s.primary :: s.secondary).map (·.components.length)).sum := by
    rw [hcomponents, List.length_flatten, hlengths]
  obtain ⟨hsum, hflat⟩ := sum_elementCount hs
  rw [← hcount] at hsum hflat
  exact ⟨v, _, _, hv, hprimary.size, completeDimension_eq_sum hs, hcomponents, hlengths,
    (hprimary.realArray q).1, (hprimary.realArray q).2, hprimary.elementCount_spec.1, hsum, hflat⟩

/-- A number and a dual number in a list, a column of integers, and a complex number on the device. -/
def columnBlocks : State where
  time := .real (.finite 0)
  primary := .list [.real (.finite 1), .dual ⟨.finite 2, .finite 1⟩]
  derivative := .absent
  secondary := [.array ⟨.host, .integer true, false, [2, 1], [.ofInt 3, .ofInt 4]⟩,
    .array ⟨.device, .complex false, false, [1], [⟨.finite 5, .finite 6⟩]⟩]
  secondaryDerivatives := []

theorem dimensions_count_components_columnBlocks :
    (∀ b ∈ columnBlocks.primary :: columnBlocks.secondary, b.IsScalarBlock) ∧
      ∃ v, columnBlocks.completeState false = .ok v ∧
        columnBlocks.completeDimension = .ok v.components.length ∧
        columnBlocks.primaryDimension = .ok columnBlocks.primary.components.length := by
  have hs : ∀ b ∈ columnBlocks.primary :: columnBlocks.secondary, b.IsScalarBlock := by
    simp [columnBlocks, IsScalarBlock, IsScalar]
  have hflat : ∀ b ∈ columnBlocks.primary :: columnBlocks.secondary, b.IsFlat := by
    simp +contextual [columnBlocks, IsFlat]
  obtain ⟨v, n, m, hv, hn, hm, -, -, -, -, hprimary, hcomplete, -⟩ :=
    dimensions_count_components hs Precision.initial
  have hcount := hprimary.mpr (hflat _ (List.mem_cons_self ..))
  exact ⟨hs, v, hv, hcomplete hflat ▸ hm, hcount ▸ hn⟩

/-- Two rows of two numbers and a vector of one, whose dimensions count the rows. -/
def squareBlock : State where
  time := .real (.finite 0)
  primary := .array ⟨.host, .real .float64, false, [2, 2],
    [.ofReal (.finite 1), .ofReal (.finite 2), .ofReal (.finite 3), .ofReal (.finite 4)]⟩
  derivative := .absent
  secondary := [.array ⟨.host, .real .float64, false, [1], [.ofReal (.finite 5)]⟩]
  secondaryDerivatives := []

theorem squareBlock_dimensions :
    (∀ b ∈ squareBlock.primary :: squareBlock.secondary, b.IsScalarBlock) ∧
      squareBlock.primaryDimension = .ok 2 ∧ squareBlock.completeDimension = .ok 3 ∧
      (∃ a, squareBlock.primary.realArray Precision.initial = .ok a ∧ a.items.length = 4) ∧
      ∃ v, squareBlock.completeState false = .ok v ∧ v.components.length = 5 := by
  refine ⟨?_, rfl, rfl, ⟨_, rfl, rfl⟩, ⟨_, rfl, rfl⟩⟩
  simp only [squareBlock, List.forall_mem_cons, List.not_mem_nil, false_imp_iff, implies_true, and_true]
  exact ⟨.inr ⟨2, 2, rfl, rfl⟩, .inl rfl⟩

end State

end AdaptiveStep
