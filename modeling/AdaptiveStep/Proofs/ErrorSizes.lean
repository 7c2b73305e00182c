import AdaptiveStep.Proofs.UniformTolerances

/-!
# Sizes under error control

The error of a step is found component by component, from the old and the new state, the tolerances
and the errors. A tolerance is one number for all components, or one number for each. Nothing else is
stretched: the vectors are held against the size of the old state one after the other, and the first
of another size is the reason of the failure. With all sizes equal there is always a result.
-/

namespace AdaptiveStep

/-! ### Sizes in a row -/

/-- Fails at the first size that is not the expected one. -/
def requireSizes (n : ℕ) (sizes : List ℕ) : Except Failure Unit :=
  forM sizes (requireSize n)

/-- The sizes that are held against that of the old state, in this order. -/
def comparedSizes (new : ℕ) (absolute? relative? : Option ℕ) (errors : ℕ) : List ℕ :=
  new :: (absolute?.toList ++ relative?.toList ++ [errors])

variable {n m : ℕ} {sizes sizes' : List ℕ}

lemma requireSizes_cons (n m : ℕ) (sizes : List ℕ) :
    requireSizes n (m :: sizes) = (do requireSize n m; requireSizes n sizes) :=
  List.forM_cons ..

lemma requireSizes_append (n : ℕ) (sizes sizes' : List ℕ) :
    requireSizes n (sizes ++ sizes') = (do requireSizes n sizes; requireSizes n sizes') :=
  List.forM_append

lemma requireSizes_singleton (n m : ℕ) : requireSizes n [m] = requireSize n m := by
  rw [requireSizes_cons]
  cases requireSize n m <;> rfl

lemma requireSizes_ok (h : ∀ m ∈ sizes, m = n) : requireSizes n sizes = .ok () := by
  induction sizes with
  | nil => rfl
  | cons m sizes ih =>
    obtain ⟨rfl, hsizes⟩ := List.forall_mem_cons.mp h
    rw [requireSizes_cons, requireSize, if_pos rfl]
    exact ih hsizes

lemma requireSizes_error (h : sizes.find? (· ≠ n) = some m) :
    requireSizes n sizes = .error (.dimensionMismatch (.integer n) (.integer m)) := by
  induction sizes with
  | nil => simp at h
  | cons k sizes ih =>
    rw [requireSizes_cons, requireSize]
    by_cases hk : k = n
    · rw [if_pos hk]
      exact ih (by simpa [List.find?_cons, hk] using h)
    · obtain rfl : k = m := by simpa [List.find?_cons, hk] using h
      rw [if_neg hk]
      rfl

/-- All sizes are the expected one, or there is a first one that is not. -/
lemma sizes_cases (n : ℕ) (sizes : List ℕ) :
    (∀ m ∈ sizes, m = n) ∨ ∃ m, sizes.find? (· ≠ n) = some m := by
  cases h : sizes.find? (· ≠ n) with
  | none => exact .inl (by simpa using h)
  | some m => exact .inr ⟨m, rfl⟩

lemma Tolerance.requireSize_eq {α : Type} (n : ℕ) (t : Tolerance α) :
    t.requireSize n = requireSizes n t.size?.toList := by
  cases t with
  | uniform x => rfl
  | perComponent xs => exact (requireSizes_singleton n xs.length).symm

lemma Tolerance.length_spread {α : Type} {t : Tolerance α} (h : ∀ m ∈ t.size?.toList, m = n) :
    (t.spread n).length = n := by
  cases t with
  | uniform x => exact List.length_replicate
  | perComponent xs => exact h xs.length (by simp [Tolerance.size?])

section Errors

variable {α : Type} {A S : Arithmetic α} {errors old new : List α} {absolute relative : Tolerance α}

/-- The allowed errors of vectors that fit together. -/
def allowedErrors (A : Arithmetic α) (old new : List α) (absolute relative : Tolerance α) : List α :=
  List.zipWith (fun tolerance y => threshold A tolerance.1 tolerance.2 y.1 y.2)
    ((absolute.spread old.length).zip (relative.spread old.length)) (old.zip new)

lemma thresholds_eq (A : Arithmetic α) (old new : List α) (absolute relative : Tolerance α) :
    thresholds A old new absolute relative = (do
      requireSizes old.length (new.length :: (absolute.size?.toList ++ relative.size?.toList))
      return allowedErrors A old new absolute relative) := by
  rw [requireSizes_cons, requireSizes_append, ← Tolerance.requireSize_eq, ← Tolerance.requireSize_eq]
  simp only [thresholds, allowedErrors, bind_assoc]

lemma length_allowedErrors
    (h : ∀ m ∈ new.length :: (absolute.size?.toList ++ relative.size?.toList), m = old.length) :
    (allowedErrors A old new absolute relative).length = old.length := by
  obtain ⟨hnew, htolerances⟩ := List.forall_mem_cons.mp h
  obtain ⟨habsolute, hrelative⟩ := List.forall_mem_append.mp htolerances
  simp [allowedErrors, Tolerance.length_spread habsolute, Tolerance.length_spread hrelative, hnew]

lemma thresholds_of_sizes
    (h : ∀ m ∈ new.length :: (absolute.size?.toList ++ relative.size?.toList), m = old.length) :
    thresholds A old new absolute relative = .ok (allowedErrors A old new absolute relative) := by
  rw [thresholds_eq, requireSizes_ok h]
  rfl

/-- All vectors are compared before the norm is found. -/
lemma errorNorm_eq (A S : Arithmetic α) (errors old new : List α) (absolute relative : Tolerance α) :
    errorNorm A S errors old new absolute relative = (do
      requireSizes old.length
        (comparedSizes new.length absolute.size? relative.size? errors.length)
      return rootMeanSquare A S
        (List.zipWith A.div errors (allowedErrors A old new absolute relative))) := by
  have hsizes : comparedSizes new.length absolute.size? relative.size? errors.length =
      (new.length :: (absolute.size?.toList ++ relative.size?.toList)) ++ [errors.length] :=
    rfl
  rw [errorNorm, thresholds_eq, hsizes, requireSizes_append, requireSizes_singleton]
  rcases sizes_cases old.length (new.length :: (absolute.size?.toList ++ relative.size?.toList))
    with h | ⟨m, h⟩
  · rw [requireSizes_ok h, ← length_allowedErrors (A := A) h]
    rfl
  · rw [requireSizes_error h]
    rfl

lemma errorNorm_of_sizes
    (h : ∀ m ∈ comparedSizes new.length absolute.size? relative.size? errors.length,
      m = old.length) :
    ∃ x, errorNorm A S errors old new absolute relative = .ok x := by
  rw [errorNorm_eq, requireSizes_ok h]
  exact ⟨_, rfl⟩

lemma errorNorm_of_mismatch
    (h : (comparedSizes new.length absolute.size? relative.size? errors.length).find?
      (· ≠ old.length) = some m) :
    errorNorm A S errors old new absolute relative =
      .error (.dimensionMismatch (.integer old.length) (.integer m)) := by
  rw [errorNorm_eq, requireSizes_error h]
  rfl

end Errors

namespace Value

variable {n m k : ℕ} {size? absolute? relative? : Option ℕ} {t : FloatType} {p : Precision}
  {v old new errors absolute relative : Value}

/-! ### Vectors and tolerances -/

/-- A list of so many elements that have a real part, or a numeric array with one axis. -/
def IsRealVector (wideMode : Bool) (n : ℕ) : Value → Prop
  | list items => items.length = n ∧ ∀ v ∈ items, ∃ x, v.realPart wideMode = .ok x
  | tuple items => items.length = n ∧ ∀ v ∈ items, ∃ x, v.realPart wideMode = .ok x
  | objects shape items =>
    shape = [n] ∧ items.length = n ∧ ∀ v ∈ items, ∃ x, v.realPart wideMode = .ok x
  | array a => a.shape = [n] ∧ a.items.length = n
  | _ => False

lemma IsRealVector.components {wideMode : Bool} (hv : v.IsRealVector wideMode n) :
    v.HasComponents n := by
  cases v with
  | list items => exact hv.1
  | tuple items => exact hv.1
  | objects shape items => exact ⟨hv.1, hv.2.1⟩
  | array a => exact hv
  | _ => exact hv.elim

lemma IsRealVector.realVector (hv : v.IsRealVector p.wideMode n) :
    ∃ xs, v.realVector p = .ok xs ∧ xs.length = n := by
  have hlist {items : List Value} (h : ∀ v ∈ items, ∃ x, v.realPart p.wideMode = .ok x) :
      ∃ xs, (do let xs ← items.mapM (realPart p.wideMode)
                return xs.map p.type.convert) = Except.ok xs := by
    obtain ⟨xs, hxs, -⟩ := mapM_ok h
    exact ⟨xs.map p.type.convert, by rw [hxs]; rfl⟩
  obtain ⟨xs, hxs⟩ : ∃ xs, v.realVector p = .ok xs := by
    cases v with
    | list items => exact hlist hv.2
    | tuple items => exact hlist hv.2
    | objects shape items =>
      obtain ⟨rfl, -, hitems⟩ := hv
      exact hlist hitems
    | array a => exact ⟨_, rfl⟩
    | _ => exact hv.elim
  exact ⟨xs, hxs, hv.components.length_realVector hxs⟩

/-- A single number, of whatever kind, that the device takes as an item of the float type. -/
def IsItem (t : FloatType) : Value → Prop
  | list _ => False
  | tuple _ => False
  | objects _ _ => False
  | absent => False
  | array a => a.shape = [] ∧ ∃ z, a.items = [z]
  | v => ∃ z, (ItemType.real t).itemOf v = .ok z

/-- A tolerance in either form: a single number, or a sequence of so many. -/
def IsTolerance (t : FloatType) (size? : Option ℕ) : Value → Prop
  | list items => size? = some items.length ∧ ∀ v ∈ items, v.IsItem t
  | tuple items => size? = some items.length ∧ ∀ v ∈ items, v.IsItem t
  | objects shape items =>
    size? = some items.length ∧ shape = [items.length] ∧ ∀ v ∈ items, v.IsItem t
  | array a => a.shape = size?.toList ∧ a.items.length = size?.getD 1
  | v => size? = none ∧ v.IsItem t

lemma IsItem.itemOf (hv : v.IsItem t) : ∃ z, (ItemType.real t).itemOf v = .ok z := by
  cases v with
  | array a =>
    obtain ⟨-, z, hz⟩ := hv
    exact ⟨_, by rw [ItemType.itemOf, hz]⟩
  | list items => exact hv.elim
  | tuple items => exact hv.elim
  | objects shape items => exact hv.elim
  | absent => exact hv.elim
  | _ => exact hv

lemma isItem_real (t : FloatType) (x : Number) : (real x).IsItem t :=
  ⟨_, itemOf_float t x⟩

/-- A single number has one leaf, which is an item. -/
lemma IsItem.spread (hv : v.IsItem t) : v.holds isAbsent = false ∧
    ∃ w, v.spread = ⟨[], [w], true⟩ ∧ ∃ z, (ItemType.real t).itemOf w = .ok z := by
  cases v with
  | array a =>
    obtain ⟨residence, type, weak, shape, items⟩ := a
    obtain ⟨rfl, z, rfl⟩ := hv
    refine ⟨rfl, _, rfl, ?_⟩
    cases residence <;> exact ⟨_, rfl⟩
  | list items => exact hv.elim
  | tuple items => exact hv.elim
  | objects shape items => exact hv.elim
  | absent => exact hv.elim
  | _ => exact ⟨rfl, _, rfl, hv⟩

lemma spreadAll_items {items : List Value} (h : ∀ v ∈ items, v.IsItem t) :
    holdsAny isAbsent items = false ∧ ∃ leaves : List Value,
      spreadAll items = leaves.map (fun w => ⟨[], [w], true⟩) ∧
      leaves.length = items.length ∧ ∀ w ∈ leaves, ∃ z, (ItemType.real t).itemOf w = .ok z := by
  induction items with
  | nil => exact ⟨rfl, [], rfl, rfl, by simp⟩
  | cons v items ih =>
    obtain ⟨hv, hitems⟩ := List.forall_mem_cons.mp h
    obtain ⟨hpresent, w, hspread, hw⟩ := hv.spread
    obtain ⟨hrest, leaves, hleaves, hlength, hall⟩ := ih hitems
    exact ⟨by rw [holdsAny, hpresent, hrest]; rfl, w :: leaves,
      by rw [spreadAll, hspread, hleaves]; rfl, by simp [hlength], List.forall_mem_cons.mpr ⟨hw, hall⟩⟩

/-- The leaves of a value that are all items make its numbers on the device. -/
lemma grid_leaves {shape : List ℕ} {leaves : List Value} (hpresent : v.holds isAbsent = false)
    (hspread : v.spread = ⟨shape, leaves, true⟩)
    (h : ∀ w ∈ leaves, ∃ z, (ItemType.real p.type).itemOf w = .ok z) :
    ∃ xs, v.grid p = .ok ⟨shape, xs⟩ ∧ xs.length = leaves.length := by
  obtain ⟨zs, hzs, hlength⟩ := mapM_ok h
  exact ⟨zs.map (·.re), by simp [grid, deviceReals, deviceItems, hpresent, hspread, itemsOf, hzs,
    bind, Except.bind, pure, Except.pure], by simp [hlength]⟩

/-- The device takes a value as a tolerance with so many numbers, or with one for all components. -/
def TakenAsTolerance (p : Precision) (size? : Option ℕ) (v : Value) : Prop :=
  ∃ g a, v.grid p = .ok g ∧ g.tolerance? = some a ∧ a.size? = size?

section

variable {leaves : List Value} (hpresent : v.holds isAbsent = false)

include hpresent

lemma takenAsTolerance_leaves (hspread : v.spread = ⟨[leaves.length], leaves, true⟩)
    (h : ∀ w ∈ leaves, ∃ z, (ItemType.real p.type).itemOf w = .ok z) :
    v.TakenAsTolerance p (some leaves.length) := by
  obtain ⟨xs, hxs, hlength⟩ := grid_leaves hpresent hspread h
  exact ⟨_, .perComponent xs, hxs, rfl, congrArg some hlength⟩

lemma takenAsTolerance_leaf {w : Value} (hspread : v.spread = ⟨[], [w], true⟩)
    (h : ∃ z, (ItemType.real p.type).itemOf w = .ok z) : v.TakenAsTolerance p none := by
  obtain ⟨xs, hxs, hlength⟩ := grid_leaves hpresent hspread (by simpa using h)
  obtain ⟨x, rfl⟩ := List.length_eq_one_iff.mp hlength
  exact ⟨_, .uniform x, hxs, rfl, rfl⟩

end

lemma takenAsTolerance_items {items : List Value} (hitems : ∀ w ∈ items, w.IsItem p.type)
    (hholds : v.holds isAbsent = holdsAny isAbsent items)
    (hspread : v.spread = .stack (spreadAll items)) :
    v.TakenAsTolerance p (some items.length) := by
  obtain ⟨hpresent, leaves, hleaves, hlength, hall⟩ := spreadAll_items hitems
  rw [← hlength]
  exact takenAsTolerance_leaves (hholds.trans hpresent) (by rw [hspread, hleaves, stack_leaves]) hall

/-- An array keeps its axis, and each of its leaves is an item. -/
lemma takenAsTolerance_array {a : NumericArray} (hshape : a.shape = size?.toList)
    (hlength : a.items.length = size?.getD 1) : (array a).TakenAsTolerance p size? := by
  have hleaf : ∀ w ∈ a.leaves, ∃ z, (ItemType.real p.type).itemOf w = .ok z := by
    intro w hw
    obtain ⟨z, -, rfl⟩ := List.mem_map.mp hw
    cases a.residence <;> simp [NumericArray.toValue, ItemType.itemOf]
  have hleaves : a.leaves.length = size?.getD 1 := by simpa [NumericArray.leaves] using hlength
  cases size? with
  | none =>
    obtain ⟨w, hw⟩ := List.length_eq_one_iff.mp hleaves
    exact takenAsTolerance_leaf rfl (by rw [spread, hshape, hw]; rfl) (hleaf w (by simp [hw]))
  | some n =>
    obtain rfl : a.leaves.length = n := hleaves
    exact takenAsTolerance_leaves rfl (by rw [spread, hshape]; rfl) hleaf

/-- The device takes a tolerance in its own form. -/
lemma IsTolerance.grid (hv : v.IsTolerance p.type size?) : v.TakenAsTolerance p size? := by
  cases v with
  | list items =>
    obtain ⟨rfl, hitems⟩ := hv
    exact takenAsTolerance_items hitems rfl rfl
  | tuple items =>
    obtain ⟨rfl, hitems⟩ := hv
    exact takenAsTolerance_items hitems rfl rfl
  | objects shape items =>
    obtain ⟨rfl, rfl, hitems⟩ := hv
    exact takenAsTolerance_leaves rfl rfl fun w hw => (hitems w hw).itemOf
  | array a => exact takenAsTolerance_array hv.1 hv.2
  | absent => exact hv.2.elim
  | _ =>
    obtain ⟨rfl, hitem⟩ := hv
    obtain ⟨hpresent, w, hspread, hw⟩ := hitem.spread
    exact takenAsTolerance_leaf hpresent hspread hw

/-! ### Thresholds and norms -/

/-- The vectors of values and their tolerances are held against each other as they are. -/
lemma thresholds_of_tolerances {xs ys : List Number} {g h : Grid} {a r : Tolerance Number}
    (hold : old.realVector p = .ok xs) (hnew : new.realVector p = .ok ys)
    (habsolute : absolute.grid p = .ok g) (hrelative : relative.grid p = .ok h)
    (ha : g.tolerance? = some a) (hr : h.tolerance? = some r) :
    Value.thresholds p old new absolute relative =
      (AdaptiveStep.thresholds p.arithmetic xs ys a r).map fun allowed =>
        ⟨[allowed.length], allowed⟩ := by
  simp only [Value.thresholds, hold, hnew, habsolute, hrelative, bind, Except.bind, ha, hr]
  cases AdaptiveStep.thresholds p.arithmetic xs ys a r <;> rfl

lemma errorNorm_of_tolerances {es xs ys : List Number} {g h : Grid} {a r : Tolerance Number}
    (herrors : errors.realVector p = .ok es) (hold : old.realVector p = .ok xs)
    (hnew : new.realVector p = .ok ys) (habsolute : absolute.grid p = .ok g)
    (hrelative : relative.grid p = .ok h) (ha : g.tolerance? = some a) (hr : h.tolerance? = some r) :
    Value.errorNorm p errors old new absolute relative =
      AdaptiveStep.errorNorm p.arithmetic p.sums es xs ys a r := by
  simp only [Value.errorNorm, thresholds_of_tolerances hold hnew habsolute hrelative ha hr,
    AdaptiveStep.errorNorm, bind, Except.bind]
  cases AdaptiveStep.thresholds p.arithmetic xs ys a r with
  | error e => rfl
  | ok allowed => simp only [Except.map, herrors]

lemma thresholds_sizes (hold : old.IsRealVector p.wideMode n) (hnew : new.IsRealVector p.wideMode m)
    (habsolute : absolute.IsTolerance p.type absolute?)
    (hrelative : relative.IsTolerance p.type relative?) :
    ∃ allowed, Value.thresholds p old new absolute relative = (do
      requireSizes n (m :: (absolute?.toList ++ relative?.toList))
      return allowed) := by
  obtain ⟨xs, hxs, rfl⟩ := hold.realVector
  obtain ⟨ys, hys, rfl⟩ := hnew.realVector
  obtain ⟨g, a, hg, ha, rfl⟩ := habsolute.grid
  obtain ⟨h, r, hh, hr, rfl⟩ := hrelative.grid
  let allowed := allowedErrors p.arithmetic xs ys a r
  refine ⟨⟨[allowed.length], allowed⟩, ?_⟩
  rw [thresholds_of_tolerances hxs hys hg hh ha hr, thresholds_eq]
  cases requireSizes xs.length (ys.length :: (a.size?.toList ++ r.size?.toList)) <;> rfl

/-- No vector is stretched under error control: the error norm of vectors and tolerances in either
form is found exactly if all of them have the size of the old state, and then there is one allowed
error for each component. Otherwise the failure names that size and the first other one. -/
theorem errorNorm_sizes (hold : old.IsRealVector p.wideMode n) (hnew : new.IsRealVector p.wideMode m)
    (herrors : errors.IsRealVector p.wideMode k) (habsolute : absolute.IsTolerance p.type absolute?)
    (hrelative : relative.IsTolerance p.type relative?) :
    let sizes := comparedSizes m absolute? relative? k
    ((∃ x, Value.errorNorm p errors old new absolute relative = .ok x) ↔ ∀ size ∈ sizes, size = n) ∧
    ((∀ size ∈ sizes, size = n) → ∃ allowed,
      Value.thresholds p old new absolute relative = .ok ⟨[n], allowed⟩ ∧ allowed.length = n) ∧
    ((¬∀ size ∈ sizes, size = n) → ∃ size, sizes.find? (· ≠ n) = some size ∧
      Value.errorNorm p errors old new absolute relative =
        .error (.dimensionMismatch (.integer n) (.integer size))) := by
  intro sizes
  obtain ⟨xs, hxs, rfl⟩ := hold.realVector
  obtain ⟨ys, hys, rfl⟩ := hnew.realVector
  obtain ⟨es, hes, rfl⟩ := herrors.realVector
  obtain ⟨g, a, hg, ha, rfl⟩ := habsolute.grid
  obtain ⟨h, r, hh, hr, rfl⟩ := hrelative.grid
  rw [errorNorm_of_tolerances hes hxs hys hg hh ha hr]
  rcases sizes_cases xs.length sizes with hsizes | ⟨size, hsize⟩
  · have hthresholds : ∀ size ∈ ys.length :: (a.size?.toList ++ r.size?.toList),
        size = xs.length := fun size hsize => hsizes size (by
      simp only [sizes, comparedSizes, List.mem_cons, List.mem_append] at hsize ⊢
      tauto)
    refine ⟨⟨fun _ => hsizes, errorNorm_of_sizes⟩, fun _ => ?_, fun h => absurd hsizes h⟩
    refine ⟨allowedErrors p.arithmetic xs ys a r, ?_, length_allowedErrors hthresholds⟩
    rw [thresholds_of_tolerances hxs hys hg hh ha hr, thresholds_of_sizes hthresholds, Except.map,
      length_allowedErrors hthresholds]
  · have hfails : ¬∀ size ∈ sizes, size = xs.length := fun hall => by
      have hne := List.find?_some hsize
      simp [hall size (List.mem_of_find?_eq_some hsize)] at hne
    have herror := errorNorm_of_mismatch (A := p.arithmetic) (S := p.sums) hsize
    refine ⟨⟨fun ⟨x, hx⟩ => ?_, fun h => absurd h hfails⟩, fun h => absurd h hfails,
      fun _ => ⟨size, hsize, herror⟩⟩
    rw [herror] at hx
    exact nomatch hx

/-- An error with one component is not stretched over a state with two, but a tolerance is. -/
theorem errorNorm_sizes_oneError :
    let old : Value := list [real (.finite 1), real (.finite 2)]
    let new : Value :=
      array ⟨.host, .real .float64, false, [2], [.ofReal (.finite 3), .ofReal (.finite 4)]⟩
    let relative : Value := tuple [real (.finite 1), real (.finite 0)]
    Value.errorNorm .initial (list [real (.finite 5)]) old new (real (.finite 1)) relative =
        .error (.dimensionMismatch (.integer 2) (.integer 1)) ∧
      ∃ x, Value.errorNorm .initial old old new (real (.finite 1)) relative = .ok x := by
  intro old new relative
  have hold : old.IsRealVector false 2 := ⟨rfl, by simp [realPart]⟩
  have hnew : new.IsRealVector false 2 := ⟨rfl, rfl⟩
  have herror : (list [real (.finite 5)]).IsRealVector false 1 := ⟨rfl, by simp [realPart]⟩
  have habsolute : (real (.finite 1)).IsTolerance .float32 none := ⟨rfl, isItem_real _ _⟩
  have hrelative : relative.IsTolerance .float32 (some 2) := ⟨rfl, by simp [isItem_real]⟩
  obtain ⟨-, -, hfails⟩ := errorNorm_sizes (p := .initial) hold hnew herror habsolute hrelative
  obtain ⟨size, hsize, hnorm⟩ := hfails (by decide)
  obtain rfl : size = 1 := by simpa [comparedSizes] using hsize.symm
  refine ⟨hnorm, ?_⟩
  exact (errorNorm_sizes (p := .initial) hold hnew hold habsolute hrelative).1.mpr (by decide)

end Value

end AdaptiveStep
