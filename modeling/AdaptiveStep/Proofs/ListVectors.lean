import AdaptiveStep.Proofs.PrecisionIndependence

/-!
# Vectors element by element

Vectors whose elements come from data of one kind: duals, doubles, items of arrays. What blocks of them
join to, their Euler step where they are not both arrays, and their real parts.
-/

namespace AdaptiveStep

open State

variable {α β γ : Type} {wideMode : Bool}

namespace Value

lemma mapM_eq_map {f : α → Except Failure β} {g : α → β} {xs : List α}
    (h : ∀ x ∈ xs, f x = .ok (g x)) : xs.mapM f = .ok (xs.map g) := by
  rw [mapM_congr h]
  exact List.mapM_pure

lemma zip_mapM {f : α × β → Except Failure γ} {k : α → β → γ} {xs : List α} {ys : List β}
    (h : ∀ x ∈ xs, ∀ y ∈ ys, f (x, y) = .ok (k x y)) :
    (xs.zip ys).mapM f = .ok (List.zipWith k xs ys) := by
  rw [mapM_eq_map (g := Function.uncurry k), List.map_uncurry_zip_eq_zipWith]
  rintro ⟨x, y⟩ hp
  exact h x (List.of_mem_zip hp).1 y (List.of_mem_zip hp).2

/-- The elements `f x` of the data `xs`, as a list. -/
def listOf (f : α → Value) (xs : List α) : Value := .list (xs.map f)

lemma doubleVector_listOf {f : α → Value} {g : α → Number} {xs : List α}
    (h : ∀ x ∈ xs, (f x).realPart wideMode = .ok (g x)) :
    (listOf f xs).doubleVector wideMode = .ok (xs.map g) := by
  change (xs.map f).mapM (realPart wideMode) = _
  rw [List.mapM_map]
  exact mapM_eq_map h

lemma mapM_numericArray_none {blocks : List Value} {b : Value} (hb : b ∈ blocks)
    (hlist : b.isNumericArray = false) : blocks.mapM numericArray? = none := by
  cases h : blocks.mapM numericArray? with
  | none => rfl
  | some as =>
    obtain ⟨a, -, rfl⟩ := List.mem_map.mp (arrays_of_mapM h ▸ hb)
    simp [isNumericArray] at hlist

end Value

open Value

namespace State

/-- Several arrays become one array. -/
lemma joinBlocks_arrays (a b : NumericArray) (as : List NumericArray) :
    joinBlocks wideMode ((a :: b :: as).map Value.array) =
      .ok (.array (.joined wideMode (a :: b :: as))) := by
  have harrays := mapM_numericArray (a :: b :: as)
  rw [List.map_cons, List.map_cons] at harrays ⊢
  rw [joinBlocks_cons_cons, harrays]

/-- Several blocks that are not all arrays become the list of all their elements. -/
lemma joinBlocks_elements (wideMode : Bool) (vector : β → Value) (items : β → List α) (f : α → Value)
    {b c d : β} {blocks : List β}
    (hitems : ∀ b' ∈ b :: c :: blocks, (vector b').elements = .ok ((items b').map f))
    (hd : d ∈ b :: c :: blocks) (hlist : (vector d).isNumericArray = false) :
    joinBlocks wideMode ((b :: c :: blocks).map vector) =
      .ok (listOf f ((b :: c :: blocks).flatMap items)) := by
  have hnone : ((b :: c :: blocks).map vector).mapM numericArray? = none :=
    mapM_numericArray_none (List.mem_map_of_mem hd) hlist
  have helements : ((b :: c :: blocks).map vector).mapM elements =
      .ok ((b :: c :: blocks).map fun b => (items b).map f) := by
    rw [List.mapM_map]
    exact mapM_eq_map hitems
  rw [List.map_cons, List.map_cons, joinBlocks_cons_cons, ← List.map_cons, ← List.map_cons, hnone]
  dsimp only
  rw [helements, listOf, List.map_flatMap]
  rfl

/-- Blocks that are lists become one list, also if there is a single one. -/
lemma joinBlocks_listOf (f : α → Value) {blocks : List (List α)} (hne : blocks ≠ []) :
    joinBlocks wideMode (blocks.map (listOf f)) = .ok (listOf f blocks.flatten) := by
  match blocks, hne with
  | [block], _ => simp [joinBlocks]
  | b :: c :: bs, _ =>
    rw [joinBlocks_elements wideMode (listOf f) id f (fun _ _ => rfl) (List.mem_cons_self ..) rfl,
      List.flatMap_id]

end State

/-- The Euler step of two vectors that are not both arrays takes their elements in pairs, as far as
both reach. -/
lemma eulerStep_elements (wideMode : Bool) (f : α → Value) (g : β → Value) (k : α → β → Value)
    (xs : List α) (ys : List β) {y slope h : Value}
    (harray : (y.isNumericArray && slope.isNumericArray) = false)
    (hy : y.elements = .ok (xs.map f)) (hslope : slope.elements = .ok (ys.map g))
    (hk : ∀ x ∈ xs, ∀ y ∈ ys, ((g y).combine wideMode .mul h >>= fun d =>
      (f x).combine wideMode .add d) = .ok (k x y)) :
    eulerStep wideMode y slope h = .ok (.list (List.zipWith k xs ys)) := by
  have hzip : ((xs.map f).zip (ys.map g)).mapM (fun p => p.2.combine wideMode .mul h >>= fun d =>
      p.1.combine wideMode .add d) = .ok (List.zipWith k xs ys) := by
    rw [List.zip_map, List.mapM_map]
    exact zip_mapM hk
  unfold eulerStep
  rw [harray, hy, hslope]
  exact congrArg (fun r : Except Failure (List Value) => r >>= fun vs => pure (Value.list vs)) hzip

end AdaptiveStep
