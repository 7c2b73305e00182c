import AdaptiveStep.Proofs.ArrayElements
import AdaptiveStep.Proofs.ListVectors

/-!
# The entries of blocks

The blocks of a state are joined to one vector before the Euler step. Here the elements of that vector
are put back into their blocks.
-/

namespace AdaptiveStep

open State

/-! ### Rows -/

section Rows

variable {α β γ : Type}

/-- The entry of a row at an offset. -/
def entry (rows : List (List α)) (i j : ℕ) : Option α := rows[i]?.bind (·[j]?)

/-- Rows of the same lengths, one after the other, pair up as the rows do. -/
lemma zip_flatten {xss : List (List α)} {yss : List (List β)}
    (h : xss.map List.length = yss.map List.length) :
    xss.flatten.zip yss.flatten = (List.zipWith List.zip xss yss).flatten := by
  induction xss generalizing yss with
  | nil =>
    obtain rfl : yss = [] := by simpa using h.symm
    rfl
  | cons xs xss ih =>
    obtain ⟨ys, yss, rfl⟩ : ∃ ys yss', yss = ys :: yss' := by
      cases yss <;> simp_all
    obtain ⟨hlength, hrest⟩ := List.cons.inj h
    rw [List.flatten_cons, List.flatten_cons, List.zip_append hlength, ih hrest]
    rfl

lemma exists_rows {R : α → β → Prop} {xss : List (List α)} {ys : List β}
    (h : List.Forall₂ R xss.flatten ys) :
    ∃ rows, ys = rows.flatten ∧ List.Forall₂ (List.Forall₂ R) xss rows := by
  induction xss generalizing ys with
  | nil =>
    obtain rfl : ys = [] := by simpa using h
    exact ⟨[], rfl, .nil⟩
  | cons xs xss ih =>
    rw [List.flatten_cons] at h
    obtain ⟨rows, hrows, hrest⟩ := ih (List.forall₂_drop_append ys xs xss.flatten h.flip).flip
    have hrow := (List.forall₂_take_append ys xs xss.flatten h.flip).flip
    refine ⟨ys.take xs.length :: rows, ?_, .cons hrow hrest⟩
    rw [List.flatten_cons, ← hrows, List.take_append_drop]

lemma exists_of_forall₂ {R : α → β → Prop} {xs : List α} {ys : List β} (h : List.Forall₂ R xs ys)
    {j : ℕ} {y : β} (hy : ys[j]? = some y) : ∃ x, xs[j]? = some x ∧ R x y := by
  induction h generalizing j with
  | nil => simp at hy
  | cons hxy _ ih =>
    cases j with
    | zero =>
      obtain rfl := Option.some.inj hy
      exact ⟨_, rfl, hxy⟩
    | succ j => exact ih hy

/-- Rows made of two families of rows in pairs have their lengths, and each entry is made of the
entries at its place. -/
lemma entry_of_pairs {R : α × β → γ → Prop} {xss : List (List α)} {yss : List (List β)}
    {rows : List (List γ)} (hlengths : xss.map List.length = yss.map List.length)
    (h : List.Forall₂ (List.Forall₂ R) (List.zipWith List.zip xss yss) rows) :
    rows.map List.length = xss.map List.length ∧ ∀ i j u, entry rows i j = some u →
      ∃ x y, entry xss i j = some x ∧ entry yss i j = some y ∧ R (x, y) u := by
  induction xss generalizing yss rows with
  | nil =>
    obtain rfl : rows = [] := by simpa using h
    exact ⟨rfl, by simp [entry]⟩
  | cons xs xss ih =>
    obtain ⟨ys, yss, rfl⟩ : ∃ ys yss', yss = ys :: yss' := by
      cases yss <;> simp_all
    obtain ⟨hlength, hrest⟩ := List.cons.inj hlengths
    obtain ⟨row, rows, hrow, hrows, rfl⟩ := List.forall₂_cons_left_iff.mp h
    obtain ⟨hmap, hentry⟩ := ih hrest hrows
    refine ⟨?_, fun i j u hu => ?_⟩
    · rw [List.map_cons, List.map_cons, hmap, ← hrow.length_eq, List.length_zip, hlength, Nat.min_self]
    · cases i with
      | zero =>
        obtain ⟨⟨x, y⟩, hxy, hR⟩ := exists_of_forall₂ hrow hu
        obtain ⟨hx, hy⟩ := List.getElem?_zip_eq_some.mp hxy
        exact ⟨x, y, hx, hy, hR⟩
      | succ i => exact hentry i j u hu

end Rows

namespace Value

variable {v y slope : Value} {wideMode : Bool}

/-- A list, or an array with one axis. -/
def IsBlock : Value → Prop
  | list _ => True
  | tuple _ => True
  | array a => a.shape = [a.items.length] ∧ (ArrayKind.of a).Proper
  | objects shape items => shape = [items.length]
  | _ => False

/-- The elements of a block. -/
def row (v : Value) : List Value :=
  match v.elements with
  | .ok vs => vs
  | .error _ => []

lemma IsBlock.array_eq {a : NumericArray} (ha : (array a).IsBlock) :
    array a = (ArrayKind.of a).vector a.items := by
  obtain ⟨residence, type, weak, shape, items⟩ := a
  obtain rfl : shape = [items.length] := ha.1
  rfl

lemma IsBlock.elements (hv : v.IsBlock) : v.elements = .ok v.row := by
  cases v with
  | array a => rw [row, hv.array_eq, ArrayKind.elements_vector]
  | objects shape items =>
    obtain rfl : shape = [items.length] := hv
    rfl
  | list items => rfl
  | tuple items => rfl
  | _ => exact hv.elim

lemma row_vector (k : ArrayKind) (zs : List ComplexNumber) : (k.vector zs).row = zs.map k.element := by
  rw [row, ArrayKind.elements_vector]

lemma IsBlock.size (hv : v.IsBlock) : v.size = .ok v.row.length := by
  cases v with
  | array a =>
    rw [hv.array_eq, row_vector, List.length_map]
    rfl
  | objects shape items =>
    obtain rfl : shape = [items.length] := hv
    rfl
  | list items => rfl
  | tuple items => rfl
  | _ => exact hv.elim

lemma isBlock_vector {k : ArrayKind} (hk : k.Proper) (zs : List ComplexNumber) :
    (k.vector zs).IsBlock := ⟨rfl, hk⟩

lemma IsBlock.exists_vector (hv : v.IsBlock) (harray : v.isNumericArray = true) :
    ∃ (k : ArrayKind) (zs : List ComplexNumber), k.Proper ∧ v = k.vector zs := by
  cases v with
  | array a => exact ⟨.of a, a.items, hv.2, hv.array_eq⟩
  | _ => simp [isNumericArray] at harray

end Value

open Value

/-! ### Joined blocks -/

namespace NumericArray

/-- The kind of array that arrays are joined to. -/
def joinedKind (wideMode : Bool) (as : List NumericArray) : ArrayKind :=
  ⟨.device, (joined wideMode as).type, false⟩

lemma proper_joinedKind (wideMode : Bool) (as : List NumericArray) :
    (joinedKind wideMode as).Proper := fun h => by simp [joinedKind] at h

/-- The elements of one of several arrays that are joined, as they stand in the joined array. -/
def joinedRow (wideMode : Bool) (as : List NumericArray) (a : NumericArray) : List Value :=
  ((a.onDevice wideMode).cast (joined wideMode as).type).items.map (joinedKind wideMode as).element

/-- Arrays are joined to the array of all their elements. -/
lemma joined_eq_vector (wideMode : Bool) (as : List NumericArray) :
    ∃ zs, array (joined wideMode as) = (joinedKind wideMode as).vector zs ∧
      zs.map (joinedKind wideMode as).element = (as.map (joinedRow wideMode as)).flatten := by
  refine ⟨(joined wideMode as).items, rfl, ?_⟩
  have hitems : (joined wideMode as).items =
      (as.map fun a => ((a.onDevice wideMode).cast (joined wideMode as).type).items).flatten := by
    simp only [joined, List.map_map]
    rfl
  rw [hitems, List.map_flatten, List.map_map]
  rfl

end NumericArray

namespace State

variable {wideMode : Bool} {blocks slopes : List Value}

/-- The elements of each block as they stand in the vector that the blocks are joined to. -/
def entries (wideMode : Bool) (blocks : List Value) : List (List Value) :=
  match blocks with
  | [block] => [block.row]
  | blocks =>
    match blocks.mapM numericArray? with
    | some as => as.map (NumericArray.joinedRow wideMode as)
    | none => blocks.map row

lemma entries_cons_cons {b c : Value} {bs : List Value} :
    entries wideMode (b :: c :: bs) =
      match (b :: c :: bs).mapM numericArray? with
      | some as => as.map (NumericArray.joinedRow wideMode as)
      | none => (b :: c :: bs).map row := rfl

lemma exists_of_mapM_none (h : blocks.mapM numericArray? = none) :
    ∃ b ∈ blocks, b.isNumericArray = false := by
  induction blocks with
  | nil => simp at h
  | cons b bs ih =>
    cases b with
    | array a =>
      have hrest : bs.mapM numericArray? = none := by
        cases hbs : bs.mapM numericArray? with
        | none => rfl
        | some as => simp [List.mapM_cons, numericArray?, hbs] at h
      obtain ⟨c, hc, hlist⟩ := ih hrest
      exact ⟨c, List.mem_cons_of_mem _ hc, hlist⟩
    | _ => exact ⟨_, List.mem_cons_self .., rfl⟩

/-- What blocks are joined to: a vector of all their elements, which is an array if all of them are. -/
structure Joined (wideMode : Bool) (blocks : List Value) (v : Value) : Prop where
  joins : joinBlocks wideMode blocks = .ok v
  isBlock : v.IsBlock
  row : v.row = (entries wideMode blocks).flatten
  lengths : (entries wideMode blocks).map List.length = blocks.map fun b => b.row.length
  isNumericArray : v.isNumericArray = true ↔ ∀ b ∈ blocks, b.isNumericArray = true

theorem exists_joined (wideMode : Bool) (hne : blocks ≠ []) (hblocks : ∀ b ∈ blocks, b.IsBlock) :
    ∃ v, Joined wideMode blocks v := by
  match blocks, hne with
  | [b], _ =>
    exact ⟨b, rfl, hblocks b (by simp), by simp [entries], rfl, by simp⟩
  | b :: c :: bs, _ =>
    cases harrays : (b :: c :: bs).mapM numericArray? with
    | some as =>
      have has := arrays_of_mapM harrays
      obtain ⟨zs, hzs, hrows⟩ := NumericArray.joined_eq_vector wideMode as
      have hentries : entries wideMode (b :: c :: bs) = as.map (NumericArray.joinedRow wideMode as) := by
        rw [entries_cons_cons, harrays]
      refine ⟨.array (.joined wideMode as), by rw [joinBlocks_cons_cons, harrays], ?_, ?_, ?_, ?_⟩
      · exact hzs ▸ isBlock_vector (NumericArray.proper_joinedKind wideMode as) zs
      · rw [hentries, hzs, row_vector, hrows]
      · rw [hentries, has, List.map_map, List.map_map]
        refine List.map_congr_left fun a ha => ?_
        have hblock : (array a).IsBlock := hblocks _ (has ▸ List.mem_map_of_mem ha)
        simp only [Function.comp_apply, hblock.array_eq, row_vector, List.length_map]
        simp [NumericArray.joinedRow, NumericArray.cast, NumericArray.onDevice]
      · refine iff_of_true rfl fun d hd => ?_
        obtain ⟨a, -, rfl⟩ := List.mem_map.mp (has ▸ hd)
        rfl
    | none =>
      obtain ⟨d, hd, hlist⟩ := exists_of_mapM_none harrays
      have hjoin := joinBlocks_elements wideMode id row id
        (fun b' hb' => by simpa using (hblocks b' hb').elements) hd hlist
      rw [List.map_id] at hjoin
      refine ⟨_, hjoin, trivial, ?_, ?_, ?_⟩
      · simp [entries_cons_cons, harrays, Value.row, listOf, Value.elements, List.flatMap]
      · simp [entries_cons_cons, harrays]
      · refine iff_of_false (by simp [listOf, Value.isNumericArray]) fun hall => ?_
        simp [hall d hd] at hlist

end State

/-! ### The Euler step, entry by entry -/

namespace Value

variable {y slope v : Value} {wideMode : Bool}

/-- An entry advanced along its slope. -/
def advanced (wideMode : Bool) (y slope : Value) (h : Number) : Except Failure Value := do
  y.combine wideMode .add (← slope.combine wideMode .mul (.real h))

lemma mapM_eq_ok_iff {α β : Type} {f : α → Except Failure β} {xs : List α} {ys : List β} :
    xs.mapM f = .ok ys ↔ List.Forall₂ (fun x y => f x = .ok y) xs ys := by
  induction xs generalizing ys with
  | nil => simp [pure, Except.pure, eq_comm]
  | cons x xs ih =>
    rw [List.mapM_cons, Except.bind_eq_ok, List.forall₂_cons_left_iff]
    constructor
    · rintro ⟨y, hy, h⟩
      obtain ⟨rest, hrest, h⟩ := Except.bind_eq_ok.mp h
      exact ⟨y, rest, hy, ih.mp hrest, (Except.ok.inj h).symm⟩
    · rintro ⟨y, rest, hy, hrest, rfl⟩
      exact ⟨y, hy, Except.bind_eq_ok.mpr ⟨rest, ih.mpr hrest, rfl⟩⟩

lemma forall₂_zip_vectors {k l m : ArrayKind} {f : ComplexNumber → ComplexNumber → ComplexNumber}
    {R : Value × Value → Value → Prop} (hR : ∀ z w, R (k.element z, l.element w) (m.element (f z w)))
    (zs ws : List ComplexNumber) :
    List.Forall₂ R ((zs.map k.element).zip (ws.map l.element))
      ((List.zipWith f zs ws).map m.element) := by
  induction zs generalizing ws with
  | nil => exact .nil
  | cons z zs ih =>
    cases ws with
    | nil => exact .nil
    | cons w ws => exact .cons (hR z w) (ih ws)

/-- The Euler step of vectors that are not both arrays, as far as both reach. -/
lemma eulerStep_list (hy : y.IsBlock) (hslope : slope.IsBlock) {h : Number}
    (harray : (y.isNumericArray && slope.isNumericArray) = false) :
    eulerStep wideMode y slope (.real h) =
      ((y.row.zip slope.row).mapM fun p : Value × Value => p.1.advanced wideMode p.2 h).map .list := by
  have hmap (x : Except Failure (List Value)) :
      x.map Value.list = x >>= fun vs => pure (Value.list vs) := by cases x <;> rfl
  rw [eulerStep, harray, hy.elements, hslope.elements, hmap]
  rfl

lemma eulerStep_vectors {k l m : ArrayKind} {h : Number} {c : ComplexNumber → ComplexNumber}
    (hproduct : ArrayKind.MeetsReal wideMode .mul l m h c) (zs ws : List ComplexNumber) :
    eulerStep wideMode (k.vector zs) (l.vector ws) (.real h) =
      (k.vector zs).combine wideMode .add (m.vector (ws.map c)) := by
  have harrays : ((k.vector zs).isNumericArray && (l.vector ws).isNumericArray) = true := rfl
  rw [eulerStep, if_pos harrays]
  dsimp only
  rw [hproduct.vectors]
  rfl

/-- The Euler step of two arrays needs them to be of one length, unless one has a single item. -/
lemma eulerStep_arrays_ok_iff (hy : y.IsBlock) (hslope : slope.IsBlock) {h : Number}
    (hyarray : y.isNumericArray = true) (hslopearray : slope.isNumericArray = true) :
    (∃ v, eulerStep wideMode y slope (.real h) = .ok v) ↔
      y.row.length = slope.row.length ∨ y.row.length = 1 ∨ slope.row.length = 1 := by
  obtain ⟨k, zs, hk, rfl⟩ := hy.exists_vector hyarray
  obtain ⟨l, ws, hl, rfl⟩ := hslope.exists_vector hslopearray
  obtain ⟨m, c, hproduct⟩ := ArrayKind.exists_meetsReal wideMode .mul hl h
  obtain ⟨n, f, hsum⟩ := ArrayKind.exists_meets wideMode .add hk hproduct.proper
  rw [eulerStep_vectors hproduct, hsum.isOk, row_vector, row_vector, List.length_map, List.length_map,
    List.length_map]

/-- An Euler step advances the entries in pairs. Arrays have to be of one length. -/
theorem eulerStep_row (hy : y.IsBlock) (hslope : slope.IsBlock) {h : Number}
    (hlength : y.row.length = slope.row.length) (hv : eulerStep wideMode y slope (.real h) = .ok v) :
    List.Forall₂ (fun p u => p.1.advanced wideMode p.2 h = .ok u) (y.row.zip slope.row) v.row ∧
      v.elements = .ok v.row := by
  cases harray : y.isNumericArray && slope.isNumericArray with
  | true =>
    rw [Bool.and_eq_true] at harray
    obtain ⟨k, zs, hk, rfl⟩ := hy.exists_vector harray.1
    obtain ⟨l, ws, hl, rfl⟩ := hslope.exists_vector harray.2
    obtain ⟨m, c, hproduct⟩ := ArrayKind.exists_meetsReal wideMode .mul hl h
    obtain ⟨n, f, hsum⟩ := ArrayKind.exists_meets wideMode .add hk hproduct.proper
    rw [row_vector, row_vector, List.length_map, List.length_map] at hlength
    rw [eulerStep_vectors hproduct, hsum.vectors _ _ (by simpa using hlength)] at hv
    obtain rfl := Except.ok.inj hv
    rw [List.zipWith_map_right, row_vector, row_vector, row_vector]
    refine ⟨forall₂_zip_vectors (fun z w => ?_) zs ws, ArrayKind.elements_vector _ _⟩
    rw [advanced, hproduct.elements]
    exact hsum.elements z (c w)
  | false =>
    rw [eulerStep_list hy hslope harray] at hv
    cases hrow : (y.row.zip slope.row).mapM fun p : Value × Value => p.1.advanced wideMode p.2 h with
    | error e => simp [hrow, Except.map] at hv
    | ok vs =>
      rw [hrow] at hv
      obtain rfl := Except.ok.inj hv
      exact ⟨mapM_eq_ok_iff.mp hrow, rfl⟩

end Value

end AdaptiveStep
