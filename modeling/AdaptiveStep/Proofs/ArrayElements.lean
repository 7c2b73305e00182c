import AdaptiveStep.Proofs.FloatVectors

/-!
# Arrays and their elements

Arithmetic on arrays with one axis is arithmetic on their elements: which kind of array two operands
make, and how their items meet in it, is decided by the kinds of the operands and not by their shapes.
This holds on the host and on the device, for items of every type and for a double as the other
operand. Arrays of unlike length do not meet, unless one of them has a single item.
-/

namespace AdaptiveStep

/-! ### Broadcasting -/

section Broadcast

variable {α β γ : Type} (f : α → β → γ)

lemma stretch_vector (xs : List α) : stretch [xs.length] [xs.length] xs = xs := by
  simp only [stretch, Value.pieces_single, List.map_map, if_true]
  induction xs with
  | nil => rfl
  | cons x xs ih => simpa [stretch] using ih

lemma stretch_single (n : ℕ) (x : α) : stretch [1] [n] [x] = List.replicate n x := by
  by_cases h : 1 = n
  · subst h
    rfl
  · simp [stretch, NumericArray.pieces, NumericArray.itemCount, h]

lemma joinAxes_vectors (n m : ℕ) :
    joinAxes [n] [m] = if n = m ∨ m = 1 then some [n] else if n = 1 then some [m] else none := by
  simp [joinAxes]

lemma broadcastWith_vectors {xs : List α} {ys : List β} (h : xs.length = ys.length) :
    broadcastWith f [xs.length] xs [ys.length] ys = some ([xs.length], List.zipWith f xs ys) := by
  have hys : stretch [ys.length] [ys.length] ys = ys := stretch_vector ys
  have hxs : stretch [xs.length] [xs.length] xs = xs := stretch_vector xs
  rw [← h] at hys ⊢
  simp [broadcastWith, padShape, joinAxes_vectors, hxs, hys]

lemma broadcastWith_vector_item (xs : List α) (y : β) :
    broadcastWith f [xs.length] xs [] [y] = some ([xs.length], xs.map (f · y)) := by
  have hzip : List.zipWith f xs (List.replicate xs.length y) = xs.map (f · y) := by
    induction xs with
    | nil => rfl
    | cons x xs ih => simpa [List.replicate_succ] using ih
  simp [broadcastWith, padShape, joinAxes_vectors, stretch_vector, stretch_single, hzip]

/-- Two vectors meet if they are of one length or one of them has a single item. -/
lemma isSome_broadcastWith (n m : ℕ) (xs : List α) (ys : List β) :
    (broadcastWith f [n] xs [m] ys).isSome = decide (n = m ∨ n = 1 ∨ m = 1) := by
  simp only [broadcastWith, padShape, List.length_singleton, Nat.max_self, Nat.sub_self,
    List.replicate_zero, List.nil_append, joinAxes_vectors, Option.isSome_map]
  split_ifs <;> simp <;> omega

end Broadcast

/-! ### Kinds of arrays -/

/-- What decides how an array meets others: where it lives, and the type of its items. -/
structure ArrayKind where
  residence : Residence
  type : ItemType
  weak : Bool

namespace ArrayKind

/-- The array of this kind with the given items. -/
def array (k : ArrayKind) (shape : List ℕ) (items : List ComplexNumber) : NumericArray :=
  ⟨k.residence, k.type, k.weak, shape, items⟩

/-- An element of an array of this kind. -/
def element (k : ArrayKind) (z : ComplexNumber) : Value := (k.array [] [z]).toValue

/-- The array of this kind with one axis. -/
def vector (k : ArrayKind) (zs : List ComplexNumber) : Value := .array (k.array [zs.length] zs)

/-- Only arrays on the device are weak. -/
def Proper (k : ArrayKind) : Prop := k.residence = .host → k.weak = false

/-- The kind of an array. -/
def of (a : NumericArray) : ArrayKind := ⟨a.residence, a.type, a.weak⟩

variable {k l : ArrayKind} {wideMode : Bool}

@[simp] lemma array_residence (k : ArrayKind) (shape : List ℕ) (items : List ComplexNumber) :
    (k.array shape items).residence = k.residence := rfl

@[simp] lemma array_type (k : ArrayKind) (shape : List ℕ) (items : List ComplexNumber) :
    (k.array shape items).type = k.type := rfl

lemma toValue_vector (k : ArrayKind) (n : ℕ) (zs : List ComplexNumber) :
    (k.array [n] zs).toValue = .array (k.array [n] zs) :=
  Value.toValue_of_axes (List.cons_ne_nil _ _)

lemma elements_vector (k : ArrayKind) (zs : List ComplexNumber) :
    (k.vector zs).elements = .ok (zs.map k.element) := by
  have hrows : (k.array [zs.length] zs).rows? = some (zs.map fun z => k.array [] [z]) := by
    simp only [NumericArray.rows?, array, Value.pieces_single, List.map_map]
    rfl
  simp only [vector, Value.elements, hrows, List.map_map]
  rfl

/-- An element tells the kind of its array and the item. -/
lemma element_inj (hk : k.Proper) (hl : l.Proper) {z w : ComplexNumber}
    (h : k.element z = l.element w) : k = l ∧ z = w := by
  obtain ⟨residence, type, weak⟩ := k
  obtain ⟨residence', type', weak'⟩ := l
  cases residence <;> cases residence' <;>
    simp only [element, array, NumericArray.toValue, Value.scalar.injEq, Value.array.injEq,
      NumericArray.mk.injEq, reduceCtorEq] at h
  · obtain ⟨rfl, rfl⟩ := h
    obtain rfl : weak = false := hk rfl
    obtain rfl : weak' = false := hl rfl
    exact ⟨rfl, rfl⟩
  · obtain ⟨-, rfl, rfl, -, hz⟩ := h
    exact ⟨rfl, List.singleton_inj.mp hz⟩

/-- The kind of array that arrays of two kinds make: an array on the host if both are there. -/
def meet (wideMode : Bool) (k l : ArrayKind) : ArrayKind :=
  if k.residence = .host ∧ l.residence = .host then ⟨.host, k.type.joinHost l.type, false⟩
  else
    let (type, weak) := NumericArray.deviceType ((k.array [] []).onDevice wideMode)
      ((l.array [] []).onDevice wideMode)
    ⟨.device, type, weak⟩

/-- An item of one kind as an item of another. -/
def convert (wideMode : Bool) (k m : ArrayKind) (z : ComplexNumber) : ComplexNumber :=
  if m.residence = .host then k.type.cast m.type z
  else (k.type.narrowed wideMode).cast m.type (k.type.cast (k.type.narrowed wideMode) z)

lemma proper_meet (wideMode : Bool) (k l : ArrayKind) : (k.meet wideMode l).Proper := by
  unfold meet
  split_ifs
  · exact fun _ => rfl
  · exact nofun

lemma ofValue_toValue (hk : k.Proper) (shape : List ℕ) (items : List ComplexNumber) :
    HostOperand.ofValue (k.array shape items).toValue = .ok (.numbers (k.array shape items)) := by
  obtain ⟨residence, type, weak⟩ := k
  cases residence
  · obtain rfl : weak = false := hk rfl
    rcases shape with _ | ⟨n, shape⟩ <;> rcases items with _ | ⟨z, _ | ⟨w, items⟩⟩ <;> rfl
  · rfl

lemma deviceOperand_toValue (hk : k.Proper) (shape : List ℕ) (items : List ComplexNumber) :
    (k.array shape items).toValue.deviceOperand? wideMode =
      some (.ok ((k.array shape items).onDevice wideMode)) := by
  obtain ⟨residence, type, weak⟩ := k
  cases residence
  · obtain rfl : weak = false := hk rfl
    rcases shape with _ | ⟨n, shape⟩ <;> rcases items with _ | ⟨z, _ | ⟨w, items⟩⟩ <;> rfl
  · rfl

lemma toValue_array_or_scalar (a : NumericArray) :
    a.toValue = .array a ∨ (a.residence = .host ∧ ∃ z, a.toValue = .scalar a.type z) := by
  obtain ⟨residence, type, weak, shape, items⟩ := a
  rcases residence with _ | _ <;> rcases shape with _ | ⟨n, shape⟩ <;>
    rcases items with _ | ⟨z, _ | ⟨w, items⟩⟩ <;> simp [NumericArray.toValue]

/-- Two arrays meet on the host if both are there, else on the device. -/
lemma combine_toValue_eq (wideMode : Bool) (op : Operation) (a b : NumericArray) :
    a.toValue.combine wideMode op b.toValue =
      if a.residence = .host ∧ b.residence = .host then
        Value.combineOnHost (Value.combineWith (Value.combinePlain op) wideMode op) op a.toValue b.toValue
      else Value.combineOnDevice wideMode op a.toValue b.toValue := by
  have hresidence {c : NumericArray} (h : c.residence ≠ .device) : c.residence = .host := by
    cases hc : c.residence <;> simp_all
  rcases toValue_array_or_scalar a with ha | ⟨hahost, z, ha⟩ <;>
    rcases toValue_array_or_scalar b with hb | ⟨hbhost, w, hb⟩ <;> rw [ha, hb]
  case inl.inl =>
    by_cases ha : a.residence = .device <;> by_cases hb : b.residence = .device <;>
      simp [Value.combine, Value.combineWith, Value.side, ha, hb, hresidence]
  case inl.inr =>
    by_cases ha : a.residence = .device <;>
      simp [Value.combine, Value.combineWith, Value.side, ha, hbhost, hresidence]
  case inr.inl =>
    by_cases hb : b.residence = .device <;>
      simp [Value.combine, Value.combineWith, Value.side, hb, hahost, hresidence]
  case inr.inr =>
    rw [if_pos ⟨hahost, hbhost⟩]
    cases op <;> rfl

lemma combineOnHost_numeric {itemOp : Value → Value → Except Failure Value} {op : Operation}
    {v w : Value} {a b : NumericArray} (h : HostOperand.meet op.name v w = .ok (.numeric a b)) :
    Value.combineOnHost itemOp op v w =
      (a.zipItems (op.item a.type) b).map NumericArray.toValue := by
  simp only [Value.combineOnHost, h, bind, Except.bind]
  cases a.zipItems (op.item a.type) b <;> rfl

/-- What arrays on the device make is on the device. -/
lemma zipItems_toValue_device {f : ComplexNumber → ComplexNumber → ComplexNumber}
    {a b : NumericArray} (ha : a.residence = .device) :
    (a.zipItems f b).map Value.array = (a.zipItems f b).map NumericArray.toValue := by
  obtain ⟨residence, type, weak, shape, items⟩ := a
  obtain rfl : residence = .device := ha
  unfold NumericArray.zipItems
  split <;> rfl

lemma meet_toValue (wideMode : Bool) (operation : String) (hk : k.Proper) (hl : l.Proper)
    (hhost : k.residence = .host ∧ l.residence = .host) (shape shape' : List ℕ)
    (zs ws : List ComplexNumber) :
    HostOperand.meet operation (k.array shape zs).toValue (l.array shape' ws).toValue =
      .ok (.numeric
        ((k.meet wideMode l).array shape (zs.map (k.convert wideMode (k.meet wideMode l))))
        ((k.meet wideMode l).array shape' (ws.map (l.convert wideMode (k.meet wideMode l))))) := by
  unfold HostOperand.meet
  rw [ofValue_toValue hk, ofValue_toValue hl]
  have hkweak := hk hhost.1
  have hlweak := hl hhost.2
  simp [bind, Except.bind, pure, Except.pure, array, hkweak, hlweak, meet, hhost, convert,
    NumericArray.cast]

lemma meetOnDevice_array (hdevice : ¬(k.residence = .host ∧ l.residence = .host))
    (shape shape' : List ℕ) (zs ws : List ComplexNumber) :
    ((k.array shape zs).onDevice wideMode).meetOnDevice ((l.array shape' ws).onDevice wideMode) =
      ((k.meet wideMode l).array shape (zs.map (k.convert wideMode (k.meet wideMode l))),
        (k.meet wideMode l).array shape' (ws.map (l.convert wideMode (k.meet wideMode l)))) := by
  simp [NumericArray.meetOnDevice, meet, hdevice, array, convert, NumericArray.cast,
    NumericArray.onDevice, NumericArray.deviceType]

/-- Arithmetic on arrays, in the kind that they make together. -/
theorem combine_toValue (op : Operation) (hk : k.Proper) (hl : l.Proper) (shape shape' : List ℕ)
    (zs ws : List ComplexNumber) :
    (k.array shape zs).toValue.combine wideMode op (l.array shape' ws).toValue =
      (((k.meet wideMode l).array shape (zs.map (k.convert wideMode (k.meet wideMode l)))).zipItems
        (op.item (k.meet wideMode l).type)
        ((k.meet wideMode l).array shape' (ws.map (l.convert wideMode (k.meet wideMode l))))).map
        NumericArray.toValue := by
  rw [combine_toValue_eq, array_residence, array_residence]
  by_cases hhost : k.residence = .host ∧ l.residence = .host
  · rw [if_pos hhost, combineOnHost_numeric (meet_toValue wideMode _ hk hl hhost _ _ _ _)]
    rfl
  · rw [if_neg hhost, Value.combineOnDevice_eq (deviceOperand_toValue hk _ _)
      (deviceOperand_toValue hl _ _), meetOnDevice_array hhost]
    exact zipItems_toValue_device (by simp [meet, hhost, array])

/-- An array on the host meets a double on the host, and one on the device there. -/
lemma combine_toValue_real (wideMode : Bool) (op : Operation) (a : NumericArray) (h : Number) :
    a.toValue.combine wideMode op (.real h) =
      if a.residence = .host then
        Value.combineOnHost (Value.combineWith (Value.combinePlain op) wideMode op) op a.toValue (.real h)
      else Value.combineOnDevice wideMode op a.toValue (.real h) := by
  rcases toValue_array_or_scalar a with ha | ⟨hahost, z, ha⟩ <;> rw [ha]
  · cases hresidence : a.residence <;>
      simp [Value.combine, Value.combineWith, Value.side, hresidence]
  · rw [if_pos hahost]
    cases op <;> rfl

/-- A double is an item of the type in which it meets others. -/
lemma exists_itemOf (h : Number) (t : ItemType) :
    ∃ x, ((PlainNumber.real h).meet t).itemOf (.real h) = .ok x := by
  rcases t with wide | (_ | _ | _ | _) | wide <;> exact ⟨_, rfl⟩

/-- Arithmetic on arrays of the kind `k` and the double `h` is done in the kind `m`: the items are
converted by `c`, and the double is the item `x`. -/
structure TakesReal (wideMode : Bool) (op : Operation) (k : ArrayKind) (h : Number) (m : ArrayKind)
    (c : ComplexNumber → ComplexNumber) (x : ComplexNumber) : Prop where
  proper : m.Proper
  arrays : ∀ shape zs, (k.array shape zs).toValue.combine wideMode op (.real h) =
    ((m.array shape (zs.map c)).zipItems (op.item m.type) (m.array [] [x])).map NumericArray.toValue

/-- Arithmetic on an array and a double on the host. -/
lemma combineOnHost_real (wideMode : Bool) (op : Operation) (hk : k.Proper)
    (hresidence : k.residence = .host) (h : Number) :
    ∃ m c x, TakesReal wideMode op k h m c x := by
  obtain ⟨x, hx⟩ := exists_itemOf h k.type
  refine ⟨⟨.host, (PlainNumber.real h).meet k.type, false⟩,
    k.type.cast ((PlainNumber.real h).meet k.type), x, fun _ => rfl, fun shape zs => ?_⟩
  have hmeet : HostOperand.meet op.name (k.array shape zs).toValue (.real h) =
      .ok (.numeric ((k.array shape zs).cast ((PlainNumber.real h).meet k.type))
        (.single ((PlainNumber.real h).meet k.type) x)) := by
    unfold HostOperand.meet
    rw [ofValue_toValue hk]
    simp [bind, Except.bind, pure, Except.pure, HostOperand.ofValue, Value.plain?, hx]
  rw [combine_toValue_real, array_residence, if_pos hresidence, combineOnHost_numeric hmeet]
  simp [NumericArray.cast, array, hk hresidence, hresidence, NumericArray.single]

lemma proper_device (t : ItemType) (weak : Bool) : (⟨.device, t, weak⟩ : ArrayKind).Proper :=
  fun h => absurd h (by simp)

/-- Arithmetic on an array and a double on the device, where the double is a weak item. -/
lemma combineOnDevice_real (wideMode : Bool) (op : Operation) (hk : k.Proper)
    (hresidence : k.residence = .device) (h : Number) :
    ∃ m c x, TakesReal wideMode op k h m c x := by
  let u : FloatType := if wideMode then .float64 else .float32
  let b : NumericArray :=
    ⟨.device, .real u, true, [], [ItemType.cast (.real .float64) (.real u) (.ofReal h)]⟩
  let met := ((k.array [] []).onDevice wideMode).deviceType b
  let t := k.type.narrowed wideMode
  refine ⟨⟨.device, met.1, met.2⟩, fun z => t.cast met.1 (k.type.cast t z),
    (ItemType.real u).cast met.1 (ItemType.cast (.real .float64) (.real u) (.ofReal h)),
    proper_device _ _, fun shape zs => ?_⟩
  have hmeet : ((k.array shape zs).onDevice wideMode).meetOnDevice b =
      ((⟨.device, met.1, met.2⟩ : ArrayKind).array shape
          (zs.map fun z => t.cast met.1 (k.type.cast t z)),
        (⟨.device, met.1, met.2⟩ : ArrayKind).array [] (b.items.map (b.type.cast met.1))) := by
    simp only [NumericArray.meetOnDevice, NumericArray.onDevice, NumericArray.cast, array,
      List.map_map, Prod.mk.injEq]
    exact ⟨rfl, rfl⟩
  rw [combine_toValue_real, array_residence, if_neg (by simp [hresidence]),
    Value.combineOnDevice_eq (deviceOperand_toValue hk _ _) (b := b) rfl, hmeet]
  exact zipItems_toValue_device rfl

/-- Arithmetic on an array and a double, which is one item of the kind that they make together. -/
theorem combine_real (wideMode : Bool) (op : Operation) (hk : k.Proper) (h : Number) :
    ∃ m c x, TakesReal wideMode op k h m c x := by
  cases hresidence : k.residence with
  | host => exact combineOnHost_real wideMode op hk hresidence h
  | device => exact combineOnDevice_real wideMode op hk hresidence h

lemma zipItems_vectors (f : ComplexNumber → ComplexNumber → ComplexNumber) (k : ArrayKind) {n : ℕ}
    {zs ws : List ComplexNumber} (hzs : zs.length = n) (hws : ws.length = n) :
    (k.array [n] zs).zipItems f (k.array [n] ws) = .ok (k.array [n] (List.zipWith f zs ws)) := by
  have hbroadcast : broadcastWith f [n] zs [n] ws = some ([n], List.zipWith f zs ws) := by
    have h := broadcastWith_vectors f (hzs.trans hws.symm)
    rwa [hws, hzs] at h
  simp only [NumericArray.zipItems, array, hbroadcast]

lemma zipItems_vector_item (f : ComplexNumber → ComplexNumber → ComplexNumber) (k : ArrayKind) {n : ℕ}
    {zs : List ComplexNumber} (hzs : zs.length = n) (w : ComplexNumber) :
    (k.array [n] zs).zipItems f (k.array [] [w]) = .ok (k.array [n] (zs.map (f · w))) := by
  subst hzs
  simp only [NumericArray.zipItems, array, broadcastWith_vector_item]

lemma zipItems_ok_iff (f : ComplexNumber → ComplexNumber → ComplexNumber) (k : ArrayKind) (n m : ℕ)
    (zs ws : List ComplexNumber) :
    (∃ a, (k.array [n] zs).zipItems f (k.array [m] ws) = .ok a) ↔ n = m ∨ n = 1 ∨ m = 1 := by
  have hsome := isSome_broadcastWith f n m zs ws
  simp only [NumericArray.zipItems, array]
  cases hbroadcast : broadcastWith f [n] zs [m] ws with
  | none =>
    rw [hbroadcast] at hsome
    simpa using hsome
  | some r =>
    rw [hbroadcast] at hsome
    simpa using hsome

/-- How the items of arrays of two kinds meet, element by element and in vectors. -/
structure Meets (wideMode : Bool) (op : Operation) (k l m : ArrayKind)
    (f : ComplexNumber → ComplexNumber → ComplexNumber) : Prop where
  proper : m.Proper
  elements : ∀ z w, (k.element z).combine wideMode op (l.element w) = .ok (m.element (f z w))
  vectors : ∀ zs ws, zs.length = ws.length →
    (k.vector zs).combine wideMode op (l.vector ws) = .ok (m.vector (List.zipWith f zs ws))
  isOk : ∀ zs ws, (∃ u, (k.vector zs).combine wideMode op (l.vector ws) = .ok u) ↔
    zs.length = ws.length ∨ zs.length = 1 ∨ ws.length = 1

theorem exists_meets (wideMode : Bool) (op : Operation) (hk : k.Proper) (hl : l.Proper) :
    ∃ m f, Meets wideMode op k l m f := by
  refine ⟨k.meet wideMode l, fun z w => op.item (k.meet wideMode l).type
    (k.convert wideMode (k.meet wideMode l) z) (l.convert wideMode (k.meet wideMode l) w),
    proper_meet wideMode k l, fun z w => ?_, fun zs ws hlength => ?_, fun zs ws => ?_⟩
  · exact combine_toValue op hk hl [] [] [z] [w]
  · rw [vector, vector, ← toValue_vector, ← toValue_vector, combine_toValue op hk hl, hlength,
      zipItems_vectors _ _ (by simp [hlength]) (by simp)]
    simp [Except.map, toValue_vector, vector, List.zipWith_map, hlength]
  · have hmap (x : Except Failure NumericArray) :
        (∃ u, x.map NumericArray.toValue = .ok u) ↔ ∃ a, x = .ok a := by
      cases x <;> simp [Except.map]
    rw [vector, vector, ← toValue_vector, ← toValue_vector, combine_toValue op hk hl, hmap]
    exact zipItems_ok_iff _ _ _ _ _ _

/-- A double as the other operand. -/
structure MeetsReal (wideMode : Bool) (op : Operation) (k m : ArrayKind) (h : Number)
    (f : ComplexNumber → ComplexNumber) : Prop where
  proper : m.Proper
  elements : ∀ z, (k.element z).combine wideMode op (.real h) = .ok (m.element (f z))
  vectors : ∀ zs, (k.vector zs).combine wideMode op (.real h) = .ok (m.vector (zs.map f))

theorem exists_meetsReal (wideMode : Bool) (op : Operation) (hk : k.Proper) (h : Number) :
    ∃ m f, MeetsReal wideMode op k m h f := by
  obtain ⟨m, c, x, hm, hcombine⟩ := combine_real wideMode op hk h
  refine ⟨m, fun z => op.item m.type (c z) x, hm, fun z => hcombine [] [z], fun zs => ?_⟩
  rw [vector, ← toValue_vector, hcombine, zipItems_vector_item _ _ (by simp)]
  simp [Except.map, toValue_vector, vector, Function.comp_def]

end ArrayKind

end AdaptiveStep
