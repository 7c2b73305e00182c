import AdaptiveStep.Proofs.ArrayElements
import AdaptiveStep.Proofs.ListVectors
import AdaptiveStep.Proofs.RelatedEstimates

/-!
# Blocks of doubles in several forms

The doubles of a block may be given as a list, as an array on the host or as one on the device. In the
wide mode the form decides which elements the vectors of the estimate have, but not their numbers:
blocks of all forms join to the same numbers, the Euler step is the same in each component, and so are
the evaluation of the dynamics and the first step.
-/

namespace AdaptiveStep

open Extended FloatType Value

/-- The forms in which a block of doubles may be given. -/
inductive Form where
  | list
  | host
  | device (weak : Bool)

namespace Form

/-- A double as an element of a block of the form. -/
def element : Form → Number → Value
  | list, x => .real x
  | host, x => .scalar (.real .float64) (.ofReal x)
  | device weak, x => .array ⟨.device, .real .float64, weak, [], [.ofReal x]⟩

/-- The kind of array that holds doubles of the form. -/
def kind : Form → ArrayKind
  | device weak => ⟨.device, .real .float64, weak⟩
  | _ => ⟨.host, .real .float64, false⟩

/-- Doubles as an array of the form. -/
def array (f : Form) (xs : List Number) : NumericArray :=
  f.kind.array [xs.length] (xs.map .ofReal)

/-- Doubles as a block of the form. -/
def vector : Form → List Number → Value
  | list, xs => .ofNumbers xs
  | f, xs => .array (f.array xs)

/-- The form that elements of two forms make together. -/
def join : Form → Form → Form
  | list, g => g
  | f, list => f
  | host, host => host
  | device weak, device weak' => device (weak && weak')
  | _, _ => device false

@[simp] lemma join_list (f : Form) : f.join list = f := by cases f <;> rfl

variable {f g : Form} {x y h : Number} {xs ys : List Number}

lemma items_array (f : Form) (xs : List Number) : (f.array xs).items = xs.map .ofReal := rfl

lemma proper_kind (f : Form) : f.kind.Proper := by
  cases f
  case device => exact nofun
  all_goals exact fun _ => rfl

lemma element_eq (hf : f ≠ list) (x : Number) : f.element x = f.kind.element (.ofReal x) := by
  cases f
  case list => exact absurd rfl hf
  all_goals rfl

lemma vector_eq (hf : f ≠ list) (xs : List Number) : f.vector xs = f.kind.vector (xs.map .ofReal) := by
  cases f
  case list => exact absurd rfl hf
  all_goals simp [vector, array, ArrayKind.vector]

lemma join_ne_list (hf : f ≠ list) (g : Form) : f.join g ≠ list := by
  cases f <;> cases g <;> simp_all [join]

lemma ne_list (hf : (f.vector xs).isNumericArray = true) : f ≠ list := by
  rintro rfl
  simp [vector, isNumericArray, ofNumbers] at hf

lemma elements_vector (f : Form) (xs : List Number) :
    (f.vector xs).elements = .ok (xs.map f.element) := by
  by_cases hf : f = list
  · subst hf
    rfl
  · rw [vector_eq hf, ArrayKind.elements_vector, List.map_map]
    exact congrArg _ (List.map_congr_left fun x _ => (element_eq hf x).symm)

/-! ### Arithmetic -/

lemma cast_double (hx : float64.Holds x) :
    ItemType.cast (.real .float64) (.real .float64) (.ofReal x) = .ofReal x := by
  simp [ItemType.cast, ComplexNumber.ofReal, convert_of_holds hx]

/-- Whether an element of the form gives its type up to another on the device. -/
def isWeak : Form → Bool
  | list => true
  | host => false
  | device weak => weak

lemma deviceOperand_element (f : Form) (hx : float64.Holds x) :
    (f.element x).deviceOperand? true =
      some (.ok ⟨.device, .real .float64, f.isWeak, [], [.ofReal x]⟩) := by
  rcases f with _ | _ | weak <;>
    simp only [element, deviceOperand?, plain?, Option.bind_some, PlainNumber.onDevice,
      NumericArray.onDevice, NumericArray.single, NumericArray.cast, ItemType.narrowed, if_true,
      List.map_cons, List.map_nil, cast_double hx, isWeak]

/-- On the device. -/
lemma combineOnDevice_element (op : Operation) (f g : Form) (hx : float64.Holds x)
    (hy : float64.Holds y) :
    (f.element x).combineOnDevice true op (g.element y) =
      .ok ((device (f.isWeak && g.isWeak)).element (op.number double x y)) := by
  rw [combineOnDevice_eq (deviceOperand_element f hx) (deviceOperand_element g hy)]
  cases f.isWeak <;> cases g.isWeak <;>
    simp only [NumericArray.meetOnDevice, NumericArray.deviceType, ItemType.yield,
      ItemType.joinDevice, FloatType.join, NumericArray.cast, List.map_cons, List.map_nil,
      cast_double hx, cast_double hy] <;> rfl

/-- On the host. -/
lemma combineOnHost_element {itemOp : Value → Value → Except Failure Value} (op : Operation)
    (hf : f = list ∨ f = host) (hg : g = list ∨ g = host) (hhost : f = host ∨ g = host)
    (hx : float64.Holds x) (hy : float64.Holds y) :
    (f.element x).combineOnHost itemOp op (g.element y) =
      .ok (host.element (op.number double x y)) := by
  have hitem {z : Number} (hz : float64.Holds z) :
      (ItemType.real .float64).itemOf (.real z) = .ok (.ofReal z) :=
    congrArg (fun z => Except.ok (ComplexNumber.ofReal z)) (convert_of_holds hz)
  have hmeet : HostOperand.meet op.name (f.element x) (g.element y) =
      .ok (.numeric (.single (.real .float64) (.ofReal x)) (.single (.real .float64) (.ofReal y))) := by
    rcases hf with rfl | rfl <;> rcases hg with rfl | rfl
    · simp at hhost
    all_goals
      simp only [HostOperand.meet, HostOperand.ofValue, element, plain?, bind, Except.bind,
        PlainNumber.meet, NumericArray.single, hitem hx, hitem hy, NumericArray.cast, List.map_cons,
        List.map_nil, cast_double hx, cast_double hy, ItemType.joinHost, FloatType.join,
        Bool.false_eq_true, if_false]
      rfl
  rw [ArrayKind.combineOnHost_numeric hmeet]
  rfl

/-- A sum, difference or product of doubles in any two forms is that of the doubles. -/
theorem combine_element (op : Operation) (f g : Form) (hx : float64.Holds x) (hy : float64.Holds y) :
    (f.element x).combine true op (g.element y) =
      .ok ((f.join g).element (op.number double x y)) := by
  rcases f with _ | _ | weak <;> rcases g with _ | _ | weak'
  case list.list => cases op <;> rfl
  case list.host => cases op <;> exact combineOnHost_element _ (.inl rfl) (.inr rfl) (.inr rfl) hx hy
  case host.list => cases op <;> exact combineOnHost_element _ (.inr rfl) (.inl rfl) (.inl rfl) hx hy
  case host.host => cases op <;> exact combineOnHost_element _ (.inr rfl) (.inr rfl) (.inl rfl) hx hy
  -- With an element on the device both sides go there.
  case list.device => exact combineOnDevice_element op list (device weak') hx hy
  case host.device => exact combineOnDevice_element op host (device weak') hx hy
  case device.list =>
    exact (combineOnDevice_element op (device weak) list hx hy).trans (by simp [isWeak, join])
  case device.host =>
    exact (combineOnDevice_element op (device weak) host hx hy).trans (by simp [isWeak, join])
  case device.device => exact combineOnDevice_element op (device weak) (device weak') hx hy

/-- The kind of an array and an item of it, from an element. -/
lemma kind_of_element {m : ArrayKind} (hm : m.Proper) (hf : f ≠ list) {z : ComplexNumber}
    (h : m.element z = f.element x) : m = f.kind ∧ z = .ofReal x :=
  ArrayKind.element_inj hm f.proper_kind (h.trans (element_eq hf x))

/-- Arrays of doubles, item by item. -/
theorem combine_vector (op : Operation) (hf : f ≠ list) (hg : g ≠ list)
    (hxs : ∀ x ∈ xs, float64.Holds x) (hys : ∀ y ∈ ys, float64.Holds y)
    (hlength : xs.length = ys.length) :
    (f.vector xs).combine true op (g.vector ys) =
      .ok ((f.join g).vector (List.zipWith (op.number double) xs ys)) := by
  have hm := join_ne_list hf g
  obtain ⟨m, item, hmeets⟩ := ArrayKind.exists_meets true op f.proper_kind g.proper_kind
  have hitem {x y : Number} (hx : float64.Holds x) (hy : float64.Holds y) :
      m = (f.join g).kind ∧ item (.ofReal x) (.ofReal y) = .ofReal (op.number double x y) := by
    have hcombine := combine_element op f g hx hy
    rw [element_eq hf, element_eq hg, hmeets.elements] at hcombine
    exact kind_of_element hmeets.proper hm (Except.ok.inj hcombine)
  obtain ⟨hkind, -⟩ := hitem (x := .nan) (y := .nan) trivial trivial
  rw [vector_eq hf, vector_eq hg, hmeets.vectors _ _ (by simpa using hlength), vector_eq hm, ← hkind,
    List.zipWith_map, List.map_zipWith, ← List.map_uncurry_zip_eq_zipWith,
    ← List.map_uncurry_zip_eq_zipWith]
  refine congrArg (fun zs => Except.ok (m.vector zs)) (List.map_congr_left ?_)
  rintro ⟨x, y⟩ hxy
  obtain ⟨hx, hy⟩ := List.of_mem_zip hxy
  exact (hitem (hxs x hx) (hys y hy)).2

/-- An array of doubles and one double. -/
theorem combine_vector_real (op : Operation) (hf : f ≠ list) (hxs : ∀ x ∈ xs, float64.Holds x)
    (hh : float64.Holds h) :
    (f.vector xs).combine true op (.real h) =
      .ok (f.vector (xs.map (op.number double · h))) := by
  obtain ⟨m, item, hmeets⟩ := ArrayKind.exists_meetsReal true op f.proper_kind h
  have hitem {x : Number} (hx : float64.Holds x) :
      m = f.kind ∧ item (.ofReal x) = .ofReal (op.number double x h) := by
    have hcombine := combine_element op f list hx hh
    rw [join_list, element_eq hf] at hcombine
    exact kind_of_element hmeets.proper hf (Except.ok.inj ((hmeets.elements _).symm.trans hcombine))
  obtain ⟨rfl, -⟩ := hitem (x := .nan) trivial
  rw [vector_eq hf, hmeets.vectors, vector_eq hf, List.map_map, List.map_map]
  exact congrArg (fun zs => Except.ok (f.kind.vector zs))
    (List.map_congr_left fun x hx => (hitem (hxs x hx)).2)

end Form

/-! ### Vectors of doubles -/

namespace Value

variable {v w y slope : Value} {xs ks : List Number}

/-- The doubles `xs` as a block of some form, or as a list of elements each in its own form. -/
inductive Carries : Value → List Number → Prop
  | block (f : Form) (xs : List Number) : Carries (f.vector xs) xs
  | mixed (ps : List (Form × Number)) :
    Carries (listOf (fun p => p.1.element p.2) ps) (ps.map Prod.snd)

lemma Carries.elements (hv : v.Carries xs) :
    ∃ ps : List (Form × Number), ps.map Prod.snd = xs ∧
      v.elements = .ok (ps.map fun p => p.1.element p.2) := by
  cases hv with
  | block f => exact ⟨xs.map (f, ·), by simp, by simp [Form.elements_vector]⟩
  | mixed ps => exact ⟨ps, rfl, rfl⟩

lemma Carries.array (hv : v.Carries xs) (harray : v.isNumericArray = true) :
    ∃ f : Form, v = f.vector xs ∧ f ≠ .list := by
  cases hv with
  | block f => exact ⟨f, rfl, Form.ne_list harray⟩
  | mixed ps => simp [listOf, isNumericArray] at harray

lemma realPart_element (f : Form) {x : Number} (hx : float64.Holds x) :
    (f.element x).realPart true = .ok x := by
  cases f <;> simp [Form.element, realPart, realPart.onDevice, ItemType.narrowed, ItemType.cast,
    ComplexNumber.ofReal, convert_of_holds hx]

lemma Carries.doubleVector (hv : v.Carries xs) (hxs : ∀ x ∈ xs, float64.Holds x) :
    v.doubleVector true = .ok xs := by
  cases hv with
  | block f =>
    cases f with
    | list =>
      have hlist : (listOf Value.real xs).doubleVector true = .ok (xs.map id) :=
        doubleVector_listOf fun _ _ => rfl
      rwa [List.map_id] at hlist
    | _ =>
      refine congrArg Except.ok ?_
      rw [Form.items_array, List.map_map]
      exact (List.map_congr_left fun x hx => convert_of_holds (hxs x hx)).trans (List.map_id xs)
  | mixed ps =>
    refine doubleVector_listOf fun p hp => realPart_element p.1 (hxs p.2 ?_)
    exact List.mem_map_of_mem hp

/-- An Euler step is that of each component. -/
theorem Carries.eulerStep (hy : y.Carries xs) (hslope : slope.Carries ks)
    (hxs : ∀ x ∈ xs, float64.Holds x) (hks : ∀ k ∈ ks, float64.Holds k)
    (hlength : xs.length = ks.length) {h : Number} (hh : float64.Holds h) :
    ∃ v, eulerStep true y slope (.real h) = .ok v ∧
      v.Carries (List.zipWith (fun x k => double.add x (double.mul k h)) xs ks) := by
  cases harray : y.isNumericArray && slope.isNumericArray with
  | true =>
    rw [Bool.and_eq_true] at harray
    obtain ⟨f, rfl, hf⟩ := hy.array harray.1
    obtain ⟨g, rfl, hg⟩ := hslope.array harray.2
    have hproduct := Form.combine_vector_real .mul hg hks hh
    have hproducts : ∀ z ∈ ks.map (Operation.mul.number double · h), float64.Holds z := by
      intro z hz
      obtain ⟨k, -, rfl⟩ := List.mem_map.mp hz
      exact holds_mul k h
    have hsum := Form.combine_vector .add hf hg hxs hproducts (by simpa using hlength)
    rw [List.zipWith_map_right] at hsum
    refine ⟨_, ?_, .block (f.join g) _⟩
    simp only [AdaptiveStep.eulerStep, harray, Bool.and_self, if_true, hproduct]
    exact hsum
  | false =>
    obtain ⟨ps, rfl, hps⟩ := hy.elements
    obtain ⟨qs, rfl, hqs⟩ := hslope.elements
    let stepped (p q : Form × Number) : Form × Number :=
      (p.1.join q.1, double.add p.2 (double.mul q.2 h))
    have hstep := eulerStep_elements true (fun p : Form × Number => p.1.element p.2)
      (fun q : Form × Number => q.1.element q.2)
      (fun p q => (stepped p q).1.element (stepped p q).2) ps qs (h := .real h) harray hps hqs
      fun p hp q hq => ?_
    · refine ⟨_, hstep, ?_⟩
      have hcarries := Carries.mixed (List.zipWith stepped ps qs)
      rw [listOf, List.map_zipWith, List.map_zipWith] at hcarries
      rwa [List.zipWith_map]
    · have hx := hxs p.2 (List.mem_map_of_mem hp)
      have hk := hks q.2 (List.mem_map_of_mem hq)
      have hproduct := Form.combine_element .mul q.1 .list hk hh
      rw [Form.join_list] at hproduct
      change (q.1.element q.2).combine true .mul (Form.list.element h) >>= _ = _
      rw [hproduct]
      exact Form.combine_element .add p.1 q.1 hx (holds_mul q.2 h)

lemma holds_stepped (hxs : ∀ x ∈ xs, float64.Holds x) {h : Number} :
    ∀ z ∈ List.zipWith (fun x k => double.add x (double.mul k h)) xs ks, float64.Holds z := by
  rw [← List.map_uncurry_zip_eq_zipWith]
  intro z hz
  obtain ⟨⟨x, k⟩, hmem, rfl⟩ := List.mem_map.mp hz
  exact holds_add (hxs x (List.of_mem_zip hmem).1) (holds_mul k h)

/-- Arrays of doubles are joined to one array on the device. -/
lemma joined_array {blocks : List (Form × List Number)} (hne : blocks ≠ [])
    (hholds : ∀ b ∈ blocks, ∀ x ∈ b.2, float64.Holds x) :
    NumericArray.joined true (blocks.map fun b => b.1.array b.2) =
      (Form.device false).array (blocks.flatMap Prod.snd) := by
  have hone (b : Form × List Number) : ((b.1.array b.2).onDevice true).type = .real .float64 := by
    cases b.1 <;> rfl
  have htype (bs : List (Form × List Number)) :
      ((bs.map fun b => b.1.array b.2).map (·.onDevice true)).foldl
        (fun (t : ItemType) a => t.joinDevice a.type) (.real .float64) = .real .float64 := by
    induction bs with
    | nil => rfl
    | cons b bs ih =>
      rw [List.map_cons, List.map_cons, List.foldl_cons, hone]
      exact ih
  have hitems (b : Form × List Number) (hb : ∀ x ∈ b.2, float64.Holds x) :
      (((b.1.array b.2).onDevice true).cast (.real .float64)).items = b.2.map .ofReal := by
    have hkind : b.1.kind.type = .real .float64 := by cases b.1 <;> rfl
    simp only [NumericArray.onDevice, NumericArray.cast, Form.array, ArrayKind.array, hkind,
      ItemType.narrowed, if_true, List.map_map]
    refine List.map_congr_left fun x hx => ?_
    simp only [Function.comp_apply, Form.cast_double (hb x hx)]
  have hjoined : ((blocks.map fun b => b.1.array b.2).map (·.onDevice true)).map
      (fun a => (a.cast (.real .float64)).items) = blocks.map fun b => b.2.map .ofReal := by
    rw [List.map_map, List.map_map]
    exact List.map_congr_left fun b hb => hitems b (hholds b hb)
  obtain ⟨b, bs, rfl⟩ := List.exists_cons_of_ne_nil hne
  have hfold : (((b :: bs).map fun b => b.1.array b.2).map (·.onDevice true)).foldl
      (fun (t : ItemType) a => t.joinDevice a.type) (.integer false) = .real .float64 := by
    rw [List.map_cons, List.map_cons, List.foldl_cons, hone]
    exact htype bs
  have hflat : ((b :: bs).map fun b => b.2.map ComplexNumber.ofReal).flatten =
      ((b :: bs).flatMap Prod.snd).map .ofReal := by
    rw [List.map_flatMap]
    rfl
  simp only [NumericArray.joined, hfold, hjoined, hflat, List.length_map]
  rfl

/-- Blocks of doubles become one vector of their doubles. -/
theorem joinBlocks_carries (blocks : List (Form × List Number)) (hne : blocks ≠ [])
    (hholds : ∀ b ∈ blocks, ∀ x ∈ b.2, float64.Holds x) :
    ∃ v, State.joinBlocks true (blocks.map fun b => b.1.vector b.2) = .ok v ∧
      v.Carries (blocks.flatMap Prod.snd) := by
  match blocks, hne with
  | [b], _ => exact ⟨_, rfl, by simpa using Carries.block b.1 b.2⟩
  | b :: c :: bs, _ =>
    by_cases hlist : ∃ d ∈ b :: c :: bs, d.1 = .list
    · obtain ⟨d, hd, hdlist⟩ := hlist
      have hjoin := State.joinBlocks_elements true (fun b : Form × List Number => b.1.vector b.2)
        (fun b => b.2.map (b.1, ·)) (fun p : Form × Number => p.1.element p.2)
        (fun b' _ => by simp [Form.elements_vector]) hd (by rw [hdlist]; rfl)
      refine ⟨_, hjoin, ?_⟩
      have hcarries := Carries.mixed ((b :: c :: bs).flatMap fun b => b.2.map (b.1, ·))
      simpa [List.map_flatMap] using hcarries
    · push Not at hlist
      have hvectors : (b :: c :: bs).map (fun b => b.1.vector b.2) =
          ((b :: c :: bs).map fun b => b.1.array b.2).map .array := by
        rw [List.map_map]
        refine List.map_congr_left fun d hd => ?_
        cases hform : d.1
        case list => exact absurd hform (hlist d hd)
        all_goals simp [hform, Form.vector]
      refine ⟨_, ?_, .block (.device false) _⟩
      rw [hvectors]
      refine (State.joinBlocks_arrays _ _ _).trans ?_
      exact congrArg (fun a => Except.ok (Value.array a))
        (joined_array (List.cons_ne_nil _ _) hholds)

/-- The same doubles, in whatever form. -/
def SameNumbers (y y' : Value) : Prop :=
  ∃ xs : List Number, (∀ x ∈ xs, float64.Holds x) ∧ y.Carries xs ∧ y'.Carries xs

end Value

/-- The dynamics give the same real parts for the same doubles, or fail for the same reason, and act on
the world in the same way. -/
def Dynamics.OfNumbers {σ : Type} (f : Dynamics σ Value Value) : Prop :=
  ∀ t y y' s, SameNumbers y y' →
    Action.Related (fun v v' => v.doubleVector true = v'.doubleVector true) Eq
      ((f t y).outcome s) ((f t y').outcome s)

/-- The doubles of a block, with two forms in which they may be given. -/
structure DoubleBlock where
  numbers : List Number
  holds : ∀ x ∈ numbers, float64.Holds x
  one : Form
  other : Form

namespace Start

variable {σ : Type} {f : Dynamics σ Value Value}

/-- The problem whose blocks are given in the first of their forms. -/
def oneProblem (S : Start Value DoubleBlock) : StartProblem :=
  S.problem id fun b => b.one.vector b.numbers

/-- The problem whose blocks are given in the second of their forms. -/
def otherProblem (S : Start Value DoubleBlock) : StartProblem :=
  S.problem id fun b => b.other.vector b.numbers

/-- The blocks of the derivative are as long as those of the state. -/
def Matched (S : Start Value DoubleBlock) : Prop :=
  ∀ slope, S.derivative = some slope →
    (S.slopes slope).map (·.numbers.length) = S.blocks.map (·.numbers.length)

lemma vector_ne_absent (form : Form) (xs : List Number) : form.vector xs ≠ .absent := by
  cases form <;> exact nofun

/-- Two vectors with the numbers of these blocks. -/
def JoinAlike (blocks : List DoubleBlock) (y y' : Value) : Prop :=
  y.Carries (blocks.flatMap (·.numbers)) ∧ y'.Carries (blocks.flatMap (·.numbers))

lemma joinBlocks_joinAlike {blocks : List DoubleBlock} (hne : blocks ≠ []) :
    Except.Related (JoinAlike blocks)
      (State.joinBlocks true (blocks.map fun b => b.one.vector b.numbers))
      (State.joinBlocks true (blocks.map fun b => b.other.vector b.numbers)) := by
  have hjoin (form : DoubleBlock → Form) :
      ∃ v, State.joinBlocks true (blocks.map fun b => (form b).vector b.numbers) = .ok v ∧
        v.Carries (blocks.flatMap (·.numbers)) := by
    have h := joinBlocks_carries (blocks.map fun b => (form b, b.numbers))
      (by simpa using hne) ?_
    · simpa [List.map_map, Function.comp_def, List.flatMap_map] using h
    · intro b hb
      obtain ⟨c, -, rfl⟩ := List.mem_map.mp hb
      exact c.holds
  obtain ⟨v, hv, hcarries⟩ := hjoin DoubleBlock.one
  obtain ⟨w, hw, hcarries'⟩ := hjoin DoubleBlock.other
  rw [hv, hw]
  exact ⟨hcarries, hcarries'⟩

lemma holds_flatMap (blocks : List DoubleBlock) :
    ∀ x ∈ blocks.flatMap (·.numbers), float64.Holds x := by
  intro x hx
  obtain ⟨b, -, hb⟩ := List.mem_flatMap.mp hx
  exact b.holds x hb

lemma stepsAlike_joinAlike {blocks slopes : List DoubleBlock}
    (hlength : slopes.map (·.numbers.length) = blocks.map (·.numbers.length)) {y y' k k' : Value}
    (hy : JoinAlike blocks y y') (hk : JoinAlike slopes k k') :
    StartProblem.StepsAlike true SameNumbers (y, k) (y', k') where
  state := (hy.1.doubleVector (holds_flatMap _)).trans (hy.2.doubleVector (holds_flatMap _)).symm
  slope := (hk.1.doubleVector (holds_flatMap _)).trans (hk.2.doubleVector (holds_flatMap _)).symm
  step h hh := by
    have htotal : (blocks.flatMap (·.numbers)).length = (slopes.flatMap (·.numbers)).length := by
      rw [List.length_flatMap, List.length_flatMap, hlength]
    obtain ⟨v, hv, hcarries⟩ := hy.1.eulerStep hk.1 (holds_flatMap _) (holds_flatMap _) htotal hh
    obtain ⟨w, hw, hcarries'⟩ := hy.2.eulerStep hk.2 (holds_flatMap _) (holds_flatMap _) htotal hh
    rw [hv, hw]
    exact ⟨_, holds_stepped (holds_flatMap _), hcarries, hcarries'⟩

lemma alike_forms {S : Start Value DoubleBlock} (hS : S.Matched) :
    StartProblem.Alike true Eq SameNumbers S.oneProblem S.otherProblem where
  order := rfl
  forward := rfl
  scale := ((Carries.block S.scale.one _).doubleVector S.scale.holds).trans
    ((Carries.block S.scale.other _).doubleVector S.scale.holds).symm
  start := rfl
  time _ _ := Except.related_self _
  vectors := S.vectors_related (J := JoinAlike) (fun _ => vector_ne_absent _ _)
    (fun _ => vector_ne_absent _ _) (joinBlocks_joinAlike (List.cons_ne_nil _ _))
    (fun _ _ _ => joinBlocks_joinAlike (List.cons_ne_nil _ _))
    fun slope hslope _ _ _ _ _ hy hk => stepsAlike_joinAlike (hS slope hslope) hy hk

/-- In the wide mode the forms of the blocks do not change the first step. Two problems with the same
doubles have the same first step or fail for the same reason, and the dynamics are evaluated at the
same times and the same doubles. -/
theorem firstStep_forms {S : Start Value DoubleBlock} (hS : S.Matched) (hf : Dynamics.OfNumbers f)
    (bounds : StepBounds) (s : σ) :
    ∃ (r : Except Failure Value) (calls calls' : List (Value × Value)) (s' : σ),
      (S.oneProblem.firstStep true (Dynamics.watched f) bounds).outcome ([], s) = (r, calls, s') ∧
      (S.otherProblem.firstStep true (Dynamics.watched f) bounds).outcome ([], s) =
        (r, calls', s') ∧
      List.Forall₂ (fun c d => c.1 = d.1 ∧ SameNumbers c.2 d.2) calls calls' := by
  have hsame : Dynamics.Related true Eq SameNumbers Eq f f := by
    rintro t _ y y' s _ rfl hy rfl
    exact hf t y y' s hy
  obtain ⟨hresult, hcalls, hworld⟩ := StartProblem.firstStep_related (alike_forms hS)
    hsame.watched ([], s) ([], s) ⟨.nil, rfl⟩ bounds
  rcases hone : (S.oneProblem.firstStep true (Dynamics.watched f) bounds).outcome ([], s) with
    ⟨r, calls, s'⟩
  rcases hother : (S.otherProblem.firstStep true (Dynamics.watched f) bounds).outcome ([], s) with
    ⟨r', calls', s''⟩
  rw [hone, hother] at hresult hcalls hworld
  obtain rfl : r = r' := hresult.eq
  obtain rfl : s' = s'' := hworld
  exact ⟨r, calls, calls', s', rfl, rfl, hcalls⟩

/-- Dynamics under which each double grows by itself. -/
def growing : Dynamics Unit Value Value := fun _ y =>
  liftM ((y.doubleVector true).map Value.ofNumbers)

lemma ofNumbers_growing : Dynamics.OfNumbers growing := by
  rintro t y y' s ⟨xs, hxs, hy, hy'⟩
  simp only [growing, Action.outcome_lift, hy.doubleVector hxs, hy'.doubleVector hxs]
  exact ⟨rfl, rfl⟩

/-- Rounded rationals as a block. -/
def ofRats (qs : List ℚ) (one other : Form) : DoubleBlock where
  numbers := qs.map Number.ofRat
  holds x hx := by
    obtain ⟨q, -, rfl⟩ := List.mem_map.mp hx
    exact holds_round q
  one := one
  other := other

/-- Two blocks and their derivatives, as lists and arrays in different mixtures. -/
def mixedForms : Start Value DoubleBlock where
  time := .real (.finite 0)
  primary := ofRats [1 / 10, 2] .list (.device false)
  derivative := some (ofRats [1 / 3, -1] .host .list)
  secondary := [ofRats [5] .host (.device true)]
  secondaryDerivatives := [ofRats [7 / 5] (.device false) .host]
  scale := ofRats [1, 2] .list .host
  order := .integer 2
  forward := true

theorem firstStep_forms_mixedForms :
    mixedForms.Matched ∧ Dynamics.OfNumbers growing ∧
      ∃ (r : Except Failure Value) (calls calls' : List (Value × Value)) (s' : Unit),
        (mixedForms.oneProblem.firstStep true (Dynamics.watched growing)
          ⟨.real (.finite 0), .real (.finite 10), none⟩).outcome ([], ()) = (r, calls, s') ∧
        (mixedForms.otherProblem.firstStep true (Dynamics.watched growing)
          ⟨.real (.finite 0), .real (.finite 10), none⟩).outcome ([], ()) = (r, calls', s') ∧
        List.Forall₂ (fun c d => c.1 = d.1 ∧ SameNumbers c.2 d.2) calls calls' := by
  have hmatched : mixedForms.Matched := by
    intro slope hslope
    obtain rfl := Option.some.inj hslope
    rfl
  exact ⟨hmatched, ofNumbers_growing, firstStep_forms hmatched ofNumbers_growing _ ()⟩

end Start

end AdaptiveStep
