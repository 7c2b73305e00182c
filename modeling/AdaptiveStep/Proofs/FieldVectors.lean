import AdaptiveStep.Proofs.FloatVectors

/-!
# Vectors of floats and dual numbers

A dual number lifts each float that it meets, with the derivative zero. So floats and dual numbers have
sums and products in any mixture. A vector of them has an Euler step along a slope of its length, and as
many real parts as it is long.
-/

namespace AdaptiveStep

namespace Value

variable {v w : Value} {wideMode : Bool} {op : Operation}

/-! ### Elements -/

/-- A float without axes, or a dual number. -/
def IsFloatOrDual (v : Value) : Prop := v.IsFloats [] ∨ ∃ d, v = dual d

lemma IsFloats.floatOrDual (hv : v.IsFloats []) : v.IsFloatOrDual := .inl hv

lemma isFloatOrDual_dual (d : Dual) : (dual d).IsFloatOrDual := .inr ⟨d, rfl⟩

lemma IsFloatOrDual.toDual (hv : v.IsFloatOrDual) : ∃ d, v.toDual = .ok d := by
  rcases hv with hv | ⟨d, rfl⟩
  · cases v with
    | real x => exact ⟨_, rfl⟩
    | scalar t z => exact ⟨_, rfl⟩
    | array a =>
      obtain ⟨z, hz⟩ := hv.single rfl
      obtain ⟨t, ht⟩ := hv.type_eq
      refine ⟨⟨FloatType.float64.convert z.re, .finite 0⟩, ?_⟩
      simp [Value.toDual, toNumber, elementToNumber, itemToNumber, hv.shape_eq, hz, ht, Except.map]
    | _ => exact hv.elim
  · exact ⟨d, rfl⟩

lemma combineDual_ok (op : Operation) (hv : v.IsFloatOrDual) (hw : w.IsFloatOrDual) :
    ∃ d, combineDual op v w = .ok (dual d) := by
  obtain ⟨d, hd⟩ := hv.toDual
  obtain ⟨e, he⟩ := hw.toDual
  exact ⟨op.dual d e, by rw [combineDual, hd, he]; rfl⟩

/-- A number out of a host array meets a dual number as a plain float. -/
lemma combineOnHost_dual (itemOp : Value → Value → Except Failure Value) (op : Operation) (d : Dual)
    {a : NumericArray} (ha : a.Floats []) (hv : HostOperand.ofValue v = .ok (.numbers a)) :
    ∃ x, combineOnHost itemOp op v (dual d) = itemOp (real x) (dual d) := by
  obtain ⟨t, ht⟩ := ha.type_eq
  obtain ⟨z, hz⟩ := ha.single rfl
  have hmeet : HostOperand.meet op.name v (dual d) =
      .ok (.elementwise [] [real z.re] [] [dual d]) := by
    have hdual : HostOperand.ofValue (dual d) = .ok (.elements [] [dual d]) := rfl
    simp [HostOperand.meet, HostOperand.meet.both, HostOperand.toElements, hv, hdual, ht, hz,
      ha.shape_eq, ItemType.element, bind, Except.bind, pure, Except.pure]
  refine ⟨z.re, ?_⟩
  simp only [combineOnHost, hmeet, bind, Except.bind]
  cases hitem : itemOp (real z.re) (dual d) with
  | error e => simp [broadcastWith, padShape, joinAxes, stretch, List.mapM_cons, hitem, bind, Except.bind]
  | ok u =>
    simp [broadcastWith, padShape, joinAxes, stretch, List.mapM_cons, hitem, ofElements, bind,
      Except.bind, pure, Except.pure]

lemma combine_float_dual (wideMode : Bool) (op : Operation) (hv : v.IsFloats []) (d : Dual) :
    ∃ e, v.combine wideMode op (dual d) = .ok (dual e) := by
  have hlift {v : Value} (hv : v.IsFloats []) :=
    combineDual_ok op hv.floatOrDual (isFloatOrDual_dual d)
  -- the item of a host array is combined with the dual number as a plain one
  have hitem (x : Number) :
      ∃ e, combineWith (combinePlain op) wideMode op (real x) (dual d) = .ok (dual e) := hlift rfl
  have hhost {a : NumericArray} (ha : a.Floats []) (hoperand : HostOperand.ofValue v = .ok (.numbers a)) :
      ∃ e, combineOnHost (combineWith (combinePlain op) wideMode op) op v (dual d) =
        .ok (dual e) := by
    obtain ⟨x, hx⟩ := combineOnHost_dual (combineWith (combinePlain op) wideMode op) op d ha hoperand
    rw [hx]
    exact hitem x
  cases v with
  | real x => exact hitem x
  | scalar t z =>
    obtain ⟨-, u, rfl⟩ := hv
    have hscalar : (scalar (.real u) z).combine wideMode op (dual d) =
        combineOnHost (combineWith (combinePlain op) wideMode op) op (scalar (.real u) z) (dual d) := by
      cases op <;> rfl
    rw [hscalar]
    exact hhost (NumericArray.floats_single u z) rfl
  | array a =>
    rcases side_array a with hside | hside
    · have hdevice : (array a).combine wideMode op (dual d) = combineDual op (array a) (dual d) := by
        simp only [combine, combineWith, hside]
      rw [hdevice]
      exact hlift hv
    · have harray : (array a).combine wideMode op (dual d) =
          combineOnHost (combineWith (combinePlain op) wideMode op) op (array a) (dual d) := by
        have hdual : (dual d).side = .plain := rfl
        simp only [combine, combineWith, hside, hdual]
      rw [harray]
      exact hhost hv rfl
  | _ => exact hv.elim

/-- Floats and dual numbers have sums, differences and products, which are dual where one of them is. -/
theorem combine_floatOrDual (wideMode : Bool) (op : Operation) (hv : v.IsFloatOrDual)
    (hw : w.IsFloatOrDual) : ∃ u, v.combine wideMode op w = .ok u ∧ u.IsFloatOrDual := by
  rcases hv with hv | ⟨d, rfl⟩
  · rcases hw with hw | ⟨e, rfl⟩
    · obtain ⟨u, hu, hfloats⟩ := combine_floats wideMode op hv hw (by simp) (.inl rfl)
      exact ⟨u, hu, hfloats.floatOrDual⟩
    · obtain ⟨c, hc⟩ := combine_float_dual wideMode op hv e
      exact ⟨_, hc, isFloatOrDual_dual c⟩
  · obtain ⟨c, hc⟩ := combineDual_ok op (isFloatOrDual_dual d) hw
    exact ⟨_, hc, isFloatOrDual_dual c⟩

lemma IsFloatOrDual.realPart (wideMode : Bool) (hv : v.IsFloatOrDual) :
    ∃ x, v.realPart wideMode = .ok x := by
  rcases hv with hv | ⟨d, rfl⟩
  · exact realPart_floats wideMode hv
  · exact ⟨d.value, rfl⟩

/-! ### Vectors -/

/-- A vector of so many floats and dual numbers: a list or a host array of them, or an array of floats
with one axis. -/
def IsFieldVector (n : ℕ) : Value → Prop
  | list items => items.length = n ∧ ∀ v ∈ items, v.IsFloatOrDual
  | tuple items => items.length = n ∧ ∀ v ∈ items, v.IsFloatOrDual
  | objects shape items => shape = [n] ∧ items.length = n ∧ ∀ v ∈ items, v.IsFloatOrDual
  | array a => a.Floats [n] ∧ a.items.length = n
  | _ => False

variable {n : ℕ} {y slope : Value}

lemma IsFieldVector.elements (hv : v.IsFieldVector n) :
    ∃ vs, v.elements = .ok vs ∧ vs.length = n ∧ ∀ w ∈ vs, w.IsFloatOrDual := by
  cases v with
  | list items => exact ⟨items, rfl, hv.1, hv.2⟩
  | tuple items => exact ⟨items, rfl, hv.1, hv.2⟩
  | objects shape items =>
    obtain ⟨rfl, hlength, hitems⟩ := hv
    exact ⟨items, rfl, hlength, hitems⟩
  | array a =>
    have hvector : (array a).IsVector n := hv
    obtain ⟨vs, hvs, hlength, hfloats⟩ := elements_vector hvector
    exact ⟨vs, hvs, hlength, fun w hw => (hfloats w hw).floatOrDual⟩
  | _ => exact hv.elim

/-- A vector of floats and dual numbers has an Euler step along a slope of its length. -/
theorem eulerStep_fieldVector (wideMode : Bool) (hy : y.IsFieldVector n)
    (hslope : slope.IsFieldVector n) (h : Number) :
    ∃ u, eulerStep wideMode y slope (.real h) = .ok u := by
  cases harrays : y.isNumericArray && slope.isNumericArray with
  | true =>
    obtain ⟨⟨a, rfl⟩, ⟨b, rfl⟩⟩ : (∃ a, y = .array a) ∧ ∃ b, slope = .array b := by
      cases y <;> cases slope <;> simp_all [isNumericArray]
    have hyvector : (array a).IsVector n := hy
    have hslopevector : (array b).IsVector n := hslope
    exact eulerStep_vector wideMode hyvector hslopevector h
  | false =>
    obtain ⟨ys, hys, -, hyelements⟩ := hy.elements
    obtain ⟨slopes, hslopes, -, hslopeelements⟩ := hslope.elements
    have hadvance : ∀ p ∈ ys.zip slopes, ∃ u, (do
        p.1.combine wideMode .add (← p.2.combine wideMode .mul (.real h))) = .ok u := by
      intro p hp
      obtain ⟨hleft, hright⟩ := List.of_mem_zip hp
      have hstep : (Value.real h).IsFloatOrDual := .inl rfl
      obtain ⟨c, hc, hproduct⟩ := combine_floatOrDual wideMode .mul (hslopeelements p.2 hright) hstep
      obtain ⟨u, hu, -⟩ := combine_floatOrDual wideMode .add (hyelements p.1 hleft) hproduct
      exact ⟨u, by rw [hc]; exact hu⟩
    obtain ⟨us, hus, -⟩ := mapM_ok hadvance
    refine ⟨.list us, ?_⟩
    simp only [eulerStep, harrays, hys, hslopes, bind, Except.bind] at hus ⊢
    rw [if_neg (by simp), hus]
    rfl

/-- A vector of floats and dual numbers has as many real parts as it is long. -/
theorem doubleVector_fieldVector (wideMode : Bool) (hv : v.IsFieldVector n) :
    ∃ xs, v.doubleVector wideMode = .ok xs ∧ xs.length = n := by
  have hlist {items : List Value} (hlength : items.length = n) (h : ∀ v ∈ items, v.IsFloatOrDual) :
      ∃ xs, items.mapM (realPart wideMode) = .ok xs ∧ xs.length = n :=
    hlength ▸ mapM_ok fun v hv => (h v hv).realPart wideMode
  cases v with
  | list items => exact hlist hv.1 hv.2
  | tuple items => exact hlist hv.1 hv.2
  | objects shape items =>
    obtain ⟨rfl, hlength, hitems⟩ := hv
    exact hlist hlength hitems
  | array a => exact ⟨_, rfl, by simpa using hv.2⟩
  | _ => exact hv.elim

end Value

namespace State

open Value

lemma joinClosed_fieldVectors : JoinClosed (fun n v => v.IsFieldVector n) IsFloatOrDual :=
  ⟨IsFieldVector.elements, fun h => ⟨rfl, h⟩, Iff.rfl⟩

end State

end AdaptiveStep
