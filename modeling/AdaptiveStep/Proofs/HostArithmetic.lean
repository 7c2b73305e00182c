import AdaptiveStep.Proofs.OppositeValues

/-!
# Arithmetic on the host

The wide mode of the device decides nothing where the device is not involved: numbers of every kind
and host arrays of numbers have the same sums, differences and products in both modes, and they are
on the host again.
-/

namespace AdaptiveStep

lemma broadcastWith_congr {α β γ : Type} {f g : α → β → γ} {xs : List α} {ys : List β}
    (h : ∀ x ∈ xs, ∀ y ∈ ys, f x y = g x y) (s t : List ℕ) :
    broadcastWith f s xs t ys = broadcastWith g s xs t ys := by
  have hattach (k : α → β → γ) : broadcastWith k s xs t ys =
      broadcastWith (fun x y => k x.1 y.1) s xs.attach t ys.attach := by
    have hmap := broadcastWith_map k Subtype.val Subtype.val s t xs.attach ys.attach
    rwa [List.attach_map_subtype_val, List.attach_map_subtype_val] at hmap
  rw [hattach f, hattach g]
  congr 1
  funext x y
  exact h x.1 x.2 y.1 y.2

namespace Value

/-- A number of any kind, or an array of numbers on the host. -/
def IsHostElement : Value → Prop
  | array a => a.residence = .host
  | objects _ _ => False
  | text _ => False
  | list _ => False
  | tuple _ => False
  | absent => False
  | _ => True

variable {v w : Value} {wideMode wideMode' : Bool}

lemma IsHostElement.side_ne (hv : v.IsHostElement) : v.side ≠ .device := by
  cases v with
  | array a =>
    have ha : a.residence = .host := hv
    simp [side, ha]
  | _ => simp [side]

lemma isHostElement_toValue {a : NumericArray} (ha : a.residence = .host) :
    a.toValue.IsHostElement := by
  obtain ⟨h, -⟩ | ⟨z, h, -⟩ := toValue_cases a
  · rw [h]
    exact ha
  · rw [h]
    trivial

/-- The elements that meet others one by one are no array items. -/
lemma IsHostElement.side_toElements (hv : v.IsHostElement) {o : HostOperand}
    (h : HostOperand.ofValue v = .ok o) : ∀ x ∈ (o.toElements v).2, x.side = .plain := by
  cases v with
  | array a =>
    obtain rfl := Except.ok.inj h
    intro x hx
    obtain ⟨z, -, rfl⟩ := List.mem_map.mp hx
    cases a.type <;> rfl
  | scalar t z =>
    obtain rfl := Except.ok.inj h
    intro x hx
    obtain ⟨z, -, rfl⟩ := List.mem_map.mp hx
    cases t <;> rfl
  | objects shape items => exact hv.elim
  | text s => exact hv.elim
  | list items => exact hv.elim
  | tuple items => exact hv.elim
  | absent => exact hv.elim
  | _ =>
    obtain rfl := Except.ok.inj h
    intro x hx
    obtain rfl := List.mem_singleton.mp hx
    rfl

lemma meet_elementwise {operation : String} {shape₁ shape₂ : List ℕ} {xs ys : List Value}
    (h : HostOperand.meet operation v w = .ok (.elementwise shape₁ xs shape₂ ys)) :
    ∃ o p, HostOperand.ofValue v = .ok o ∧ HostOperand.ofValue w = .ok p ∧
      o.toElements v = (shape₁, xs) ∧ p.toElements w = (shape₂, ys) := by
  unfold HostOperand.meet at h
  obtain ⟨o, ho, h⟩ := Except.bind_eq_ok.mp h
  obtain ⟨p, hp, h⟩ := Except.bind_eq_ok.mp h
  refine ⟨o, p, ho, hp, ?_⟩
  have hboth (h : HostOperand.meet.both v w o p = .elementwise shape₁ xs shape₂ ys) :
      o.toElements v = (shape₁, xs) ∧ p.toElements w = (shape₂, ys) := by
    obtain ⟨hshape₁, hxs, hshape₂, hys⟩ := HostOperand.Meeting.elementwise.inj h
    exact ⟨Prod.ext hshape₁ hxs, Prod.ext hshape₂ hys⟩
  split at h
  · simp [pure, Except.pure] at h
  · obtain ⟨z, -, h⟩ := Except.bind_eq_ok.mp h
    simp [pure, Except.pure] at h
  · obtain ⟨z, -, h⟩ := Except.bind_eq_ok.mp h
    simp [pure, Except.pure] at h
  · split at h
    · exact hboth (Except.ok.inj h)
    · exact hboth (Except.ok.inj h)
    · simp at h

lemma combineOnHost_congr {f g : Value → Value → Except Failure Value}
    (hfg : ∀ x y, x.side = .plain → y.side = .plain → f x y = g x y) (op : Operation)
    (hv : v.IsHostElement) (hw : w.IsHostElement) :
    combineOnHost f op v w = combineOnHost g op v w := by
  unfold combineOnHost
  cases hmeet : HostOperand.meet op.name v w with
  | error e => rfl
  | ok meeting =>
    cases meeting with
    | numeric a b => rfl
    | elementwise shape₁ xs shape₂ ys =>
      obtain ⟨o, p, ho, hp, hxs, hys⟩ := meet_elementwise hmeet
      have hplain : ∀ x ∈ xs, ∀ y ∈ ys, f x y = g x y := by
        intro x hx y hy
        refine hfg x y (hv.side_toElements ho x ?_) (hw.side_toElements hp y ?_)
        · rwa [hxs]
        · rwa [hys]
      simp only [bind, Except.bind, broadcastWith_congr hplain]

/-- Values without arrays meet as they are. -/
lemma combineWith_plain {f : Value → Value → Except Failure Value} (op : Operation)
    (hv : v.side = .plain) (hw : w.side = .plain) :
    combineWith f wideMode op v w = combinePlain op v w := by
  unfold combineWith
  split
  · rfl
  · rw [hv, hw]

lemma combineScalar_congr {f g : Value → Value → Except Failure Value}
    (hfg : ∀ x y, x.side = .plain → y.side = .plain → f x y = g x y) (op : Operation)
    (hv : v.IsHostElement) (hw : w.IsHostElement) :
    combineScalar f op v w = combineScalar g op v w := by
  have hreal (x : Number) : combineOnHost f op (real x) w = combineOnHost g op (real x) w :=
    combineOnHost_congr hfg op trivial hw
  unfold combineScalar
  simp only [hreal, combineOnHost_congr hfg op hv hw]

lemma combineWith_congr {f g : Value → Value → Except Failure Value}
    (hfg : ∀ x y, x.side = .plain → y.side = .plain → f x y = g x y) (op : Operation)
    (hv : v.IsHostElement) (hw : w.IsHostElement) :
    combineWith f wideMode op v w = combineWith g wideMode' op v w := by
  have hhost := combineOnHost_congr hfg op hv hw
  have hscalar := combineScalar_congr hfg op hv hw
  have hleft := hv.side_ne
  have hright := hw.side_ne
  unfold combineWith
  split
  · rfl
  · cases hvside : v.side <;> cases hwside : w.side <;> simp_all

/-- The wide mode of the device does not matter for values on the host. -/
theorem combine_host (op : Operation) (hv : v.IsHostElement) (hw : w.IsHostElement) :
    v.combine wideMode op w = v.combine wideMode' op w := by
  refine combineWith_congr (fun x y hx hy => ?_) op hv hw
  rw [combineWith_plain op hx hy, combineWith_plain op hx hy]

/-- A host array that meets a double gives a host array. -/
lemma isHostElement_combineOnHost {f : Value → Value → Except Failure Value} {op : Operation}
    {a : NumericArray} {x : Number} (ha : a.residence = .host)
    (hv : HostOperand.ofValue v = .ok (.numbers a))
    (h : combineOnHost f op v (real x) = .ok w) : w.IsHostElement := by
  have hx : HostOperand.ofValue (real x) = .ok (.plain (.real x)) := rfl
  unfold combineOnHost HostOperand.meet at h
  obtain ⟨meeting, hmeeting, h⟩ := Except.bind_eq_ok.mp h
  rw [hv, hx] at hmeeting
  obtain ⟨z, -, hmeeting⟩ := Except.bind_eq_ok.mp
    (show ((PlainNumber.real x).meet a.type).itemOf (real x) >>= _ = Except.ok meeting from hmeeting)
  obtain rfl := Except.ok.inj hmeeting
  obtain ⟨b, hb, h⟩ := Except.bind_eq_ok.mp h
  obtain rfl := Except.ok.inj h
  refine isHostElement_toValue ?_
  unfold NumericArray.zipItems at hb
  split at hb
  · obtain rfl := Except.ok.inj hb
    exact ha
  · simp at hb

lemma isHostElement_combinePlain {op : Operation} {p q : PlainNumber} (h : p.combine op q = .ok w) :
    w.IsHostElement := by
  unfold PlainNumber.combine at h
  split at h
  · obtain rfl := Except.ok.inj h
    trivial
  · split at h
    · obtain rfl := Except.ok.inj h
      trivial
    · split_ifs at h
      all_goals
        obtain ⟨x, -, h⟩ := Except.bind_eq_ok.mp h
        obtain ⟨y, -, h⟩ := Except.bind_eq_ok.mp h
        obtain rfl := Except.ok.inj h
        trivial

/-- A product with a double is on the host again. -/
theorem IsHostElement.scaled (hv : v.IsHostElement) {x : Number}
    (h : v.combine wideMode .mul (real x) = .ok w) : w.IsHostElement := by
  cases v with
  | array a =>
    have ha : a.residence = .host := hv
    have hhost : (array a).combine wideMode .mul (real x) =
        (array a).combineOnHost (combineWith (combinePlain .mul) wideMode .mul) .mul (real x) := by
      simp [combine, combineWith, side, ha]
    exact isHostElement_combineOnHost ha rfl (hhost ▸ h)
  | scalar t z => exact isHostElement_combineOnHost (a := .single t z) rfl rfl h
  | dual d =>
    obtain ⟨p, -, h⟩ := Except.bind_eq_ok.mp h
    obtain ⟨q, -, h⟩ := Except.bind_eq_ok.mp h
    obtain rfl := Except.ok.inj h
    trivial
  | objects shape items => exact hv.elim
  | text s => exact hv.elim
  | list items => exact hv.elim
  | tuple items => exact hv.elim
  | absent => exact hv.elim
  | real y => exact isHostElement_combinePlain (p := .real y) (q := .real x) h
  | integer n => exact isHostElement_combinePlain (p := .integer n) (q := .real x) h
  | boolean b => exact isHostElement_combinePlain (p := .integer _) (q := .real x) h
  | rational q => exact isHostElement_combinePlain (p := .rational q) (q := .real x) h
  | complex z => exact isHostElement_combinePlain (p := .complex z) (q := .real x) h

end Value

end AdaptiveStep
