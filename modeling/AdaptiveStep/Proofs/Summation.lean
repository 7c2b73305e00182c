import Mathlib.Algebra.BigOperators.Group.List.Basic
import AdaptiveStep.Number.Arithmetic

/-!
# Sums in any order

Rounding makes the order matter in which summands are added, but what is known of a sum often does not
depend on it. `Arithmetic.Adds` relates summands to what is left of them after some have been added to
others, in any order. What every single addition keeps holds of the sum, so that nothing has to be
proved of the way in which many items are added pairwise.
-/

namespace AdaptiveStep

variable {α : Type}

namespace Arithmetic

variable {A : Arithmetic α} {xs ys zs ws : List α}

/-- Summands, and what is left of them after some have been added to others. -/
inductive Adds (A : Arithmetic α) : List α → List α → Prop
  | perm {xs ys : List α} : xs.Perm ys → Adds A xs ys
  | add (x y : α) (rest : List α) : Adds A (x :: y :: rest) (A.add x y :: rest)
  | trans {xs ys zs : List α} : Adds A xs ys → Adds A ys zs → Adds A xs zs

namespace Adds

lemma refl (xs : List α) : A.Adds xs xs := .perm (.refl xs)

/-- What holds of the summands, in any order, and is kept by every addition holds of what is left. -/
theorem invariant {P : List α → Prop} (hperm : ∀ xs ys, xs.Perm ys → P xs → P ys)
    (hadd : ∀ x y rest, P (x :: y :: rest) → P (A.add x y :: rest)) (h : A.Adds xs ys) (hxs : P xs) :
    P ys := by
  induction h with
  | perm h => exact hperm _ _ h hxs
  | add x y rest => exact hadd x y rest hxs
  | trans _ _ ih ih' => exact ih' (ih hxs)

lemma append_right (h : A.Adds xs ys) (zs : List α) : A.Adds (xs ++ zs) (ys ++ zs) := by
  induction h with
  | perm h => exact .perm (h.append_right zs)
  | add x y rest => exact .add x y (rest ++ zs)
  | trans _ _ ih ih' => exact ih.trans ih'

lemma append (h : A.Adds xs ys) (h' : A.Adds zs ws) : A.Adds (xs ++ zs) (ys ++ ws) :=
  ((Adds.perm List.perm_append_comm).trans (h'.append_right xs)).trans
    ((Adds.perm List.perm_append_comm).trans (h.append_right ws))

lemma cons (x : α) (h : A.Adds xs ys) : A.Adds (x :: xs) (x :: ys) := (refl [x]).append h

lemma foldl (x : α) (xs : List α) : A.Adds (x :: xs) [xs.foldl A.add x] := by
  induction xs generalizing x with
  | nil => exact refl [x]
  | cons y xs ih => exact (Adds.add x y xs).trans (ih (A.add x y))

lemma neighbours (xs : List α) : A.Adds xs (A.addNeighbours xs) := by
  induction xs using addNeighbours.induct with
  | case1 x y rest ih => exact (Adds.add x y rest).trans (ih.cons _)
  | case2 rest h =>
    rw [addNeighbours]
    · exact refl rest
    · exact h

lemma zipWith (h : xs.length = ys.length) : A.Adds (xs ++ ys) (List.zipWith A.add xs ys) := by
  induction xs generalizing ys with
  | nil =>
    obtain rfl := List.length_eq_zero_iff.mp h.symm
    exact refl []
  | cons x xs ih =>
    obtain ⟨y, ys, rfl⟩ := List.exists_cons_of_length_eq_add_one h.symm
    have hfront : (x :: xs ++ y :: ys).Perm (x :: y :: (xs ++ ys)) := List.perm_middle.cons x
    exact (Adds.perm hfront).trans ((Adds.add x y (xs ++ ys)).trans ((ih (by simpa using h)).cons _))

lemma lanes (hxs : xs.length = 8) (ys : List α) :
    A.Adds (xs ++ ys) ((A.addLanes xs ys).1 ++ (A.addLanes xs ys).2) := by
  induction xs, ys using addLanes.induct (A := A) with
  | case1 xs ys h =>
    rw [addLanes, if_pos h]
    exact refl (xs ++ ys)
  | case2 xs ys h ih =>
    have hlength : xs.length = (ys.take 8).length := by rw [List.length_take]; omega
    have hrest := ih (by rw [List.length_zipWith, ← hlength, Nat.min_self, hxs])
    rw [addLanes, if_neg h]
    refine Adds.trans ?_ hrest
    have hnext := (zipWith (A := A) hlength).append_right (ys.drop 8)
    rwa [List.append_assoc, List.take_append_drop] at hnext

end Adds

/-- A sum of the items in some order. It may start from zero, and so may the sums that it is made of. -/
def IsSum (A : Arithmetic α) (xs : List α) (s : α) : Prop :=
  ∃ k, A.Adds (List.replicate k (A.ofRat 0) ++ xs) [s]

lemma isSum_sum (xs : List α) : A.IsSum xs (A.sum xs) := ⟨1, .foldl (A.ofRat 0) xs⟩

lemma isSum_blockSum (hxs : 8 ≤ xs.length) : A.IsSum xs (A.blockSum xs) := by
  have hfirst : (xs.take 8).length = 8 := by rw [List.length_take]; omega
  have hlanes := Adds.lanes (A := A) hfirst (xs.drop 8)
  rw [List.take_append_drop] at hlanes
  obtain ⟨k, hsum⟩ := A.isSum_sum
    (A.addNeighbours (A.addNeighbours (A.addNeighbours (A.addLanes (xs.take 8) (xs.drop 8)).1)) ++
      (A.addLanes (xs.take 8) (xs.drop 8)).2)
  have hneighbours (ys : List α) :
      A.Adds ys (A.addNeighbours (A.addNeighbours (A.addNeighbours ys))) :=
    ((Adds.neighbours ys).trans (.neighbours _)).trans (.neighbours _)
  exact ⟨k, ((Adds.refl _).append (hlanes.trans ((hneighbours _).append_right _))).trans hsum⟩

lemma IsSum.add {x y : α} (hx : A.IsSum xs x) (hy : A.IsSum ys y) :
    A.IsSum (xs ++ ys) (A.add x y) := by
  obtain ⟨k, hx⟩ := hx
  obtain ⟨l, hy⟩ := hy
  refine ⟨k + l, Adds.trans (.perm ?_) ((hx.append hy).trans (.add x y []))⟩
  rw [List.replicate_add, List.append_assoc, List.append_assoc]
  refine List.Perm.append_left _ ?_
  rw [← List.append_assoc, ← List.append_assoc]
  exact List.perm_append_comm.append_right ys

lemma isSum_halvedSum (hxs : 8 ≤ xs.length) : A.IsSum xs (A.halvedSum xs) := by
  induction xs using halvedSum.induct with
  | case1 xs h =>
    rw [halvedSum, if_pos h]
    exact isSum_blockSum hxs
  | case2 xs h half ih ih' =>
    have hleft := ih (by rw [List.length_take]; omega)
    have hright := ih' (by rw [List.length_drop]; omega)
    rw [halvedSum, if_neg h]
    simpa using hleft.add hright

theorem isSum_pairwiseSum (xs : List α) : A.IsSum xs (A.pairwiseSum xs) := by
  unfold pairwiseSum
  split_ifs with h
  · exact isSum_sum xs
  · exact isSum_halvedSum (by omega)

/-- What holds of the items and of zeros beside them, in any order, and is kept by every addition holds
of the sum. -/
theorem IsSum.invariant {P : List α → Prop} {s : α} (h : A.IsSum xs s)
    (hperm : ∀ xs ys, xs.Perm ys → P xs → P ys)
    (hadd : ∀ x y rest, P (x :: y :: rest) → P (A.add x y :: rest))
    (hzeros : ∀ k, P (List.replicate k (A.ofRat 0) ++ xs)) : P [s] := by
  obtain ⟨k, hk⟩ := h
  exact hk.invariant hperm hadd (hzeros k)

/-- A property of zero and of every item that sums of two keep. -/
theorem IsSum.closed {Q : α → Prop} {s : α} (h : A.IsSum xs s) (hzero : Q (A.ofRat 0))
    (hadd : ∀ x y, Q x → Q y → Q (A.add x y)) (hxs : ∀ x ∈ xs, Q x) : Q s := by
  have hall : ∀ x ∈ [s], Q x := by
    refine h.invariant (P := fun ys => ∀ y ∈ ys, Q y) ?_ ?_ ?_
    · exact fun _ _ hperm hys y hy => hys y (hperm.mem_iff.mpr hy)
    · simp only [List.forall_mem_cons]
      exact fun x y rest hys => ⟨hadd x y hys.1 hys.2.1, hys.2.2⟩
    · simp only [List.forall_mem_append]
      exact fun k => ⟨fun y hy => List.eq_of_mem_replicate hy ▸ hzero, hxs⟩
  exact hall s (List.mem_singleton_self s)

/-- What is additive where `Q` holds is the same of the sum as in total of the items. -/
theorem IsSum.total {M : Type*} [AddCommMonoid M] {Q : α → Prop} {m : α → M} {s : α}
    (h : A.IsSum xs s) (hzero : Q (A.ofRat 0)) (htotal : m (A.ofRat 0) = 0)
    (hadd : ∀ x y, Q x → Q y → Q (A.add x y) ∧ m (A.add x y) = m x + m y) (hxs : ∀ x ∈ xs, Q x) :
    m s = (xs.map m).sum := by
  have hsum : (∀ x ∈ [s], Q x) ∧ ([s].map m).sum = (xs.map m).sum := by
    refine h.invariant (P := fun ys => (∀ y ∈ ys, Q y) ∧ (ys.map m).sum = (xs.map m).sum) ?_ ?_ ?_
    · rintro ys zs hperm ⟨hys, hm⟩
      exact ⟨fun y hy => hys y (hperm.mem_iff.mpr hy), ((hperm.map m).sum_eq).symm.trans hm⟩
    · rintro x y rest ⟨hys, hm⟩
      simp only [List.forall_mem_cons] at hys ⊢
      obtain ⟨hholds, hxy⟩ := hadd x y hys.1 hys.2.1
      refine ⟨⟨hholds, hys.2.2⟩, ?_⟩
      rw [← hm, List.map_cons, List.sum_cons, hxy, List.map_cons, List.map_cons, List.sum_cons,
        List.sum_cons, add_assoc]
    · intro k
      simp only [List.forall_mem_append]
      refine ⟨⟨fun y hy => List.eq_of_mem_replicate hy ▸ hzero, hxs⟩, ?_⟩
      rw [List.map_append, List.sum_append, List.map_replicate, htotal, List.sum_replicate, nsmul_zero,
        zero_add]
  simpa using hsum.2

end Arithmetic

end AdaptiveStep
