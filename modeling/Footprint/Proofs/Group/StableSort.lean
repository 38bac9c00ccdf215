import Mathlib.Data.List.Basic
import Footprint.Group.Order

/-!
# Stable sorts

A stable sort of a list has its elements in the order of a comparison, and those that compare equal
in the order in which they stood (`IsStableSort`). For a total preorder (`Std.TransCmp`) there is
just one (`IsStableSort.unique`), and `List.mergeSort` finds it (`isStableSort_mergeSort`). A stable
sort by a second comparison and then by a first one is the stable sort by both, the first one before
the second (`IsStableSort.lex`).
-/

namespace Footprint

/-- `ys` is `xs` in the order of a comparison, where elements that compare equal keep their
order. -/
structure IsStableSort {α : Type} (cmp : α → α → Ordering) (xs ys : List α) : Prop where
  /-- Each element occurs as often as before. -/
  perm : ys.Perm xs
  /-- No element stands behind a greater one. -/
  ordered : ys.Pairwise fun x y => (cmp x y).isLE
  /-- The elements that compare equal with a given one are in the same order as before. -/
  stable : ∀ x, ys.filter (cmp x · == .eq) = xs.filter (cmp x · == .eq)

section StableSort

variable {α : Type} {cmp cmp' : α → α → Ordering} {xs ys zs : List α}

/-- Elements that all compare equal are in the same order as before. -/
theorem IsStableSort.filter_eq (h : IsStableSort cmp xs ys) {p : α → Bool}
    (hp : ∀ x ∈ xs, ∀ y ∈ xs, p x → p y → cmp x y = .eq) : ys.filter p = xs.filter p := by
  by_cases hex : ∃ x ∈ xs, p x
  · obtain ⟨x, hx, hpx⟩ := hex
    -- They are among the elements that compare equal with one of them.
    have hclass : ∀ {zs : List α}, zs ⊆ xs →
        (zs.filter (cmp x · == .eq)).filter p = zs.filter p := by
      intro zs hsub
      rw [List.filter_filter]
      refine List.filter_congr fun y hy => ?_
      cases hpy : p y with
      | false => rfl
      | true => simp [hp x hx y (hsub hy) hpx hpy]
    rw [← hclass h.perm.subset, h.stable, hclass (List.Subset.refl xs)]
  · have hnone : ∀ y ∈ xs, ¬ p y := fun y hy hpy => hex ⟨y, hy, hpy⟩
    rw [List.filter_eq_nil_iff.mpr hnone,
      List.filter_eq_nil_iff.mpr fun y hy => hnone y (h.perm.subset hy)]

variable [Std.TransCmp cmp]

/-- The first element of a sorted list that passes a test is not greater than any other one. -/
theorem IsStableSort.find?_eq (h : IsStableSort cmp xs ys) {p : α → Bool} {x : α} (hx : x ∈ xs)
    (hp : p x) : ∃ y, ys.find? p = some y ∧ p y ∧ (cmp y x).isLE := by
  have hx := h.perm.symm.subset hx
  obtain ⟨y, hy⟩ := Option.isSome_iff_exists.mp (List.find?_isSome.mpr ⟨x, hx, hp⟩)
  obtain ⟨hpy, front, rest, rfl, hfront⟩ := List.find?_eq_some_iff_append.mp hy
  refine ⟨y, hy, hpy, ?_⟩
  rcases List.mem_append.mp hx with hx | hx
  · exact absurd hp (by simpa using hfront x hx)
  · rcases List.mem_cons.mp hx with rfl | hx
    · exact Std.ReflCmp.isLE_rfl
    · exact (List.pairwise_cons.mp (List.pairwise_append.mp h.ordered).2.1).1 x hx

/-- Lists in the order of a total preorder are the same when they have the same elements that
compare equal with any given one, in the same order. -/
theorem eq_of_ordered_of_stable (hys : ys.Pairwise fun x y => (cmp x y).isLE)
    (hzs : zs.Pairwise fun x y => (cmp x y).isLE)
    (h : ∀ x, ys.filter (cmp x · == .eq) = zs.filter (cmp x · == .eq)) : ys = zs := by
  have hself : ∀ x, cmp x x = .eq := fun _ => Std.ReflCmp.compare_self
  -- An element of one list is among those that compare equal with it in the other.
  have hmem : ∀ {us vs : List α}, (∀ x, us.filter (cmp x · == .eq) = vs.filter (cmp x · == .eq)) →
      us ⊆ vs := by
    intro us vs huv x hx
    have hin : x ∈ us.filter (cmp x · == .eq) := List.mem_filter.mpr ⟨hx, by simp [hself x]⟩
    rw [huv] at hin
    exact List.mem_of_mem_filter hin
  induction ys generalizing zs with
  | nil => exact (List.subset_nil.mp (hmem fun x => (h x).symm)).symm
  | cons y ys ih =>
    cases zs with
    | nil => exact absurd (hmem h List.mem_cons_self) List.not_mem_nil
    | cons z zs =>
      obtain ⟨hy, hys'⟩ := List.pairwise_cons.mp hys
      obtain ⟨hz, hzs'⟩ := List.pairwise_cons.mp hzs
      -- Each of the two first elements stands before the other one in its list.
      have hfirst : ∀ {x : α} {us : List α}, (∀ u ∈ us, (cmp x u).isLE) →
          ∀ u ∈ x :: us, (cmp x u).isLE := by
        intro x us hle
        exact List.forall_mem_cons.mpr ⟨Std.ReflCmp.isLE_rfl, hle⟩
      have hyz : cmp y z = .eq := Std.OrientedCmp.isLE_antisymm
        (hfirst hy z (hmem (fun x => (h x).symm) List.mem_cons_self))
        (hfirst hz y (hmem h List.mem_cons_self))
      have hheads := h y
      rw [List.filter_cons_of_pos (by simp [hself y]),
        List.filter_cons_of_pos (by simp [hyz])] at hheads
      obtain rfl : y = z := (List.cons.inj hheads).1
      refine congrArg (y :: ·) (ih hys' hzs' fun x => ?_)
      have htails := h x
      rw [List.filter_cons, List.filter_cons] at htails
      split at htails
      · exact (List.cons.inj htails).2
      · exact htails

/-- A list has only one stable sort by a total preorder. -/
theorem IsStableSort.unique (hys : IsStableSort cmp xs ys) (hzs : IsStableSort cmp xs zs) :
    ys = zs :=
  eq_of_ordered_of_stable hys.ordered hzs.ordered fun x => (hys.stable x).trans (hzs.stable x).symm

/-- Merge sort by a total preorder is a stable sort. -/
theorem isStableSort_mergeSort (xs : List α) :
    IsStableSort cmp xs (xs.mergeSort fun x y => (cmp x y).isLE) := by
  have htrans : ∀ x y z, (cmp x y).isLE → (cmp y z).isLE → (cmp x z).isLE :=
    fun _ _ _ => Std.TransCmp.isLE_trans
  have htotal : ∀ x y, (cmp x y).isLE || (cmp y x).isLE := by
    intro x y
    have hswap : cmp y x = (cmp x y).swap := Std.OrientedCmp.eq_swap
    rw [hswap]
    cases cmp x y <;> rfl
  refine ⟨List.mergeSort_perm _ _, List.pairwise_mergeSort htrans htotal xs, fun x => ?_⟩
  -- Equal elements are in order, so that merge sort keeps them as a sublist.
  have hequal : (xs.filter (cmp x · == .eq)).Pairwise fun y z => (cmp y z).isLE := by
    refine List.pairwise_of_forall_mem_list fun y hy z hz => ?_
    have hxy : cmp x y = .eq := by simpa using (List.mem_filter.mp hy).2
    have hxz : cmp x z = .eq := by simpa using (List.mem_filter.mp hz).2
    rw [← Std.TransCmp.congr_left hxy, hxz]
    rfl
  have hsub := (List.sublist_mergeSort htrans htotal hequal List.filter_sublist).filter
    (cmp x · == .eq)
  rw [List.filter_filter, List.filter_congr fun y _ => Bool.and_self _] at hsub
  exact (hsub.eq_of_length ((List.mergeSort_perm xs _).filter _).length_eq.symm).symm

/-- A stable sort by one comparison and then by another is the stable sort by the other comparison
first and then by the one. -/
theorem IsStableSort.lex (h : IsStableSort cmp' xs ys) (h' : IsStableSort cmp ys zs) :
    IsStableSort (compareLex cmp cmp') xs zs := by
  refine ⟨h'.perm.trans h.perm, ?_, fun x => ?_⟩
  · rw [List.pairwise_iff_forall_sublist]
    intro x y hxy
    have hle : (cmp x y).isLE := List.pairwise_iff_forall_sublist.mp h'.ordered hxy
    rw [compareLex, Ordering.isLE_then_iff_and]
    refine ⟨hle, ?_⟩
    by_cases heq : cmp x y = .eq
    · -- Elements that the second sort takes for equal are in the order of the first.
      have hkept : [x, y].Sublist (ys.filter (cmp x · == .eq)) := by
        rw [← h'.stable]
        have hself : cmp x x = .eq := Std.ReflCmp.compare_self
        simpa [heq, hself] using hxy.filter (cmp x · == .eq)
      exact .inr (List.pairwise_iff_forall_sublist.mp h.ordered (hkept.trans List.filter_sublist))
    · exact .inl ((Ordering.isLE_iff_eq_lt_or_eq_eq.mp hle).resolve_right heq)
  · have hboth : (compareLex cmp cmp' x · == .eq) = fun y => cmp x y == .eq && cmp' x y == .eq := by
      funext y
      rw [Bool.eq_iff_iff]
      simp [compareLex, Ordering.then_eq_eq]
    calc zs.filter (compareLex cmp cmp' x · == .eq)
        = (zs.filter (cmp x · == .eq)).filter (cmp' x · == .eq) := by
          rw [List.filter_filter, hboth]
          simp only [Bool.and_comm]
      _ = (ys.filter (cmp' x · == .eq)).filter (cmp x · == .eq) := by
          rw [h'.stable, List.filter_filter, List.filter_filter]
          simp only [Bool.and_comm]
      _ = xs.filter (compareLex cmp cmp' x · == .eq) := by
          rw [h.stable, List.filter_filter, hboth]

end StableSort

end Footprint
