import Footprint.Proofs.Diff.Status
import Footprint.Proofs.Group.Identity

/-!
# The complement of a filter

A filtered group keeps the members that it left out, and `inverted` brings them back. They are found
without the test as well, as the members of the difference from the filtered group, if the test
gives one answer for each node (`NodeList.Tests`): both ways to the complement then agree, with
repetitions in their places. A sort puts the members in another order and leaves their complement
alone. All of these groups stay in the diff of the group that was filtered (`Group.SharesDiff`).
-/

namespace Footprint

/-- A test of some nodes gives one answer for all of them that have one identity. -/
def NodeList.Tests (xs : List Node) (keep : Node → Bool) : Prop :=
  ∀ n ∈ xs, ∀ m ∈ xs, n.id = m.id → keep n = keep m

/-- Two filters of a list are the same just when they keep the same elements of it. -/
theorem filter_eq_filter_iff {α : Type} {p q : α → Bool} {xs : List α} :
    xs.filter p = xs.filter q ↔ ∀ x ∈ xs, p x = q x := by
  constructor
  · intro heq x hx
    have hmem : x ∈ xs.filter p ↔ x ∈ xs.filter q := by rw [heq]
    rwa [List.mem_filter, List.mem_filter, and_iff_right hx, and_iff_right hx,
      ← Bool.eq_iff_iff] at hmem
  · exact List.filter_congr

/-- The nodes that fail a test are those that differ from the nodes that pass it, just when the
test gives one answer for each node. -/
theorem NodeList.difference_filter_iff (xs : List Node) (keep : Node → Bool) :
    xs.filter (!keep ·) = difference xs (xs.filter keep) ↔ Tests xs keep := by
  rw [difference, filter_eq_filter_iff]
  simp only [decide_not, Bool.not_inj_iff]
  constructor
  · intro h n hn m hm hid
    rw [h n hn, h m hm, hid]
  · intro htest n hn
    rw [Bool.eq_iff_iff, decide_eq_true_eq]
    constructor
    · exact fun hpass => List.mem_map_of_mem (List.mem_filter.mpr ⟨hn, hpass⟩)
    · intro hid
      -- Another node of the identity passes, and so does this one.
      obtain ⟨m, hm, heq⟩ := List.mem_map.mp hid
      obtain ⟨hm, hpass⟩ := List.mem_filter.mp hm
      rw [← htest m hm n hn heq, hpass]

/-- The nodes that pass a test and those that fail it are all the nodes. -/
theorem NodeList.mem_ids_union_filter (xs : List Node) (keep : Node → Bool) (id : NodeId) :
    id ∈ ids (union (xs.filter keep) (xs.filter (!keep ·))) ↔ id ∈ ids xs := by
  rw [mem_ids_union]
  unfold ids
  rw [← List.mem_append, ← List.map_append]
  exact ((List.filter_append_perm keep xs).map Node.id).mem_iff

/-- A test that fails on no element of a list parts it in two filters. -/
theorem splitM_eq_ok {α ε : Type} {test : α → Except ε Bool} {keep : α → Bool} {xs : List α}
    (h : ∀ x ∈ xs, test x = .ok (keep x)) :
    Id.run (splitM (fun x => pure (test x)) xs) = .ok (xs.filter keep, xs.filter (!keep ·)) := by
  induction xs with
  | nil => rfl
  | cons x xs ih =>
    obtain ⟨hx, hxs⟩ := List.forall_mem_cons.mp h
    rw [splitM]
    simp only [Id.run_bind, Id.run_pure, hx, ih hxs, List.filter_cons]
    cases keep x <;> rfl

namespace Group

variable {g d e d' : Group}

/-- A group belongs to a diff when another one does, and is one of the diff over a table when the
other one is. -/
structure SharesDiff (g d : Group) : Prop where
  /-- The group has a status when the other one has. -/
  isDiff : d.isDiff = g.isDiff
  /-- The group is in the diff that the other one is in. -/
  inDiff : ∀ t, g.InDiff t → d.InDiff t

/-- Every group shares its own diff. -/
theorem SharesDiff.refl (g : Group) : g.SharesDiff g where
  isDiff := rfl
  inDiff _ := id

/-- What a transformation makes of groups that share a diff shares it. -/
theorem SharesDiff.derived (hd : g.SharesDiff d) (he : g.SharesDiff e)
    (h : d.Derived (d.members ++ d.filteredOut ++ e.members) d') : g.SharesDiff d' where
  isDiff := by
    have hsame : d'.isDiff = d.isDiff := by
      unfold Group.isDiff
      rw [h.status, statusOf, Option.isSome_map]
    exact hsame.trans hd.isDiff
  inDiff t ht := (hd.inDiff t ht).derived (he.inDiff t ht) h

/-- A transformation of one group stays in its diff. -/
theorem SharesDiff.derived_self (hd : g.SharesDiff d)
    (h : d.Derived (d.members ++ d.filteredOut) d') : g.SharesDiff d' :=
  hd.derived hd (h.mono (List.subset_append_left _ _))

/-- A filter stays in the diff. -/
theorem SharesDiff.filter (hd : g.SharesDiff d) (keep : Node → Bool) :
    g.SharesDiff (d.filter keep) :=
  hd.derived_self ((derived_filter d keep).mono (List.subset_append_left _ _))

/-- The complement of a filter stays in the diff. -/
theorem SharesDiff.inverted (hd : g.SharesDiff d) : g.SharesDiff d.inverted :=
  hd.derived_self (derived_inverted d)

/-- A sort stays in the diff. -/
theorem SharesDiff.sorted (hd : g.SharesDiff d) (cmp : Node → Node → Ordering) (reverse : Bool) :
    g.SharesDiff (d.sorted cmp reverse) :=
  hd.derived_self (derived_sorted d cmp reverse)

/-- Two groups share the diff of `g` and have the same members in order. -/
structure SameView (g x y : Group) : Prop where
  /-- The members are the same, in the same order. -/
  members : x.members = y.members
  /-- The first group shares the diff. -/
  left : g.SharesDiff x
  /-- The second group shares the diff. -/
  right : g.SharesDiff y

/-- How a filter, its complement and the sets by identity fit together. -/
structure Complementary (g : Group) (keep : Node → Bool) : Prop where
  /-- The complement is the difference from the filtered group, if the test is one of nodes. -/
  difference : ∃ d, g.difference (g.filter keep) = .ok d ∧ g.SharesDiff d ∧
    ((g.filter keep).inverted.members = d.members ↔ NodeList.Tests g.members keep)
  /-- The complement is the filter by the opposite test. -/
  opposite : g.SameView (g.filter keep).inverted (g.filter (!keep ·))
  /-- A test that could fail but does not makes the same filter, with the same complement. -/
  unfailing : ∀ {ε : Type} (test : Node → Except ε Bool),
    (∀ n ∈ g.members, test n = .ok (keep n)) → g.tryFilter test = pure (.ok (g.filter keep))
  /-- The complement of the complement is the filtered group. -/
  twice : g.SameView (g.filter keep).inverted.inverted (g.filter keep)
  /-- The filtered group and its complement are together the whole group. -/
  together : ∃ u, (g.filter keep).union (g.filter keep).inverted = .ok u ∧ g.SharesDiff u ∧
    ∀ id, id ∈ NodeList.ids u.members ↔ id ∈ NodeList.ids g.members
  /-- Two filters are one filter by both tests. -/
  both : ∀ keep', g.SameView ((g.filter keep).filter keep') (g.filter fun n => keep n && keep' n)
  /-- A sorted filtered group has the same complement. -/
  sorted : ∀ cmp reverse, g.SharesDiff ((g.filter keep).sorted cmp reverse) ∧
    g.SameView ((g.filter keep).sorted cmp reverse).inverted (g.filter keep).inverted

end Group

/-- The complement that a filter keeps is the one that the difference by identity finds. -/
theorem filter_complementary (g : Group) (keep : Node → Bool) : g.Complementary keep := by
  have hfilter := (Group.SharesDiff.refl g).filter keep
  have hinverted := hfilter.inverted
  refine { difference := ?difference, opposite := ?opposite, unfailing := ?unfailing,
           twice := ?twice, together := ?together, both := ?both, sorted := ?sorted }
  case difference =>
    have heq : g.difference (g.filter keep) = _ := Group.difference_eq_ok rfl
    refine ⟨_, heq, (Group.SharesDiff.refl g).derived_self
      ((Group.derived_difference heq).mono (List.subset_append_left _ _)), ?_⟩
    exact NodeList.difference_filter_iff g.members keep
  case opposite => exact ⟨rfl, hinverted, (Group.SharesDiff.refl g).filter _⟩
  case unfailing =>
    intro ε test htest
    unfold Group.tryFilter Group.tryFilterM
    rw [Id.run_bind, splitM_eq_ok htest]
    rfl
  case twice => exact ⟨rfl, hinverted.inverted, hfilter⟩
  case together =>
    have heq : (g.filter keep).union (g.filter keep).inverted = _ := Group.union_eq_ok rfl
    refine ⟨_, heq, hfilter.derived hinverted ((Group.derived_union heq).mono ?_), ?_⟩
    · exact ((List.sublist_append_left _ _).append_right _).subset
    · exact NodeList.mem_ids_union_filter g.members keep
  case both =>
    intro keep'
    refine ⟨?_, hfilter.filter keep', (Group.SharesDiff.refl g).filter _⟩
    show (g.members.filter keep).filter keep' = g.members.filter fun n => keep n && keep' n
    rw [List.filter_filter]
    exact List.filter_congr fun n _ => Bool.and_comm ..
  case sorted =>
    intro cmp reverse
    have hsorted := hfilter.sorted cmp reverse
    exact ⟨hsorted, rfl, hsorted.inverted, hinverted⟩

end Footprint
