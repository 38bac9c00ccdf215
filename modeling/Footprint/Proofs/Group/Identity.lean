import Mathlib.Data.List.Nodup
import Footprint.Group.Algebra
import Footprint.Group.Grouping
import Footprint.Proofs.Symbol.Shares

/-!
# Union and difference by identity

The members of a union and of a difference are found by identity alone (`NodeList.union`,
`NodeList.difference`). The lists obey the laws of a set algebra as they are, with repetitions and
nested groups in their places, and so do groups over one table (`Group.SetLaws`). Groups over
different tables have neither a union nor a difference.
-/

namespace Footprint

namespace NodeList

variable (xs ys zs : List Node)

/-- The identities of some nodes in order. -/
def ids : List NodeId := xs.map Node.id

/-- The nodes of a first list, then those of a second one that are not in the first. -/
def union : List Node := xs ++ ys.filter fun n => n.id ∉ ids xs

/-- The nodes of a first list that are not in a second one. -/
def difference : List Node := xs.filter fun n => n.id ∉ ids ys

/-- The identities of a union. -/
theorem ids_union : ids (union xs ys) = ids xs ++ (ids ys).filter (· ∉ ids xs) := by
  unfold union ids
  rw [List.map_append, List.filter_map]
  rfl

/-- The identities of a difference. -/
theorem ids_difference : ids (difference xs ys) = (ids xs).filter (· ∉ ids ys) := by
  unfold difference ids
  rw [List.filter_map]
  rfl

/-- A union has the nodes of both lists. -/
theorem mem_ids_union (id : NodeId) : id ∈ ids (union xs ys) ↔ id ∈ ids xs ∨ id ∈ ids ys := by
  rw [ids_union, List.mem_append, List.mem_filter, decide_eq_true_eq]
  constructor
  · rintro (hx | ⟨hy, -⟩)
    · exact .inl hx
    · exact .inr hy
  · intro h
    by_cases hx : id ∈ ids xs
    · exact .inl hx
    · exact .inr ⟨h.resolve_left hx, hx⟩

/-- A difference has the nodes of the first list that the second one does not have. -/
theorem mem_ids_difference (id : NodeId) :
    id ∈ ids (difference xs ys) ↔ id ∈ ids xs ∧ id ∉ ids ys := by
  rw [ids_difference, List.mem_filter, decide_eq_true_eq]

/-- Nothing is left of nodes that are all in the second list. -/
theorem difference_eq_nil (h : ids xs ⊆ ids ys) : difference xs ys = [] := by
  rw [difference, List.filter_eq_nil_iff]
  intro n hn
  simpa using h (List.mem_map_of_mem hn)

/-- A union adds to a list the difference from it. -/
theorem union_eq_append_difference : union xs ys = xs ++ difference ys xs := rfl

/-- A difference is made part by part. -/
theorem difference_append : difference (xs ++ ys) zs = difference xs zs ++ difference ys zs :=
  List.filter_append ..

/-- Nodes are taken away one list after the other, or all at once. -/
theorem difference_union : difference xs (union ys zs) = difference (difference xs ys) zs := by
  unfold difference
  rw [List.filter_filter]
  refine List.filter_congr fun n _ => ?_
  rw [Bool.eq_iff_iff, decide_eq_true_eq, mem_ids_union, Bool.and_eq_true, decide_eq_true_eq,
    decide_eq_true_eq, not_or, and_comm]

/-- The order in which nodes are taken away does not matter. -/
theorem difference_right_comm :
    difference (difference xs ys) zs = difference (difference xs zs) ys := by
  unfold difference
  rw [List.filter_filter, List.filter_filter]
  exact List.filter_congr fun n _ => Bool.and_comm ..

/-- Union is associative. -/
theorem union_assoc : union (union xs ys) zs = union xs (union ys zs) := by
  calc union (union xs ys) zs
      = xs ++ difference ys xs ++ difference zs (union xs ys) := rfl
    _ = xs ++ difference ys xs ++ difference (difference zs ys) xs := by
        rw [difference_union, difference_right_comm]
    _ = xs ++ difference (ys ++ difference zs ys) xs := by
        rw [List.append_assoc, difference_append]
    _ = union xs (union ys zs) := rfl

/-- Union is idempotent. -/
theorem union_self : union xs xs = xs := by
  rw [union_eq_append_difference, difference_eq_nil xs xs (List.Subset.refl _), List.append_nil]

/-- What a union adds, a difference takes away. -/
theorem union_difference_right : difference (union xs ys) ys = difference xs ys := by
  have hnil : difference (difference ys xs) ys = [] := by
    rw [difference_right_comm, difference_eq_nil ys ys (List.Subset.refl _)]
    rfl
  rw [union_eq_append_difference, difference_append, hnil, List.append_nil]

/-- What a difference takes away, a union puts back. -/
theorem mem_ids_difference_union (id : NodeId) :
    id ∈ ids (union (difference xs ys) ys) ↔ id ∈ ids (union xs ys) := by
  rw [mem_ids_union, mem_ids_union, mem_ids_difference]
  constructor
  · exact Or.imp_left And.left
  · intro h
    by_cases hy : id ∈ ids ys
    · exact .inr hy
    · exact .inl ⟨h.resolve_right hy, hy⟩

variable {xs ys}

/-- A difference of nodes without repetitions has none. -/
theorem nodup_ids_difference (hx : (ids xs).Nodup) : (ids (difference xs ys)).Nodup := by
  rw [ids_difference]
  exact hx.filter _

/-- A union of nodes without repetitions has none. -/
theorem nodup_ids_union (hx : (ids xs).Nodup) (hy : (ids ys).Nodup) :
    (ids (union xs ys)).Nodup := by
  rw [ids_union]
  refine hx.append (hy.filter _) fun id hid hid' => ?_
  exact of_decide_eq_true (List.mem_filter.mp hid').2 hid

end NodeList

namespace Group

variable {a b c : Group}

/-- A node is known as a member by its identity. -/
theorem hasNode_eq (g : Group) (n : Node) :
    g.hasNode n = decide (n.id ∈ NodeList.ids g.members) := by
  rw [Bool.eq_iff_iff]
  simp [hasNode, NodeList.ids]

/-- Groups over one table have a union, and groups over different tables have none. -/
theorem union_eq (a b : Group) : a.union b =
    if a.table.stamp = b.table.stamp
      then .ok (a.transformed (NodeList.union a.members b.members) [] a.sectionLabel false)
      else .error .foreignTable := by
  unfold union checkSameTable NodeList.union
  simp only [hasNode_eq, decide_not]
  split <;> rfl

/-- Groups over one table have a difference, and groups over different tables have none. -/
theorem difference_eq (a b : Group) : a.difference b =
    if a.table.stamp = b.table.stamp
      then .ok (a.transformed (NodeList.difference a.members b.members) [] a.sectionLabel
        a.isSorted)
      else .error .foreignTable := by
  unfold difference checkSameTable NodeList.difference
  simp only [hasNode_eq, decide_not]
  split <;> rfl

/-- The union of groups over one table. -/
theorem union_eq_ok (h : a.table.stamp = b.table.stamp) : a.union b =
    .ok (a.transformed (NodeList.union a.members b.members) [] a.sectionLabel false) :=
  (union_eq a b).trans (if_pos h)

/-- The difference of groups over one table. -/
theorem difference_eq_ok (h : a.table.stamp = b.table.stamp) : a.difference b =
    .ok (a.transformed (NodeList.difference a.members b.members) [] a.sectionLabel a.isSorted) :=
  (difference_eq a b).trans (if_pos h)

/-- Two computations both come to a group, and the groups have the same members in order. -/
def SameMembers (x y : Except Error Group) : Prop :=
  ∃ g h, x = .ok g ∧ y = .ok h ∧ g.members = h.members

/-- Two computations both come to a group, and the groups have the same nodes, in any order. -/
def SameNodes (x y : Except Error Group) : Prop :=
  ∃ g h, x = .ok g ∧ y = .ok h ∧ ∀ id, id ∈ NodeList.ids g.members ↔ id ∈ NodeList.ids h.members

/-- No node occurs twice among the members. -/
def NoRepetition (g : Group) : Prop :=
  (NodeList.ids g.members).Nodup

/-- The laws of union and difference for three groups. -/
structure SetLaws (a b c : Group) : Prop where
  /-- Union is associative. -/
  assoc : SameMembers (do (← a.union b).union c) (do a.union (← b.union c))
  /-- Union is idempotent. -/
  idem : SameMembers (a.union a) (.ok a)
  /-- What a union adds, a difference takes away. -/
  undone : SameMembers (do (← a.union b).difference b) (a.difference b)
  /-- The members of a union are taken away one group after the other. -/
  stepwise : SameMembers (do a.difference (← b.union c)) (do (← a.difference b).difference c)
  /-- What a difference takes away, a union puts back. -/
  restored : SameNodes (do (← a.difference b).union b) (a.union b)
  /-- Groups without repetitions have a union and a difference without repetitions. -/
  nodup : a.NoRepetition → b.NoRepetition → (∃ u, a.union b = .ok u ∧ u.NoRepetition) ∧
    ∃ d, a.difference b = .ok d ∧ d.NoRepetition

/-- Union and difference are a set algebra by identity: three groups over one table obey its laws,
with the members in the same order on both sides. Groups over different tables have neither. -/
theorem setAlgebra (a b : Group) :
    (a.table.stamp = b.table.stamp → ∀ c : Group, b.table.stamp = c.table.stamp →
      SetLaws a b c) ∧
    (a.table.stamp ≠ b.table.stamp →
      a.union b = .error .foreignTable ∧ a.difference b = .error .foreignTable) := by
  constructor
  · intro hab c hbc
    refine { assoc := ?assoc, idem := ?idem, undone := ?undone, stepwise := ?stepwise,
             restored := ?restored, nodup := ?nodup }
    case assoc =>
      refine ⟨_, _, by rw [union_eq_ok hab]; exact union_eq_ok (hab.trans hbc),
        by rw [union_eq_ok hbc]; exact union_eq_ok hab, ?_⟩
      exact NodeList.union_assoc ..
    case idem => exact ⟨_, _, union_eq_ok rfl, rfl, NodeList.union_self _⟩
    case undone =>
      refine ⟨_, _, by rw [union_eq_ok hab]; exact difference_eq_ok hab, difference_eq_ok hab, ?_⟩
      exact NodeList.union_difference_right ..
    case stepwise =>
      refine ⟨_, _, by rw [union_eq_ok hbc]; exact difference_eq_ok hab,
        by rw [difference_eq_ok hab]; exact difference_eq_ok (hab.trans hbc), ?_⟩
      exact NodeList.difference_union ..
    case restored =>
      refine ⟨_, _, by rw [difference_eq_ok hab]; exact union_eq_ok hab, union_eq_ok hab, ?_⟩
      exact NodeList.mem_ids_difference_union _ _
    case nodup =>
      intro ha hb
      exact ⟨⟨_, union_eq_ok hab, NodeList.nodup_ids_union ha hb⟩,
        ⟨_, difference_eq_ok hab, NodeList.nodup_ids_difference ha⟩⟩
  · intro hne
    exact ⟨(union_eq a b).trans (if_neg hne), (difference_eq a b).trans (if_neg hne)⟩

/-- A nested group beside symbols that occur twice, and a table with the same contents. -/
theorem setAlgebra_nested :
    let t : Table := .clones { sectionName := ".text", size := 4 } 3
    let all := Group.ofTable t
    let nested := all.groupedBySectionName ⟨1⟩
    let a : Group := { all with members := all.members ++ nested.members ++ all.members }
    let other := Group.ofTable { t with stamp := ⟨2⟩ }
    SetLaws a nested all ∧ a.union other = .error .foreignTable ∧
      a.difference other = .error .foreignTable := by
  intro t all nested a other
  exact ⟨(setAlgebra a nested).1 rfl all rfl, (setAlgebra a other).2 (by decide)⟩

end Group

end Footprint
