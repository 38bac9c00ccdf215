import Footprint.Group.Basic
import Footprint.Proofs.Symbol.Arena

/-!
# The leaves of a group

A walk meets the symbols beneath its nodes from left to right, so that the leaves of a group are
those of its members in order (`Group.leaves_eq_flatMap`).
-/

namespace Footprint

/-- The next symbol of a walk is the first beneath its nodes, and the walk after it has the
others. -/
theorem Walk.flatMap_leaves_next? (w : Walk) : w.flatten.flatMap Node.leaves =
    match next? w with
    | none => []
    | some (s, w') => s :: w'.flatten.flatMap Node.leaves := by
  fun_induction next? w with
  | case1 => rfl
  | case2 outer ih => simpa using ih
  | case3 s rest outer => simp [Node.leaves]
  | case4 head members rest outer ih =>
    rw [← ih]
    simp [Node.leaves_group]

/-- A walk meets the symbols beneath its nodes in order. -/
theorem Walk.toList_eq_flatMap (w : Walk) : toList w = w.flatten.flatMap Node.leaves := by
  fun_induction toList w with
  | case1 w hnext => rw [flatMap_leaves_next?, hnext]
  | case2 w s w' hnext ih => rw [flatMap_leaves_next?, hnext, ih]

/-- The leaves of a group are those of its members in order. -/
theorem Group.leaves_eq_flatMap (g : Group) : g.leaves = g.members.flatMap Node.leaves := by
  rw [leaves, Walk.toList_eq_flatMap, List.flatten_singleton]

/-- The leaves of single symbols are the symbols. -/
theorem flatMap_leaves_map_leaf (symbols : List Symbol) :
    (symbols.map Node.leaf).flatMap Node.leaves = symbols := by
  rw [List.flatMap_map]
  exact List.flatMap_singleton' symbols

/-- The leaves of a flat group are its symbols. -/
theorem Group.leaves_of_flat {g : Group} {symbols : List Symbol}
    (h : g.members = symbols.map Node.leaf) : g.leaves = symbols := by
  rw [leaves_eq_flatMap, h, flatMap_leaves_map_leaf]

/-- The symbols beneath a group are symbols of its table. -/
def Group.Owned (g : Group) : Prop :=
  ∀ s ∈ g.leaves, g.table.get? s.id = some s

/-- A group of distinct symbols of a built table has no more leaves than a table can hold. -/
theorem Group.Owned.length_leaves_le {g : Group} (h : g.Owned) (ht : g.table.Built)
    (hnodup : (g.leaves.map Symbol.id).Nodup) : g.leaves.length ≤ tableCapacity := by
  have hsub : g.leaves.map Symbol.id ⊆ g.table.ids := by
    intro id hid
    obtain ⟨s, hs, rfl⟩ := List.mem_map.mp hid
    exact (ht.mem_ids_iff _).mpr ⟨s, h s hs⟩
  have hle := hnodup.length_le_of_subset hsub
  rw [List.length_map, Table.ids, List.length_map, Array.length_toList] at hle
  exact Nat.le_trans hle ht.arena.size_le

/-- The leaves of the group of a table are its symbols. -/
theorem Group.leaves_ofTable (t : Table) : (ofTable t).leaves = t.symbols.toList :=
  leaves_of_flat rfl

/-- The group of a built table has symbols of the table. -/
theorem Group.owned_ofTable {t : Table} (h : t.Built) : (ofTable t).Owned := by
  intro s hs
  rw [leaves_ofTable, Array.mem_toList_iff] at hs
  exact h.get?_id hs

end Footprint
