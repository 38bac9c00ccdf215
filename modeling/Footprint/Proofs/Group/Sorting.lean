import Footprint.Proofs.Group.StableSort

/-!
# Sorting a group

Groups are sorted by a default order, by name, by address, by the number of direct members, or by
any key with a total order (`SortOrder`). Each of these compares all nodes by a total preorder
(`SortOrder.transCmp_cmp`), whichever facts the nodes have, so that a sorted group is determined by
its members and the order (`Group.isStableSort_sorted`): sorting it again changes nothing
(`Group.sorted_sorted`), and sorting it by another order keeps the first one among the members that
the other one takes for equal.
-/

namespace Footprint

/-- A comparison, turned around when `reverse` holds. -/
def directed {α : Type} (reverse : Bool) (cmp : α → α → Ordering) : α → α → Ordering :=
  if reverse then fun x y => (cmp x y).swap else cmp

/-- A total preorder is one when it is turned around. -/
instance transCmp_directed {α : Type} (reverse : Bool) (cmp : α → α → Ordering)
    [Std.TransCmp cmp] : Std.TransCmp (directed reverse cmp) := by
  cases reverse with
  | false => exact inferInstanceAs (Std.TransCmp cmp)
  | true =>
    have hswap : directed true cmp = fun x y => cmp y x := by
      funext x y
      exact Std.OrientedCmp.eq_swap.symm
    rw [hswap]
    infer_instance

namespace Group

/-- A total preorder: outside `.bss` before in `.bss`, then by decreasing rank, then by name. -/
instance transCmp_defaultOrder : Std.TransCmp defaultOrder :=
  inferInstanceAs (Std.TransCmp (compareLex (compareOn fun n : Node => n.facts.isBss)
    (compareLex (fun a b : Node => compareOn (fun n : Node => floatRank n.facts.pss.abs) b a)
      (compareOn fun n : Node => n.facts.name))))

/-- A total preorder: by address, then by object path, then by name. -/
instance transCmp_addressOrder : Std.TransCmp addressOrder :=
  inferInstanceAs (Std.TransCmp (compareLex (compareOn fun n : Node => n.facts.address)
    (compareLex (compareOn fun n : Node => n.facts.objectPath)
      (compareOn fun n : Node => n.facts.name))))

end Group

/-- A total preorder: by a key. -/
instance transCmp_compareBy {α κ : Type} [Ord κ] [Std.TransOrd κ] (key : α → κ) :
    Std.TransCmp (compareBy key) :=
  inferInstanceAs (Std.TransCmp (compareOn key))

/-- In the order of a test those that fail it come first. -/
theorem isLE_compareBy_iff {α : Type} {key : α → Bool} {x y : α} :
    (compareBy key x y).isLE ↔ (key x → key y) := by
  unfold compareBy
  cases key x <;> cases key y <;> simp +decide

/-- The orders by which groups are sorted. -/
inductive SortOrder : Type 1 where
  /-- The default order. -/
  | default
  /-- By name. -/
  | byName
  /-- By address, then by object path, then by name. -/
  | byAddress
  /-- By the number of direct members, the largest first. -/
  | byCount
  /-- By a key with a total order. -/
  | byKey {κ : Type} [Ord κ] [Std.TransOrd κ] (key : Node → κ)

namespace SortOrder

/-- How an order compares nodes. -/
def cmp : SortOrder → Node → Node → Ordering
  | default => Group.defaultOrder
  | byName => compareBy fun n => n.facts.name
  | byAddress => Group.addressOrder
  | byCount => compareBy Node.childCount
  | byKey key => compareBy key

/-- Whether a sort turns the comparison around: only the one by the number of members does unless
`reverse` holds. -/
def descends : SortOrder → Bool → Bool
  | byCount, reverse => !reverse
  | _, reverse => reverse

/-- The comparison that a sort puts the members in order by. -/
def direction (o : SortOrder) (reverse : Bool) : Node → Node → Ordering :=
  directed (o.descends reverse) o.cmp

/-- Every order compares all nodes, single symbols and groups alike, by a total preorder. -/
instance transCmp_cmp (o : SortOrder) : Std.TransCmp o.cmp := by
  cases o with
  | default => exact inferInstanceAs (Std.TransCmp Group.defaultOrder)
  | byName => exact inferInstanceAs (Std.TransCmp (compareBy fun n : Node => n.facts.name))
  | byAddress => exact inferInstanceAs (Std.TransCmp Group.addressOrder)
  | byCount => exact inferInstanceAs (Std.TransCmp (compareBy Node.childCount))
  | byKey key => exact inferInstanceAs (Std.TransCmp (compareBy key))

/-- The comparison of a sort is a total preorder in both directions. -/
instance transCmp_direction (o : SortOrder) (reverse : Bool) : Std.TransCmp (o.direction reverse) :=
  transCmp_directed _ _

end SortOrder

namespace Group

/-- The members in an order. -/
def sortedIn (g : Group) : SortOrder → Bool → Group
  | .default, reverse => g.sortedDefault reverse
  | .byName, reverse => g.sortedByName reverse
  | .byAddress, reverse => g.sortedByAddress reverse
  | .byCount, reverse => g.sortedByCount reverse
  | @SortOrder.byKey _ _ _ key, reverse => g.sortedByKey key reverse

/-- A sort has the members of the stable sort by its comparison. -/
theorem isStableSort_sorted (g : Group) (cmp : Node → Node → Ordering) [Std.TransCmp cmp]
    (reverse : Bool) :
    IsStableSort (directed reverse cmp) g.members (g.sorted cmp reverse).members :=
  isStableSort_mergeSort g.members

/-- A group that is sorted once more by the same comparison stays as it is. -/
theorem sorted_sorted (g : Group) (cmp : Node → Node → Ordering) [Std.TransCmp cmp]
    (reverse : Bool) : (g.sorted cmp reverse).sorted cmp reverse = g.sorted cmp reverse := by
  let r := g.sorted cmp reverse
  have hmembers : r.members.mergeSort (fun a b => (directed reverse cmp a b).isLE) = r.members :=
    List.mergeSort_of_pairwise (g.isStableSort_sorted cmp reverse).ordered
  change r.transformed (r.members.mergeSort fun a b => (directed reverse cmp a b).isLE)
    r.filteredOut r.sectionLabel true = r
  rw [hmembers]
  exact g.transformed_transformed _ _ _ _

/-- Each of the orders sorts by its comparison, in its direction. -/
theorem sortedIn_eq (g : Group) (o : SortOrder) (reverse : Bool) :
    g.sortedIn o reverse = g.sorted o.cmp (o.descends reverse) := by
  cases o <;> rfl

end Group

/-- Every order compares nodes by a total preorder, and the members of a sorted group are the one
stable sort of the members: in the order, or in the reversed one, with the members that compare
equal as they stood before. The nodes left out stay, and a group that is sorted the same way once
more does not change. Sorted by a second order, it is in this order first, and in the order that it
had among the members that compare equal. -/
theorem sortedIn_isStableSort (g : Group) (o : SortOrder) (reverse : Bool) :
    Std.TransCmp o.cmp ∧
      let r := g.sortedIn o reverse
      IsStableSort (o.direction reverse) g.members r.members ∧
      (∀ ns, IsStableSort (o.direction reverse) g.members ns → ns = r.members) ∧
      r.filteredOut = g.filteredOut ∧
      r.sortedIn o reverse = r ∧
      ∀ o' reverse', IsStableSort (compareLex (o'.direction reverse') (o.direction reverse))
        g.members (r.sortedIn o' reverse').members := by
  refine ⟨o.transCmp_cmp, ?_⟩
  intro r
  have hsort : ∀ (d : Group) (o : SortOrder) (reverse : Bool),
      IsStableSort (o.direction reverse) d.members (d.sortedIn o reverse).members := by
    intro d o reverse
    rw [d.sortedIn_eq]
    exact d.isStableSort_sorted o.cmp (o.descends reverse)
  have hr : r = g.sorted o.cmp (o.descends reverse) := g.sortedIn_eq o reverse
  refine ⟨hsort g o reverse, fun ns hns => hns.unique (hsort g o reverse), ?_, ?_, ?_⟩
  · rw [hr]
    rfl
  · rw [Group.sortedIn_eq, hr]
    exact g.sorted_sorted o.cmp (o.descends reverse)
  · exact fun o' reverse' => (hsort g o reverse).lex (hsort r o' reverse')

end Footprint
