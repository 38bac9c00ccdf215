import Footprint.Proofs.Diff.Status
import Footprint.Proofs.Group.Identity

/-!
# Conservation of the counts of a diff

The counts of a group depend on its leaves only, and not on their order. So transformations that
move leaves about keep the counts, and transformations that leave nodes out split them between the
members and the nodes left out, which `inverted` brings back. For the groups of one diff all this
comes together in `Group.CountsConserved`.
-/

namespace Footprint

namespace DiffCounts

/-- Counts are added status by status. -/
instance : Add DiffCounts where
  add a b := ⟨a.added + b.added, a.removed + b.removed, a.changed + b.changed,
    a.unchanged + b.unchanged⟩

/-- The counts of two lists add up. -/
theorem ofStatuses_append (xs ys : List DiffStatus) :
    ofStatuses (xs ++ ys) = ofStatuses xs + ofStatuses ys := by
  simp only [ofStatuses, List.count_append]
  rfl

/-- The order does not count. -/
theorem ofStatuses_perm {xs ys : List DiffStatus} (h : xs.Perm ys) :
    ofStatuses xs = ofStatuses ys := by
  simp only [ofStatuses, h.count_eq]

/-- The counts of the leaves beneath some nodes. -/
def ofNodes (nodes : List Node) : DiffCounts :=
  .ofStatuses ((nodes.flatMap Node.leaves).map Symbol.status)

/-- The counts of two lists of nodes add up. -/
theorem ofNodes_append (xs ys : List Node) : ofNodes (xs ++ ys) = ofNodes xs + ofNodes ys := by
  unfold ofNodes
  rw [List.flatMap_append, List.map_append, ofStatuses_append]

end DiffCounts

namespace Group

/-- The counts of a group are those of its members. -/
theorem counts_eq_ofNodes (d : Group) : d.counts = .ofNodes d.members := by
  rw [counts, leaves_eq_flatMap, DiffCounts.ofNodes]

/-- Groups with the same leaves, in any order, have the same counts. -/
theorem counts_congr {d e : Group} (h : d.leaves.Perm e.leaves) : d.counts = e.counts :=
  DiffCounts.ofStatuses_perm (h.map _)

/-- Groups that share the leaves of another one share its counts. -/
theorem counts_add {c d e : Group} (h : (c.leaves ++ d.leaves).Perm e.leaves) :
    c.counts + d.counts = e.counts := by
  rw [counts, counts, ← DiffCounts.ofStatuses_append, ← List.map_append]
  exact DiffCounts.ofStatuses_perm (h.map _)

/-- A sort keeps the counts. -/
theorem counts_sorted (d : Group) (cmp : Node → Node → Ordering) (reverse : Bool) :
    (d.sorted cmp reverse).counts = d.counts :=
  counts_congr (d.leaves_sorted_perm cmp reverse)

/-- Clustering keeps the counts. -/
theorem counts_clustered (d : Group) (stamp : Stamp) :
    (d.clustered stamp).value.counts = d.counts :=
  counts_congr (d.leaves_clustered_perm stamp)

/-- A grouping that leaves nothing over keeps the counts. -/
theorem counts_groupedByWith (d : Group) (stamp : Stamp) {token : Node → Option String}
    {minCount : Int} (label : String → List Node → Label) (hmin : 0 ≤ minCount)
    (htoken : ∀ n ∈ d.members, (token n).isSome) :
    (d.groupedByWith stamp token minCount label).counts = d.counts := by
  refine counts_congr (leaves_groupedByWith_perm ?_)
  rw [groupedByWith, decide_eq_true hmin]
  exact leftOver_eq_nil _ htoken

/-- A filter splits the counts. -/
theorem counts_filter_add (d : Group) (keep : Node → Bool) :
    (d.filter keep).counts + (d.filter keep).inverted.counts = d.counts :=
  counts_add (d.leaves_filter_append_inverted_perm keep)

/-- A grouping splits the counts. -/
theorem counts_groupedByWith_add (d : Group) (stamp : Stamp) (token : Node → Option String)
    (minCount : Int) (label : String → List Node → Label) :
    (d.groupedByWith stamp token minCount label).counts +
      (d.groupedByWith stamp token minCount label).inverted.counts = d.counts :=
  counts_add (d.leaves_groupedByWith_append_inverted_perm stamp token minCount label)

/-- Groups over one table have a union and a difference, which have what the union adds. -/
theorem exists_union_difference {d e : Group} (h : d.table = e.table) :
    ∃ u x, d.union e = .ok u ∧ e.difference d = .ok x ∧ u.counts = d.counts + x.counts := by
  refine ⟨_, _, union_eq_ok (congrArg Table.stamp h), difference_eq_ok (congrArg Table.stamp h.symm),
    ?_⟩
  rw [counts_eq_ofNodes, counts_eq_ofNodes, counts_eq_ofNodes]
  show DiffCounts.ofNodes (NodeList.union d.members e.members) = _
  rw [NodeList.union_eq_append_difference]
  exact DiffCounts.ofNodes_append _ _

/-- How the counts of a group of a diff behave under the transformations. -/
structure CountsConserved (root d : Group) : Prop where
  /-- The group has counts. -/
  isDiff : d.isDiff
  /-- Each leaf is counted once. -/
  total : d.counts.total = d.leaves.length
  /-- Every sort keeps the counts. -/
  sorted : ∀ cmp reverse, (d.sorted cmp reverse).counts = d.counts
  /-- Clustering keeps the counts. -/
  clustered : ∀ stamp, (d.clustered stamp).value.counts = d.counts
  /-- Grouping by section keeps the counts. -/
  groupedBySectionName : ∀ stamp, (d.groupedBySectionName stamp).counts = d.counts
  /-- Grouping by name keeps the counts when it keeps the small groups. -/
  groupedByName : ∀ stamp depth minCount, 0 ≤ minCount →
    (d.groupedByName stamp depth minCount).counts = d.counts
  /-- Grouping by path keeps the counts when it keeps the small groups. -/
  groupedByPath : ∀ stamp (options : PathGrouping), 0 ≤ options.minCount →
    (d.groupedByPath stamp options).counts = d.counts
  /-- A filter and its inverse share the counts. -/
  filter : ∀ keep, (d.filter keep).counts + (d.filter keep).inverted.counts = d.counts
  /-- A grouping and its inverse share the counts. -/
  groupedByWith : ∀ stamp token minCount label,
    (d.groupedByWith stamp token minCount label).counts +
      (d.groupedByWith stamp token minCount label).inverted.counts = d.counts
  /-- A union has the counts of its first part and of what the second has besides. -/
  union : ∀ e, Reachable root e →
    ∃ u x, d.union e = .ok u ∧ e.difference d = .ok x ∧ u.counts = d.counts + x.counts

end Group

/-- All transformations of the groups that a diff reaches conserve their counts. What a
transformation makes is reached as well, so that it has counts of its own. -/
theorem diffWith_counts {m : Matcher} {before after : Group} {stamp : Stamp} {root : Logged Group}
    (h : diffWith m before after stamp = .ok root) {d : Group} (hd : root.value.Reachable d) :
    root.value.CountsConserved d := by
  obtain ⟨t, -, hroot⟩ := Comparison.exists_inDiff_of_diff h
  have hdiff := hroot.reachable hd
  exact {
    isDiff := by rw [Group.isDiff, hdiff.status, Option.isSome_some]
    total := by rw [Group.counts, DiffCounts.total_ofStatuses, List.length_map]
    sorted := d.counts_sorted
    clustered := d.counts_clustered
    groupedBySectionName := fun stamp =>
      d.counts_groupedByWith stamp _ (Int.le_refl 0) fun _ _ => rfl
    groupedByName := fun stamp depth minCount hmin =>
      d.counts_groupedByWith stamp _ hmin fun _ _ => rfl
    groupedByPath := fun stamp options hmin =>
      d.counts_groupedByWith stamp _ hmin fun _ _ => rfl
    filter := d.counts_filter_add
    groupedByWith := d.counts_groupedByWith_add
    union := fun e he =>
      Group.exists_union_difference (hdiff.table.trans (hroot.reachable he).table.symm) }

/-- One symbol was added, one removed and one changed, and so it stays. -/
theorem diffWith_counts_clones :
    let m : Matcher := .always { similar := [(⟨0⟩, ⟨0⟩)], added := [⟨1⟩], removed := [⟨1⟩] }
    let before := Group.ofTable (.clones { sectionName := ".text", size := 41 } 2)
    let after := Group.ofTable (.clones { sectionName := ".text", size := 50 } 2)
    ∃ root, diffWith m before after ⟨1⟩ = .ok root ∧ root.value.CountsConserved root.value ∧
      (root.value.clustered ⟨2⟩).value.counts = ⟨1, 1, 1, 0⟩ := by
  intro m before after
  have hcomputed : ((diffWith m before after ⟨1⟩).toOption.map fun root =>
      DiffCounts.ofNodes root.value.members) = some ⟨1, 1, 1, 0⟩ := by
    decide +kernel
  obtain ⟨root, hroot, hcounts⟩ := exists_ok_of_map_toOption hcomputed
  have hconserved := diffWith_counts hroot .root
  refine ⟨root, hroot, hconserved, ?_⟩
  rw [hconserved.clustered, Group.counts_eq_ofNodes, hcounts]

end Footprint
