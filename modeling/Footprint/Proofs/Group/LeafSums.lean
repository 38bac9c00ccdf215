import Footprint.Proofs.Group.Counting
import Footprint.Proofs.Group.Nesting
import Footprint.Proofs.Snapshot.Loading

/-!
# Sums over leaves

Without aliases all members of a group count, whatever its label, so that a total is the sum over
the leaves of the tree (`Total.of_node`). Sorts, clustering and groupings that leave nothing over
keep the leaves, and a filter and its inverse share them. So the former keep a total and the latter
split it (`sumsLeaves_of_no_aliases`).
-/

namespace Footprint

/-- No symbol of a list is in an alias group. -/
def Unaliased (symbols : List Symbol) : Prop :=
  ∀ s ∈ symbols, s.aliasGroup = none

/-- A table without alias groups has no aliases. -/
theorem Group.Owned.unaliased {g : Group} (h : g.Owned) (ht : g.table.Built)
    (hnone : g.table.aliasGroups = #[]) : Unaliased g.leaves := by
  intro s hs
  cases hg : s.aliasGroup with
  | none => rfl
  | some a =>
    have hmem := (ht.aliasGroup_iff (h s hs) a).mp hg
    simp [Table.aliasMembers, hnone] at hmem

namespace Total

variable (T : Total)

/-- The sum over leaves. -/
def sumLeaves (symbols : List Symbol) : Int :=
  (symbols.map fun s => T.of s.facts).sum

/-- The sums over two lists add up. -/
theorem sumLeaves_append (xs ys : List Symbol) :
    T.sumLeaves (xs ++ ys) = T.sumLeaves xs + T.sumLeaves ys := by
  unfold sumLeaves
  rw [List.map_append, List.sum_append]

/-- The order does not matter to the sum. -/
theorem sumLeaves_perm {xs ys : List Symbol} (h : xs.Perm ys) : T.sumLeaves xs = T.sumLeaves ys :=
  (h.map _).sum_eq

/-- Without aliases the value of a group is the sum of the values of all its members. -/
theorem of_ofMembers_of_unaliased (label : Label) {members : List Node}
    (h : Unaliased (members.flatMap Node.leaves)) :
    T.of (.ofMembers label (members.map Node.facts)) = (members.map fun n => T.of n.facts).sum := by
  have hnone : ∀ n ∈ members, n.countedAs (T.countsAll label.sectionName) = none := by
    intro n hn
    rw [Option.eq_none_iff_forall_ne_some]
    intro a hcounted
    have ha := Node.aliasGroup_of_countedAs hcounted
    -- Only a leaf could have an alias group.
    cases n with
    | leaf s =>
      have hs : s ∈ members.flatMap Node.leaves :=
        List.mem_flatMap.mpr ⟨.leaf s, hn, List.mem_singleton_self s⟩
      cases (h s hs).symm.trans ha
    | group head ns => cases ha
  rw [T.of_ofMembers_nodes, onePerAlias_of_forall_none hnone]

mutual

/-- Without aliases the value of a node is the sum over its leaves. -/
theorem of_node : ∀ n : Node, Unaliased n.leaves → T.of n.facts = T.sumLeaves n.leaves
  | .leaf s, _ => by simp [sumLeaves, Node.leaves, Node.facts]
  | .group h members, hnone => by
    rw [Node.leaves_group] at hnone ⊢
    rw [Node.facts_group, T.of_ofMembers_of_unaliased h.label hnone, of_nodes members hnone]

/-- Without aliases the values of nodes add up to the sum over the leaves beneath them. -/
theorem of_nodes : ∀ nodes : List Node, Unaliased (nodes.flatMap Node.leaves) →
    (nodes.map fun n => T.of n.facts).sum = T.sumLeaves (nodes.flatMap Node.leaves)
  | [], _ => rfl
  | n :: nodes, hnone => by
    obtain ⟨hn, hnodes⟩ := List.forall_mem_append.mp hnone
    rw [List.map_cons, List.sum_cons, of_node n hn, of_nodes nodes hnodes, List.flatMap_cons,
      sumLeaves_append]

end

/-- Without aliases the value of a group is the sum over its leaves. -/
theorem ofGroup_eq_sumLeaves {g : Group} (h : Unaliased g.leaves) :
    T.ofGroup g = T.sumLeaves g.leaves := by
  rw [Group.leaves_eq_flatMap] at h ⊢
  rw [ofGroup, Group.facts, T.of_ofMembers_of_unaliased g.label h, T.of_nodes g.members h]

/-- Without aliases groups with the same leaves, in any order, have one value. -/
theorem ofGroup_congr {g g' : Group} (h : Unaliased g.leaves) (hperm : g'.leaves.Perm g.leaves) :
    T.ofGroup g' = T.ofGroup g := by
  have h' : Unaliased g'.leaves := fun s hs => h s (hperm.subset hs)
  rw [T.ofGroup_eq_sumLeaves h, T.ofGroup_eq_sumLeaves h', T.sumLeaves_perm hperm]

end Total

namespace Group

/-- A value of a group is the sum of the values of its leaves, so that transformations which keep
the leaves keep it. -/
structure SumsLeaves (value : Group → Int) (share : Symbol → Int) (g : Group) : Prop where
  /-- Each leaf counts as often as it occurs. -/
  leaves : value g = (g.leaves.map share).sum
  /-- Every sort keeps the value. -/
  sorted : ∀ cmp reverse, value (g.sorted cmp reverse) = value g
  /-- Clustering keeps the value. -/
  clustered : ∀ stamp, value (g.clustered stamp).value = value g
  /-- Every grouping that leaves nothing over keeps the value. -/
  groupedByWith : ∀ stamp token minCount label,
    (g.groupedByWith stamp token minCount label).filteredOut = [] →
      value (g.groupedByWith stamp token minCount label) = value g
  /-- A filter and its inverse share the value. -/
  filter : ∀ keep, value g = value (g.filter keep) + value (g.filter keep).inverted

end Group

/-- Without aliases a total is the sum over the leaves. -/
theorem Total.sumsLeaves (T : Total) {g : Group} (h : Unaliased g.leaves) :
    g.SumsLeaves T.ofGroup fun s => T.of s.facts where
  leaves := T.ofGroup_eq_sumLeaves h
  sorted cmp reverse := T.ofGroup_congr h (g.leaves_sorted_perm cmp reverse)
  clustered stamp := T.ofGroup_congr h (g.leaves_clustered_perm stamp)
  groupedByWith _ _ _ _ hnil := T.ofGroup_congr h (Group.leaves_groupedByWith_perm hnil)
  filter keep := by
    have hperm := g.leaves_filter_append_inverted_perm keep
    have hboth : Unaliased ((g.filter keep).leaves ++ (g.filter keep).inverted.leaves) :=
      fun s hs => h s (hperm.subset hs)
    obtain ⟨hkept, hout⟩ := List.forall_mem_append.mp hboth
    rw [T.ofGroup_eq_sumLeaves h, T.ofGroup_eq_sumLeaves hkept, T.ofGroup_eq_sumLeaves hout,
      ← T.sumLeaves_append, T.sumLeaves_perm hperm]

/-- The size and the padding of a tree over a table without alias groups are the sums over its
leaves. -/
theorem sumsLeaves_of_no_aliases {g : Group} (ht : g.table.Built)
    (hnone : g.table.aliasGroups = #[]) (howned : g.Owned) :
    g.SumsLeaves Group.totalSize Symbol.size ∧ g.SumsLeaves Group.totalPadding Symbol.padding :=
  ⟨Total.size.sumsLeaves (howned.unaliased ht hnone),
    Total.padding.sumsLeaves (howned.unaliased ht hnone)⟩

/-- Two parts of a variable in `.bss`, and a function. -/
def variableParts : SnapshotRecord :=
  { symbols :=
      [{ sectionName := ".bss", size := 8, padding := 3, fullName := "table" },
        { sectionName := ".text", size := 5, padding := 1, fullName := "run" },
        { sectionName := ".bss", size := 4, fullName := "table" }] }

/-- The parts are in a nested group labelled `.bss`, and that one in one which is not. -/
theorem sumsLeaves_nested :
    ∃ snapshot, Snapshot.ofRecord variableParts ⟨0⟩ = .ok snapshot ∧
      let raw := snapshot.value.listing.raw
      let g := (raw.clustered ⟨1⟩).value.groupedBySectionName ⟨2⟩
      g.table.Built ∧ g.table.aliasGroups = #[] ∧ g.Owned ∧
        g.members.map Node.childCount = [1, 1] ∧ g.totalSize = 17 ∧ g.totalPadding = 4 ∧
        g.SumsLeaves Group.totalSize Symbol.size ∧
        g.SumsLeaves Group.totalPadding Symbol.padding := by
  have h : Snapshot.ofRecord variableParts ⟨0⟩ = .ok _ := rfl
  obtain ⟨t, ht, hlisting⟩ := Snapshot.exists_table_of_ofRecord h
  refine ⟨_, h, ?_⟩
  intro raw g
  have hraw : raw = .ofTable t := congrArg Listing.raw hlisting
  have hbuilt : raw.table.Built := by rw [hraw]; exact ht
  have hsource : raw.Owned := by rw [hraw]; exact Group.owned_ofTable ht
  have hperm : g.leaves.Perm raw.leaves :=
    (Group.leaves_groupedByWith_perm rfl).trans (raw.leaves_clustered_perm ⟨1⟩)
  have howned : g.Owned := fun s hs => hsource s (hperm.subset hs)
  obtain ⟨hsize, hpadding⟩ := sumsLeaves_of_no_aliases (g := g) hbuilt rfl howned
  refine ⟨hbuilt, rfl, howned, ?_, ?_, ?_, hsize, hpadding⟩
  · decide +kernel
  · decide +kernel
  · decide +kernel

end Footprint
