import Mathlib.Data.List.Perm.Basic
import Footprint.Group.Algebra
import Footprint.Group.Cluster
import Footprint.Group.Filter
import Footprint.Group.Order
import Footprint.Proofs.Group.Gathering
import Footprint.Proofs.Group.Leaves

/-!
# Nesting

Grouping by a token moves nodes beneath nested groups, keeps them in their places or leaves them
over. Each node goes one of these ways, so that no leaf is lost and none occurs twice
(`Group.flatMap_leaves_nestByToken_perm`), and no nested group is empty
(`Group.nested_nestByToken`). The last lemmas say which transformations of a group keep its leaves or
share them with their inverse.
-/

namespace Footprint.Group

/-- The nodes that a grouping makes of others: some of these stay as they are, and some become
members of nested groups, none of which is empty. -/
inductive Nested (g : Group) (nodes : List Node) : Node → Prop where
  /-- A node that stays. -/
  | kept {n : Node} (h : n ∈ nodes) : Nested g nodes n
  /-- A nested group. -/
  | nest (id : GroupId) (label : Label) {members : List Node} (hne : members ≠ [])
      (hsub : members ⊆ nodes) : Nested g nodes (g.nest id label members)

/-- Nested nodes of some nodes are nested nodes of more. -/
theorem Nested.mono {g : Group} {nodes nodes' : List Node} (hsub : nodes ⊆ nodes') {n : Node}
    (h : g.Nested nodes n) : g.Nested nodes' n := by
  cases h with
  | kept h => exact .kept (hsub h)
  | nest id label hne hmembers => exact .nest id label hne fun _ hm => hsub (hmembers hm)

/-- The nodes left over by a grouping are some of the nodes. -/
theorem mem_of_mem_leftOver {token : Node → Option String} {least : Nat} {keepSmall : Bool}
    {nodes : List Node} {n : Node} (h : n ∈ leftOver token least keepSmall nodes) : n ∈ nodes := by
  rcases List.mem_append.mp h with h | h
  · exact List.mem_of_mem_filter h
  · cases keepSmall with
    | true => cases h
    | false =>
      obtain ⟨p, hp, hn⟩ := List.mem_flatMap.mp h
      dsimp only at hn
      split_ifs at hn
      · cases hn
      · exact subset_of_mem_gather token nodes hp hn

/-- Nothing is left over when every node has a token and the nodes of the rare ones are kept. -/
theorem leftOver_eq_nil {token : Node → Option String} (least : Nat) {nodes : List Node}
    (h : ∀ n ∈ nodes, (token n).isSome) : leftOver token least true nodes = [] := by
  rw [leftOver, if_pos rfl, List.append_nil, List.filter_eq_nil_iff]
  intro n hn
  simp [Option.isNone_iff_eq_none, Option.ne_none_iff_isSome.mpr (h n hn)]

section NestByToken

variable (g : Group) (id : Nat → GroupId) (token : Node → Option String) (least : Nat)
  (keepSmall : Bool) (label : String → List Node → Label) (nodes : List Node)

/-- A grouped node is a node that stays, or the nested group of the nodes with a token. -/
theorem mem_nestByToken {n : Node}
    (h : n ∈ g.nestByToken id token least keepSmall label nodes) :
    n ∈ nodes ∨ ∃ p ∈ gather token nodes, ∃ place, n = g.nest (id place) (label p.1 p.2) p.2 := by
  obtain ⟨⟨p, place⟩, hp, hn⟩ := List.mem_flatMap.mp h
  have hp : p ∈ gather token nodes := List.fst_mem_of_mem_zipIdx hp
  dsimp only at hn
  split_ifs at hn
  · exact .inr ⟨p, hp, place, List.mem_singleton.mp hn⟩
  · exact .inl (subset_of_mem_gather token nodes hp hn)
  · cases hn

/-- Grouping by a token nests nodes. -/
theorem nested_nestByToken {n : Node}
    (h : n ∈ g.nestByToken id token least keepSmall label nodes) : g.Nested nodes n := by
  rcases g.mem_nestByToken id token least keepSmall label nodes h with hn | ⟨p, hp, place, rfl⟩
  · exact .kept hn
  · exact .nest _ _ (ne_nil_of_mem_gather token nodes hp) (subset_of_mem_gather token nodes hp)

/-- The leaves of the grouped nodes: those of the nodes of each token that are not left over. -/
theorem flatMap_leaves_nestByToken :
    (g.nestByToken id token least keepSmall label nodes).flatMap Node.leaves =
      (gather token nodes).flatMap fun p =>
        if least ≤ p.2.length ∨ keepSmall then p.2.flatMap Node.leaves else [] := by
  unfold nestByToken
  rw [List.flatMap_assoc]
  refine flatMap_zipIdx _ _ _ fun ⟨⟨t, members⟩, place⟩ => ?_
  by_cases hleast : least ≤ members.length
  · simp [hleast, nest, Node.leaves_group]
  · cases keepSmall with
    | false => simp [hleast]
    | true => simp [hleast]

/-- The leaves of the nodes left over: those of the nodes without a token, and those of the nodes of
each token that are not grouped. -/
theorem flatMap_leaves_leftOver :
    (leftOver token least keepSmall nodes).flatMap Node.leaves =
      (nodes.filter fun n => (token n).isNone).flatMap Node.leaves ++
        (gather token nodes).flatMap fun p =>
          if least ≤ p.2.length ∨ keepSmall then [] else p.2.flatMap Node.leaves := by
  rw [leftOver, List.flatMap_append]
  congr 1
  cases keepSmall with
  | true => simp
  | false =>
    rw [if_neg Bool.false_ne_true, List.flatMap_assoc]
    refine List.flatMap_congr fun p _ => ?_
    by_cases hleast : least ≤ p.2.length
    · simp [hleast]
    · simp [hleast]

/-- A leaf beneath the nodes is beneath the grouped nodes or beneath those left over. -/
theorem flatMap_leaves_nestByToken_perm :
    ((g.nestByToken id token least keepSmall label nodes).flatMap Node.leaves ++
      (leftOver token least keepSmall nodes).flatMap Node.leaves).Perm
        (nodes.flatMap Node.leaves) := by
  rw [flatMap_leaves_nestByToken, flatMap_leaves_leftOver]
  have hparts : ∀ p ∈ gather token nodes,
      ((if least ≤ p.2.length ∨ keepSmall then p.2.flatMap Node.leaves else []) ++
        if least ≤ p.2.length ∨ keepSmall then [] else p.2.flatMap Node.leaves) =
          p.2.flatMap Node.leaves := by
    intro p _
    split_ifs
    · exact List.append_nil _
    · exact List.nil_append _
  have hsplit : ((nodes.filter fun n => (token n).isNone) ++
      nodes.filter fun n => (token n).isSome).Perm nodes := by
    simpa [Option.not_isNone] using List.filter_append_perm (fun n => (token n).isNone) nodes
  refine (List.perm_append_comm_assoc _ _ _).trans ?_
  refine ((List.flatMap_append_perm _ _ _).append_left _).trans ?_
  rw [List.flatMap_congr hparts, ← List.flatMap_assoc]
  refine (((flatMap_gather_perm token nodes).flatMap_right _).append_left _).trans ?_
  rw [← List.flatMap_append]
  exact hsplit.flatMap_right _

/-- Grouping keeps the leaves when every node has a token and the nodes of the rare ones are
kept. -/
theorem flatMap_leaves_nestByToken_perm_of_isSome (h : ∀ n ∈ nodes, (token n).isSome) :
    ((g.nestByToken id token least true label nodes).flatMap Node.leaves).Perm
      (nodes.flatMap Node.leaves) := by
  have hperm := g.flatMap_leaves_nestByToken_perm id token least true label nodes
  rwa [leftOver_eq_nil least h, List.flatMap_nil, List.append_nil] at hperm

end NestByToken

/-- Clustering nests nodes. -/
theorem nested_clusterNodes {g : Group} {stamp : Stamp} {n : Node} (h : n ∈ g.clusterNodes stamp) :
    g.Nested g.members n := by
  obtain ⟨⟨p, place⟩, hp, hn⟩ := List.mem_flatMap.mp h
  have hp : p ∈ gather (fun n => some n.facts.sectionName) g.members :=
    List.fst_mem_of_mem_zipIdx hp
  exact (g.nested_nestByToken _ _ _ _ _ _ hn).mono (subset_of_mem_gather _ _ hp)

/-- Clustering keeps the leaves. -/
theorem flatMap_leaves_clusterNodes_perm (g : Group) (stamp : Stamp) :
    ((g.clusterNodes stamp).flatMap Node.leaves).Perm (g.members.flatMap Node.leaves) := by
  have hsections := flatMap_gather_perm_of_isSome (fun n : Node => some n.facts.sectionName)
    g.members fun _ _ => rfl
  have hplaces : ((g.clusterNodes stamp).flatMap Node.leaves).Perm
      ((gather (fun n => some n.facts.sectionName) g.members).flatMap fun p =>
        p.2.flatMap Node.leaves) := by
    rw [clusterNodes, List.flatMap_assoc, ← flatMap_zipIdx (gather _ _) _ _ fun _ => rfl]
    exact List.Perm.flatMap_left _ fun p _ =>
      g.flatMap_leaves_nestByToken_perm_of_isSome _ _ 2 _ p.1.2 fun _ _ => rfl
  rw [← List.flatMap_assoc] at hplaces
  exact hplaces.trans (hsections.flatMap_right Node.leaves)

/-- A sort keeps the leaves. -/
theorem leaves_sorted_perm (g : Group) (cmp : Node → Node → Ordering) (reverse : Bool) :
    (g.sorted cmp reverse).leaves.Perm g.leaves := by
  rw [leaves_eq_flatMap, leaves_eq_flatMap]
  exact (List.mergeSort_perm _ _).flatMap_right _

/-- Clustering keeps the leaves. -/
theorem leaves_clustered_perm (g : Group) (stamp : Stamp) :
    (g.clustered stamp).value.leaves.Perm g.leaves := by
  rw [leaves_eq_flatMap, leaves_eq_flatMap]
  exact g.flatMap_leaves_clusterNodes_perm stamp

/-- A grouping and its inverse share the leaves. -/
theorem leaves_groupedByWith_append_inverted_perm (g : Group) (stamp : Stamp)
    (token : Node → Option String) (minCount : Int) (label : String → List Node → Label) :
    ((g.groupedByWith stamp token minCount label).leaves ++
      (g.groupedByWith stamp token minCount label).inverted.leaves).Perm g.leaves := by
  rw [leaves_eq_flatMap, leaves_eq_flatMap, leaves_eq_flatMap]
  exact g.flatMap_leaves_nestByToken_perm (fun place => ⟨stamp, [place]⟩) token minCount.natAbs
    (0 ≤ minCount) label g.members

/-- A grouping that leaves nothing over keeps the leaves. -/
theorem leaves_groupedByWith_perm {g : Group} {stamp : Stamp} {token : Node → Option String}
    {minCount : Int} {label : String → List Node → Label}
    (h : (g.groupedByWith stamp token minCount label).filteredOut = []) :
    (g.groupedByWith stamp token minCount label).leaves.Perm g.leaves := by
  have hperm := g.leaves_groupedByWith_append_inverted_perm stamp token minCount label
  have hnone : (g.groupedByWith stamp token minCount label).inverted.leaves = [] := by
    rw [leaves_eq_flatMap, inverted, transformed, h, List.flatMap_nil]
  rwa [hnone, List.append_nil] at hperm

/-- A filter and its inverse share the leaves. -/
theorem leaves_filter_append_inverted_perm (g : Group) (keep : Node → Bool) :
    ((g.filter keep).leaves ++ (g.filter keep).inverted.leaves).Perm g.leaves := by
  rw [leaves_eq_flatMap, leaves_eq_flatMap, leaves_eq_flatMap, ← List.flatMap_append]
  exact (List.filter_append_perm keep g.members).flatMap_right _

end Footprint.Group
