import Footprint.Diff.Pairing
import Footprint.Proofs.Group.ClusterKey
import Footprint.Proofs.Group.Clustering
import Footprint.Proofs.Group.Nesting

/-!
# The order of the leaves of a clustered list

Clustering moves leaves, but those that a diff by names takes for each other keep their order. Two
of them with a name have one section and one cluster key, so that they move together; without a name
each has a cluster key of its own, and none of them moves (`filter_leaves_clustered`).
-/

namespace Footprint

/-- The leaves of a clustered list are gathered by sections, and in each by cluster keys. -/
theorem Group.leaves_clustered {g : Group} {xs : List Symbol} (h : g.members = xs.map Node.leaf)
    (stamp : Stamp) :
    (g.clustered stamp).value.leaves =
      (gather (fun s : Symbol => some s.sectionName) xs).flatMap fun q =>
        (gather (fun s => some (clusterKey (.leaf s))) q.2).flatMap Prod.snd := by
  have hnodes : (g.clustered stamp).value.leaves = (g.clusterNodes stamp).flatMap Node.leaves :=
    leaves_eq_flatMap _
  rw [hnodes, clusterNodes, List.flatMap_assoc,
    flatMap_zipIdx (G := fun q => (gather (fun n => some (clusterKey n)) q.2).flatMap
      fun p => p.2.flatMap Node.leaves)]
  · rw [h, gather_map, List.flatMap_map]
    refine List.flatMap_congr fun q _ => ?_
    rw [gather_map, List.flatMap_map]
    exact List.flatMap_congr fun p _ => flatMap_leaves_map_leaf p.2
  · rintro ⟨⟨sectionName, members⟩, place⟩
    simp only [flatMap_leaves_nestByToken, or_true, if_true]

namespace Symbol

variable {s t : Symbol}

/-- Symbols with one match key are in one section. -/
theorem sectionName_eq_of_matchKey_eq (h : s.matchKey = t.matchKey) :
    s.sectionName = t.sectionName := by
  unfold matchKey at h
  split at h <;> split at h <;> injection h

/-- Symbols with one match key have one full name, which may be empty. -/
theorem fullName_eq_of_matchKey_eq (h : s.matchKey = t.matchKey) : s.fullName = t.fullName := by
  unfold matchKey at h
  split at h <;> split at h
  · next hs ht => rw [String.isEmpty_iff.mp hs, String.isEmpty_iff.mp ht]
  · cases h
  · cases h
  · injection h

end Symbol

/-- The cluster key of a symbol without a name is its own, unless a name begins like it. -/
theorem id_eq_of_clusterKey_eq {s t : Symbol} (hs : s.fullName.toList.head? ≠ some '&')
    (ht : t.fullName = "") (h : clusterKey (.leaf s) = clusterKey (.leaf t)) : s.id = t.id := by
  have hnameless : (Node.leaf t).facts.fullName = "" := ht
  rw [clusterKey_of_nameless hnameless] at h
  obtain ⟨-, hid⟩ | hmark := clusterKey_eq_mark_iff.mp h
  · exact NodeId.symbol.inj hid
  · have hname : s.fullName = (Node.leaf t).mark := hmark
    exact absurd (hname ▸ (Node.leaf t).head?_mark) hs

/-- Clustering keeps the order of the leaves with one match key, if no name begins with the mark of
the cluster keys of nameless symbols. -/
theorem filter_leaves_clustered {g : Group} {xs : List Symbol} (h : g.members = xs.map Node.leaf)
    (hnodup : (xs.map Symbol.id).Nodup) (hnames : ∀ s ∈ xs, s.fullName.toList.head? ≠ some '&')
    (stamp : Stamp) (k : MatchKey) :
    (g.clustered stamp).value.leaves.filter (·.matchKey == k) = xs.filter (·.matchKey == k) := by
  have hsections : ((gather (fun s : Symbol => some s.sectionName) xs).flatMap Prod.snd).filter
      (·.matchKey == k) = xs.filter (·.matchKey == k) := by
    refine filter_flatMap_gather _ _ (fun _ _ => rfl) (List.pairwise_of_forall ?_)
    intro _ y hy _ z _ hz
    have hkey : z.matchKey = y.matchKey := (beq_iff_eq.mp hz).trans (beq_iff_eq.mp hy).symm
    rw [Symbol.sectionName_eq_of_matchKey_eq hkey]
  have hkeys : ∀ ys : List Symbol, ys.Sublist xs →
      ((gather (fun s => some (clusterKey (.leaf s))) ys).flatMap Prod.snd).filter
        (·.matchKey == k) = ys.filter (·.matchKey == k) := by
    intro ys hys
    refine filter_flatMap_gather _ _ (fun _ _ => rfl) ?_
    have hdistinct : ys.Pairwise fun x y => x.id ≠ y.id :=
      List.pairwise_map.mp (hnodup.sublist (hys.map _))
    refine hdistinct.imp_of_mem fun {x y} hx _ hne hy heq z _ hz => ?_
    have hkey : z.matchKey = y.matchKey := (beq_iff_eq.mp hz).trans (beq_iff_eq.mp hy).symm
    by_cases hname : y.fullName = ""
    · exact absurd (id_eq_of_clusterKey_eq (hnames x (hys.subset hx)) hname (Option.some.inj heq)) hne
    · have hnames : (Node.leaf z).facts.fullName = (Node.leaf y).facts.fullName :=
        Symbol.fullName_eq_of_matchKey_eq hkey
      rw [clusterKey_eq_of_fullName_eq hnames hname]
  rw [Group.leaves_clustered h, List.filter_flatMap]
  rw [← hsections, List.filter_flatMap]
  refine List.flatMap_congr fun q hq => hkeys q.2 ?_
  obtain ⟨sectionName, -, rfl⟩ := List.mem_map.mp hq
  exact List.filter_sublist

end Footprint
