import Footprint.Proofs.Group.ClusterKey
import Footprint.Proofs.Group.Placement

/-!
# Clustering twice

A new group of parts has the section and the cluster key of the parts, so that the members of a
clustered group have each pair of a section and a cluster key once, and they have the pairs in the
order in which clustering goes through them (`Group.map_clusterToken_clusterNodes`). A list of this
form is left as it is (`Group.clusterNodes_eq_members`), so that clustering it once more changes nothing
(`clustered_clustered`).
-/

namespace Footprint.Group

/-- A nested group of nodes with one pair, labelled as their cluster, has this pair. -/
theorem clusterToken_nest (g : Group) (id : GroupId) {token : String × String} {members : List Node}
    (hne : members ≠ []) (h : ∀ n ∈ members, n.clusterToken = token) :
    (g.nest id (clusterLabel token.2 members) members).clusterToken = token := by
  obtain ⟨n, hn⟩ := List.exists_mem_of_ne_nil members hne
  have hfacts : (g.nest id (clusterLabel token.2 members) members).facts =
      .ofMembers (clusterLabel token.2 members) (members.map Node.facts) := Node.facts_group _ _
  have hsection : (clusterLabel token.2 members).sectionName = token.1 :=
    sectionName_clusterLabel_of_forall hne fun m hm => congrArg Prod.fst (h m hm)
  have hkey : clusterKey n = token.2 := congrArg Prod.snd (h n hn)
  refine Prod.ext ?_ ?_
  · change (g.nest id _ members).facts.sectionName = token.1
    rw [hfacts, ← hsection]
    rfl
  · refine (clusterKey_of_fullName_eq_clusterKey (m := n) ?_).trans hkey
    rw [hfacts, hkey]
    exact fullName_clusterLabel token.2 members

/-- The members of a clustered group have the pairs of a section and a cluster key that the members
of the group have, each once and in the order in which they are first seen. -/
theorem map_clusterToken_clusterNodes (g : Group) (stamp : Stamp) :
    (g.clusterNodes stamp).map Node.clusterToken =
      nestedTokens (fun n : Node => n.facts.sectionName) clusterKey g.members := by
  refine Eq.symm (List.forall₂_eq_eq_eq ▸ List.forall₂_map_right_iff.mpr ?_)
  refine (g.forall₂_nest_clusterNodes stamp).imp fun token n hn => ?_
  obtain hn | ⟨htwo, place, rfl⟩ := hn
  · exact (clusterToken_of_mem_withClusterToken (hn ▸ List.mem_singleton_self n)).symm
  · have hne : g.withClusterToken token ≠ [] :=
      List.ne_nil_of_length_pos (Nat.lt_of_lt_of_le (by decide) htwo)
    exact (g.clusterToken_nest _ hne fun n hn => clusterToken_of_mem_withClusterToken hn).symm

/-- A member is the only one with its pair when no two members share a pair. -/
theorem withClusterToken_eq_singleton {g : Group} (h : (g.members.map Node.clusterToken).Nodup)
    {n : Node} (hn : n ∈ g.members) : g.withClusterToken n.clusterToken = [n] :=
  filter_key_eq_singleton h hn

/-- Members that have each pair once, in the order in which clustering goes through the pairs, are
left as they are. -/
theorem clusterNodes_eq_members {g : Group} (stamp : Stamp)
    (h : nestedTokens (fun n : Node => n.facts.sectionName) clusterKey g.members =
      g.members.map Node.clusterToken) : g.clusterNodes stamp = g.members := by
  have hnodup : (g.members.map Node.clusterToken).Nodup := h ▸ nodup_nestedTokens _ _ _
  have hbefore : List.Forall₂ (fun token n => g.withClusterToken token = [n])
      (g.members.map Node.clusterToken) g.members := by
    rw [List.forall₂_map_left_iff, List.forall₂_same]
    exact fun n hn => withClusterToken_eq_singleton hnodup hn
  have hafter : List.Forall₂ (fun token n => g.withClusterToken token = [n])
      (g.members.map Node.clusterToken) (g.clusterNodes stamp) := by
    rw [← h]
    refine (g.forall₂_nest_clusterNodes stamp).imp fun token n hn => hn.resolve_right ?_
    rintro ⟨htwo, -⟩
    -- No pair is shared, so that nothing is nested.
    obtain ⟨m, hm⟩ := List.exists_mem_of_length_pos (Nat.lt_of_lt_of_le (by decide) htwo)
    have hone := withClusterToken_eq_singleton hnodup (List.mem_of_mem_filter hm)
    rw [clusterToken_of_mem_withClusterToken hm] at hone
    rw [hone, List.length_singleton] at htwo
    omega
  exact List.right_unique_forall₂' (fun _ _ _ hb hc => List.singleton_inj.mp (hb.symm.trans hc))
    hafter hbefore

end Footprint.Group

namespace Footprint

/-- Clustering a clustered group gives the same group back: the second pass makes no new group and moves
no member, so that the totals and the status stay the same, too. -/
theorem clustered_clustered (g : Group) (stamp stamp' : Stamp) :
    ((g.clustered stamp).value.clustered stamp').value = (g.clustered stamp).value := by
  let r := (g.clustered stamp).value
  have htokens : r.members.map Node.clusterToken =
      nestedTokens (fun n : Node => n.facts.sectionName) clusterKey g.members :=
    g.map_clusterToken_clusterNodes stamp
  have hmembers : r.clusterNodes stamp' = r.members := by
    refine r.clusterNodes_eq_members stamp' ?_
    calc nestedTokens (fun n : Node => n.facts.sectionName) clusterKey r.members
        = nestedTokens Prod.fst Prod.snd (r.members.map Node.clusterToken) :=
          (nestedTokens_map Prod.fst Prod.snd Node.clusterToken r.members).symm
      _ = r.members.map Node.clusterToken := by rw [htokens, nestedTokens_nestedTokens]
  change r.transformed (r.clusterNodes stamp') [] {} r.isSorted = r
  rw [hmembers]
  exact g.transformed_transformed _ _ _ _

end Footprint
