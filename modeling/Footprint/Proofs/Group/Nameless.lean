import Footprint.Proofs.Group.ClusterKey
import Footprint.Proofs.Group.Created
import Footprint.Proofs.Group.Placement

/-!
# Nameless members

No two members without a name have one cluster key, so that clustering does not merge them with each
other. But names are free: a member of the section may be named by the mark of a nameless one, which is
then merged with all of its impostors (`clustered_nameless`, `clustered_impostor`).
-/

namespace Footprint

namespace Group

/-- The members of the section of a node that are named by its mark. -/
def impostors (g : Group) (n : Node) : List Node :=
  g.members.filter fun m => m.facts.sectionName == n.facts.sectionName && m.facts.fullName == n.mark

/-- The other members with the section and the cluster key of a nameless one are its impostors. -/
theorem withClusterToken_perm_of_nameless {g : Group} (hdistinct : (g.members.map Node.id).Nodup)
    {n : Node} (hn : n ∈ g.members) (hname : n.facts.fullName = "") :
    (g.withClusterToken n.clusterToken).Perm (n :: g.impostors n) := by
  have hself : (g.withClusterToken n.clusterToken).filter (·.id == n.id) = [n] := by
    unfold withClusterToken
    rw [filter_filter_of_imp, filter_key_eq_singleton hdistinct hn]
    intro m hm hid
    rw [List.inj_on_of_nodup_map hdistinct hm hn (beq_iff_eq.mp hid)]
    exact beq_self_eq_true _
  have hothers : (g.withClusterToken n.clusterToken).filter (!·.id == n.id) = g.impostors n := by
    unfold withClusterToken impostors
    rw [List.filter_filter]
    refine List.filter_congr fun m hm => ?_
    have hkey : clusterKey m = clusterKey n ↔
        m.facts.fullName = "" ∧ m.id = n.id ∨ m.facts.fullName = n.mark := by
      rw [clusterKey_of_nameless hname, clusterKey_eq_mark_iff]
    rw [Bool.eq_iff_iff]
    simp only [Node.clusterToken, Bool.and_eq_true, Bool.not_eq_true', beq_eq_false_iff_ne, ne_eq,
      beq_iff_eq, Prod.mk.injEq, hkey]
    constructor
    · rintro ⟨hne, hsection, ⟨-, hid⟩ | hmark⟩
      · exact absurd hid hne
      · exact ⟨hsection, hmark⟩
    · rintro ⟨hsection, hmark⟩
      refine ⟨fun hid => ?_, hsection, .inr hmark⟩
      rw [List.inj_on_of_nodup_map hdistinct hm hn hid, hname] at hmark
      exact n.mark_ne_empty hmark.symm
  have hperm := List.filter_append_perm (·.id == n.id) (g.withClusterToken n.clusterToken)
  rw [hself, hothers] at hperm
  exact hperm.symm

/-- A new group of a clustering has the two or more members with the pair of any one of them. -/
theorem members_of_mem_made_clustered {g : Group} {stamp : Stamp} (hfresh : g.Fresh stamp)
    {made n : Node} (hmade : made ∈ (g.clustered stamp).value.made stamp) (hn : n ∈ made.members) :
    made.members = g.withClusterToken n.clusterToken ∧
      2 ≤ (g.withClusterToken n.clusterToken).length := by
  obtain ⟨place, hplace⟩ := exists_placement (r := (g.clustered stamp).value)
    (g.forall₂_clusterNodes stamp)
  obtain ⟨hmade, hstamp⟩ := List.mem_filter.mp hmade
  obtain ⟨i, rfl⟩ : ∃ i, (g.clustered stamp).value.members[place i] = made := by
    obtain ⟨p, rfl⟩ := List.mem_iff_get.mp hmade
    obtain ⟨i, rfl⟩ := hplace.onto p
    exact ⟨i, rfl⟩
  have hpos : 0 < (g.withClusterToken (g.clusterTokenAt i)).length :=
    List.length_pos_of_mem (g.getElem_mem_withClusterToken i)
  by_cases htwo : 2 ≤ (g.withClusterToken (g.clusterTokenAt i)).length
  · obtain ⟨head, hshared, -⟩ := hplace.shared i htwo
    rw [hshared] at hn ⊢
    rw [clusterToken_of_mem_withClusterToken hn]
    exact ⟨rfl, htwo⟩
  · -- A member that stays alone is not new.
    have hold := hfresh g.members[i] (List.getElem_mem _)
    rw [← hplace.alone i (by omega)] at hold
    cases hold.symm.trans hstamp

/-- A member that shares its pair is in a new group of a clustering. -/
theorem exists_mem_made_clustered {g : Group} (stamp : Stamp) {n : Node} (hn : n ∈ g.members)
    (htwo : 2 ≤ (g.withClusterToken n.clusterToken).length) :
    ∃ made ∈ (g.clustered stamp).value.made stamp, n ∈ made.members := by
  obtain ⟨place, hplace⟩ := exists_placement (r := (g.clustered stamp).value)
    (g.forall₂_clusterNodes stamp)
  obtain ⟨i, hi, rfl⟩ := List.mem_iff_getElem.mp hn
  obtain ⟨head, hshared, hstamp, -⟩ := hplace.shared ⟨i, hi⟩ htwo
  refine ⟨_, List.mem_filter.mpr ⟨List.getElem_mem (place ⟨i, hi⟩).isLt, ?_⟩, ?_⟩
  · change ((g.clustered stamp).value.members[place ⟨i, hi⟩]).madeBy stamp
    rw [hshared]
    exact beq_iff_eq.mpr hstamp
  · change g.members[i] ∈ ((g.clustered stamp).value.members[place ⟨i, hi⟩]).members
    rw [hshared]
    exact g.getElem_mem_withClusterToken ⟨i, hi⟩

end Group

/-- A clustering merges a nameless member with its impostors, the members of its section that are named
by its mark, and with nothing else. So the new groups have no nameless members just when no nameless
member has an impostor. -/
theorem clustered_nameless {g : Group} {stamp : Stamp} (hdistinct : (g.members.map Node.id).Nodup)
    (hfresh : g.Fresh stamp) :
    let made := (g.clustered stamp).value.made stamp
    (∀ n ∈ g.members, n.facts.fullName = "" →
      ((∃ m ∈ made, n ∈ m.members) ↔ g.impostors n ≠ []) ∧
        ∀ m ∈ made, n ∈ m.members → m.members.Perm (n :: g.impostors n)) ∧
      ((∀ m ∈ made, ∀ n ∈ m.members, n.facts.fullName ≠ "") ↔
        ∀ n ∈ g.members, n.facts.fullName = "" → g.impostors n = []) := by
  intro made
  have hmerged : ∀ n ∈ g.members, n.facts.fullName = "" →
      ((∃ m ∈ made, n ∈ m.members) ↔ g.impostors n ≠ []) := by
    intro n hn hname
    have hlength := (Group.withClusterToken_perm_of_nameless hdistinct hn hname).length_eq
    rw [List.length_cons] at hlength
    rw [← List.length_pos_iff]
    constructor
    · rintro ⟨m, hm, hnm⟩
      have htwo := (Group.members_of_mem_made_clustered hfresh hm hnm).2
      omega
    · exact fun hpos => Group.exists_mem_made_clustered stamp hn (by omega)
  have hmember : ∀ m ∈ made, ∀ n ∈ m.members, n ∈ g.members := by
    intro m hm n hn
    rw [(Group.members_of_mem_made_clustered hfresh hm hn).1] at hn
    exact List.mem_of_mem_filter hn
  refine ⟨fun n hn hname => ⟨hmerged n hn hname, fun m hm hnm => ?_⟩, ?_, ?_⟩
  · rw [(Group.members_of_mem_made_clustered hfresh hm hnm).1]
    exact Group.withClusterToken_perm_of_nameless hdistinct hn hname
  · intro hnamed n hn hname
    by_contra hne
    obtain ⟨m, hm, hnm⟩ := (hmerged n hn hname).mpr hne
    exact hnamed m hm n hnm hname
  · intro hnone m hm n hnm hname
    have hn := hmember m hm n hnm
    exact (hmerged n hn hname).mp ⟨m, hm, hnm⟩ (hnone n hn hname)

/-- Two parts of one function are merged and two nameless symbols are not. -/
theorem clustered_nameless_apart :
    let g := Group.ofTable ⟨⟨0⟩, #[.ofRecord ⟨0⟩ { sectionName := ".text", size := 4 },
      .ofRecord ⟨1⟩ { sectionName := ".text", size := 4, fullName := "f" },
      .ofRecord ⟨2⟩ { sectionName := ".text", size := 4 },
      .ofRecord ⟨3⟩ { sectionName := ".text", size := 4, fullName := "f" }], #[]⟩
    let made := (g.clustered ⟨1⟩).value.made ⟨1⟩
    made.length = 1 ∧ ∀ m ∈ made, ∀ n ∈ m.members, n.facts.fullName ≠ "" := by
  intro g made
  have hdistinct : (g.members.map Node.id).Nodup := by decide
  have hfresh : g.Fresh ⟨1⟩ := by decide
  obtain ⟨-, hnone⟩ := clustered_nameless hdistinct hfresh
  exact ⟨by decide +kernel, hnone.mpr (by decide +kernel)⟩

/-- A symbol that is named by the mark of a nameless one is merged with it. -/
theorem clustered_impostor :
    let g := Group.ofTable ⟨⟨0⟩, #[.ofRecord ⟨0⟩ { sectionName := ".text", size := 4 },
      .ofRecord ⟨1⟩ { sectionName := ".text", size := 8, fullName := "&0" }], #[]⟩
    (g.members.map Node.id).Nodup ∧ g.Fresh ⟨1⟩ ∧
      ∃ made ∈ (g.clustered ⟨1⟩).value.made ⟨1⟩, ∃ n ∈ made.members, n.facts.fullName = "" := by
  decide +kernel

end Footprint
