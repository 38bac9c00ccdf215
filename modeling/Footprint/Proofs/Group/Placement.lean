import Footprint.Proofs.Group.Nesting

/-!
# Where clustering puts each member

Clustering makes one direct member of each pair of a section and a cluster key that the members of a
group have: the only member with the pair, or the nested group of all of them (`Group.StandsFor`).
The pairs come section by section in the order in which the sections are first seen, and in each
section in the order in which the keys are. So each member has a place in the clustered group, and
nothing else has one (`clustered_placement`).
-/

namespace Footprint

/-- The section and the cluster key of a node. -/
def Node.clusterToken (n : Node) : String × String :=
  (n.facts.sectionName, clusterKey n)

namespace Group

/-- The members of a group with a pair of a section and a cluster key. -/
def withClusterToken (g : Group) (token : String × String) : List Node :=
  g.members.filter (·.clusterToken == token)

/-- What stands for a pair of a section and a cluster key in a clustered group. -/
inductive StandsFor (g : Group) (stamp : Stamp) (token : String × String) : Node → Prop where
  /-- The only member with the pair. -/
  | alone {n : Node} (h : g.withClusterToken token = [n]) : StandsFor g stamp token n
  /-- A new group, labelled with the section, of the two or more members with the pair. -/
  | shared {head : Head} (htwo : 2 ≤ (g.withClusterToken token).length)
      (hstamp : head.id.stamp = stamp) (hsection : head.label.sectionName = token.1) :
      StandsFor g stamp token (.group head (g.withClusterToken token))

/-- When two or more nodes are needed for a nested group, there is one node for each token: the only
one that has it, or the nested group of those that share it. -/
theorem forall₂_nestByToken (g : Group) (id : Nat → GroupId) (token : Node → Option String)
    (label : String → List Node → Label) (nodes : List Node) :
    List.Forall₂ (fun t n => withToken token nodes t = [n] ∨
        2 ≤ (withToken token nodes t).length ∧ ∃ place, n =
          g.nest (id place) (label t (withToken token nodes t)) (withToken token nodes t))
      (tokensOf token nodes) (g.nestByToken id token 2 true label nodes) := by
  have htokens : tokensOf token nodes = (gather token nodes).flatMap fun p => [p.1] := by
    simp [gather, List.flatMap_map]
  rw [htokens, nestByToken]
  refine forall₂_flatMap_zipIdx fun p hp place => ?_
  have hne : p.2 ≠ [] := ne_nil_of_mem_gather token nodes hp
  obtain ⟨t, -, rfl⟩ := List.mem_map.mp hp
  have hpos : 0 < (withToken token nodes t).length := List.length_pos_of_ne_nil hne
  dsimp only
  by_cases htwo : 2 ≤ (withToken token nodes t).length
  · rw [if_pos htwo]
    exact .cons (.inr ⟨htwo, place, rfl⟩) .nil
  · have hone : (withToken token nodes t).length = 1 := by omega
    obtain ⟨n, hn⟩ := List.length_eq_one_iff.mp hone
    rw [if_neg htwo, if_pos rfl, hn]
    exact .cons (.inl hn) .nil

/-- There is one node in a clustered group for each pair of a section and a cluster key: the only
member that has it, or the nested group of those that share it. -/
theorem forall₂_nest_clusterNodes (g : Group) (stamp : Stamp) :
    List.Forall₂ (fun token n => g.withClusterToken token = [n] ∨
        2 ≤ (g.withClusterToken token).length ∧ ∃ place, n =
          g.nest ⟨stamp, place⟩ (clusterLabel token.2 (g.withClusterToken token))
            (g.withClusterToken token))
      (nestedTokens (fun n : Node => n.facts.sectionName) clusterKey g.members)
      (g.clusterNodes stamp) := by
  rw [nestedTokens_eq_flatMap_gather, clusterNodes]
  refine forall₂_flatMap_zipIdx fun p hp place => ?_
  obtain ⟨sectionName, -, rfl⟩ := List.mem_map.mp hp
  rw [List.forall₂_map_left_iff]
  refine (g.forall₂_nestByToken _ _ _ _).imp fun key n hn => ?_
  have hboth : withToken (fun n => some (clusterKey n))
      (withToken (fun n : Node => some n.facts.sectionName) g.members sectionName) key =
        g.withClusterToken (sectionName, key) := withToken_withToken ..
  rw [hboth] at hn
  obtain hn | ⟨htwo, inner, hn⟩ := hn
  · exact .inl hn
  · exact .inr ⟨htwo, [place, inner], hn⟩

/-- A member with a pair has it as its own. -/
theorem clusterToken_of_mem_withClusterToken {g : Group} {token : String × String} {n : Node}
    (h : n ∈ g.withClusterToken token) : n.clusterToken = token := by
  simpa using (List.mem_filter.mp h).2

/-- The nodes of a clustered group stand for the pairs of a section and a cluster key. -/
theorem forall₂_clusterNodes (g : Group) (stamp : Stamp) :
    List.Forall₂ (g.StandsFor stamp)
      (nestedTokens (fun n : Node => n.facts.sectionName) clusterKey g.members)
      (g.clusterNodes stamp) := by
  refine (g.forall₂_nest_clusterNodes stamp).imp fun token n hn => ?_
  obtain hn | ⟨htwo, place, rfl⟩ := hn
  · exact .alone hn
  · refine .shared htwo rfl ?_
    have hne : g.withClusterToken token ≠ [] :=
      List.ne_nil_of_length_pos (Nat.lt_of_lt_of_le (by decide) htwo)
    exact sectionName_clusterLabel_of_forall hne fun n hn =>
      congrArg Prod.fst (clusterToken_of_mem_withClusterToken hn)

/-- The pair of a section and a cluster key of the member at a place. -/
def clusterTokenAt (g : Group) (i : Fin g.members.length) : String × String :=
  g.members[i].clusterToken

/-- The place at which the section of a member is first seen. -/
def sectionSeen (g : Group) (i : Fin g.members.length) : Nat :=
  g.members.findIdx (·.facts.sectionName == (g.clusterTokenAt i).1)

/-- The place at which the pair of a section and a cluster key of a member is first seen. -/
def clusterTokenSeen (g : Group) (i : Fin g.members.length) : Nat :=
  g.members.findIdx (·.clusterToken == g.clusterTokenAt i)

/-- The places that the members of a group get in a clustered group. -/
structure Placement (g r : Group) (stamp : Stamp)
    (place : Fin g.members.length → Fin r.members.length) : Prop where
  /-- At every place there are members of the group. -/
  onto : Function.Surjective place
  /-- Members share a place when they share a section and a cluster key. -/
  together : ∀ i j, place i = place j ↔ g.clusterTokenAt i = g.clusterTokenAt j
  /-- A member that shares them with no other stays a direct member. -/
  alone : ∀ i, (g.withClusterToken (g.clusterTokenAt i)).length = 1 →
    r.members[place i] = g.members[i]
  /-- Members that share them become a new group in their order, labelled with their section. -/
  shared : ∀ i, 2 ≤ (g.withClusterToken (g.clusterTokenAt i)).length → ∃ head : Head,
    r.members[place i] = .group head (g.withClusterToken (g.clusterTokenAt i)) ∧
      head.id.stamp = stamp ∧ head.label.sectionName = g.members[i].facts.sectionName
  /-- The places are in the order in which the sections are first seen, and within a section in the
  order in which the cluster keys are. -/
  order : ∀ i j, place i < place j ↔ g.sectionSeen i < g.sectionSeen j ∨
    (g.clusterTokenAt i).1 = (g.clusterTokenAt j).1 ∧ g.clusterTokenSeen i < g.clusterTokenSeen j

end Group

/-- In a list in which each element is before all later ones, places are in the order of the
elements. -/
theorem idxOf_lt_idxOf_iff {α : Type} [BEq α] [LawfulBEq α] {R : α → α → Prop} {xs : List α}
    (h : xs.Pairwise R) (hasymm : ∀ a b, R a b → ¬ R b a) {a b : α} (ha : a ∈ xs) (hb : b ∈ xs) :
    xs.idxOf a < xs.idxOf b ↔ R a b := by
  have hlt : ∀ {a b : α}, a ∈ xs → b ∈ xs → xs.idxOf a < xs.idxOf b → R a b := by
    intro a b ha hb hab
    have hpair := List.pairwise_iff_getElem.mp h _ _ (List.idxOf_lt_length_of_mem ha)
      (List.idxOf_lt_length_of_mem hb) hab
    rwa [List.getElem_idxOf, List.getElem_idxOf] at hpair
  refine ⟨hlt ha hb, fun hR => ?_⟩
  rcases Nat.lt_trichotomy (xs.idxOf a) (xs.idxOf b) with hab | hab | hab
  · exact hab
  · obtain rfl := (List.idxOf_inj ha).mp hab
    exact absurd hR (hasymm a a hR)
  · exact absurd hR (hasymm b a (hlt hb ha hab))

/-- No two pairs are seen before each other. -/
theorem SeenBefore.asymm {α : Type} {outer inner : α → String} {xs : List α}
    {a b : String × String} (h : SeenBefore outer inner xs a b) : ¬ SeenBefore outer inner xs b a := by
  unfold SeenBefore at *
  rintro (hlt | ⟨heq, hlt⟩)
  · rcases h with h | ⟨h, -⟩
    · omega
    · rw [h] at hlt
      omega
  · rw [heq] at h
    omega

namespace Group

/-- A member is one of those with its pair. -/
theorem getElem_mem_withClusterToken (g : Group) (i : Fin g.members.length) :
    g.members[i] ∈ g.withClusterToken (g.clusterTokenAt i) :=
  List.mem_filter.mpr ⟨List.getElem_mem _, beq_self_eq_true _⟩

/-- When the members of a group stand for the pairs of another one in order, each member of that has
a place among them. -/
theorem exists_placement {g r : Group} {stamp : Stamp}
    (h : List.Forall₂ (g.StandsFor stamp)
      (nestedTokens (fun n : Node => n.facts.sectionName) clusterKey g.members) r.members) :
    ∃ place, g.Placement r stamp place := by
  let tokens := nestedTokens (fun n : Node => n.facts.sectionName) clusterKey g.members
  have hmem : ∀ i, g.clusterTokenAt i ∈ tokens := fun i =>
    (mem_nestedTokens _ _ _ _).mpr ⟨g.members[i], List.getElem_mem _, rfl⟩
  have hidx : ∀ i, tokens.idxOf (g.clusterTokenAt i) < tokens.length := fun i =>
    List.idxOf_lt_length_of_mem (hmem i)
  have hlength : tokens.length = r.members.length := h.length_eq
  let place (i : Fin g.members.length) : Fin r.members.length :=
    ⟨tokens.idxOf (g.clusterTokenAt i), hlength ▸ hidx i⟩
  have hstands : ∀ i n, r.members[place i] = n → g.StandsFor stamp (g.clusterTokenAt i) n := by
    rintro i _ rfl
    have hget := h.get (hidx i) (place i).isLt
    rwa [List.get_eq_getElem, List.getElem_idxOf] at hget
  refine ⟨place, { onto := ?onto, together := ?together, alone := ?alone, shared := ?shared,
                   order := ?order }⟩
  case onto =>
    intro p
    have hp : p.val < tokens.length := hlength.symm ▸ p.isLt
    obtain ⟨n, hn, htoken⟩ := (mem_nestedTokens _ _ _ _).mp (List.getElem_mem hp)
    obtain ⟨i, hi, rfl⟩ := List.mem_iff_getElem.mp hn
    refine ⟨⟨i, hi⟩, Fin.ext ?_⟩
    change tokens.idxOf (g.members[i].clusterToken) = p.val
    rw [show g.members[i].clusterToken = tokens[p.val] from htoken]
    exact (nodup_nestedTokens _ _ _).idxOf_getElem p.val hp
  case together =>
    intro i j
    rw [Fin.ext_iff]
    exact List.idxOf_inj (hmem i)
  case alone =>
    intro i hone
    have hin := g.getElem_mem_withClusterToken i
    generalize hn : r.members[place i] = n
    cases hstands i n hn with
    | alone honly =>
      rw [honly] at hin
      exact (List.mem_singleton.mp hin).symm
    | shared htwo => omega
  case shared =>
    intro i htwo
    generalize hn : r.members[place i] = n
    cases hstands i n hn with
    | alone honly =>
      rw [honly, List.length_singleton] at htwo
      omega
    | @shared head _ hstamp hsection => exact ⟨head, rfl, hstamp, hsection⟩
  case order =>
    intro i j
    exact idxOf_lt_idxOf_iff (pairwise_nestedTokens _ _ _) (fun _ _ => SeenBefore.asymm) (hmem i)
      (hmem j)

end Group

/-- Clustering keeps the leaves and gives each member its place: with all other members of its
section that share its cluster key in a new group, if there are any, and else by itself. The places
are in the order in which the sections and in each of them the keys are first seen. -/
theorem clustered_placement (g : Group) (stamp : Stamp) :
    (g.clustered stamp).value.leaves.Perm g.leaves ∧
      ∃ place, g.Placement (g.clustered stamp).value stamp place := by
  constructor
  · rw [Group.leaves_eq_flatMap, Group.leaves_eq_flatMap]
    exact g.flatMap_leaves_clusterNodes_perm stamp
  · exact Group.exists_placement (g.forall₂_clusterNodes stamp)

end Footprint
