import Mathlib.Data.List.Flatten
import Footprint.Proofs.Group.Nesting

/-!
# New groups

An operation that makes nested groups puts its stamp on them. Each operation has a stamp of its own, so
that no member that it starts from has the stamp (`Group.Fresh`), and the stamp parts the direct members
of the result into the new groups (`Group.made`) and the other nodes (`Group.others`).

Grouping by a token makes one group for each token that enough nodes share (`Group.forall₂_newGroups`),
and keeps or leaves out the nodes of the other tokens, token by token (`Group.newGroups_append_perm`).
-/

namespace Footprint

/-- The direct members of a nested group. -/
def Node.members : Node → List Node
  | leaf _ => []
  | group _ members => members

/-- Whether a node is a nested group that was made by the operation with a stamp. -/
def Node.madeBy (stamp : Stamp) : Node → Bool
  | leaf _ => false
  | group h _ => h.id.stamp == stamp

/-- The elements whose token is shared by a number of elements that passes a test. -/
def sharedBy {α : Type} (q : Nat → Bool) (token : α → Option String) (xs : List α) : List α :=
  xs.filter fun x => (token x).any fun t => q (withToken token xs t).length

/-- The elements whose tokens are shared by such a number are gathered as they are among all. -/
theorem flatMap_gather_sharedBy {α : Type} (q : Nat → Bool) (token : α → Option String)
    (xs : List α) :
    (gather token (sharedBy q token xs)).flatMap Prod.snd =
      (gather token xs).flatMap fun p => if q p.2.length then p.2 else [] := by
  unfold sharedBy
  rw [gather_filter token xs fun t => q (withToken token xs t).length, flatMap_filter]
  refine List.flatMap_congr fun p hp => ?_
  obtain ⟨t, -, rfl⟩ := List.mem_map.mp hp
  rfl

/-- The gathered elements of such tokens are the elements that have such a token. -/
theorem flatMap_gather_sharedBy_perm {α : Type} (q : Nat → Bool) (token : α → Option String)
    (xs : List α) :
    ((gather token (sharedBy q token xs)).flatMap Prod.snd).Perm (sharedBy q token xs) := by
  refine flatMap_gather_perm_of_isSome token _ fun x hx => ?_
  have hq := (List.mem_filter.mp hx).2
  cases ht : token x with
  | none => simp [ht] at hq
  | some t => rfl

namespace Group

/-- No member of a group was made by the operation with a stamp. -/
def Fresh (g : Group) (stamp : Stamp) : Prop := ∀ n ∈ g.members, n.madeBy stamp = false

instance (g : Group) (stamp : Stamp) : Decidable (g.Fresh stamp) :=
  inferInstanceAs (Decidable (∀ n ∈ g.members, n.madeBy stamp = false))

/-- The direct members that were made by the operation with a stamp. -/
def made (r : Group) (stamp : Stamp) : List Node := r.members.filter (·.madeBy stamp)

/-- The direct members that were not made by the operation with a stamp. -/
def others (r : Group) (stamp : Stamp) : List Node := r.members.filter (!·.madeBy stamp)

/-- The new groups of a grouping: one for each token that at least `least` of the nodes share. -/
def newGroups (g : Group) (id : Nat → GroupId) (token : Node → Option String) (least : Nat)
    (label : String → List Node → Label) (nodes : List Node) : List Node :=
  (gather token nodes).zipIdx.flatMap fun (p, place) =>
    if least ≤ p.2.length then [g.nest (id place) (label p.1 p.2) p.2] else []

/-- The nodes of the tokens that fewer than `least` of the nodes share, token by token. -/
def rareNodes (token : Node → Option String) (least : Nat) (nodes : List Node) : List Node :=
  (gather token (sharedBy (· < least) token nodes)).flatMap Prod.snd

/-- The nodes of the rare tokens are those that have one. -/
theorem rareNodes_perm (token : Node → Option String) (least : Nat) (nodes : List Node) :
    (rareNodes token least nodes).Perm (sharedBy (· < least) token nodes) :=
  flatMap_gather_sharedBy_perm _ token nodes

/-- The lists of the rare tokens are what a grouping does not nest. -/
theorem rareNodes_eq (token : Node → Option String) (least : Nat) (nodes : List Node) :
    rareNodes token least nodes =
      (gather token nodes).flatMap fun p => if least ≤ p.2.length then [] else p.2 := by
  rw [rareNodes, flatMap_gather_sharedBy]
  refine List.flatMap_congr fun p _ => ?_
  by_cases hleast : least ≤ p.2.length
  · simp [hleast]
  · simp [hleast, Nat.lt_of_not_le hleast]

/-- What a grouping keeps, if it does, stands in the places of the rare tokens. -/
theorem ite_rareNodes (token : Node → Option String) (least : Nat) (keepSmall : Bool)
    (nodes : List Node) : (if keepSmall then rareNodes token least nodes else []) =
      (gather token nodes).flatMap fun p =>
        if least ≤ p.2.length then [] else if keepSmall then p.2 else [] := by
  cases keepSmall with
  | true => simp [rareNodes_eq]
  | false => simp

/-- The nodes that a grouping leaves out are those without a token and, unless they are kept, those
of the rare tokens. -/
theorem leftOver_eq (token : Node → Option String) (least : Nat) (keepSmall : Bool)
    (nodes : List Node) : leftOver token least keepSmall nodes =
      nodes.filter (fun n => (token n).isNone) ++
        if keepSmall then [] else rareNodes token least nodes := by
  rw [rareNodes_eq]
  rfl

section NewGroups

variable (g : Group) (id : Nat → GroupId) (token : Node → Option String) (least : Nat)
  (keepSmall : Bool) (label : String → List Node → Label) (nodes : List Node)

/-- The grouped nodes are the new groups and, if they are kept, the nodes of the rare tokens. -/
theorem newGroups_append_perm :
    (g.newGroups id token least label nodes ++
      if keepSmall then rareNodes token least nodes else []).Perm
        (g.nestByToken id token least keepSmall label nodes) := by
  rw [ite_rareNodes, ← flatMap_zipIdx (gather token nodes) (fun q =>
    if least ≤ q.1.2.length then [] else if keepSmall then q.1.2 else []) _ fun _ => rfl]
  refine (List.flatMap_append_perm _ _ _).trans (.of_eq (List.flatMap_congr fun q _ => ?_))
  obtain ⟨⟨t, members⟩, place⟩ := q
  by_cases hleast : least ≤ members.length
  · simp [hleast]
  · simp [hleast]

/-- The new groups are in their order among the grouped nodes. -/
theorem newGroups_sublist : (g.newGroups id token least label nodes).Sublist
    (g.nestByToken id token least keepSmall label nodes) := by
  refine List.Sublist.flatMap_right _ fun ⟨⟨t, members⟩, place⟩ _ => ?_
  by_cases hleast : least ≤ members.length
  · simp [hleast]
  · simp [hleast]

/-- There is one new group for each token that enough nodes share, with these nodes. -/
theorem forall₂_newGroups :
    List.Forall₂ (fun t n => ∃ place, n =
        g.nest (id place) (label t (withToken token nodes t)) (withToken token nodes t))
      ((tokensOf token nodes).filter fun t => least ≤ (withToken token nodes t).length)
      (g.newGroups id token least label nodes) := by
  have htokens : ((tokensOf token nodes).filter fun t => least ≤ (withToken token nodes t).length) =
      (gather token nodes).flatMap fun p => if least ≤ p.2.length then [p.1] else [] := by
    rw [gather, List.flatMap_map, ← List.flatMap_singleton' (List.filter _ _), flatMap_filter]
    simp only [decide_eq_true_eq]
  rw [htokens]
  refine forall₂_flatMap_zipIdx fun p hp place => ?_
  obtain ⟨t, -, rfl⟩ := List.mem_map.mp hp
  dsimp only
  split
  · exact .cons ⟨place, rfl⟩ .nil
  · exact .nil

/-- The new groups are not the same when their identities are not. -/
theorem nodup_id_newGroups (hid : Function.Injective id) :
    ((g.newGroups id token least label nodes).map Node.id).Nodup := by
  have hplaces : ((gather token nodes).zipIdx.map fun q => NodeId.group (id q.2)) =
      (List.range' 0 (gather token nodes).length).map fun place => NodeId.group (id place) := by
    rw [← List.zipIdx_map_snd, List.map_map]
    rfl
  have hall : ((gather token nodes).zipIdx.map fun q => NodeId.group (id q.2)).Nodup := by
    rw [hplaces]
    exact List.Nodup.map (fun _ _ heq => hid (NodeId.group.inj heq)) List.nodup_range'
  refine hall.sublist ?_
  rw [newGroups, List.map_flatMap, List.map_eq_flatMap]
  refine List.Sublist.flatMap_right _ fun ⟨⟨t, members⟩, place⟩ _ => ?_
  by_cases hleast : least ≤ members.length
  · simp [hleast, nest, Node.id]
  · simp [hleast]

/-- The nodes that are not new are those of the rare tokens, if they are kept. -/
theorem filter_not_madeBy_nestByToken {stamp : Stamp} (hid : ∀ place, (id place).stamp = stamp)
    (hfresh : ∀ n ∈ nodes, n.madeBy stamp = false) :
    (g.nestByToken id token least keepSmall label nodes).filter (!·.madeBy stamp) =
      if keepSmall then rareNodes token least nodes else [] := by
  rw [ite_rareNodes, nestByToken, List.filter_flatMap,
    ← flatMap_zipIdx (gather token nodes) (fun q =>
      if least ≤ q.1.2.length then [] else if keepSmall then q.1.2 else []) _ fun _ => rfl]
  refine List.flatMap_congr fun q hq => ?_
  have hsub : q.1.2 ⊆ nodes := subset_of_mem_gather token nodes (List.fst_mem_of_mem_zipIdx hq)
  obtain ⟨⟨t, members⟩, place⟩ := q
  dsimp only at hsub ⊢
  split_ifs
  · simp [nest, Node.madeBy, hid]
  · exact List.filter_eq_self.mpr fun n hn => by simp [hfresh n (hsub hn)]
  · rfl

end NewGroups

end Group

end Footprint
