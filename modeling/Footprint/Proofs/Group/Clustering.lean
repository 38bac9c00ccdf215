import Footprint.Group.Cluster
import Footprint.Proofs.Group.Gathering
import Footprint.Proofs.Group.Totals

/-!
# The shape of a clustered list

Clustering goes through the sections of a list and in each through the cluster keys. So there is one
bucket of symbols for each pair of a section and a key (`clusterTokens`), the buckets are a
partition of the symbols (`flatMap_bucket_perm`), and a bucket of two or more symbols becomes a
nested group in its section (`map_facts_clusterNodes`).
-/

namespace Footprint

/-- The images of a list that is made of numbered elements without regard to their numbers. -/
theorem map_flatMap_zipIdx {α β γ : Type} (xs : List α) (F : α × Nat → List β) (f : β → γ)
    (G : α → List γ) (h : ∀ p, (F p).map f = G p.1) :
    (xs.zipIdx.flatMap F).map f = xs.flatMap G := by
  rw [List.map_flatMap]
  exact flatMap_zipIdx xs _ G h

/-- The facts of the nodes that share a token, after they are nested when there are enough of
them. -/
def nestedFacts (least : Nat) (keepSmall : Bool) (label : List Node → Label) (ns : List Node) :
    List Facts :=
  if least ≤ ns.length then [.ofMembers (label ns) (ns.map Node.facts)]
  else if keepSmall then ns.map Node.facts
  else []

/-- The facts of nodes that are nested by a token. -/
theorem Group.map_facts_nestByToken (g : Group) (id : Nat → GroupId) (token : Node → Option String)
    (least : Nat) (keepSmall : Bool) (label : String → List Node → Label) (nodes : List Node) :
    (g.nestByToken id token least keepSmall label nodes).map Node.facts =
      (tokensOf token nodes).flatMap fun t =>
        nestedFacts least keepSmall (label t) (withToken token nodes t) := by
  unfold nestByToken
  rw [map_flatMap_zipIdx (G := fun q => nestedFacts least keepSmall (label q.1) q.2), gather,
    List.flatMap_map]
  rintro ⟨⟨t, members⟩, place⟩
  unfold nestedFacts
  by_cases hleast : least ≤ members.length
  · simp only [if_pos hleast, List.map_singleton, nest, Node.facts_group]
  · cases keepSmall with
    | false => simp [hleast]
    | true => simp [hleast]

/-- The section and the cluster key of a symbol. -/
def Symbol.clusterToken (s : Symbol) : String × String :=
  (s.sectionName, clusterKey (.leaf s))

/-- The sections with the cluster keys in them, in the order in which they are first seen. -/
def clusterTokens (xs : List Symbol) : List (String × String) :=
  (tokensOf (fun s : Symbol => some s.sectionName) xs).flatMap fun sectionName =>
    (tokensOf (fun s => some (clusterKey (.leaf s)))
      (withToken (fun s : Symbol => some s.sectionName) xs sectionName)).map fun key =>
        (sectionName, key)

/-- The symbols of a section that share a cluster key. -/
def bucket (xs : List Symbol) (token : String × String) : List Symbol :=
  xs.filter (·.clusterToken == token)

/-- The facts of the nodes that a bucket becomes. -/
def bucketFacts (xs : List Symbol) (token : String × String) : List Facts :=
  nestedFacts 2 true (clusterLabel token.2) ((bucket xs token).map Node.leaf)

/-- The nodes of a clustered list are those of its buckets. -/
theorem Group.map_facts_clusterNodes {g : Group} {xs : List Symbol}
    (h : g.members = xs.map Node.leaf) (stamp : Stamp) :
    (g.clusterNodes stamp).map Node.facts = (clusterTokens xs).flatMap (bucketFacts xs) := by
  unfold clusterNodes
  rw [map_flatMap_zipIdx (G := fun q => (tokensOf (fun n => some (clusterKey n)) q.2).flatMap
    fun key => nestedFacts 2 true (clusterLabel key)
      (withToken (fun n => some (clusterKey n)) q.2 key))]
  -- The tokens of leaves are those of their symbols, in each of the two loops.
  · rw [h, gather, List.flatMap_map, clusterTokens, List.flatMap_assoc, tokensOf_map]
    refine List.flatMap_congr fun sectionName _ => ?_
    rw [List.flatMap_map, withToken_map, tokensOf_map]
    refine List.flatMap_congr fun key _ => ?_
    have hbucket : withToken (fun s => some (clusterKey (.leaf s)))
        (withToken (fun s : Symbol => some s.sectionName) xs sectionName) key =
          bucket xs (sectionName, key) := withToken_withToken ..
    rw [withToken_map, bucketFacts, ← hbucket]
    rfl
  · rintro ⟨⟨sectionName, members⟩, place⟩
    exact g.map_facts_nestByToken _ _ 2 true _ members

/-- No bucket is made twice. -/
theorem nodup_clusterTokens (xs : List Symbol) : (clusterTokens xs).Nodup :=
  nodup_nestedTokens _ _ xs

/-- There is a bucket for the token of each symbol and for no other. -/
theorem mem_clusterTokens (xs : List Symbol) (token : String × String) :
    token ∈ clusterTokens xs ↔ ∃ s ∈ xs, s.clusterToken = token :=
  mem_nestedTokens _ _ xs token

/-- A symbol is in the bucket of its token only. -/
theorem mem_bucket {xs : List Symbol} {token : String × String} {s : Symbol} :
    s ∈ bucket xs token ↔ s ∈ xs ∧ s.clusterToken = token := by
  simp [bucket]

/-- The buckets are a partition of the symbols. -/
theorem flatMap_bucket_perm (xs : List Symbol) :
    ((clusterTokens xs).flatMap (bucket xs)).Perm xs :=
  flatMap_filter_perm Symbol.clusterToken (clusterTokens xs) xs (nodup_clusterTokens xs)
    fun s hs => (mem_clusterTokens xs _).mpr ⟨s, hs, rfl⟩

/-- The nested group of a bucket is in the section of the bucket. -/
theorem sectionName_clusterLabel {xs : List Symbol} {token : String × String}
    (h : token ∈ clusterTokens xs) :
    (clusterLabel token.2 ((bucket xs token).map Node.leaf)).sectionName = token.1 := by
  obtain ⟨s, hs, htoken⟩ := (mem_clusterTokens xs token).mp h
  have hmem : s ∈ bucket xs token := mem_bucket.mpr ⟨hs, htoken⟩
  refine sectionName_clusterLabel_of_forall
    (List.ne_nil_of_mem (List.mem_map_of_mem (f := Node.leaf) hmem)) fun n hn => ?_
  obtain ⟨x, hx, rfl⟩ := List.mem_map.mp hn
  exact congrArg Prod.fst (mem_bucket.mp hx).2

end Footprint
