import Footprint.Proofs.Group.Created

/-!
# Where grouping by a token puts each member

A grouping by a token sends each member to one of three places (`Group.destination`): into the new group
of its token, to the direct members or to the nodes left out. It makes one new group for each token that
enough members share, in the order in which these tokens are first seen, and at each place there are just
the members that belong there, each as often as before (`groupedByWith_destinations`).
-/

namespace Footprint

/-- The places where a grouping can put a member. -/
inductive Destination where
  /-- In a new group. -/
  | nested
  /-- Among the direct members, as it is. -/
  | direct
  /-- Among the nodes left out. -/
  | filteredOut
deriving Repr, DecidableEq

namespace Group

section Destination

variable (g : Group) (token : Node → Option String) (minCount : Int)

/-- Where a member belongs. A token that at least `|minCount|` members share leads to a new group; a
member with a rarer token stays, unless `minCount` is negative; and without a token it is left out. -/
def destination (n : Node) : Destination :=
  match token n with
  | none => .filteredOut
  | some t =>
    if minCount.natAbs ≤ (withToken token g.members t).length then .nested
    else if 0 ≤ minCount then .direct
    else .filteredOut

/-- The members that belong to a place, in their order. -/
def boundFor (place : Destination) : List Node :=
  g.members.filter (g.destination token minCount · == place)

/-- The members belong to the three places. -/
theorem boundFor_append_perm : (g.boundFor token minCount .nested ++ g.boundFor token minCount .direct ++
    g.boundFor token minCount .filteredOut).Perm g.members := by
  have hperm := flatMap_filter_perm (g.destination token minCount)
    [.nested, .direct, .filteredOut] g.members (by decide) fun n _ => by
      cases g.destination token minCount n <;> decide
  simpa [boundFor] using hperm

/-- A member is bound for a new group when enough members share its token. -/
theorem destination_eq_nested_iff {n : Node} : g.destination token minCount n = .nested ↔
    ∃ t, token n = some t ∧ minCount.natAbs ≤ (withToken token g.members t).length := by
  unfold destination
  cases token n with
  | none => simp
  | some t => by_cases hleast : minCount.natAbs ≤ (withToken token g.members t).length <;>
      by_cases hmin : 0 ≤ minCount <;> simp [hleast, hmin]

/-- A member stays direct when its token is rare and `minCount` is not negative. -/
theorem destination_eq_direct_iff {n : Node} : g.destination token minCount n = .direct ↔
    0 ≤ minCount ∧ ∃ t, token n = some t ∧
      (withToken token g.members t).length < minCount.natAbs := by
  unfold destination
  cases token n with
  | none => simp
  | some t => by_cases hleast : minCount.natAbs ≤ (withToken token g.members t).length <;>
      by_cases hmin : 0 ≤ minCount <;> simp [hleast, hmin, Nat.lt_of_not_le]

/-- A member is left out when it has no token, or when its token is rare and `minCount` is
negative. -/
theorem destination_eq_filteredOut_iff {n : Node} :
    g.destination token minCount n = .filteredOut ↔ token n = none ∨ minCount < 0 ∧
      ∃ t, token n = some t ∧ (withToken token g.members t).length < minCount.natAbs := by
  unfold destination
  cases token n with
  | none => simp
  | some t => by_cases hleast : minCount.natAbs ≤ (withToken token g.members t).length <;>
      by_cases hmin : 0 ≤ minCount <;>
      simp [hleast, hmin, Nat.lt_of_not_le, Int.lt_of_not_ge]

/-- The members bound for a new group are those whose token enough members share. -/
theorem boundFor_nested :
    g.boundFor token minCount .nested = sharedBy (minCount.natAbs ≤ ·) token g.members := by
  refine List.filter_congr fun n _ => ?_
  rw [Bool.eq_iff_iff, beq_iff_eq, destination_eq_nested_iff]
  simp [Option.any_eq_true]

/-- The members that stay direct are those of the rare tokens, if they are kept. -/
theorem boundFor_direct : g.boundFor token minCount .direct =
    if 0 ≤ minCount then sharedBy (· < minCount.natAbs) token g.members else [] := by
  unfold boundFor sharedBy
  split_ifs with hmin
  · refine List.filter_congr fun n _ => ?_
    rw [Bool.eq_iff_iff, beq_iff_eq, destination_eq_direct_iff]
    simp [Option.any_eq_true, hmin]
  · refine List.filter_eq_nil_iff.mpr fun n _ => ?_
    rw [beq_iff_eq, destination_eq_direct_iff]
    simp [hmin]

/-- The members that are left out are those without a token and, unless they are kept, those of the
rare tokens. -/
theorem boundFor_filteredOut_perm : (g.members.filter (fun n => (token n).isNone) ++
    if 0 ≤ minCount then [] else sharedBy (· < minCount.natAbs) token g.members).Perm
      (g.boundFor token minCount .filteredOut) := by
  refine .trans (.of_eq ?_) (List.filter_append_perm (fun n => (token n).isNone) _)
  unfold boundFor sharedBy
  congr 1
  · refine (filter_filter_of_imp fun n _ hnone => ?_).symm
    rw [beq_iff_eq, destination_eq_filteredOut_iff]
    exact .inl (Option.isNone_iff_eq_none.mp hnone)
  · rw [List.filter_filter]
    split_ifs with hmin
    · refine (List.filter_eq_nil_iff.mpr fun n _ => ?_).symm
      rw [Bool.and_eq_true, beq_iff_eq, destination_eq_filteredOut_iff]
      simp [hmin, Option.isSome_iff_ne_none]
    · refine List.filter_congr fun n _ => ?_
      rw [Bool.eq_iff_iff, Bool.and_eq_true, beq_iff_eq, destination_eq_filteredOut_iff]
      cases token n with
      | none => simp
      | some t => simp [Int.lt_of_not_ge hmin]

end Destination

/-- How a grouping by a token distributes the members of a group `g` over its result `r`: there is a
list of tokens, one new group for each of them, and the members that stay direct. -/
structure Distributes (g r : Group) (stamp : Stamp) (token : Node → Option String) (minCount : Int)
    (label : String → List Node → Label) (tokens : List String) (made kept : List Node) : Prop where
  /-- The tokens are those that at least `|minCount|` members share. -/
  shared : ∀ t, t ∈ tokens ↔ (∃ n ∈ g.members, token n = some t) ∧
    minCount.natAbs ≤ (withToken token g.members t).length
  /-- The tokens are in the order in which they are first seen. -/
  order : tokens.Pairwise fun t u =>
    g.members.findIdx (token · == some t) < g.members.findIdx (token · == some u)
  /-- The new group of a token has all members with the token in their order. -/
  groups : List.Forall₂ (fun t n => ∃ head : Head, n = .group head (withToken token g.members t) ∧
    head.id.stamp = stamp ∧ head.label = label t (withToken token g.members t)) tokens made
  /-- No two of the new groups are the same. -/
  distinct : (made.map Node.id).Nodup
  /-- The new groups are direct members of the result, in the order of their tokens. -/
  made_sublist : made.Sublist r.members
  /-- The other direct members are those that stay. -/
  members : (made ++ kept).Perm r.members
  /-- In the new groups are the members that belong there. -/
  nested : (made.flatMap Node.members).Perm (g.boundFor token minCount .nested)
  /-- The members that stay are those that belong there. -/
  direct : kept.Perm (g.boundFor token minCount .direct)
  /-- The nodes left out are the members that belong there. -/
  filteredOut : r.filteredOut.Perm (g.boundFor token minCount .filteredOut)
  /-- Together these are the members of the group, each as often as in the group. -/
  all : (made.flatMap Node.members ++ kept ++ r.filteredOut).Perm g.members

/-- The members of the new groups are those whose token enough members share. -/
theorem flatMap_members_newGroups (g : Group) (id : Nat → GroupId) (token : Node → Option String)
    (least : Nat) (label : String → List Node → Label) (nodes : List Node) :
    (g.newGroups id token least label nodes).flatMap Node.members =
      (gather token (sharedBy (least ≤ ·) token nodes)).flatMap Prod.snd := by
  rw [flatMap_gather_sharedBy, newGroups, List.flatMap_assoc]
  refine flatMap_zipIdx _ _ _ fun q => ?_
  obtain ⟨⟨t, members⟩, place⟩ := q
  by_cases hleast : least ≤ members.length
  · simp [hleast, nest, Node.members]
  · simp [hleast]

/-- In the new groups are the members that are bound for one. -/
theorem flatMap_members_newGroups_perm (g : Group) (id : Nat → GroupId) (token : Node → Option String)
    (minCount : Int) (label : String → List Node → Label) :
    ((g.newGroups id token minCount.natAbs label g.members).flatMap Node.members).Perm
      (g.boundFor token minCount .nested) := by
  rw [boundFor_nested, flatMap_members_newGroups]
  exact flatMap_gather_sharedBy_perm _ token g.members

/-- The members that a grouping keeps direct are those that are bound to stay. -/
theorem kept_perm (g : Group) (token : Node → Option String) (minCount : Int) :
    (if decide (0 ≤ minCount) then rareNodes token minCount.natAbs g.members else []).Perm
      (g.boundFor token minCount .direct) := by
  rw [boundFor_direct]
  by_cases hmin : 0 ≤ minCount
  · simpa [hmin] using rareNodes_perm token minCount.natAbs g.members
  · simp [hmin]

/-- The members that a grouping leaves out are those that are bound to be left out. -/
theorem leftOver_perm (g : Group) (token : Node → Option String) (minCount : Int) :
    (leftOver token minCount.natAbs (decide (0 ≤ minCount)) g.members).Perm
      (g.boundFor token minCount .filteredOut) := by
  refine .trans ?_ (g.boundFor_filteredOut_perm token minCount)
  rw [leftOver_eq]
  refine .append_left _ ?_
  by_cases hmin : 0 ≤ minCount
  · simp [hmin]
  · simpa [hmin] using rareNodes_perm token minCount.natAbs g.members

end Group

/-- Grouping by a token puts each member in one of three places, and neither loses nor repeats any. A new
group is made for just those tokens that at least `|minCount|` members share, with all members that have
the token in their order; the groups are in the order in which their tokens are first seen. A member
with a rarer token stays a direct member when `minCount` is not negative. Otherwise it is left out, as is
a member without a token. -/
theorem groupedByWith_destinations (g : Group) (stamp : Stamp) (token : Node → Option String)
    (minCount : Int) (label : String → List Node → Label) :
    ∃ tokens made kept, g.Distributes (g.groupedByWith stamp token minCount label) stamp token
      minCount label tokens made kept := by
  let id (place : Nat) : GroupId := ⟨stamp, [place]⟩
  let tokens := (tokensOf token g.members).filter fun t =>
    minCount.natAbs ≤ (withToken token g.members t).length
  let made := g.newGroups id token minCount.natAbs label g.members
  let kept :=
    if decide (0 ≤ minCount) then Group.rareNodes token minCount.natAbs g.members else []
  have hnested := g.flatMap_members_newGroups_perm id token minCount label
  have hdirect := g.kept_perm token minCount
  have hout := g.leftOver_perm token minCount
  exact ⟨tokens, made, kept, {
    shared := fun t => by rw [List.mem_filter, mem_tokensOf, decide_eq_true_eq]
    order := (pairwise_tokensOf token g.members).filter _
    groups := (g.forall₂_newGroups id token minCount.natAbs label g.members).imp
      fun t n ⟨place, hn⟩ => ⟨_, hn, rfl, rfl⟩
    distinct := g.nodup_id_newGroups id token _ label g.members fun _ _ heq => by
      simpa [id] using heq
    made_sublist := g.newGroups_sublist id token _ _ label g.members
    members := g.newGroups_append_perm id token _ _ label g.members
    nested := hnested
    direct := hdirect
    filteredOut := hout
    all := ((hnested.append hdirect).append hout).trans (g.boundFor_append_perm token minCount) }⟩

end Footprint
