import Footprint.Proofs.Group.Clustering
import Footprint.Proofs.Group.Counting
import Footprint.Snapshot.Basic

/-!
# Totals of a grouped list

Grouping by a token counts twice, in the nested groups and then over them. When the token does not
divide an alias group, all its members that count are found at one place, in a nested group or
directly in the list, and the first of them is the first in the plain list. So the totals stay the
same (`groupedBy_totals`), whichever members of an alias group would count.
-/

namespace Footprint

/-- Facts with an alias group among those of nodes that share a token are those of one of the
nodes. -/
theorem exists_of_mem_nestedFacts {least : Nat} {keepSmall : Bool} {label : List Node → Label}
    {ns : List Node} {f : Facts} (h : f ∈ nestedFacts least keepSmall label ns)
    (halias : f.aliasGroup.isSome) : ∃ n ∈ ns, n.facts = f := by
  unfold nestedFacts at h
  split_ifs at h
  · -- A nested group has no alias group.
    rw [List.mem_singleton.mp h] at halias
    cases halias
  · exact List.mem_map.mp h
  · cases h

/-- The facts of a grouped list that keeps the members of the rare tokens. -/
theorem Group.map_facts_groupedByWith (g : Group) (stamp : Stamp) (token : Node → Option String)
    {minCount : Int} (label : String → List Node → Label) (hcount : 0 ≤ minCount) :
    (g.groupedByWith stamp token minCount label).members.map Node.facts =
      (tokensOf token g.members).flatMap fun t =>
        nestedFacts minCount.natAbs true (label t) (withToken token g.members t) := by
  have hnest : (g.groupedByWith stamp token minCount label).members =
      g.nestByToken (fun place => ⟨stamp, [place]⟩) token minCount.natAbs (decide (0 ≤ minCount))
        label g.members := rfl
  rw [hnest, decide_eq_true hcount, map_facts_nestByToken]

section Tokens

variable {token : Node → Option String} {nodes : List Node}

/-- A token that does not divide an alias group has each of them in one place. -/
theorem pairwise_aliasDisjoint (h : AgreeOnAliases Node.aliasGroup token nodes) (all : Bool)
    (least : Nat) (keepSmall : Bool) (label : String → List Node → Label) :
    (tokensOf token nodes).Pairwise fun t u => AliasDisjoint (Facts.countedAs all)
      (nestedFacts least keepSmall (label t) (withToken token nodes t))
      (nestedFacts least keepSmall (label u) (withToken token nodes u)) := by
  refine (nodup_tokensOf token nodes).imp fun {t u} hne f hf f' hf' hsome heq => hne ?_
  obtain ⟨a, ha⟩ := Option.isSome_iff_exists.mp hsome
  have hfa := Facts.aliasGroup_of_countedAs ha
  have hfa' := Facts.aliasGroup_of_countedAs (heq.symm.trans ha)
  obtain ⟨n, hn, rfl⟩ := exists_of_mem_nestedFacts hf (by simp [hfa])
  obtain ⟨n', hn', rfl⟩ := exists_of_mem_nestedFacts hf' (by simp [hfa'])
  obtain ⟨hn, hnt⟩ := (mem_withToken token nodes).mp hn
  obtain ⟨hn', hnu⟩ := (mem_withToken token nodes).mp hn'
  rw [Node.aliasGroup_facts] at hfa hfa'
  have hsame : token n = token n' := h n hn n' hn' (by simp [hfa]) (hfa.trans hfa'.symm)
  exact Option.some.inj (hnt.symm.trans (hsame.trans hnu))

/-- Some of the nodes are found under the tokens of all nodes. -/
theorem sum_filter_tokensOf {ns : List Node} (hsub : ns ⊆ nodes)
    (hsome : ∀ n ∈ nodes, (token n).isSome) (value : Node → Int) :
    ((tokensOf token nodes).map fun t =>
      ((ns.filter fun n => token n == some t).map value).sum).sum = (ns.map value).sum := by
  have hperm := flatMap_filter_perm token ((tokensOf token nodes).map some) ns
    ((nodup_tokensOf token nodes).map (Option.some_injective _)) fun n hn => by
      obtain ⟨t, ht⟩ := Option.isSome_iff_exists.mp (hsome n (hsub hn))
      exact List.mem_map.mpr ⟨t, (mem_tokensOf token nodes).mpr ⟨n, hsub hn, ht⟩, ht.symm⟩
  rw [← (hperm.map value).sum_eq, List.flatMap_map, sum_map_flatMap]

end Tokens

namespace Total

variable (T : Total)

/-- Nodes that share a token count as much as the nested group that they may become. -/
theorem sum_nestedFacts {all : Bool} (least : Nat) {label : List Node → Label} {ns : List Node}
    (hlabel : T.countsAll (label ns).sectionName = all) :
    T.sum all (nestedFacts least true label ns) = T.sum all (ns.map Node.facts) := by
  unfold nestedFacts
  split
  · have hone : onePerAlias (Facts.countedAs all) [.ofMembers (label ns) (ns.map Node.facts)] =
        [.ofMembers (label ns) (ns.map Node.facts)] :=
      onePerAlias_of_forall_none fun f hf => by
        rw [List.mem_singleton.mp hf]
        cases all <;> rfl
    rw [sum, hone, List.map_singleton, List.sum_singleton, T.of_ofMembers, hlabel]
    rfl
  · rw [if_pos rfl]

/-- The nodes that count among those with a token are those with the token among all that count. -/
theorem sum_withToken (all : Bool) {token : Node → Option String} {nodes : List Node}
    (h : AgreeOnAliases Node.aliasGroup token nodes) (t : String) :
    T.sum all ((withToken token nodes t).map Node.facts) =
      (((onePerAlias (Node.countedAs all) nodes).filter fun n => token n == some t).map
        fun n => T.of n.facts).sum := by
  have hagree : AgreeOnAliases (Node.countedAs all) (fun n => token n == some t) nodes := by
    have hcounted : AgreeOnAliases (Node.countedAs all) token nodes :=
      agreeOnAliases_countedAs_iff.mpr (.inr h)
    exact fun m hm n hn hsome heq => congrArg (· == some t) (hcounted m hm n hn hsome heq)
  rw [sum_nodes, withToken, onePerAlias_filter hagree]

/-- Grouping by a token that does not divide an alias group keeps the value when each member has a
token and the members of the rare ones are kept. -/
theorem ofGroup_groupedByWith {g : Group} (stamp : Stamp) {token : Node → Option String}
    {minCount : Int} {label : String → List Node → Label} (hcount : 0 ≤ minCount)
    (hsection : ∀ t ns, (label t ns).sectionName = g.label.sectionName)
    (hsome : ∀ n ∈ g.members, (token n).isSome)
    (halias : AgreeOnAliases Node.aliasGroup token g.members) :
    T.ofGroup (g.groupedByWith stamp token minCount label) = T.ofGroup g := by
  let tokens := tokensOf token g.members
  let part := fun t => nestedFacts minCount.natAbs true (label t) (withToken token g.members t)
  -- All groups on the way have the section of `g`, so that one rule decides who counts.
  let all := T.countsAll g.label.sectionName
  let counting := onePerAlias (Node.countedAs all) g.members
  have hpart : ∀ t, T.sum all (part t) =
      ((counting.filter fun n => token n == some t).map fun n => T.of n.facts).sum := by
    intro t
    have hlabel : T.countsAll (label t (withToken token g.members t)).sectionName = all :=
      congrArg T.countsAll (hsection t _)
    rw [T.sum_nestedFacts _ hlabel, T.sum_withToken all halias]
  calc T.ofGroup (g.groupedByWith stamp token minCount label)
      = T.sum all (tokens.flatMap part) := by
        rw [ofGroup, Group.facts, g.map_facts_groupedByWith stamp token label hcount]
        exact T.of_ofMembers _ _
    _ = (tokens.map fun t => T.sum all (part t)).sum := by
        rw [sum, onePerAlias_flatMap (pairwise_aliasDisjoint halias all _ true label),
          sum_map_flatMap]
        rfl
    _ = (counting.map fun n => T.of n.facts).sum := by
        simp only [hpart]
        exact sum_filter_tokensOf (fun n hn => mem_of_mem_onePerAlias hn) hsome _
    _ = T.ofGroup g := (T.ofGroup_eq g).symm

end Total

/-- Grouping keeps the size and the padding when each member has a token, no alias group is divided
and nothing is filtered out. -/
theorem groupedBy_totals {g : Group} (stamp : Stamp) {token : Node → Option String} {minCount : Int}
    (hsome : ∀ n ∈ g.members, (token n).isSome)
    (halias : AgreeOnAliases Node.aliasGroup token g.members) (hcount : 0 ≤ minCount) :
    (g.groupedBy stamp token minCount).totalSize = g.totalSize ∧
      (g.groupedBy stamp token minCount).totalPadding = g.totalPadding :=
  ⟨Total.size.ofGroup_groupedByWith stamp hcount (fun _ _ => rfl) hsome halias,
    Total.padding.ofGroup_groupedByWith stamp hcount (fun _ _ => rfl) hsome halias⟩

/-- Two aliases of different sizes, between the parts of a function. -/
def unevenAliases : SnapshotRecord :=
  { symbols :=
      [{ sectionName := ".text", size := 5, name := "part" },
        { sectionName := ".text", size := 4, padding := 1, name := "first" },
        { sectionName := ".text", size := 6, padding := 3, name := "part" },
        { sectionName := ".text", size := 10, padding := 2, name := "second" }]
    aliasGroups := [[1, 3]] }

/-- The totals of the first alias are kept when the parts are nested and when the aliases are. -/
theorem groupedBy_totals_uneven :
    ∃ snapshot, Snapshot.ofRecord unevenAliases ⟨0⟩ = .ok snapshot ∧
      let parts := snapshot.value.listing.raw.groupedByName ⟨1⟩ 0 2
      let token := fun n : Node => some n.facts.sectionName
      let sections := parts.groupedBy ⟨2⟩ token 2
      parts.members.map Node.isGroup = [true, false, false] ∧
        sections.members.map Node.isGroup = [true, true] ∧
        (∀ n ∈ parts.members, (token n).isSome) ∧
        AgreeOnAliases Node.aliasGroup token parts.members ∧ (0 : Int) ≤ 2 ∧
        sections.totalSize = 15 ∧ sections.totalPadding = 4 := by
  refine ⟨_, rfl, ?_⟩
  intro parts token sections
  have hsome : ∀ n ∈ parts.members, (token n).isSome := fun _ _ => rfl
  have halias : AgreeOnAliases Node.aliasGroup token parts.members := by decide +kernel
  have hcount : (0 : Int) ≤ 2 := by decide
  obtain ⟨hsize, hpadding⟩ := groupedBy_totals ⟨2⟩ hsome halias hcount
  refine ⟨by decide +kernel, by decide +kernel, hsome, halias, hcount, ?_, ?_⟩
  · rw [hsize]
    decide +kernel
  · rw [hpadding]
    decide +kernel

end Footprint
