import Footprint.Proofs.Group.Totals

/-!
# What a total counts

A total of a group is the sum of a value over its members, where those of one alias group count once
unless all members count in the section of the group (`Total`). So it depends on which member of an
alias group comes first. Elements without a common alias group do not see each other: the choice of
one element of each alias group can be made among the elements that pass a test
(`onePerAlias_filter`) and in each part of a list (`onePerAlias_flatMap`) when no alias group is
divided.
-/

namespace Footprint

section OnePerAlias

variable {α : Type} {aliasOf : α → Option AliasGroupId} {xs ys : List α}

/-- No element of one list has an alias group in common with an element of the other. -/
def AliasDisjoint (aliasOf : α → Option AliasGroupId) (xs ys : List α) : Prop :=
  ∀ x ∈ xs, ∀ y ∈ ys, (aliasOf x).isSome → aliasOf x ≠ aliasOf y

/-- Only those alias groups that have been seen and occur in the list matter. -/
theorem onePerAliasAux_congr {seen seen' : List AliasGroupId}
    (h : ∀ x ∈ xs, ∀ g, aliasOf x = some g → (g ∈ seen ↔ g ∈ seen')) :
    onePerAliasAux aliasOf seen xs = onePerAliasAux aliasOf seen' xs := by
  induction xs generalizing seen seen' with
  | nil => rfl
  | cons x xs ih =>
    obtain ⟨hx, hxs⟩ := List.forall_mem_cons.mp h
    rw [onePerAliasAux, onePerAliasAux]
    cases hg : aliasOf x with
    | none => exact congrArg (x :: ·) (ih hxs)
    | some g =>
      have hcons : ∀ y ∈ xs, ∀ g', aliasOf y = some g' → (g' ∈ g :: seen ↔ g' ∈ g :: seen') :=
        fun y hy g' hg' => by rw [List.mem_cons, List.mem_cons, hxs y hy g' hg']
      by_cases hseen : g ∈ seen
      · simp only [if_pos hseen, if_pos ((hx g hg).mp hseen), ih hxs]
      · simp only [if_neg hseen, if_neg fun h => hseen ((hx g hg).mpr h), ih hcons]

/-- An alias group that does not occur in the list may have been seen or not. -/
theorem onePerAliasAux_cons_seen {g : AliasGroupId} (seen : List AliasGroupId)
    (h : ∀ x ∈ xs, aliasOf x ≠ some g) :
    onePerAliasAux aliasOf (g :: seen) xs = onePerAliasAux aliasOf seen xs :=
  onePerAliasAux_congr fun x hx g' hg' => by
    have hne : g' ≠ g := fun heq => h x hx (heq ▸ hg')
    simp [hne]

/-- Among elements without alias group all are kept. -/
theorem onePerAlias_of_forall_none (h : ∀ x ∈ xs, aliasOf x = none) :
    onePerAlias aliasOf xs = xs := by
  have hkept : ((onePerAlias aliasOf xs).filter fun x => aliasOf x = none) =
      xs.filter fun x => aliasOf x = none := filter_none_onePerAlias xs
  rwa [List.filter_eq_self.mpr fun x hx => by simpa using h x (mem_of_mem_onePerAlias hx),
    List.filter_eq_self.mpr fun x hx => by simpa using h x hx] at hkept

/-- One element of each alias group is chosen before a test or after it when the elements of an
alias group agree on the test. -/
theorem onePerAlias_filter {p : α → Bool} (h : AgreeOnAliases aliasOf p xs) :
    onePerAlias aliasOf (xs.filter p) = (onePerAlias aliasOf xs).filter p := by
  unfold onePerAlias
  generalize [] = seen
  induction xs generalizing seen with
  | nil => rfl
  | cons x xs ih =>
    have ih := ih fun y hy z hz => h y (List.mem_cons_of_mem x hy) z (List.mem_cons_of_mem x hz)
    rw [onePerAliasAux, List.filter_cons]
    cases hg : aliasOf x with
    | none =>
      rw [List.filter_cons, ← ih]
      split
      · rw [onePerAliasAux, hg]
      · rfl
    | some g =>
      by_cases hseen : g ∈ seen
      · simp only [if_pos hseen, ← ih]
        split
        · simp only [onePerAliasAux, hg, if_pos hseen]
        · rfl
      · simp only [if_neg hseen, List.filter_cons, ← ih]
        split
        · simp only [onePerAliasAux, hg, if_neg hseen]
        · next hp =>
          -- With the first element its whole alias group fails the test.
          refine (onePerAliasAux_cons_seen seen fun y hy hyg => ?_).symm
          obtain ⟨hy, hpy⟩ := List.mem_filter.mp hy
          have hsame := h x List.mem_cons_self y (List.mem_cons_of_mem x hy) (by simp [hg])
            (hg.trans hyg.symm)
          exact hp (hsame.trans hpy)

/-- In lists without a common alias group the choice is made separately. -/
theorem onePerAlias_append_of_disjoint (h : AliasDisjoint aliasOf xs ys) :
    onePerAlias aliasOf (xs ++ ys) = onePerAlias aliasOf xs ++ onePerAlias aliasOf ys := by
  unfold onePerAlias
  generalize [] = seen
  induction xs generalizing seen with
  | nil => rfl
  | cons x xs ih =>
    obtain ⟨hx, hxs⟩ := List.forall_mem_cons.mp h
    have ih := ih hxs
    rw [List.cons_append, onePerAliasAux, onePerAliasAux]
    cases hg : aliasOf x with
    | none => exact congrArg (x :: ·) (ih seen)
    | some g =>
      have hother : ∀ y ∈ ys, aliasOf y ≠ some g := fun y hy hyg =>
        hx y hy (by simp [hg]) (hg.trans hyg.symm)
      by_cases hseen : g ∈ seen
      · simp only [if_pos hseen, ih]
      · simp only [if_neg hseen, ih, onePerAliasAux_cons_seen seen hother, List.cons_append]

/-- In parts of which no two have a common alias group the choice is made part by part. -/
theorem onePerAlias_flatMap {κ : Type} {keys : List κ} {part : κ → List α}
    (h : keys.Pairwise fun k k' => AliasDisjoint aliasOf (part k) (part k')) :
    onePerAlias aliasOf (keys.flatMap part) =
      keys.flatMap fun k => onePerAlias aliasOf (part k) := by
  induction keys with
  | nil => rfl
  | cons k keys ih =>
    obtain ⟨hk, hkeys⟩ := List.pairwise_cons.mp h
    rw [List.flatMap_cons, List.flatMap_cons, ← ih hkeys]
    refine onePerAlias_append_of_disjoint fun x hx y hy => ?_
    obtain ⟨k', hk', hy⟩ := List.mem_flatMap.mp hy
    exact hk k' hk' x hx y hy

end OnePerAlias

/-- The alias group under which a member counts: none where all of them count. -/
def Facts.countedAs (all : Bool) (f : Facts) : Option AliasGroupId :=
  if all then none else f.aliasGroup

/-- The alias group under which a node counts. -/
def Node.countedAs (all : Bool) (n : Node) : Option AliasGroupId :=
  n.facts.countedAs all

/-- A member that counts under an alias group is in it. -/
theorem Facts.aliasGroup_of_countedAs {all : Bool} {f : Facts} {g : AliasGroupId}
    (h : f.countedAs all = some g) : f.aliasGroup = some g := by
  cases all with
  | false => exact h
  | true => cases h

/-- A node that counts under an alias group is in it. -/
theorem Node.aliasGroup_of_countedAs {all : Bool} {n : Node} {g : AliasGroupId}
    (h : n.countedAs all = some g) : n.aliasGroup = some g :=
  n.aliasGroup_facts.symm.trans (Facts.aliasGroup_of_countedAs h)

/-- The nodes that count for each other agree on a function when all count, or when the nodes of
each alias group do. -/
theorem agreeOnAliases_countedAs_iff {β : Type} {all : Bool} {f : Node → β} {nodes : List Node} :
    AgreeOnAliases (Node.countedAs all) f nodes ↔
      all = true ∨ AgreeOnAliases Node.aliasGroup f nodes := by
  cases all with
  | true =>
    refine iff_of_true (fun m _ n _ hsome => ?_) (.inl rfl)
    simp [Node.countedAs, Facts.countedAs] at hsome
  | false =>
    have hsame : Node.countedAs false = Node.aliasGroup := funext Node.aliasGroup_facts
    simp [hsame]

/-- A value that adds up over the members of a group. -/
structure Total where
  /-- The value of a symbol or a group. -/
  of : Facts → Int
  /-- Whether all members count in a section, and not just one of each alias group. -/
  countsAll : String → Bool
  /-- The value of a group is the sum over the members that count. -/
  of_ofMembers : ∀ (label : Label) (members : List Facts), of (.ofMembers label members) =
    ((onePerAlias (Facts.countedAs (countsAll label.sectionName)) members).map of).sum

namespace Total

/-- The sum over the members that count. -/
def sum (T : Total) (all : Bool) (members : List Facts) : Int :=
  ((onePerAlias (Facts.countedAs all) members).map T.of).sum

/-- The sum over the nodes that count. -/
theorem sum_nodes (T : Total) (all : Bool) (nodes : List Node) :
    T.sum all (nodes.map Node.facts) =
      ((onePerAlias (Node.countedAs all) nodes).map fun n => T.of n.facts).sum := by
  have hmap : onePerAlias (Facts.countedAs all) (nodes.map Node.facts) =
      (onePerAlias (Node.countedAs all) nodes).map Node.facts :=
    onePerAlias_map Node.facts (fun _ => rfl) nodes
  rw [sum, hmap, List.map_map]
  rfl

/-- The value of a group of nodes is the sum over the nodes that count. -/
theorem of_ofMembers_nodes (T : Total) (label : Label) (nodes : List Node) :
    T.of (.ofMembers label (nodes.map Node.facts)) =
      ((onePerAlias (Node.countedAs (T.countsAll label.sectionName)) nodes).map
        fun n => T.of n.facts).sum :=
  (T.of_ofMembers label _).trans (T.sum_nodes _ nodes)

/-- The value of a group. -/
def ofGroup (T : Total) (g : Group) : Int := T.of g.facts

/-- The value of a group is the sum over its members that count. -/
theorem ofGroup_eq (T : Total) (g : Group) :
    T.ofGroup g = ((onePerAlias (Node.countedAs (T.countsAll g.label.sectionName)) g.members).map
      fun n => T.of n.facts).sum :=
  T.of_ofMembers_nodes g.label g.members

/-- The bytes taken up. In `.bss` all members count. -/
def size : Total where
  of := Facts.size
  countsAll := (· == bssSection)
  of_ofMembers label members := by
    have hall : (label.sectionName == bssSection) = true →
        onePerAlias (Facts.countedAs (label.sectionName == bssSection)) members = members :=
      fun h => onePerAlias_of_forall_none fun _ _ => if_pos h
    unfold Facts.ofMembers
    dsimp only
    split
    · next h => rw [hall h]; rfl
    · next h =>
      rw [Bool.not_eq_true] at h
      rw [h]
      rfl

/-- The bytes of padding. -/
def padding : Total where
  of := Facts.padding
  countsAll _ := false
  of_ofMembers _ _ := rfl

end Total

end Footprint
