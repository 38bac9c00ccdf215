import Footprint.Group.Algebra
import Footprint.Group.Order
import Footprint.Group.Search
import Footprint.Proofs.Group.Nesting

/-!
# Groups that transformations reach

A transformation makes a new group out of the nodes that a group has, or had before a filter, and
out of the members of a second group for a union: it keeps nodes, leaves some out and nests some
(`Group.Derived`). The only other way to a new group is to step into a nested one. So a property
that holds of a root and that these two steps preserve holds of all groups that transformations
reach (`Group.Reachable.preserves`).
-/

namespace Footprint.Group

/-- The groups that any number of transformations reach from a root. -/
inductive Reachable (root : Group) : Group → Prop where
  /-- The root. -/
  | root : Reachable root root
  /-- A filter by any test. -/
  | filter {d : Group} (h : Reachable root d) (keep : Node → Bool) : Reachable root (d.filter keep)
  /-- A filter by any test that may fail, and did not. -/
  | tryFilter {d d' : Group} {ε : Type} (h : Reachable root d) (keep : Node → Except ε Bool)
      (hd : (d.tryFilter keep).value = .ok d') : Reachable root d'
  /-- A filter by section. -/
  | whereInSection {d d' : Group} (h : Reachable root d) (name : String)
      (hd : d.whereInSection name = .ok d') : Reachable root d'
  /-- The nodes that a filter left out. -/
  | inverted {d : Group} (h : Reachable root d) : Reachable root d.inverted
  /-- A sort by any comparison. -/
  | sorted {d : Group} (h : Reachable root d) (cmp : Node → Node → Ordering) (reverse : Bool) :
      Reachable root (d.sorted cmp reverse)
  /-- A grouping by any token, with any least size and any labels. -/
  | groupedByWith {d : Group} (h : Reachable root d) (stamp : Stamp) (token : Node → Option String)
      (minCount : Int) (label : String → List Node → Label) :
      Reachable root (d.groupedByWith stamp token minCount label)
  /-- The clustered list. -/
  | clustered {d : Group} (h : Reachable root d) (stamp : Stamp) :
      Reachable root (d.clustered stamp).value
  /-- A nested group. -/
  | child {d d' : Group} (h : Reachable root d) (index : Nat) (hd : d.child? index = some d') :
      Reachable root d'
  /-- The union with a group that is reached from the same root. -/
  | union {d e d' : Group} (h : Reachable root d) (he : Reachable root e)
      (hd : d.union e = .ok d') : Reachable root d'
  /-- The difference from a group that is reached from the same root. -/
  | difference {d e d' : Group} (h : Reachable root d) (he : Reachable root e)
      (hd : d.difference e = .ok d') : Reachable root d'

/-- A pattern filter is a filter that may fail. -/
theorem Reachable.wherePattern {root d d' : Group} (h : Reachable root d)
    {engine : Pattern.Engine} {pattern : String} {look : Probe Error → Facts → Except Error Bool}
    (hd : (d.wherePattern engine pattern look).value = .ok d') : Reachable root d' := by
  unfold Group.wherePattern at hd
  split at hd
  · cases hd
  · exact h.tryFilter _ hd

/-- A filter by addresses in hexadecimal digits is a filter, once the digits are read. -/
theorem Reachable.whereHexAddressInRange {root d d' : Group} (h : Reachable root d) {start : String}
    {stop : Option String} (hd : d.whereHexAddressInRange start stop = .ok d') :
    Reachable root d' := by
  obtain ⟨first, -, hd⟩ := exists_of_bind_eq_ok hd
  obtain ⟨last, -, hd⟩ := exists_of_bind_eq_ok hd
  cases hd
  exact h.filter _

/-- What a transformation makes of a group `d` and of nodes that are at hand: a group over the same
table, in the same diff, with some of the nodes as they are and some in nested groups. -/
structure Derived (d : Group) (nodes : List Node) (d' : Group) : Prop where
  /-- The table stays. -/
  table : d'.table = d.table
  /-- The status is found anew when there is one. -/
  status : d'.status = d.statusOf d'.members
  /-- The members are nodes at hand, or nested groups of them. -/
  members : ∀ n ∈ d'.members, d.Nested nodes n
  /-- The nodes left out are nodes at hand. -/
  filteredOut : d'.filteredOut ⊆ nodes

section Derived

variable {d d' e : Group}

/-- More nodes may be at hand. -/
theorem Derived.mono {nodes nodes' : List Node} (h : d.Derived nodes d') (hsub : nodes ⊆ nodes') :
    d.Derived nodes' d' where
  table := h.table
  status := h.status
  members n hn := (h.members n hn).mono hsub
  filteredOut _ hn := hsub (h.filteredOut hn)

/-- A transformed group is derived from the nodes that it was made of. -/
theorem derived_transformed {nodes members filteredOut : List Node} (label : Label)
    (isSorted : Bool) (hmembers : ∀ n ∈ members, d.Nested nodes n)
    (hfilteredOut : filteredOut ⊆ nodes) :
    d.Derived nodes (d.transformed members filteredOut label isSorted) where
  table := rfl
  status := rfl
  members := hmembers
  filteredOut := hfilteredOut

/-- A filter keeps some members and leaves the others out. -/
theorem derived_filter (d : Group) (keep : Node → Bool) : d.Derived d.members (d.filter keep) :=
  derived_transformed _ _ (fun _ hn => .kept (List.mem_of_mem_filter hn))
    (List.filter_subset_self _)

/-- A test that does not fail parts the elements into those that it keeps and the others. -/
theorem perm_of_splitM {α ε : Type} {keep : α → Except ε Bool} {xs kept out : List α}
    (h : Id.run (splitM (fun x => pure (keep x)) xs) = .ok (kept, out)) :
    (kept ++ out).Perm xs := by
  induction xs generalizing kept out with
  | nil =>
    cases h
    exact .nil
  | cons x xs ih =>
    rw [splitM] at h
    cases hx : keep x with
    | error e => simp [hx] at h
    | ok pass =>
      cases hrest : Id.run (splitM (fun x => pure (keep x)) xs) with
      | error failure => simp [hx, hrest] at h
      | ok parts =>
        simp only [Id.run_bind, Id.run_pure, hx, hrest] at h
        have hperm := ih hrest
        cases pass with
        | false =>
          cases h
          exact List.perm_middle.trans (hperm.cons x)
        | true =>
          cases h
          exact hperm.cons x

/-- A filter by a test that did not fail parts the members. -/
theorem exists_of_tryFilter {ε : Type} {keep : Node → Except ε Bool}
    (h : (d.tryFilter keep).value = .ok d') : ∃ kept out, (kept ++ out).Perm d.members ∧
      d' = d.transformed kept out d.sectionLabel d.isSorted := by
  unfold tryFilter tryFilterM at h
  cases hsplit : Id.run (splitM (fun n => pure (keep n)) d.members) with
  | error failure => simp [hsplit] at h
  | ok parts =>
    simp only [Id.run_bind, Id.run_pure, hsplit] at h
    cases h
    exact ⟨parts.1, parts.2, perm_of_splitM hsplit, rfl⟩

/-- A filter by a test that may fail keeps some members and leaves the others out. -/
theorem derived_tryFilter {ε : Type} {keep : Node → Except ε Bool}
    (h : (d.tryFilter keep).value = .ok d') : d.Derived d.members d' := by
  obtain ⟨kept, out, hperm, rfl⟩ := exists_of_tryFilter h
  have hsub := List.append_subset.mp hperm.subset
  exact derived_transformed _ _ (fun _ hn => .kept (hsub.1 hn)) hsub.2

/-- A filter by section keeps some members and leaves the others out. -/
theorem derived_whereInSection {name : String} (h : d.whereInSection name = .ok d') :
    d.Derived d.members d' := by
  -- The section of the label is no concern of `Derived`.
  unfold whereInSection filterFacts at h
  split at h
  · split at h
    · cases h
    · cases h
      exact ⟨rfl, rfl, (derived_filter d _).members, (derived_filter d _).filteredOut⟩
  · cases h
    exact ⟨rfl, rfl, (derived_filter d _).members, (derived_filter d _).filteredOut⟩

/-- The nodes left out become the members, and the members are left out. -/
theorem derived_inverted (d : Group) : d.Derived (d.members ++ d.filteredOut) d.inverted :=
  derived_transformed _ _ (fun _ hn => .kept (List.mem_append_right _ hn))
    (List.subset_append_left _ _)

/-- A sort puts the members in order. -/
theorem derived_sorted (d : Group) (cmp : Node → Node → Ordering) (reverse : Bool) :
    d.Derived (d.members ++ d.filteredOut) (d.sorted cmp reverse) :=
  derived_transformed _ _
    (fun _ hn => .kept (List.mem_append_left _ (List.mem_mergeSort.mp hn)))
    (List.subset_append_right _ _)

/-- A grouping nests members, and leaves some out. -/
theorem derived_groupedByWith (d : Group) (stamp : Stamp) (token : Node → Option String)
    (minCount : Int) (label : String → List Node → Label) :
    d.Derived d.members (d.groupedByWith stamp token minCount label) :=
  derived_transformed _ _ (fun _ hn => d.nested_nestByToken _ _ _ _ _ _ hn)
    fun _ hn => mem_of_mem_leftOver hn

/-- Clustering nests members. -/
theorem derived_clustered (d : Group) (stamp : Stamp) :
    d.Derived d.members (d.clustered stamp).value :=
  derived_transformed _ _ (fun _ hn => nested_clusterNodes hn) (List.nil_subset _)

/-- A union adds members of the second group. -/
theorem derived_union (h : d.union e = .ok d') : d.Derived (d.members ++ e.members) d' := by
  obtain ⟨_, -, h⟩ := exists_of_bind_eq_ok h
  cases h
  exact derived_transformed _ _
    (fun _ hn => .kept ((List.filter_sublist.append_left _).subset hn)) (List.nil_subset _)

/-- A difference keeps some members. -/
theorem derived_difference (h : d.difference e = .ok d') : d.Derived d.members d' := by
  obtain ⟨_, -, h⟩ := exists_of_bind_eq_ok h
  cases h
  exact derived_transformed _ _ (fun _ hn => .kept (List.mem_of_mem_filter hn))
    (List.nil_subset _)

end Derived

/-- What holds of a root, of every group derived from such groups and of every group nested in one
holds of the groups that transformations reach. -/
theorem Reachable.preserves {P : Group → Prop} {root : Group} (hroot : P root)
    (hderived : ∀ {d e d' : Group}, P d → P e →
      d.Derived (d.members ++ d.filteredOut ++ e.members) d' → P d')
    (hchild : ∀ {d d' : Group} {index : Nat}, P d → d.child? index = some d' → P d')
    {d : Group} (h : Reachable root d) : P d := by
  have hself {d d' : Group} (hd : P d)
      (hd' : d.Derived (d.members ++ d.filteredOut) d') : P d' :=
    hderived hd hd (hd'.mono (List.subset_append_left _ _))
  have hmembers {d d' : Group} (hd : P d) (hd' : d.Derived d.members d') : P d' :=
    hself hd (hd'.mono (List.subset_append_left _ _))
  induction h with
  | root => exact hroot
  | filter _ keep hd => exact hmembers hd (derived_filter _ keep)
  | tryFilter _ _ hd' hd => exact hmembers hd (derived_tryFilter hd')
  | whereInSection _ _ hd' hd => exact hmembers hd (derived_whereInSection hd')
  | inverted _ hd => exact hself hd (derived_inverted _)
  | sorted _ cmp reverse hd => exact hself hd (derived_sorted _ cmp reverse)
  | groupedByWith _ stamp token minCount label hd =>
    exact hmembers hd (derived_groupedByWith _ stamp token minCount label)
  | clustered _ stamp hd => exact hmembers hd (derived_clustered _ stamp)
  | child _ _ hd' hd => exact hchild hd hd'
  | union _ _ hd' hd he =>
    exact hderived hd he
      ((derived_union hd').mono ((List.sublist_append_left _ _).append_right _).subset)
  | difference _ _ hd' hd _ => exact hmembers hd (derived_difference hd')

end Footprint.Group
