import Footprint.Proofs.Diff.Counts

/-!
# What the filter for changes hides

The filter for changes asks each member for its status. A nested group has one only when it was made
in the diff: groups can also be made of the bare table of a diff, and a nested group that comes from
there by a union counts as unchanged, whatever its leaves are (`Node.Untracked`). Such groups are the
only way to hide a change (`whereNotUnchanged_hides`), and transformations of the root of a diff make
none.
-/

namespace Footprint

/-- At any depth of a node, a nested group without a status has a leaf that is not unchanged. -/
inductive Node.Untracked : Node → Prop where
  /-- The node is such a group. -/
  | here {h : Head} {members : List Node} (hnone : h.status = none)
      (hleaf : ∃ s ∈ (Node.group h members).leaves, s.status ≠ .unchanged) :
      Untracked (.group h members)
  /-- A member has such a group. -/
  | within {h : Head} {members : List Node} {n : Node} (hn : n ∈ members) (hu : Untracked n) :
      Untracked (.group h members)

/-- At any depth of a node, the status of a nested group is that of its members, if it has one. -/
inductive Node.TrueStatus : Node → Prop where
  /-- A single symbol. -/
  | leaf (s : Symbol) : TrueStatus (.leaf s)
  /-- A nested group. -/
  | group {h : Head} {members : List Node} (hmembers : ∀ n ∈ members, TrueStatus n)
      (hstatus : ∀ status ∈ h.status, status = .combine (members.map Node.status)) :
      TrueStatus (.group h members)

namespace Node

variable {n : Node}

/-- There is a leaf beneath an untracked group that is not unchanged. -/
theorem Untracked.exists_leaf (h : n.Untracked) : ∃ s ∈ n.leaves, s.status ≠ .unchanged := by
  induction h with
  | here _ hleaf => exact hleaf
  | within hn _ ih =>
    obtain ⟨s, hs, hstatus⟩ := ih
    exact ⟨s, by rw [leaves_group]; exact List.mem_flatMap.mpr ⟨_, hn, hs⟩, hstatus⟩

/-- The leaves beneath a node that is unchanged are unchanged, if no group beneath it is
untracked. -/
theorem TrueStatus.leaves_unchanged (h : n.TrueStatus) (hstatus : n.status = .unchanged)
    (hu : ¬ n.Untracked) : ∀ s ∈ n.leaves, s.status = .unchanged := by
  induction h with
  | leaf s => exact fun s' hs' => List.mem_singleton.mp hs' ▸ hstatus
  | @group h members _ hcombine ih =>
    cases hstored : h.status with
    | none =>
      intro s hs
      by_contra hne
      exact hu (.here hstored ⟨s, hs, hne⟩)
    | some status =>
      -- The members have the common status, so that the same holds of each of them.
      have hall : DiffStatus.combine (members.map Node.status) = .unchanged := by
        rw [← hcombine status hstored, ← hstatus, Node.status, hstored, Option.getD_some]
      have hmembers := ((DiffStatus.combine_eq_iff (by decide)).mp hall).2
      rw [List.forall_mem_map] at hmembers
      intro s hs
      rw [leaves_group] at hs
      obtain ⟨n, hn, hs⟩ := List.mem_flatMap.mp hs
      exact ih n hn (hmembers n hn) (fun hun => hu (.within hn hun)) s hs

/-- A node that is unchanged has a leaf that is not exactly when a group beneath it is untracked. -/
theorem TrueStatus.leaves_unchanged_iff (h : n.TrueStatus) (hstatus : n.status = .unchanged) :
    (∀ s ∈ n.leaves, s.status = .unchanged) ↔ ¬ n.Untracked := by
  constructor
  · intro hall hu
    obtain ⟨s, hs, hne⟩ := hu.exists_leaf
    exact hne (hall s hs)
  · exact h.leaves_unchanged hstatus

/-- The nested groups of a diff have their status. -/
theorem InDiff.trueStatus {t : Table} (h : n.InDiff t) : n.TrueStatus := by
  induction h with
  | leaf => exact .leaf _
  | group _ _ hstatus ih =>
    refine .group ih fun status hstored => ?_
    rw [hstatus, Option.mem_some_iff] at hstored
    exact hstored.symm

/-- The nested groups of a diff are all tracked. -/
theorem InDiff.not_untracked {t : Table} (h : n.InDiff t) : ¬ n.Untracked := by
  induction h with
  | leaf => exact fun hu => nomatch hu
  | group _ _ hstatus ih =>
    rintro (⟨hnone, -⟩ | ⟨hn, hu⟩)
    · simp [hstatus] at hnone
    · exact ih _ hn hu

end Node

namespace Group

/-- All nested groups of a group, and of the nodes that it left out, have the status of their
members, if they have one. -/
structure TrueStatus (d : Group) : Prop where
  /-- The members have it. -/
  members : ∀ n ∈ d.members, n.TrueStatus
  /-- The nodes left out have it. -/
  filteredOut : ∀ n ∈ d.filteredOut, n.TrueStatus

namespace TrueStatus

variable {d e d' : Group}

/-- Groups of single symbols. -/
theorem of_leaves {t : Table} (symbols : List Symbol) :
    TrueStatus { table := t, members := symbols.map .leaf } where
  members := List.forall_mem_map.mpr fun s _ => .leaf s
  filteredOut := List.forall_mem_nil _

/-- A nested group gets the status of its members when the group that it is made in has one. -/
theorem nested {nodes : List Node} (hnodes : ∀ n ∈ nodes, n.TrueStatus) {n : Node}
    (hn : d.Nested nodes n) : n.TrueStatus := by
  cases hn with
  | kept hn => exact hnodes n hn
  | nest id label _ hsub =>
    refine .group (fun n hn => hnodes n (hsub hn)) fun status hstored => ?_
    obtain ⟨_, -, hcombine⟩ := Option.map_eq_some_iff.mp hstored
    exact hcombine.symm

/-- Transformations keep the statuses of nested groups true. -/
theorem derived (h : d.TrueStatus) (he : e.TrueStatus)
    (hd : d.Derived (d.members ++ d.filteredOut ++ e.members) d') : d'.TrueStatus := by
  have hnodes : ∀ n ∈ d.members ++ d.filteredOut ++ e.members, n.TrueStatus := by
    simp only [List.forall_mem_append]
    exact ⟨⟨h.members, h.filteredOut⟩, he.members⟩
  exact ⟨fun n hn => nested hnodes (hd.members n hn), fun n hn => hnodes n (hd.filteredOut hn)⟩

/-- The members of a nested group have true statuses. -/
theorem child (h : d.TrueStatus) {index : Nat} (hd : d.child? index = some d') :
    d'.TrueStatus := by
  unfold child? at hd
  split at hd
  · next head members hget =>
    cases hd
    cases h.members _ (List.mem_of_getElem? hget) with
    | group hmembers _ => exact ⟨hmembers, List.forall_mem_nil _⟩
  · cases hd

/-- All groups that transformations reach have true statuses. -/
theorem reachable (h : e.TrueStatus) (hd : Reachable e d) : d.TrueStatus :=
  hd.preserves h (fun hd he => hd.derived he) (fun hd => hd.child)

end TrueStatus

/-- The groups that can be assembled over the table of the root of a diff: the root, the symbols of
the table or a choice of them, and all that transformations make of such groups. -/
inductive Assembled (root : Group) : Group → Prop where
  /-- The root. -/
  | root : Assembled root root
  /-- All symbols of the table, outside the diff. -/
  | ofTable : Assembled root (.ofTable root.table)
  /-- Chosen symbols of the table, outside the diff. -/
  | ofIds {d : Group} (ids : List SymbolId) (hd : Group.ofIds root.table ids = .ok d) :
      Assembled root d
  /-- What transformations make of one group. -/
  | reachable {d e : Group} (hd : Assembled root d) (he : Reachable d e) : Assembled root e
  /-- A union of two groups. -/
  | union {d e d' : Group} (hd : Assembled root d) (he : Assembled root e)
      (h : d.union e = .ok d') : Assembled root d'
  /-- A difference of two groups. -/
  | difference {d e d' : Group} (hd : Assembled root d) (he : Assembled root e)
      (h : d.difference e = .ok d') : Assembled root d'

/-- Assembled groups have true statuses when the root has. -/
theorem Assembled.trueStatus {root d : Group} (hd : Assembled root d) (h : root.TrueStatus) :
    d.TrueStatus := by
  induction hd with
  | root => exact h
  | ofTable => exact .of_leaves _
  | ofIds ids hd =>
    obtain ⟨symbols, -, hd⟩ := exists_of_bind_eq_ok hd
    cases hd
    exact .of_leaves symbols
  | reachable _ he ih => exact ih.reachable he
  | union _ _ hd' ih ihe =>
    exact ih.derived ihe
      ((derived_union hd').mono ((List.sublist_append_left _ _).append_right _).subset)
  | difference _ _ hd' ih ihe =>
    refine ih.derived ihe ((derived_difference hd').mono ?_)
    rw [List.append_assoc]
    exact List.subset_append_left _ _

/-- The members that the filter for changes leaves out are those that are unchanged. -/
theorem members_inverted_whereNotUnchanged (d : Group) :
    d.whereNotUnchanged.inverted.members = d.members.filter (·.status == .unchanged) := by
  change (d.members.filter fun n => !(n.status != .unchanged)) = _
  simp only [bne, Bool.not_not]

/-- The filter for changes hides nothing exactly when no member that is unchanged has an untracked
group. -/
theorem TrueStatus.allLeaves_inverted_iff {d : Group} (h : d.TrueStatus) :
    d.whereNotUnchanged.inverted.AllLeaves .unchanged ↔
      ∀ n ∈ d.members, n.status = .unchanged → ¬ n.Untracked := by
  rw [AllLeaves, leaves_eq_flatMap, members_inverted_whereNotUnchanged, List.forall_mem_flatMap]
  simp only [List.mem_filter, beq_iff_eq, and_imp]
  exact forall₂_congr fun n hn => forall_congr' fun hstatus =>
    (h.members n hn).leaves_unchanged_iff hstatus

/-- All leaves are unchanged exactly when none is counted as something else. -/
theorem allLeaves_unchanged_iff (d : Group) : d.AllLeaves .unchanged ↔
    d.counts.added = 0 ∧ d.counts.removed = 0 ∧ d.counts.changed = 0 := by
  simp only [counts, DiffCounts.ofStatuses, List.count_eq_zero, List.mem_map, not_exists, not_and,
    AllLeaves]
  constructor
  · intro h
    refine ⟨?_, ?_, ?_⟩ <;> exact fun s hs heq => absurd ((h s hs).symm.trans heq) (by decide)
  · rintro ⟨hadded, hremoved, hchanged⟩ s hs
    cases hstatus : s.status with
    | unchanged => rfl
    | changed => exact absurd hstatus (hchanged s hs)
    | added => exact absurd hstatus (hadded s hs)
    | removed => exact absurd hstatus (hremoved s hs)

/-- A filter keeps the counts of changes exactly when it leaves out unchanged leaves only. -/
theorem counts_filter_eq_iff (d : Group) (keep : Node → Bool) :
    ((d.filter keep).counts.added = d.counts.added ∧
      (d.filter keep).counts.removed = d.counts.removed ∧
      (d.filter keep).counts.changed = d.counts.changed) ↔
        (d.filter keep).inverted.AllLeaves .unchanged := by
  have hadd := d.counts_filter_add keep
  have hadded : (d.filter keep).counts.added + (d.filter keep).inverted.counts.added =
      d.counts.added := congrArg DiffCounts.added hadd
  have hremoved : (d.filter keep).counts.removed + (d.filter keep).inverted.counts.removed =
      d.counts.removed := congrArg DiffCounts.removed hadd
  have hchanged : (d.filter keep).counts.changed + (d.filter keep).inverted.counts.changed =
      d.counts.changed := congrArg DiffCounts.changed hadd
  rw [allLeaves_unchanged_iff]
  omega

end Group

/-- The filter for changes, applied to a group of a diff however it was assembled, keeps the counts
of changes exactly when all leaves beneath its inverse are unchanged, and that is so exactly when no
member that counts as unchanged has, at any depth, a group without a status with a leaf that is not
unchanged. The groups that transformations reach from the root have no such member. -/
theorem whereNotUnchanged_hides {m : Matcher} {before after : Group} {stamp : Stamp}
    {root : Logged Group} (h : diffWith m before after stamp = .ok root) {d : Group}
    (hd : root.value.Assembled d) (hdiff : d.isDiff) :
    d.whereNotUnchanged.isDiff ∧
      ((d.whereNotUnchanged.counts.added = d.counts.added ∧
        d.whereNotUnchanged.counts.removed = d.counts.removed ∧
        d.whereNotUnchanged.counts.changed = d.counts.changed) ↔
          d.whereNotUnchanged.inverted.AllLeaves .unchanged) ∧
      (d.whereNotUnchanged.inverted.AllLeaves .unchanged ↔
        ∀ n ∈ d.members, n.status = .unchanged → ¬ n.Untracked) ∧
      (root.value.Reachable d → d.whereNotUnchanged.inverted.AllLeaves .unchanged) := by
  obtain ⟨t, -, hroot⟩ := Comparison.exists_inDiff_of_diff h
  have hroot_true : root.value.TrueStatus :=
    ⟨fun n hn => (hroot.members n hn).trueStatus, fun n hn => (hroot.filteredOut n hn).trueStatus⟩
  have hiff := (hd.trueStatus hroot_true).allLeaves_inverted_iff
  refine ⟨?_, d.counts_filter_eq_iff _, hiff, fun hreach => hiff.mpr fun n hn _ => ?_⟩
  · obtain ⟨status, hstatus⟩ := Option.isSome_iff_exists.mp hdiff
    simp [Group.isDiff, Group.whereNotUnchanged, Group.filter, Group.transformed, Group.statusOf,
      hstatus]
  · exact ((hroot.reachable hreach).members n hn).not_untracked

/-- One symbol was added, one removed and one changed: the filter for changes keeps them all. -/
theorem whereNotUnchanged_hides_nothing :
    let m : Matcher := .always { similar := [(⟨0⟩, ⟨0⟩)], added := [⟨1⟩], removed := [⟨1⟩] }
    let before := Group.ofTable (.clones { sectionName := ".text", size := 41 } 2)
    let after := Group.ofTable (.clones { sectionName := ".text", size := 50 } 2)
    ∃ root d, diffWith m before after ⟨1⟩ = .ok root ∧ root.value.Assembled d ∧ d.isDiff ∧
      d.whereNotUnchanged.inverted.AllLeaves .unchanged ∧
      d.whereNotUnchanged.counts.added = d.counts.added := by
  intro m before after
  have hcomputed : ((diffWith m before after ⟨1⟩).toOption.map fun root =>
      root.value.status) = some (some .changed) := by
    decide +kernel
  obtain ⟨root, hroot, hstatus⟩ := exists_ok_of_map_toOption hcomputed
  have hreach : root.value.Reachable root.value := .root
  have hdiff : root.value.isDiff := by rw [Group.isDiff, hstatus]; rfl
  obtain ⟨-, hcounts, -, hall⟩ := whereNotUnchanged_hides hroot .root hdiff
  exact ⟨root, root.value, hroot, .root, hdiff, hall hreach, (hcounts.mpr (hall hreach)).1⟩

/-- An added symbol beneath a nested group that was made outside the diff: a union brings the group
into the diff, and the filter for changes leaves it out. -/
theorem whereNotUnchanged_hides_added :
    let before := Group.ofTable ⟨⟨0⟩, #[], #[]⟩
    let after := Group.ofTable ⟨⟨0⟩, #[.ofRecord ⟨0⟩ { sectionName := ".text", size := 10 }], #[]⟩
    ∃ root empty d, diffWith (.always { added := [⟨0⟩] }) before after ⟨1⟩ = .ok root ∧
      root.value.difference root.value = .ok empty ∧
      empty.union ((Group.ofTable root.value.table).groupedBySectionName ⟨2⟩) = .ok d ∧
      root.value.Assembled d ∧ d.isDiff ∧ d.counts.added = 1 ∧
      d.whereNotUnchanged.counts.added = 0 ∧
      ¬ d.whereNotUnchanged.inverted.AllLeaves .unchanged := by
  intro before after
  let assemble : Except Error (Logged Group × Group × Group) := do
    let root ← diffWith (.always { added := [⟨0⟩] }) before after ⟨1⟩
    let empty ← root.value.difference root.value
    let d ← empty.union ((Group.ofTable root.value.table).groupedBySectionName ⟨2⟩)
    return (root, empty, d)
  have hcomputed : (assemble.toOption.map fun p => (p.2.2.status,
      DiffCounts.ofNodes p.2.2.members, DiffCounts.ofNodes p.2.2.whereNotUnchanged.members)) =
        some (some .unchanged, ⟨1, 0, 0, 0⟩, ⟨0, 0, 0, 0⟩) := by
    decide +kernel
  obtain ⟨p, hp, hvalues⟩ := exists_ok_of_map_toOption hcomputed
  obtain ⟨root, hroot, hp⟩ := exists_of_bind_eq_ok hp
  obtain ⟨empty, hempty, hp⟩ := exists_of_bind_eq_ok hp
  obtain ⟨d, hd, hp⟩ := exists_of_bind_eq_ok hp
  cases hp
  simp only [Prod.mk.injEq, ← Group.counts_eq_ofNodes] at hvalues
  obtain ⟨hstatus, hcounts, hkept⟩ := hvalues
  have hnested : root.value.Assembled
      ((Group.ofTable root.value.table).groupedBySectionName ⟨2⟩) :=
    .reachable .ofTable (.groupedByWith .root _ _ _ _)
  refine ⟨root, empty, d, hroot, hempty, hd, .union (.difference .root .root hempty) hnested hd, ?_,
    ?_, ?_, fun hall => ?_⟩
  · rw [Group.isDiff, hstatus]
    rfl
  · rw [hcounts]
  · rw [hkept]
  · have hadded := ((d.counts_filter_eq_iff _).mpr hall).1
    change d.whereNotUnchanged.counts.added = _ at hadded
    rw [hkept, hcounts] at hadded
    cases hadded

end Footprint
