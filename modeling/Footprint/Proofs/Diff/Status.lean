import Footprint.Proofs.Diff.Drafts
import Footprint.Proofs.Group.Reachable
import Footprint.Proofs.Symbol.Shares

/-!
# The status of a group and those of its leaves

A group of a diff finds its status once, from the statuses that its members have stored. Still it is
the common status of the leaves at any depth (`Group.InDiff.status_leaves`): no nested group is
empty, so that the common status of the leaves of some groups is that of the statuses of the groups
(`DiffStatus.combine_flatMap`). The root of a diff has this invariant, and all transformations keep
it (`Group.InDiff.derived`).
-/

namespace Footprint

namespace DiffStatus

/-- The common status is one other than `changed` when all parts have it; when there are none, it is
`unchanged`. -/
theorem combine_eq_iff {statuses : List DiffStatus} {s : DiffStatus} (hs : s ≠ changed) :
    combine statuses = s ↔ (statuses = [] → s = unchanged) ∧ ∀ x ∈ statuses, x = s := by
  cases statuses with
  | nil => simp [combine, eq_comm]
  | cons first rest =>
    rw [combine, List.forall_mem_cons]
    simp only [List.cons_ne_nil, false_implies, true_and]
    split_ifs with hall
    · have hall : ∀ x ∈ rest, x = first := by simpa using hall
      exact ⟨fun h => ⟨h, fun x hx => h ▸ hall x hx⟩, And.left⟩
    · refine ⟨fun h => absurd h.symm hs, fun ⟨hfirst, hrest⟩ => absurd ?_ hall⟩
      rw [List.all_eq_true]
      intro x hx
      rw [hrest x hx, hfirst, beq_self_eq_true]

/-- Two statuses are the same when any other than `changed` is both or none of them. -/
theorem eq_of_forall_ne_changed {a b : DiffStatus} (h : ∀ s, s ≠ changed → (a = s ↔ b = s)) :
    a = b := by
  by_cases ha : a = changed
  · by_cases hb : b = changed
    · rw [ha, hb]
    · exact (h b hb).mpr rfl
  · exact ((h a ha).mp rfl).symm

/-- The common status of parts of parts, none of which is empty, is that of all the smaller
parts. -/
theorem combine_flatMap {α : Type} {f : α → List DiffStatus} {xs : List α}
    (hne : ∀ x ∈ xs, f x ≠ []) :
    combine (xs.map fun x => combine (f x)) = combine (xs.flatMap f) := by
  refine eq_of_forall_ne_changed fun s hs => ?_
  have hempty : xs.flatMap f = [] ↔ xs = [] := by
    rw [List.flatMap_eq_nil_iff, List.eq_nil_iff_forall_not_mem]
    exact forall₂_congr fun x hx => iff_false_intro (hne x hx)
  have hparts : ∀ x ∈ xs, combine (f x) = s ↔ ∀ y ∈ f x, y = s := by
    intro x hx
    simp [combine_eq_iff hs, hne x hx]
  rw [combine_eq_iff hs, combine_eq_iff hs, hempty, List.map_eq_nil_iff, List.forall_mem_map,
    List.forall_mem_flatMap]
  exact and_congr_right fun _ => forall₂_congr hparts

end DiffStatus

/-- A node of a diff over a table: a symbol of the table, or a group that is not empty and has the
status of its members. -/
inductive Node.InDiff (t : Table) : Node → Prop where
  /-- A single symbol. -/
  | leaf {s : Symbol} (h : s ∈ t.symbols) : InDiff t (.leaf s)
  /-- A nested group. -/
  | group {h : Head} {members : List Node} (hne : members ≠ [])
      (hmembers : ∀ n ∈ members, InDiff t n)
      (hstatus : h.status = some (.combine (members.map Node.status))) : InDiff t (.group h members)

namespace Node.InDiff

variable {t : Table} {n : Node}

/-- The leaves beneath a node of a diff are symbols of the table. -/
theorem mem_symbols (h : n.InDiff t) : ∀ s ∈ n.leaves, s ∈ t.symbols := by
  induction h with
  | leaf h =>
    intro s hs
    rwa [List.mem_singleton.mp hs]
  | group _ _ _ ih =>
    intro s hs
    rw [leaves_group] at hs
    obtain ⟨n, hn, hs⟩ := List.mem_flatMap.mp hs
    exact ih n hn s hs

/-- There is a leaf beneath every node of a diff. -/
theorem leaves_ne_nil (h : n.InDiff t) : n.leaves ≠ [] := by
  induction h with
  | leaf => exact List.cons_ne_nil _ _
  | group hne _ _ ih =>
    obtain ⟨n, rest, rfl⟩ := List.exists_cons_of_ne_nil hne
    rw [leaves_group, List.flatMap_cons]
    exact List.append_ne_nil_of_left_ne_nil (ih n List.mem_cons_self) _

end Node.InDiff

/-- The common status of the nodes of a diff is that of the leaves beneath them. -/
theorem combine_status_leaves {t : Table} {nodes : List Node} (h : ∀ n ∈ nodes, n.InDiff t)
    (hstatus : ∀ n ∈ nodes, n.status = .combine (n.leaves.map Symbol.status)) :
    DiffStatus.combine (nodes.map Node.status) =
      .combine ((nodes.flatMap Node.leaves).map Symbol.status) := by
  rw [List.map_congr_left hstatus, List.map_flatMap]
  exact DiffStatus.combine_flatMap fun n hn => by simp [(h n hn).leaves_ne_nil]

/-- The status of a node of a diff is the common one of the leaves beneath it. -/
theorem Node.InDiff.status_leaves {t : Table} {n : Node} (h : n.InDiff t) :
    n.status = .combine (n.leaves.map Symbol.status) := by
  induction h with
  | leaf => rfl
  | group _ hmembers hstatus ih =>
    rw [leaves_group, ← combine_status_leaves hmembers ih, status, hstatus, Option.getD_some]

/-- A group of a diff over a table, with the status of its members. -/
structure Group.InDiff (t : Table) (d : Group) : Prop where
  /-- The group is one over the table. -/
  table : d.table = t
  /-- The status is that of the members. -/
  status : d.status = some (.combine (d.members.map Node.status))
  /-- The members are nodes of the diff. -/
  members : ∀ n ∈ d.members, n.InDiff t
  /-- The nodes left out are nodes of the diff. -/
  filteredOut : ∀ n ∈ d.filteredOut, n.InDiff t

namespace Group.InDiff

variable {t : Table} {d e d' : Group}

/-- A nested group of nodes of a diff is one itself. -/
theorem nested (h : d.InDiff t) {nodes : List Node} (hnodes : ∀ n ∈ nodes, n.InDiff t) {n : Node}
    (hn : d.Nested nodes n) : n.InDiff t := by
  cases hn with
  | kept hn => exact hnodes n hn
  | nest id label hne hsub =>
    refine .group hne (fun n hn => hnodes n (hsub hn)) ?_
    rw [statusOf, h.status, Option.map_some]

/-- A transformation of groups of a diff makes another one. -/
theorem derived (h : d.InDiff t) (he : e.InDiff t)
    (hd : d.Derived (d.members ++ d.filteredOut ++ e.members) d') : d'.InDiff t := by
  have hnodes : ∀ n ∈ d.members ++ d.filteredOut ++ e.members, n.InDiff t := by
    simp only [List.forall_mem_append]
    exact ⟨⟨h.members, h.filteredOut⟩, he.members⟩
  exact {
    table := hd.table.trans h.table
    status := by rw [hd.status, statusOf, h.status, Option.map_some]
    members := fun n hn => h.nested hnodes (hd.members n hn)
    filteredOut := fun n hn => hnodes n (hd.filteredOut hn) }

/-- A nested group of a diff, as a group of its own, is one of the diff. -/
theorem child (h : d.InDiff t) {index : Nat} (hd : d.child? index = some d') : d'.InDiff t := by
  unfold child? at hd
  split at hd
  · next head members hget =>
    cases hd
    have hn := h.members _ (List.mem_of_getElem? hget)
    cases hn with
    | group _ hmembers hstatus => exact ⟨h.table, hstatus, hmembers, fun _ hn => nomatch hn⟩
  · cases hd

/-- All groups that transformations reach from one of a diff are of the diff. -/
theorem reachable (h : e.InDiff t) (hd : Reachable e d) : d.InDiff t :=
  hd.preserves h (fun hd he => hd.derived he) (fun hd => hd.child)

/-- The leaves of a group of a diff are symbols of the table. -/
theorem mem_symbols (h : d.InDiff t) {s : Symbol} (hs : s ∈ d.leaves) : s ∈ t.symbols := by
  rw [leaves_eq_flatMap] at hs
  obtain ⟨n, hn, hs⟩ := List.mem_flatMap.mp hs
  exact (h.members n hn).mem_symbols s hs

/-- The status of a group of a diff is the common one of its leaves. -/
theorem status_leaves (h : d.InDiff t) :
    d.status = some (.combine (d.leaves.map Symbol.status)) := by
  rw [h.status, leaves_eq_flatMap,
    combine_status_leaves h.members fun n hn => (h.members n hn).status_leaves]

end Group.InDiff

/-- The flat group of a table with the status of its members is one of the diff over the table. -/
theorem Group.inDiff_ofTable (t : Table) :
    Group.InDiff t { ofTable t with
      status := some (.combine ((ofTable t).members.map Node.status)) } where
  table := rfl
  status := rfl
  members n hn := by
    obtain ⟨s, hs, rfl⟩ := List.mem_map.mp hn
    exact .leaf (Array.mem_toList_iff.mp hs)
  filteredOut _ hn := nomatch hn

namespace Comparison

/-- Declaring alias groups keeps a builder one that a run reaches. -/
theorem built_of_declareAll {b b' : Builder} {groups : List (List SymbolId)} (hb : b.Built)
    (h : declareAll b groups = .ok b') : b'.Built := by
  induction groups generalizing b with
  | nil =>
    cases h
    exact hb
  | cons members groups ih =>
    rw [declareAll, List.foldlM_cons] at h
    obtain ⟨b₁, hstep, h⟩ := exists_of_bind_eq_ok h
    refine ih ?_ h
    split_ifs at hstep
    · obtain ⟨p, hadd, hstep⟩ := exists_of_bind_eq_ok hstep
      cases hstep
      exact hb.addAliasGroup hadd
    · cases hstep
      exact hb

/-- The root of a diff is a group of a diff over a built table. -/
theorem exists_inDiff_of_diff {c : Comparison} {name : String} {stamp : Stamp}
    {root : Logged Group} (h : c.diff name stamp = .ok root) :
    ∃ t : Table, t.Built ∧ root.value.InDiff t := by
  unfold diff at h
  -- Which alias groups live on and what the drafts are does not matter here.
  obtain ⟨keptAfter, -, h⟩ := exists_of_bind_eq_ok h
  obtain ⟨keptBefore, -, h⟩ := exists_of_bind_eq_ok h
  obtain ⟨added, -, h⟩ := exists_of_bind_eq_ok h
  obtain ⟨removed, -, h⟩ := exists_of_bind_eq_ok h
  obtain ⟨paired, -, h⟩ := exists_of_bind_eq_ok h
  obtain ⟨⟨ids, b⟩, hpush, h⟩ := exists_of_bind_eq_ok h
  obtain ⟨b', hdeclare, h⟩ := exists_of_bind_eq_ok h
  cases h
  have hbuilt : b'.Built := built_of_declareAll (built_of_pushAll .empty hpush) hdeclare
  exact ⟨(b'.freeze stamp).value, ⟨b', hbuilt, stamp, rfl⟩, Group.inDiff_ofTable _⟩

end Comparison

/-- Whether all leaves of a group have a given status. -/
def Group.AllLeaves (d : Group) (status : DiffStatus) : Prop :=
  ∀ s ∈ d.leaves, s.status = status

/-- The status of a group of a diff is one other than `changed` when all its leaves have it; when it
has none, it is `unchanged`. -/
theorem Group.InDiff.status_eq_iff {t : Table} {d : Group} (h : d.InDiff t) {s : DiffStatus}
    (hs : s ≠ .changed) :
    d.status = some s ↔ (d.leaves = [] → s = .unchanged) ∧ d.AllLeaves s := by
  rw [h.status_leaves, Option.some_inj, DiffStatus.combine_eq_iff hs, List.map_eq_nil_iff,
    List.forall_mem_map]
  rfl

/-- The stored status of every group that transformations reach from a diff agrees with its leaves
at any depth, and a symbol has the same status in all these groups. -/
theorem diffWith_status {m : Matcher} {before after : Group} {stamp : Stamp} {root : Logged Group}
    (h : diffWith m before after stamp = .ok root) {d : Group}
    (hd : root.value.Reachable d) :
    (d.isDiff ∧
      (d.status = some .added ↔ d.leaves ≠ [] ∧ d.AllLeaves .added) ∧
      (d.status = some .removed ↔ d.leaves ≠ [] ∧ d.AllLeaves .removed) ∧
      (d.status = some .unchanged ↔ d.AllLeaves .unchanged) ∧
      (d.status = some .changed ↔
        ¬ (d.leaves ≠ [] ∧ d.AllLeaves .added) ∧ ¬ (d.leaves ≠ [] ∧ d.AllLeaves .removed) ∧
          ¬ d.AllLeaves .unchanged)) ∧
    ∀ e, root.value.Reachable e → ∀ s ∈ d.leaves, ∀ s' ∈ e.leaves, s.id = s'.id →
      s.status = s'.status := by
  obtain ⟨t, hbuilt, hroot⟩ := Comparison.exists_inDiff_of_diff h
  have hdiff := hroot.reachable hd
  constructor
  · have hadded : d.status = some .added ↔ d.leaves ≠ [] ∧ d.AllLeaves .added := by
      simp [hdiff.status_eq_iff]
    have hremoved : d.status = some .removed ↔ d.leaves ≠ [] ∧ d.AllLeaves .removed := by
      simp [hdiff.status_eq_iff]
    have hunchanged : d.status = some .unchanged ↔ d.AllLeaves .unchanged := by
      simp [hdiff.status_eq_iff]
    refine ⟨by simp [Group.isDiff, hdiff.status], hadded, hremoved, hunchanged, ?_⟩
    -- There are only four statuses.
    rw [← hadded, ← hremoved, ← hunchanged, hdiff.status]
    cases DiffStatus.combine (d.members.map Node.status) <;> simp
  · intro e he s hs s' hs' hid
    have hget := hbuilt.get?_id (hdiff.mem_symbols hs)
    rw [hid, hbuilt.get?_id ((hroot.reachable he).mem_symbols hs')] at hget
    rw [Option.some.inj hget]

/-- One symbol was added, one removed and one changed: by status, the first nested group has the
added one. -/
theorem diffWith_status_clones :
    let m : Matcher := .always { similar := [(⟨0⟩, ⟨0⟩)], added := [⟨1⟩], removed := [⟨1⟩] }
    let before := Group.ofTable (.clones { sectionName := ".text", size := 41 } 2)
    let after := Group.ofTable (.clones { sectionName := ".text", size := 50 } 2)
    ∃ root d, diffWith m before after ⟨1⟩ = .ok root ∧ root.value.Reachable d ∧
      d.status = some .added ∧ d.leaves ≠ [] ∧ d.AllLeaves .added := by
  intro m before after
  let byStatus (root : Logged Group) : Group :=
    root.value.groupedByWith ⟨2⟩ (fun n => some n.status.text) 0 fun t _ => .named t
  have hcomputed : ((diffWith m before after ⟨1⟩).toOption.map fun root =>
      ((byStatus root).child? 0).map Group.status) = some (some (some .added)) := by
    decide +kernel
  obtain ⟨root, hroot, hnested⟩ := exists_ok_of_map_toOption hcomputed
  obtain ⟨d, hd, hstatus⟩ := Option.map_eq_some_iff.mp hnested
  have hreach : root.value.Reachable d := .child (.groupedByWith .root _ _ _ _) 0 hd
  exact ⟨root, d, hroot, hreach, hstatus, (diffWith_status hroot hreach).1.2.1.mp hstatus⟩

end Footprint
