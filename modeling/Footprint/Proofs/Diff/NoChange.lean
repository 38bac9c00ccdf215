import Footprint.Proofs.Diff.OneSided
import Footprint.Proofs.Snapshot.Loading

/-!
# The diff of a tree with itself

By names every symbol of a tree is paired with itself, also when many symbols share a key
(`Pairing.byName_self`). The two sides of such a pair contribute the same amounts, the whole ones or
the shares of one alias group, whether that group lives on or is cut by the tree
(`Comparison.change_self`). The two sides need not be one table: tables that are loaded from one
record have the same contents and differ in their stamps.
-/

namespace Footprint

/-- Two tables have the same symbols and the same alias groups. -/
structure Table.SameContents (t u : Table) : Prop where
  /-- The symbols are the same. -/
  symbols : t.symbols = u.symbols
  /-- The alias groups are the same. -/
  aliasGroups : t.aliasGroups = u.aliasGroups

namespace Table.SameContents

variable {t u : Table}

/-- A table has the same contents as itself. -/
theorem refl (t : Table) : t.SameContents t := ⟨rfl, rfl⟩

/-- The symbol with an id is the same. -/
theorem get?_eq (h : t.SameContents u) (id : SymbolId) : t.get? id = u.get? id := by
  unfold get?
  rw [h.symbols]

/-- The share of a symbol is the same. -/
theorem aliasShare_eq (h : t.SameContents u) (s : Symbol) (amount : Int) :
    t.aliasShare s amount = u.aliasShare s amount := by
  unfold aliasShare aliasMembers
  rw [h.aliasGroups]

/-- The amount that a symbol contributes to a leaf is the same. -/
theorem amount_eq (h : t.SameContents u) (whole : Bool) (s : Symbol) (value : Int) :
    Comparison.amount t whole s value = Comparison.amount u whole s value := by
  unfold Comparison.amount
  rw [h.aliasShare_eq]

end Table.SameContents

namespace Pairing

/-- Each symbol finds itself at the front of what is left. -/
theorem matchUp_self (xs : List Symbol) :
    matchUp xs xs = { similar := xs.map fun s => (s.id, s.id) } := by
  induction xs with
  | nil => rfl
  | cons x xs ih =>
    have hfind : (x :: xs).find? (·.matchKey == x.matchKey) = some x :=
      List.find?_cons_of_pos (beq_self_eq_true _)
    have hrest : (x :: xs).eraseP (·.matchKey == x.matchKey) = xs :=
      List.eraseP_cons_of_pos (beq_self_eq_true _)
    unfold matchUp
    simp only [hfind, hrest, ih, List.map_cons]

/-- By names each symbol of a list is paired with itself. -/
theorem byName_self (xs : List Symbol) :
    byName xs xs = { similar := xs.map fun s => (s.id, s.id) } := by
  have hremoved : (xs.map Symbol.id).filter
      (!((xs.map fun s => (s.id, s.id)).map Prod.fst).contains ·) = [] := by
    rw [List.map_map, List.filter_eq_nil_iff]
    intro id hid
    simpa using hid
  unfold byName
  rw [matchUp_self]
  simp only [hremoved]

end Pairing

namespace Comparison

variable {c : Comparison}

/-- A symbol that is paired with itself stands for no change. -/
theorem change_self (h : c.before.SameContents c.after) (value : Symbol → Int) (id : SymbolId) :
    c.change value (.paired id id) = 0 := by
  have hnew : c.newOf (.paired id id) = c.after.get? id := rfl
  have hold : c.oldOf (.paired id id) = c.after.get? id := h.get?_eq id
  unfold change
  simp only [hnew, hold, h.amount_eq, Int.sub_self]

/-- The leaf of a symbol that is paired with itself has the symbol's record without its amounts. -/
theorem DeltaOf.record_self (h : c.before.SameContents c.after) {s leaf : Symbol}
    (hs : c.after.get? s.id = some s) (hleaf : c.DeltaOf (.paired s.id s.id) leaf) :
    leaf.record = { s.record with size := 0, padding := 0 } := by
  obtain ⟨o, ho, hrecord⟩ := hleaf.facts
  have hfacts : c.factsOf (.paired s.id s.id) = some s := by
    unfold factsOf
    rw [show c.newOf (.paired s.id s.id) = some s from hs, Option.some_or]
  obtain rfl : s = o := Option.some.inj (hfacts.symm.trans ho)
  rw [hrecord, change_self h, change_self h]

/-- The leaves of symbols that are paired with themselves have their records without the amounts. -/
theorem map_record_leaves_self (h : c.before.SameContents c.after) {xs leaves : List Symbol}
    (hxs : ∀ s ∈ xs, c.after.get? s.id = some s)
    (hleaves : List.Forall₂ c.LeafOf (xs.map fun s => .paired s.id s.id) leaves) :
    leaves.map Symbol.record = xs.map fun s => { s.record with size := 0, padding := 0 } := by
  rw [List.forall₂_map_left_iff] at hleaves
  induction hleaves with
  | nil => rfl
  | @cons s leaf xs leaves hleaf _ ih =>
    obtain ⟨hs, hxs⟩ := List.forall_mem_cons.mp hxs
    rw [List.map_cons, List.map_cons, ih hxs, hleaf.toDeltaOf.record_self h hs]

end Comparison

/-- A diff says that nothing has changed in a group. -/
structure Group.NoChange (g diff : Group) : Prop where
  /-- There is one leaf for each symbol in order, with its facts and without its amounts. -/
  leaves : diff.leaves.map Symbol.record =
    g.leaves.map fun s => { s.record with size := 0, padding := 0 }
  /-- No leaf is added, removed or changed. -/
  unchanged : diff.AllLeaves .unchanged
  /-- All leaves are counted as unchanged. -/
  counts : diff.counts = ⟨0, 0, 0, g.leaves.length⟩
  /-- The size has not changed. -/
  totalSize : diff.totalSize = 0
  /-- The padding has not changed. -/
  totalPadding : diff.totalPadding = 0
  /-- The status is that nothing has changed. -/
  status : diff.status = some .unchanged
  /-- There are no changes to be shown. -/
  changes : diff.whereNotUnchanged.members = []

/-- A diff in which every symbol is paired with itself says that nothing has changed. -/
theorem Comparison.Outcome.noChange {c : Comparison} {g root : Group} (h : c.Outcome root)
    (hcontents : c.before.SameContents c.after)
    (hg : ∀ s ∈ g.leaves, c.after.get? s.id = some s)
    (hpairing : c.pairing = { similar := g.leaves.map fun s => (s.id, s.id) })
    (hstatus : root.status = some (.combine (root.leaves.map Symbol.status))) :
    g.NoChange root := by
  have hsources : c.pairing.sources = g.leaves.map fun s => .paired s.id s.id := by
    rw [hpairing, Pairing.sources, List.map_map]
    rfl
  have hleaves : root.leaves = root.table.symbols.toList := Group.leaves_of_flat h.members
  have hrecords : root.leaves.map Symbol.record =
      g.leaves.map fun s => { s.record with size := 0, padding := 0 } := by
    rw [hleaves]
    exact map_record_leaves_self hcontents hg (hsources ▸ h.leaves)
  -- What holds of all records of the leaves is read off the records of the symbols.
  have hamounts : ∀ s ∈ root.leaves, s.size = 0 ∧ s.padding = 0 := by
    intro s hs
    have hin : s.record ∈ root.leaves.map Symbol.record := List.mem_map_of_mem hs
    rw [hrecords] at hin
    obtain ⟨o, -, ho⟩ := List.mem_map.mp hin
    exact ⟨(congrArg SymbolRecord.size ho).symm, (congrArg SymbolRecord.padding ho).symm⟩
  have hunchanged : root.AllLeaves .unchanged := by
    refine h.allLeaves fun src hsrc => ?_
    rw [hsources] at hsrc
    obtain ⟨s, -, rfl⟩ := List.mem_map.mp hsrc
    unfold statusOf
    simp only [Source.side, change_self hcontents, if_true]
  have hstatuses : root.leaves.map Symbol.status = .replicate g.leaves.length .unchanged := by
    have hlength := congrArg List.length hrecords
    rw [List.length_map, List.length_map] at hlength
    rw [← hlength, List.eq_replicate_iff]
    exact ⟨List.length_map _, List.forall_mem_map.mpr hunchanged⟩
  exact {
    leaves := hrecords
    unchanged := hunchanged
    counts := by
      unfold Group.counts DiffCounts.ofStatuses
      simp [hstatuses, List.count_replicate]
    totalSize := by
      rw [Table.totalSize_eq h.members h.label]
      exact Table.total_eq_zero fun s hs => (hamounts s (hleaves ▸ hs)).1
    totalPadding := by
      rw [Table.totalPadding_eq h.members]
      exact Table.total_eq_zero fun s hs => (hamounts s (hleaves ▸ hs)).2
    status := by
      rw [hstatus, hstatuses]
      exact congrArg some ((DiffStatus.combine_eq_iff (by decide)).mpr
        ⟨fun _ => rfl, fun _ => List.eq_of_mem_replicate⟩)
    changes := by
      have hnone : ∀ n ∈ root.members, ¬ (n.status != .unchanged) := by
        rw [h.members, ← hleaves]
        exact List.forall_mem_map.mpr fun s hs => by simp [Node.status, hunchanged s hs]
      exact List.filter_eq_nil_iff.mpr hnone }

/-- The diff by names of two groups that have the same leaves over tables of the same contents comes
about and says that nothing has changed. -/
theorem exists_noChange {b a : Group} (hb : b.table.Built) (ha : a.table.Built)
    (hcontents : b.table.SameContents a.table) (hleaves : b.leaves = a.leaves) (howned : a.Owned)
    (hnodup : (a.leaves.map Symbol.id).Nodup) (stamp : Stamp) :
    ∃ root, diffWith .byName b a stamp = .ok root ∧ a.NoChange root.value := by
  let c := Matcher.byName.compare b a
  have hbowned : b.Owned := fun s hs => (hcontents.get?_eq s.id).trans (howned s (hleaves ▸ hs))
  have hk : c.Known := Matcher.known_compare_byName hbowned howned (hleaves ▸ hnodup)
  have hpairing : c.pairing = { similar := a.leaves.map fun s => (s.id, s.id) } := by
    change Pairing.byName b.leaves a.leaves = _
    rw [hleaves, Pairing.byName_self]
  have hcap : c.pairing.sources.length ≤ tableCapacity := by
    rw [hpairing]
    simpa [Pairing.sources] using howned.length_leaves_le ha hnodup
  obtain ⟨root, hroot, houtcome⟩ := (Comparison.exists_diff hk ha hb "name" stamp).1 hcap
  obtain ⟨t, -, hdiff⟩ := Comparison.exists_inDiff_of_diff hroot
  exact ⟨root, hroot, houtcome.noChange hcontents howned hpairing hdiff.status_leaves⟩

/-- A tree does not differ from itself, whether it has whole alias groups or parts of them, and
neither do two snapshots that are loaded from one record. -/
theorem diffWith_byName_self :
    (∀ g : Group, g.table.Built → g.Owned → (g.leaves.map Symbol.id).Nodup → ∀ stamp,
      ∃ root, diffWith .byName g g stamp = .ok root ∧ g.NoChange root.value) ∧
    ∀ (r : SnapshotRecord) (stamp stamp' : Stamp) (before : Logged Snapshot),
      Snapshot.ofRecord r stamp = .ok before →
        ∃ after, Snapshot.ofRecord r stamp' = .ok after ∧ ∀ stamp'', ∃ root,
          diffWith .byName before.value.listing.raw after.value.listing.raw stamp'' = .ok root ∧
            after.value.listing.raw.NoChange root.value := by
  constructor
  · intro g hg howned hnodup stamp
    exact exists_noChange hg hg (.refl g.table) rfl howned hnodup stamp
  · intro r stamp stamp' before h
    obtain ⟨b, hb, hbefore, hother⟩ := Snapshot.exists_builder_of_ofRecord h
    obtain ⟨after, hload, hafter⟩ := hother stamp'
    refine ⟨after, hload, fun stamp'' => ?_⟩
    rw [hbefore, hafter]
    have hbuilt : ∀ stamp, (b.freeze stamp).value.Built := fun stamp => ⟨b, hb, stamp, rfl⟩
    have hcontents : (b.freeze stamp).value.SameContents (b.freeze stamp').value := ⟨rfl, rfl⟩
    refine exists_noChange (hbuilt stamp) (hbuilt stamp') hcontents ?_
      (Group.owned_ofTable (hbuilt stamp')) ?_ stamp''
    · rw [Group.leaves_ofTable, Group.leaves_ofTable]
      exact congrArg Array.toList hcontents.symbols
    · rw [Group.leaves_ofTable]
      exact (hbuilt stamp').nodup_ids

/-- Two of three aliases that all have one name, and a snapshot with an alias group and another
symbol, loaded twice. -/
theorem diffWith_byName_self_aliases :
    let g := (Group.ofTable (.clones { sectionName := ".text", size := 10 } 3)).filter fun n =>
      n.id ≠ .symbol ⟨1⟩
    let r : SnapshotRecord :=
      { symbols :=
          [{ sectionName := ".text", size := 10, fullName := "foo" },
            { sectionName := ".bss", size := 4, fullName := "foo" },
            { sectionName := ".text", size := 10, fullName := "foo" }]
        aliasGroups := [[0, 2]] }
    (∃ root, diffWith .byName g g ⟨1⟩ = .ok root ∧ root.value.counts = ⟨0, 0, 0, 2⟩) ∧
      ∃ before after root, Snapshot.ofRecord r ⟨1⟩ = .ok before ∧
        Snapshot.ofRecord r ⟨2⟩ = .ok after ∧
        diffWith .byName before.value.listing.raw after.value.listing.raw ⟨3⟩ = .ok root ∧
        root.value.status = some .unchanged := by
  intro g r
  obtain ⟨hself, hloaded⟩ := diffWith_byName_self
  constructor
  · have ht : g.table.Built := Table.built_clones _ (by decide) (by decide)
    have hg : g.Selection := (Group.selection_ofTable ht).filter _
    have hleaves : g.leaves = [g.table.symbols[0], g.table.symbols[2]] := Group.leaves_of_flat rfl
    obtain ⟨root, hroot, hnone⟩ := hself g ht hg.owned hg.nodup ⟨1⟩
    refine ⟨root, hroot, ?_⟩
    rw [hnone.counts, hleaves]
    rfl
  · have hload : ∃ before, Snapshot.ofRecord r ⟨1⟩ = .ok before := ⟨_, rfl⟩
    obtain ⟨before, hbefore⟩ := hload
    obtain ⟨after, hafter, hdiff⟩ := hloaded r ⟨1⟩ ⟨2⟩ before hbefore
    obtain ⟨root, hroot, hnone⟩ := hdiff ⟨3⟩
    exact ⟨before, after, root, hbefore, hafter, hroot, hnone.status⟩

end Footprint
