import Footprint.Proofs.Group.ClusterTotals
import Footprint.Proofs.Snapshot.Loading

/-!
# Totals of the clustered view of a snapshot

A nested group of `.bss` symbols counts them all, any other nested group one of each alias group,
and so does the clustered list. With the size and the padding of the symbols as values this makes
the totals of the clustered view from those of the list that was loaded.
-/

namespace Footprint

/-- Whether the symbols of a bucket are in `.bss`. -/
def inBss (token : String × String) : Bool := token.1 == bssSection

/-- The nested groups of `.bss` count the size of all symbols, the others that of one symbol of each
alias group. -/
theorem countsNested_size (xs : List Symbol) : CountsNested inBss Symbol.size Facts.size xs := by
  intro token htoken
  have hsection := sectionName_clusterLabel htoken
  by_cases hbss : token.1 = bssSection
  · have hin : inBss token = true := by simpa [inBss] using hbss
    rw [Facts.size_ofMembers_bss (hsection.trans hbss), if_pos hin, List.map_map]
    rfl
  · have hin : ¬ inBss token = true := by simpa [inBss] using hbss
    rw [Facts.size_ofMembers (hsection ▸ hbss), if_neg hin, onePerAlias_leaf, List.map_map]
    rfl

/-- The nested groups count the padding of one symbol of each alias group. -/
theorem countsNested_padding (xs : List Symbol) :
    CountsNested (fun _ => false) Symbol.padding Facts.padding xs := by
  intro token _
  rw [Facts.padding_ofMembers, if_neg Bool.false_ne_true, onePerAlias_leaf, List.map_map]
  rfl

namespace Table

/-- The size of a clustered list is that of the nodes of its buckets. -/
theorem totalSize_clustered (t : Table) (stamp : Stamp) :
    ((Group.ofTable t).clustered stamp).value.totalSize =
      ((onePerAlias Facts.aliasGroup ((clusterTokens t.symbols.toList).flatMap
        (bucketFacts t.symbols.toList))).map Facts.size).sum := by
  have hfacts := Group.map_facts_clusterNodes (g := .ofTable t) rfl stamp
  rw [← hfacts, onePerAlias_facts, List.map_map]
  exact Facts.size_ofMembers mixedSection_ne_bssSection _

/-- The padding of a clustered list is that of the nodes of its buckets. -/
theorem totalPadding_clustered (t : Table) (stamp : Stamp) :
    ((Group.ofTable t).clustered stamp).value.totalPadding =
      ((onePerAlias Facts.aliasGroup ((clusterTokens t.symbols.toList).flatMap
        (bucketFacts t.symbols.toList))).map Facts.padding).sum := by
  have hfacts := Group.map_facts_clusterNodes (g := .ofTable t) rfl stamp
  rw [← hfacts, onePerAlias_facts, List.map_map]
  exact Facts.padding_ofMembers _ _

/-- Clustering adds the sizes that are counted more than once. -/
theorem totalSize_clustered_eq {t : Table} (heven : t.Even Symbol.size) (stamp : Stamp) :
    ((Group.ofTable t).clustered stamp).value.totalSize = (Group.ofTable t).totalSize +
      ∑ g ∈ groupsOf t.symbols.toList, ((timesCounted inBss t.symbols.toList g : Int) - 1) *
        groupValue Symbol.size t.symbols.toList g := by
  rw [totalSize_clustered, totalSize_ofTable, total]
  exact sum_clustered_eq heven (fun _ => rfl) (countsNested_size _)

/-- Clustering adds the paddings that are counted more than once. -/
theorem totalPadding_clustered_eq {t : Table} (heven : t.Even Symbol.padding) (stamp : Stamp) :
    ((Group.ofTable t).clustered stamp).value.totalPadding = (Group.ofTable t).totalPadding +
      ∑ g ∈ groupsOf t.symbols.toList,
        ((timesCounted (fun _ => false) t.symbols.toList g : Int) - 1) *
          groupValue Symbol.padding t.symbols.toList g := by
  rw [totalPadding_clustered, totalPadding_ofTable, total]
  exact sum_clustered_eq heven (fun _ => rfl) (countsNested_padding _)

/-- An alias group of a built table has two or more members to be put somewhere. -/
theorem Built.two_le_length_spotsOf {t : Table} (h : t.Built) {g : AliasGroupId}
    (hg : g ∈ groupsOf t.symbols.toList) : 2 ≤ (spotsOf t.symbols.toList g).length := by
  obtain ⟨s, hs, hsg⟩ := mem_groupsOf.mp hg
  have hget := h.get?_id (Array.mem_toList_iff.mp hs)
  have hperm := (h.perm_aliasMembers g).length_eq
  rw [List.length_map] at hperm
  rw [spotsOf, List.length_map, hperm]
  exact h.two_le_length ((h.aliasGroup_iff hget g).mp hsg)

end Table

/-- The clustered view of a loaded snapshot whose alias groups agree on size and padding has the
size and the padding of the loaded list, and once more those of each alias group for each time that
it is counted again. So when no symbol has a negative size, the sizes are the same exactly when the
members of each alias group with a size stay together outside the nested groups of `.bss`, and when
none has a negative padding, the paddings are the same exactly when those of each alias group with
a padding stay together. -/
theorem clustered_totals {r : SnapshotRecord} {stamp : Stamp} {snapshot : Logged Snapshot}
    (h : Snapshot.ofRecord r stamp = .ok snapshot)
    (hsize : snapshot.value.listing.raw.table.Even Symbol.size)
    (hpadding : snapshot.value.listing.raw.table.Even Symbol.padding) (stamp' : Stamp) :
    let raw := snapshot.value.listing.raw
    let view := (raw.clustered stamp').value
    let xs := raw.table.symbols.toList
    (view.totalSize = raw.totalSize +
        ∑ g ∈ groupsOf xs, ((timesCounted inBss xs g : Int) - 1) * groupValue Symbol.size xs g) ∧
      (view.totalPadding = raw.totalPadding +
        ∑ g ∈ groupsOf xs, ((timesCounted (fun _ => false) xs g : Int) - 1) *
          groupValue Symbol.padding xs g) ∧
      ((∀ s ∈ xs, 0 ≤ s.size) →
        (view.totalSize = raw.totalSize ↔ StaysTogether inBss Symbol.size xs)) ∧
      ((∀ s ∈ xs, 0 ≤ s.padding) →
        (view.totalPadding = raw.totalPadding ↔
          StaysTogether (fun _ => false) Symbol.padding xs)) := by
  intro raw view xs
  obtain ⟨t, hbuilt, hlisting⟩ := Snapshot.exists_table_of_ofRecord h
  have hraw : raw = .ofTable t := congrArg Listing.raw hlisting
  have htable : raw.table = t := congrArg Group.table hraw
  have hbuilt : raw.table.Built := htable ▸ hbuilt
  have hraw : raw = .ofTable raw.table := htable ▸ hraw
  have htwo : ∀ g ∈ groupsOf xs, 2 ≤ (spotsOf xs g).length := fun g hg =>
    hbuilt.two_le_length_spotsOf hg
  have hsizes : view.totalSize = raw.totalSize +
      ∑ g ∈ groupsOf xs, ((timesCounted inBss xs g : Int) - 1) * groupValue Symbol.size xs g := by
    unfold view
    rw [hraw]
    exact Table.totalSize_clustered_eq hsize stamp'
  have hpaddings : view.totalPadding = raw.totalPadding +
      ∑ g ∈ groupsOf xs, ((timesCounted (fun _ => false) xs g : Int) - 1) *
        groupValue Symbol.padding xs g := by
    unfold view
    rw [hraw]
    exact Table.totalPadding_clustered_eq hpadding stamp'
  refine ⟨hsizes, hpaddings, fun hpos => ?_, fun hpos => ?_⟩
  · rw [hsizes, add_eq_left]
    exact surplus_eq_zero_iff hsize hpos htwo
  · rw [hpaddings, add_eq_left]
    exact surplus_eq_zero_iff hpadding hpos htwo

/-- A function in two parts, the first of which has an alias. -/
def partsWithAlias (name : String) : SnapshotRecord :=
  { symbols :=
      [{ sectionName := ".text", size := 10, padding := 1, fullName := "foo" },
        { sectionName := ".text", size := 4, fullName := "foo" },
        { sectionName := ".text", size := 10, padding := 1, fullName := name }]
    aliasGroups := [[0, 2]] }

/-- An alias of the same name is moved into the nested group together with the first part. -/
theorem clustered_totals_sameName :
    ∃ snapshot, Snapshot.ofRecord (partsWithAlias "foo") ⟨0⟩ = .ok snapshot ∧
      let raw := snapshot.value.listing.raw
      let view := (raw.clustered ⟨1⟩).value
      view.totalSize = raw.totalSize ∧ view.totalPadding = raw.totalPadding := by
  have h : Snapshot.ofRecord (partsWithAlias "foo") ⟨0⟩ = .ok _ := rfl
  obtain ⟨-, -, hsize, hpadding⟩ := clustered_totals h (by decide +kernel) (by decide +kernel) ⟨1⟩
  refine ⟨_, h, (hsize ?_).mpr ?_, (hpadding ?_).mpr ?_⟩
  · decide +kernel
  · decide +kernel
  · decide +kernel
  · decide +kernel

/-- An alias of another name stays in the list, so that it is counted beside the nested group. -/
theorem clustered_totals_otherName :
    ∃ snapshot, Snapshot.ofRecord (partsWithAlias "bar") ⟨0⟩ = .ok snapshot ∧
      let raw := snapshot.value.listing.raw
      let view := (raw.clustered ⟨1⟩).value
      raw.table.Even Symbol.size ∧ raw.table.Even Symbol.padding ∧
        raw.totalSize = 14 ∧ view.totalSize = 24 ∧
        raw.totalPadding = 1 ∧ view.totalPadding = 2 := by
  refine ⟨_, rfl, ?_⟩
  decide +kernel

end Footprint
