import Mathlib.Algebra.Order.BigOperators.Group.List
import Footprint.Group.Filter
import Footprint.Proofs.Group.Leaves
import Footprint.Proofs.Group.Totals

/-!
# The size of a selection of symbols

A flat group may hold some members of an alias group and leave others out. Its size counts the bytes
of the alias group all the same, while the shares of its symbols leave the shares of the others out;
and a selection that is labelled `.bss` counts the bytes of an alias group for each of its members.
`Group.surpluses` lists what a selection counts beyond the shares of its symbols.
-/

namespace Footprint

namespace Table

/-- The aliases of some symbols that are not among the symbols. -/
def missingAliases (t : Table) (xs : List Symbol) : List Symbol :=
  t.symbols.toList.filter fun s => s.id ∉ xs.map Symbol.id ∧ s.aliasGroup.isSome ∧
    s.aliasGroup ∈ xs.map Symbol.aliasGroup

variable {t : Table} {xs : List Symbol}

/-- A missing alias is a symbol that is in the alias group of some symbol of the list and is not
itself in the list. -/
theorem mem_missingAliases {s : Symbol} : s ∈ t.missingAliases xs ↔ s ∈ t.symbols ∧
    s.id ∉ xs.map Symbol.id ∧ ∃ g, s.aliasGroup = some g ∧ ∃ x ∈ xs, x.aliasGroup = some g := by
  simp only [missingAliases, List.mem_filter, Array.mem_toList_iff, decide_eq_true_eq,
    Option.isSome_iff_exists]
  refine and_congr_right fun _ => and_congr_right fun _ => ?_
  constructor
  · rintro ⟨⟨g, hg⟩, hin⟩
    obtain ⟨x, hx, heq⟩ := List.mem_map.mp hin
    exact ⟨g, hg, x, hx, heq.trans hg⟩
  · rintro ⟨g, hg, x, hx, hxg⟩
    exact ⟨⟨g, hg⟩, List.mem_map.mpr ⟨x, hx, hxg.trans hg.symm⟩⟩

/-- With the missing aliases a list of symbols has its alias groups whole. -/
theorem Built.perm_append_missingAliases (h : t.Built)
    (howned : ∀ s ∈ xs, t.get? s.id = some s) (hnodup : (xs.map Symbol.id).Nodup)
    {g : AliasGroupId} (hg : ∃ x ∈ xs, x.aliasGroup = some g) :
    (((xs ++ t.missingAliases xs).filter fun s => s.aliasGroup = some g).map Symbol.id).Perm
      (t.aliasMembers g) := by
  have hsub : ((t.missingAliases xs).map Symbol.id).Sublist t.ids := List.filter_sublist.map _
  have hall : ((xs ++ t.missingAliases xs).map Symbol.id).Nodup := by
    rw [List.map_append]
    refine hnodup.append (h.nodup_ids.sublist hsub) fun id hid hid' => ?_
    obtain ⟨s, hs, rfl⟩ := List.mem_map.mp hid'
    exact (mem_missingAliases.mp hs).2.1 hid
  have hfilter := hall.sublist
    ((List.filter_sublist (p := fun s => decide (s.aliasGroup = some g))).map Symbol.id)
  rw [List.perm_ext_iff_of_nodup hfilter (h.nodup_aliasMembers g)]
  intro id
  simp only [List.mem_map, List.mem_filter, List.mem_append, decide_eq_true_eq]
  constructor
  · rintro ⟨s, ⟨hs, hsg⟩, rfl⟩
    have hget : t.get? s.id = some s := by
      rcases hs with hs | hs
      · exact howned s hs
      · exact h.get?_id (mem_missingAliases.mp hs).1
    exact (h.aliasGroup_iff hget g).mp hsg
  · intro hin
    obtain ⟨s, hs, hsg⟩ := h.exists_of_mem_aliasMembers hin
    have hid := h.id_of_get? hs
    refine ⟨s, ⟨?_, hsg⟩, hid⟩
    -- A member is in the list, or it is one of the missing aliases.
    by_cases hlisted : s.id ∈ xs.map Symbol.id
    · obtain ⟨x, hx, hxs⟩ := List.mem_map.mp hlisted
      have hget := howned x hx
      rw [hxs, hid, hs, Option.some.injEq] at hget
      exact .inl (hget ▸ hx)
    · exact .inr (mem_missingAliases.mpr ⟨Array.mem_of_getElem? hs, hlisted, g, hsg, hg⟩)

/-- One symbol of each alias group of a list counts the shares of the list and those of the missing
aliases. -/
theorem Built.sum_onePerAlias_selection (h : t.Built) {value : Symbol → Int}
    (heven : t.Even value) (howned : ∀ s ∈ xs, t.get? s.id = some s)
    (hnodup : (xs.map Symbol.id).Nodup) :
    ((onePerAlias Symbol.aliasGroup xs).map value).sum =
      (xs.map fun s => t.aliasShare s (value s)).sum +
        ((t.missingAliases xs).map fun s => t.aliasShare s (value s)).sum := by
  have hsub : xs ++ t.missingAliases xs ⊆ t.symbols.toList :=
    List.append_subset.mpr ⟨fun s hs => Array.mem_toList_iff.mpr
      (Array.mem_of_getElem? (howned s hs)), List.filter_subset_self _⟩
  have hkept : onePerAlias Symbol.aliasGroup (xs ++ t.missingAliases xs) =
      onePerAlias Symbol.aliasGroup xs :=
    onePerAlias_append fun s hs => (mem_missingAliases.mp hs).2.2
  rw [← hkept, ← List.sum_append, ← List.map_append]
  refine h.sum_onePerAlias_eq_sum_shares (heven.mono hsub) fun s hs g hg => ?_
  refine h.perm_append_missingAliases howned hnodup ?_
  -- The alias group of a missing alias is that of a symbol in the list.
  rcases List.mem_append.mp hs with hs | hs
  · exact ⟨s, hs, hg⟩
  · obtain ⟨-, -, g', hg', hx⟩ := mem_missingAliases.mp hs
    obtain rfl := Option.some.inj (hg'.symm.trans hg)
    exact hx

end Table

namespace Group

/-- A flat group of distinct symbols of a built table. -/
structure Selection (d : Group) : Prop where
  /-- The table comes from a builder. -/
  built : d.table.Built
  /-- The members are single symbols. -/
  flat : d.members = d.leaves.map .leaf
  /-- The symbols are those of the table. -/
  owned : d.Owned
  /-- No symbol occurs twice. -/
  nodup : (d.leaves.map Symbol.id).Nodup

/-- All symbols of a built table are a selection. -/
theorem selection_ofTable {t : Table} (h : t.Built) : (ofTable t).Selection where
  built := h
  flat := by
    rw [leaves_ofTable]
    rfl
  owned := owned_ofTable h
  nodup := by
    rw [leaves_ofTable]
    exact h.nodup_ids

/-- A filter of a selection is a selection. -/
theorem Selection.filter {d : Group} (h : d.Selection) (keep : Node → Bool) :
    (d.filter keep).Selection := by
  have hmembers : (d.filter keep).members = (d.leaves.filter fun s => keep (.leaf s)).map .leaf := by
    change d.members.filter keep = _
    rw [h.flat, List.filter_map]
    rfl
  have hleaves : (d.filter keep).leaves = d.leaves.filter fun s => keep (.leaf s) :=
    leaves_of_flat hmembers
  exact {
    built := h.built
    flat := hleaves ▸ hmembers
    owned := fun s hs => h.owned s (List.mem_of_mem_filter (hleaves ▸ hs))
    nodup := h.nodup.sublist ((hleaves ▸ List.filter_sublist).map _) }

/-- What a selection counts beyond the shares of its symbols: outside `.bss` the shares of the
missing aliases, and in `.bss` the shares of the other aliases for each symbol. -/
def surpluses (d : Group) : List Int :=
  if d.label.sectionName = bssSection then
    d.leaves.map fun s => s.size - d.table.aliasShare s s.size
  else (d.table.missingAliases d.leaves).map fun s => d.table.aliasShare s s.size

/-- The size of a selection is that of the shares of its symbols and its surpluses. -/
theorem Selection.totalSize_eq {d : Group} (h : d.Selection) (heven : d.table.Even Symbol.size) :
    d.totalSize =
      (d.leaves.map fun s => d.table.aliasShare s s.size).sum + d.surpluses.sum := by
  unfold totalSize facts surpluses
  split_ifs with hbss
  · rw [Facts.size_ofMembers_bss hbss, h.flat, List.map_map, ← List.sum_map_add]
    exact congrArg List.sum (List.map_congr_left fun s _ => (add_sub_cancel _ s.size).symm)
  · rw [Facts.size_ofMembers hbss, ← h.built.sum_onePerAlias_selection heven h.owned h.nodup,
      h.flat, onePerAlias_leaf, List.map_map]
    rfl

/-- When no symbol has a negative size, a selection has no surplus at all when its surpluses add up
to none. -/
theorem Selection.sum_surpluses_eq_zero_iff {d : Group} (h : d.Selection)
    (hpos : ∀ s ∈ d.table.symbols, 0 ≤ s.size) :
    d.surpluses.sum = 0 ↔ ∀ x ∈ d.surpluses, x = 0 := by
  have hnonneg : ∀ x ∈ d.surpluses, 0 ≤ x := by
    intro x hx
    unfold surpluses at hx
    split_ifs at hx
    · obtain ⟨s, hs, rfl⟩ := List.mem_map.mp hx
      have hsize := hpos s (Array.mem_of_getElem? (h.owned s hs))
      exact Int.sub_nonneg_of_le (d.table.aliasShare_mem_Icc s hsize).2
    · obtain ⟨s, hs, rfl⟩ := List.mem_map.mp hx
      have hsize := hpos s (Table.mem_missingAliases.mp hs).1
      exact (d.table.aliasShare_mem_Icc s hsize).1
  constructor
  · exact fun hsum x hx => List.all_zero_of_le_zero_le_of_sum_eq_zero hnonneg hsum hx
  · exact List.sum_eq_zero

end Group

end Footprint
