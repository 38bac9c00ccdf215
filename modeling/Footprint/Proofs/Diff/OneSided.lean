import Footprint.Proofs.Diff.Antisymmetry
import Footprint.Proofs.Diff.NetChange
import Footprint.Proofs.Diff.Shape
import Footprint.Proofs.Diff.Status
import Footprint.Proofs.Group.Selection

/-!
# The diff of a selection against nothing

With nothing on one side there is nothing to pair: all leaves of the diff are added, or all are
removed. The leaves stand for the shares of the symbols, or for whole alias groups whose shares are
all there, so that the size of the diff is the sum of the shares. The size of the selection may be
greater, by its surpluses.
-/

namespace Footprint

namespace Pairing

variable {p : Pairing}

/-- Without symbols of the first tree all leaves are added. -/
theorem sources_of_beforeIds_eq_nil (h : p.beforeIds = []) :
    p.sources = p.afterIds.map .added := by
  obtain ⟨hremoved, hsimilar⟩ := List.append_eq_nil_iff.mp h
  simp [sources, afterIds, hremoved, List.map_eq_nil_iff.mp hsimilar]

/-- Without symbols of the second tree all leaves are removed. -/
theorem sources_of_afterIds_eq_nil (h : p.afterIds = []) :
    p.sources = p.beforeIds.map .removed := by
  obtain ⟨hadded, hsimilar⟩ := List.append_eq_nil_iff.mp h
  simp [sources, beforeIds, hadded, List.map_eq_nil_iff.mp hsimilar]

end Pairing

namespace Group

/-- The symbols of the ids of a selection are its leaves. -/
theorem Selection.filterMap_get?_perm {g : Group} (h : g.Selection) {ids : List SymbolId}
    (hids : ids.Perm (g.leaves.map Symbol.id)) :
    (ids.filterMap g.table.get?).Perm g.leaves := by
  have hself : (g.leaves.map Symbol.id).filterMap g.table.get? = g.leaves := by
    rw [List.filterMap_map]
    exact (List.filterMap_congr h.owned).trans List.filterMap_some
  exact hself ▸ hids.filterMap _

/-- The sum of the shares of the leaves. -/
def shareSum (g : Group) : Int :=
  (g.leaves.map fun s => g.table.aliasShare s s.size).sum

end Group

namespace Comparison

variable {c : Comparison}

/-- Leaves that are all of one status. -/
theorem Outcome.allLeaves {root : Group} (h : c.Outcome root) {status : DiffStatus}
    (hstatus : ∀ src ∈ c.pairing.sources, c.statusOf src = status) : root.AllLeaves status := by
  intro s hs
  have hin : s.status ∈ c.pairing.sources.map c.statusOf :=
    h.map_status_leaves ▸ List.mem_map_of_mem hs
  obtain ⟨src, hsrc, heq⟩ := List.mem_map.mp hin
  exact heq ▸ hstatus src hsrc

/-- The size of the diff is the change of the shares of all symbols that the pairing lists. -/
theorem Outcome.totalSize_eq {root : Group} (h : c.Outcome root) (hk : c.Known) (hd : c.Distinct)
    (ha : c.after.Built) (hb : c.before.Built) (hea : c.AgreeAfter Symbol.size)
    (heb : c.AgreeBefore Symbol.size) :
    root.totalSize =
      ((c.pairing.afterIds.filterMap c.after.get?).map fun s => c.after.aliasShare s s.size).sum -
      ((c.pairing.beforeIds.filterMap c.before.get?).map fun s =>
        c.before.aliasShare s s.size).sum := by
  rw [Table.totalSize_eq h.members h.label]
  exact h.total_eq_sum_shares hk hd ha hb hea heb fun _ _ => DeltaOf.size_eq

end Comparison

section

variable {g e : Group} (hg : g.Selection) (heven : g.table.Even Symbol.size) (he : e.table.Built)
  (hempty : e.leaves = [])

include hg heven he hempty

/-- The diff of nothing and a selection has the shares of its symbols, all added. -/
theorem exists_diff_from_nothing (stamp : Stamp) :
    ∃ root, diffWith .byName e g stamp = .ok root ∧
      root.value.leaves.length = g.leaves.length ∧ root.value.AllLeaves .added ∧
      root.value.totalSize = g.shareSum := by
  let c := Matcher.byName.compare e g
  have hnone : e.leaves.map Symbol.id = [] := List.map_eq_nil_iff.mpr hempty
  have hnodup : (e.leaves.map Symbol.id).Nodup := hnone ▸ List.nodup_nil
  have howned : e.Owned := fun s hs => nomatch hempty ▸ hs
  have hk : c.Known := Matcher.known_compare_byName howned hg.owned hnodup
  have hd : c.Distinct := (Matcher.mirrors_compare_byName hnodup hg.nodup).2
  have hafter : c.pairing.afterIds.Perm (g.leaves.map Symbol.id) :=
    Pairing.afterIds_byName_perm _ _
  have hbefore : c.pairing.beforeIds = [] :=
    ((Pairing.beforeIds_byName_perm _ hnodup).trans (.of_eq hnone)).eq_nil
  have hsources := Pairing.sources_of_beforeIds_eq_nil hbefore
  have hlength : c.pairing.sources.length = g.leaves.length := by
    rw [hsources, List.length_map, hafter.length_eq, List.length_map]
  obtain ⟨root, hroot, houtcome⟩ := (Comparison.exists_diff hk hg.built he "name" stamp).1
    (hlength ▸ hg.owned.length_leaves_le hg.built hg.nodup)
  refine ⟨root, hroot, houtcome.length_leaves.trans hlength, houtcome.allLeaves ?_, ?_⟩
  · rw [hsources]
    exact List.forall_mem_map.mpr fun _ _ => rfl
  · have hagree : c.AgreeBefore Symbol.size := by
      rw [Comparison.AgreeBefore, hbefore]
      exact List.forall_mem_nil _
    have hshares : (c.pairing.afterIds.filterMap c.after.get?).Perm g.leaves :=
      hg.filterMap_get?_perm hafter
    rw [houtcome.totalSize_eq hk hd hg.built he (heven.filterMap_get? _) hagree, hbefore,
      (hshares.map _).sum_eq]
    exact Int.sub_zero _

/-- The diff of a selection and nothing has the opposite shares of its symbols, all removed. -/
theorem exists_diff_to_nothing (stamp : Stamp) :
    ∃ root, diffWith .byName g e stamp = .ok root ∧
      root.value.leaves.length = g.leaves.length ∧ root.value.AllLeaves .removed ∧
      root.value.totalSize = -g.shareSum := by
  let c := Matcher.byName.compare g e
  have hnone : e.leaves.map Symbol.id = [] := List.map_eq_nil_iff.mpr hempty
  have hnodup : (e.leaves.map Symbol.id).Nodup := hnone ▸ List.nodup_nil
  have howned : e.Owned := fun s hs => nomatch hempty ▸ hs
  have hk : c.Known := Matcher.known_compare_byName hg.owned howned hg.nodup
  have hd : c.Distinct := (Matcher.mirrors_compare_byName hg.nodup hnodup).2
  have hbefore : c.pairing.beforeIds.Perm (g.leaves.map Symbol.id) :=
    Pairing.beforeIds_byName_perm _ hg.nodup
  have hafter : c.pairing.afterIds = [] :=
    ((Pairing.afterIds_byName_perm _ _).trans (.of_eq hnone)).eq_nil
  have hsources := Pairing.sources_of_afterIds_eq_nil hafter
  have hlength : c.pairing.sources.length = g.leaves.length := by
    rw [hsources, List.length_map, hbefore.length_eq, List.length_map]
  obtain ⟨root, hroot, houtcome⟩ := (Comparison.exists_diff hk he hg.built "name" stamp).1
    (hlength ▸ hg.owned.length_leaves_le hg.built hg.nodup)
  refine ⟨root, hroot, houtcome.length_leaves.trans hlength, houtcome.allLeaves ?_, ?_⟩
  · rw [hsources]
    exact List.forall_mem_map.mpr fun _ _ => rfl
  · have hagree : c.AgreeAfter Symbol.size := by
      rw [Comparison.AgreeAfter, hafter]
      exact List.forall_mem_nil _
    have hshares : (c.pairing.beforeIds.filterMap c.before.get?).Perm g.leaves :=
      hg.filterMap_get?_perm hbefore
    rw [houtcome.totalSize_eq hk hd he hg.built hagree (heven.filterMap_get? _), hafter,
      (hshares.map _).sum_eq]
    exact Int.zero_sub _

end

/-- The diffs of a selection against nothing have one leaf for each symbol, all added or all removed,
and the size of the selection less its surpluses. So when no symbol has a negative size, the diff has
the size of the selection exactly when the selection has no surplus. -/
theorem diffWith_byName_nothing {g e : Group} (hg : g.Selection)
    (heven : g.table.Even Symbol.size) (he : e.table.Built) (hempty : e.leaves = [])
    (stamp stamp' : Stamp) :
    ∃ added removed, diffWith .byName e g stamp = .ok added ∧
      diffWith .byName g e stamp' = .ok removed ∧
      (added.value.leaves.length = g.leaves.length ∧ added.value.AllLeaves .added) ∧
      (removed.value.leaves.length = g.leaves.length ∧ removed.value.AllLeaves .removed) ∧
      added.value.totalSize = g.totalSize - g.surpluses.sum ∧
      removed.value.totalSize = -(g.totalSize - g.surpluses.sum) ∧
      ((∀ s ∈ g.table.symbols, 0 ≤ s.size) →
        (added.value.totalSize = g.totalSize ↔ ∀ x ∈ g.surpluses, x = 0) ∧
          (removed.value.totalSize = -g.totalSize ↔ ∀ x ∈ g.surpluses, x = 0)) := by
  obtain ⟨added, hadded, hlengthA, hallA, hsizeA⟩ :=
    exists_diff_from_nothing hg heven he hempty stamp
  obtain ⟨removed, hremoved, hlengthR, hallR, hsizeR⟩ :=
    exists_diff_to_nothing hg heven he hempty stamp'
  have htotal : g.totalSize = g.shareSum + g.surpluses.sum := hg.totalSize_eq heven
  refine ⟨added, removed, hadded, hremoved, ⟨hlengthA, hallA⟩, ⟨hlengthR, hallR⟩, by omega, by omega,
    fun hpos => ?_⟩
  rw [← hg.sum_surpluses_eq_zero_iff hpos]
  omega

/-- Two aliases of 10 bytes, added and removed together. -/
theorem diffWith_byName_nothing_clones :
    let g := Group.ofTable (.clones { sectionName := ".text", size := 10 } 2)
    let e := g.filter fun _ => false
    ∃ added removed, diffWith .byName e g ⟨1⟩ = .ok added ∧ diffWith .byName g e ⟨2⟩ = .ok removed ∧
      added.value.AllLeaves .added ∧ added.value.totalSize = g.totalSize ∧
      removed.value.AllLeaves .removed ∧ removed.value.totalSize = -g.totalSize := by
  intro g e
  have ht : g.table.Built := Table.built_clones _ (by decide) (by decide)
  have hg : g.Selection := Group.selection_ofTable ht
  have he : e.table.Built := ht
  have hempty : e.leaves = [] := Group.leaves_eq_flatMap e
  obtain ⟨added, removed, hadded, hremoved, ⟨-, hallA⟩, ⟨-, hallR⟩, -, -, hiff⟩ :=
    diffWith_byName_nothing hg (by decide) he hempty ⟨1⟩ ⟨2⟩
  have hleaves : g.leaves = g.table.symbols.toList := Group.leaves_ofTable _
  have hsurpluses : ∀ x ∈ g.surpluses, x = 0 := by
    rw [Group.surpluses, hleaves]
    decide
  obtain ⟨hsizeA, hsizeR⟩ := hiff (by decide)
  exact ⟨added, removed, hadded, hremoved, hallA, hsizeA.mpr hsurpluses, hallR,
    hsizeR.mpr hsurpluses⟩

/-- One of two aliases of 10 bytes has all the 10 bytes, but its diff against nothing has only its
share. -/
theorem diffWith_byName_nothing_cut :
    let t : Table := .clones { sectionName := ".text", size := 10 } 2
    let g := (Group.ofTable t).filter fun n => n.id = .symbol ⟨0⟩
    let e := g.filter fun _ => false
    g.Selection ∧ t.Even Symbol.size ∧ e.members = [] ∧ g.totalSize = 10 ∧
      ∃ added removed, diffWith .byName e g ⟨1⟩ = .ok added ∧
        diffWith .byName g e ⟨2⟩ = .ok removed ∧ added.value.totalSize = 5 ∧
        removed.value.totalSize = -5 := by
  intro t g e
  have ht : t.Built := Table.built_clones _ (by decide) (by decide)
  have hg : g.Selection := (Group.selection_ofTable ht).filter _
  have heven : t.Even Symbol.size := by decide
  have hempty : e.leaves = [] := Group.leaves_eq_flatMap e
  have hleaves : g.leaves = [t.symbols[0]] := Group.leaves_of_flat rfl
  have hshares : g.shareSum = 5 := by
    rw [Group.shareSum, hleaves]
    decide
  obtain ⟨added, hadded, -, -, hsizeA⟩ := exists_diff_from_nothing hg heven ht hempty ⟨1⟩
  obtain ⟨removed, hremoved, -, -, hsizeR⟩ := exists_diff_to_nothing hg heven ht hempty ⟨2⟩
  rw [hshares] at hsizeA hsizeR
  exact ⟨hg, heven, rfl, by decide, added, removed, hadded, hremoved, hsizeA, hsizeR⟩

end Footprint
