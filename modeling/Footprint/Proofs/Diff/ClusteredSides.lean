import Footprint.Proofs.Diff.Antisymmetry
import Footprint.Proofs.Diff.Ranks
import Footprint.Proofs.Group.ClusterOrder
import Footprint.Proofs.Snapshot.Acceptance

/-!
# Diffing clustered trees

The pairing by names goes by rank within each key, so that the order of leaves with different keys
does not matter to it (`Pairing.sameMatches_byName`). Clustering keeps the order within a key. So it
may be applied to either side of a diff, or to both, and the same symbols are paired.
-/

namespace Footprint

/-- The ids of a list are all listed under a key. -/
theorem exists_mem_idsWith {symbols : List Symbol} {id : SymbolId}
    (h : id ∈ symbols.map Symbol.id) : ∃ k, id ∈ idsWith symbols k := by
  obtain ⟨s, hs, rfl⟩ := List.mem_map.mp h
  exact ⟨s.matchKey, List.mem_map_of_mem (List.mem_filter.mpr ⟨hs, beq_self_eq_true _⟩)⟩

/-- A list of which each element has its id among those of the symbols is made of what it has under
each key. -/
theorem mem_iff_exists_key {α : Type} {symbols : List Symbol} {idOf : α → SymbolId} {xs : List α}
    {under : MatchKey → List α} (hids : (xs.map idOf).Sublist (symbols.map Symbol.id))
    (h : ∀ k, (xs.filter fun x => idOf x ∈ idsWith symbols k) = under k) {x : α} :
    x ∈ xs ↔ ∃ k, x ∈ under k := by
  simp only [← h, List.mem_filter, decide_eq_true_eq, exists_and_left]
  refine (and_iff_left_of_imp fun hx => ?_).symm
  exact exists_mem_idsWith (hids.subset (List.mem_map_of_mem hx))

/-- Two pairings have the same pairs, the same added and the same removed symbols, in any order. -/
structure Pairing.SameMatches (p q : Pairing) : Prop where
  /-- The pairs are the same. -/
  similar : p.similar.Perm q.similar
  /-- The added symbols are the same. -/
  added : p.added.Perm q.added
  /-- The removed symbols are the same. -/
  removed : p.removed.Perm q.removed

namespace Pairing

/-- Pairings with the same matches have the same sources. -/
theorem SameMatches.sources_perm {p q : Pairing} (h : p.SameMatches q) :
    p.sources.Perm q.sources :=
  ((h.added.map _).append (h.removed.map _)).append (h.similar.map _)

/-- A pairing with the same matches mirrors the same pairings. -/
theorem SameMatches.mirrors {p q r : Pairing} (h : p.SameMatches q) (hr : q.Mirrors r) :
    p.Mirrors r where
  added id := h.added.mem_iff.trans (hr.added id)
  removed id := h.removed.mem_iff.trans (hr.removed id)
  similar old new := h.similar.mem_iff.trans (hr.similar old new)

namespace ByRank

variable {p : Pairing} {before after : List Symbol} (h : p.ByRank before after)

include h

/-- The pairs of a pairing by rank are those of the ids under one key. -/
theorem mem_similar_iff (q : SymbolId × SymbolId) :
    q ∈ p.similar ↔ ∃ k, q ∈ (idsWith before k).zip (idsWith after k) :=
  mem_iff_exists_key h.similar_sublist h.similar

/-- The added symbols of a pairing by rank are those that are left under one key. -/
theorem mem_added_iff (id : SymbolId) :
    id ∈ p.added ↔ ∃ k, id ∈ (idsWith after k).drop (idsWith before k).length :=
  mem_iff_exists_key (by simpa using h.added_sublist) h.added

/-- The removed symbols of a pairing by rank are those that are left under one key. -/
theorem mem_removed_iff (id : SymbolId) :
    id ∈ p.removed ↔ ∃ k, id ∈ (idsWith before k).drop (idsWith after k).length :=
  mem_iff_exists_key (by simpa using h.removed_sublist) h.removed

end ByRank

/-- Lists with the same ids under each key lead to the same matches. -/
theorem sameMatches_byName {before before' after after' : List Symbol}
    (hb : (before.map Symbol.id).Nodup) (hb' : (before'.map Symbol.id).Nodup)
    (ha : (after.map Symbol.id).Nodup) (ha' : (after'.map Symbol.id).Nodup)
    (hbefore : idsWith before' = idsWith before) (hafter : idsWith after' = idsWith after) :
    (byName before' after').SameMatches (byName before after) := by
  have hp := byRank_byName hb ha
  have hp' := byRank_byName hb' ha'
  refine ⟨?_, ?_, ?_⟩
  · rw [List.perm_ext_iff_of_nodup (ha'.sublist hp'.similar_sublist).of_map
      (ha.sublist hp.similar_sublist).of_map]
    intro q
    rw [hp.mem_similar_iff, hp'.mem_similar_iff, hbefore, hafter]
  · rw [List.perm_ext_iff_of_nodup (ha'.sublist hp'.added_sublist) (ha.sublist hp.added_sublist)]
    intro id
    rw [hp.mem_added_iff, hp'.mem_added_iff, hbefore, hafter]
  · rw [List.perm_ext_iff_of_nodup (hb'.sublist hp'.removed_sublist)
      (hb.sublist hp.removed_sublist)]
    intro id
    rw [hp.mem_removed_iff, hp'.mem_removed_iff, hbefore, hafter]

end Pairing

namespace Group

/-- One group has the symbols of another one in an order that is the same within each key. -/
structure Rearranged (g g' : Group) : Prop where
  /-- The groups are over one table. -/
  table : g'.table = g.table
  /-- The leaves are the same. -/
  leaves : g'.leaves.Perm g.leaves
  /-- The leaves with one key are in the same order. -/
  idsWith : idsWith g'.leaves = idsWith g.leaves

/-- A group is no other than itself. -/
theorem Rearranged.refl (g : Group) : g.Rearranged g := ⟨rfl, .refl _, rfl⟩

/-- Clustering the symbols of a table rearranges them. -/
theorem rearranged_clustered {t : Table} (ht : t.Built)
    (hnames : ∀ s ∈ t.symbols, s.fullName.toList.head? ≠ some '&') (stamp : Stamp) :
    (ofTable t).Rearranged ((ofTable t).clustered stamp).value where
  table := rfl
  leaves := leaves_clustered_perm _ stamp
  idsWith := by
    rw [leaves_ofTable]
    refine funext fun k => congrArg (List.map Symbol.id) ?_
    exact filter_leaves_clustered rfl ht.nodup_ids
      (fun s hs => hnames s (Array.mem_toList_iff.mp hs)) stamp k

/-- A rearranged group has distinct symbols when the group has. -/
theorem Rearranged.nodup {g g' : Group} (h : g.Rearranged g')
    (hnodup : (g.leaves.map Symbol.id).Nodup) : (g'.leaves.map Symbol.id).Nodup :=
  (h.leaves.map _).nodup_iff.mpr hnodup

/-- A rearranged group has symbols of its table when the group has. -/
theorem Rearranged.owned {g g' : Group} (h : g.Rearranged g') (howned : g.Owned) : g'.Owned := by
  intro s hs
  rw [h.table]
  exact howned s (h.leaves.subset hs)

end Group

/-- Two statuses are the same when they are swapped to the same. -/
theorem DiffStatus.swap_inj {s t : DiffStatus} (h : s.swap = t.swap) : s = t := by
  cases s <;> cases t <;> first | rfl | cases h

namespace Comparison

variable {c c' d : Comparison}

/-- A leaf has the same status in two diffs of the same tables with the same matches. -/
theorem statusOf_eq_of_sameMatches (h : c.Mirrors d) (h' : c'.Mirrors d)
    (hmatches : c'.pairing.SameMatches c.pairing) (hc : c.Distinct) (hc' : c'.Distinct)
    (hd : d.Distinct) (ha : c.after.Built) (hb : c.before.Built) {src : Source}
    (hsrc : src ∈ c.pairing.sources) : c'.statusOf src = c.statusOf src := by
  have hafter : c'.after = c.after := h'.after.trans h.after.symm
  have hbefore : c'.before = c.before := h'.before.trans h.before.symm
  have hsrc' : src ∈ c'.pairing.sources := hmatches.sources_perm.mem_iff.mpr hsrc
  refine DiffStatus.swap_inj ?_
  calc (c'.statusOf src).swap
      = d.statusOf src.swap := (h'.statusOf_swap hc' hd (hafter ▸ ha) (hbefore ▸ hb) hsrc').symm
    _ = (c.statusOf src).swap := h.statusOf_swap hc hd ha hb hsrc

/-- The counts of two diffs of the same tables with the same matches are the same. -/
theorem counts_eq_of_sameMatches (h : c.Mirrors d) (hafter : c'.after = c.after)
    (hbefore : c'.before = c.before) (hmatches : c'.pairing.SameMatches c.pairing)
    (hc : c.Distinct) (hc' : c'.Distinct) (hd : d.Distinct) (ha : c.after.Built)
    (hb : c.before.Built) {root root' : Group} (ho : c.Outcome root) (ho' : c'.Outcome root') :
    root'.counts = root.counts := by
  -- Both diffs mirror the one in the other order.
  have h' : c'.Mirrors d :=
    ⟨hafter.trans h.after, hbefore.trans h.before, hmatches.mirrors h.pairing⟩
  have hstatuses : (c'.pairing.sources.map c'.statusOf).Perm (c.pairing.sources.map c.statusOf) := by
    refine (hmatches.sources_perm.map _).trans (.of_eq (List.map_congr_left fun src hsrc => ?_))
    exact statusOf_eq_of_sameMatches h h' hmatches hc hc' hd ha hb hsrc
  rw [ho.counts_eq, ho'.counts_eq]
  simp only [DiffCounts.ofStatuses, hstatuses.count_eq]

end Comparison

/-- The diffs by names of two pairs of groups have the same matches and the same counts, or there are
more leaves than a table can hold, so that there is neither diff. -/
structure SameDiffs (b a b' a' : Group) : Prop where
  /-- The symbols are matched alike. -/
  pair : (Matcher.byName.pair b' a').SameMatches (Matcher.byName.pair b a)
  /-- The leaves are counted alike. -/
  counts : (Matcher.byName.pair b a).sources.length ≤ tableCapacity → ∀ stamp stamp', ∃ D D',
    diffWith .byName b a stamp = .ok D ∧ diffWith .byName b' a' stamp' = .ok D' ∧
      D'.value.counts = D.value.counts
  /-- The diffs fail alike. -/
  full : tableCapacity < (Matcher.byName.pair b a).sources.length → ∀ stamp stamp',
    diffWith .byName b a stamp = .error (.tableFull tableCapacity) ∧
      diffWith .byName b' a' stamp' = .error (.tableFull tableCapacity)

/-- Rearranging the two sides changes neither the matches nor the counts of a diff by names. -/
theorem sameDiffs_of_rearranged {b a b' a' : Group} (hb : b.table.Built) (ha : a.table.Built)
    (hob : b.Owned) (hoa : a.Owned) (hnb : (b.leaves.map Symbol.id).Nodup)
    (hna : (a.leaves.map Symbol.id).Nodup) (hb' : b.Rearranged b') (ha' : a.Rearranged a') :
    SameDiffs b a b' a' := by
  have hmatches : (Matcher.byName.pair b' a').SameMatches (Matcher.byName.pair b a) :=
    Pairing.sameMatches_byName hnb (hb'.nodup hnb) hna (ha'.nodup hna) hb'.idsWith ha'.idsWith
  have hlength := hmatches.sources_perm.length_eq
  have hbuilt : a'.table.Built ∧ b'.table.Built := ⟨ha'.table ▸ ha, hb'.table ▸ hb⟩
  have hdiff := Comparison.exists_diff (Matcher.known_compare_byName hob hoa hnb) ha hb "name"
  have hdiff' := Comparison.exists_diff
    (Matcher.known_compare_byName (hb'.owned hob) (ha'.owned hoa) (hb'.nodup hnb)) hbuilt.1 hbuilt.2
    "name"
  refine ⟨hmatches, fun hcap stamp stamp' => ?_, fun hcap stamp stamp' =>
    ⟨(hdiff stamp).2 hcap, (hdiff' stamp').2 (hlength ▸ hcap)⟩⟩
  obtain ⟨D, hD, houtcome⟩ := (hdiff stamp).1 hcap
  obtain ⟨D', hD', houtcome'⟩ := (hdiff' stamp').1 (hlength ▸ hcap)
  obtain ⟨hmirrors, hd⟩ := Matcher.mirrors_compare_byName hnb hna
  obtain ⟨-, hd'⟩ := Matcher.mirrors_compare_byName (hb'.nodup hnb) (ha'.nodup hna)
  obtain ⟨-, hdr⟩ := Matcher.mirrors_compare_byName hna hnb
  exact ⟨D, D', hD, hD', Comparison.counts_eq_of_sameMatches hmirrors ha'.table hb'.table hmatches hd
    hd' hdr ha hb houtcome houtcome'⟩

/-- Clustering one side of a diff by names, or both, changes neither the matches nor the counts, if
no full name begins with the mark of the cluster keys of nameless symbols. -/
theorem sameDiffs_clustered {tb ta : Table} (hb : tb.Built) (ha : ta.Built)
    (hnb : ∀ s ∈ tb.symbols, s.fullName.toList.head? ≠ some '&')
    (hna : ∀ s ∈ ta.symbols, s.fullName.toList.head? ≠ some '&') (stampB stampA : Stamp) :
    let b := Group.ofTable tb
    let a := Group.ofTable ta
    let b' := (b.clustered stampB).value
    let a' := (a.clustered stampA).value
    SameDiffs b a b' a ∧ SameDiffs b a b a' ∧ SameDiffs b a b' a' := by
  intro b a b' a'
  have hnodup : ∀ {t : Table}, t.Built → ((Group.ofTable t).leaves.map Symbol.id).Nodup := by
    intro t ht
    rw [Group.leaves_ofTable]
    exact ht.nodup_ids
  have hsame : ∀ {x y : Group}, b.Rearranged x → a.Rearranged y → SameDiffs b a x y :=
    sameDiffs_of_rearranged hb ha (Group.owned_ofTable hb) (Group.owned_ofTable ha) (hnodup hb)
      (hnodup ha)
  have hb' : b.Rearranged b' := Group.rearranged_clustered hb hnb stampB
  have ha' : a.Rearranged a' := Group.rearranged_clustered ha hna stampA
  exact ⟨hsame hb' (.refl a), hsame (.refl b) ha', hsame hb' ha'⟩

/-- The table of some records without aliases. -/
def Table.ofRecords (rs : List SymbolRecord) : Table :=
  ⟨⟨0⟩, (Builder.recordsFrom 0 rs).toArray, #[]⟩

/-- The table of some records is made by pushing them. -/
theorem Table.built_ofRecords {rs : List SymbolRecord} (h : rs.length ≤ tableCapacity) :
    (ofRecords rs).Built := by
  have hpush : Builder.pushRecords {} rs = .ok ⟨(Builder.recordsFrom 0 rs).toArray, #[]⟩ := by
    rw [Builder.pushRecords_eq {} (by simpa [Builder.size] using h)]
    simp [Builder.size]
  exact ⟨_, Builder.Built.empty.pushRecords hpush, ⟨0⟩, rfl⟩

/-- Two lists with parts of one function, numbered fillers and nameless symbols. -/
theorem sameDiffs_clustered_parts :
    let tb := Table.ofRecords <| ["f", "", "* fill 1", "g", "f", "* fill 2", ""].map fun fullName =>
      { sectionName := ".text", size := 4, fullName }
    let ta := Table.ofRecords <| ["", "* fill 2", "f", "* fill 1", "f", "f"].map fun fullName =>
      { sectionName := ".text", size := 4, fullName }
    let b := Group.ofTable tb
    let a := Group.ofTable ta
    (b.clustered ⟨1⟩).value.members.length = 5 ∧
      ∃ D D', diffWith .byName b a ⟨3⟩ = .ok D ∧
        diffWith .byName (b.clustered ⟨1⟩).value (a.clustered ⟨2⟩).value ⟨4⟩ = .ok D' ∧
        D'.value.counts = D.value.counts := by
  intro tb ta b a
  have hb : tb.Built := Table.built_ofRecords (by decide)
  have ha : ta.Built := Table.built_ofRecords (by decide)
  have hnb : ∀ s ∈ tb.symbols, s.fullName.toList.head? ≠ some '&' := by decide
  have hna : ∀ s ∈ ta.symbols, s.fullName.toList.head? ≠ some '&' := by decide
  have hcap : (Matcher.byName.pair b a).sources.length ≤ tableCapacity := by
    have hpair : Matcher.byName.pair b a = .byName tb.symbols.toList ta.symbols.toList := by
      rw [← Group.leaves_ofTable tb, ← Group.leaves_ofTable ta]
      rfl
    rw [hpair]
    decide +kernel
  obtain ⟨-, -, hsame⟩ := sameDiffs_clustered hb ha hnb hna ⟨1⟩ ⟨2⟩
  exact ⟨by decide +kernel, hsame.counts hcap ⟨3⟩ ⟨4⟩⟩

end Footprint
